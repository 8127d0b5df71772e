import EntityGraph.Proofs.Dict
import EntityGraph.Proofs.Document.Discovery

/-!
# Linkage

A nested relationship points at the resources of the entities that it finds, and at nothing else. A walk meets all of
these entities, so the document holds a resource with the type and id of each: what nested relationships point at is
never missing. The converse is weaker. Of the resources with one type and id a document keeps the first, and it keeps
what the others point at as well. So an included resource is linked by a resource that was found under a type and id
of the document, which need not be the one that the document holds under them.
-/
namespace EntityGraph

open Json (Value Part)

namespace Document

variable {κ : Type}

/-- The resources of a document, the primary ones first. -/
def resources (d : Document) : List Resource := d.primaryResources ++ d.included

/-- What a relationship of a resource points at. -/
def Resource.targets (r : Resource) (name : String) : List Identifier :=
  ((r.relationships.bind (fun d => d.get? name)).map (fun rel => rel.linkage.targets)).getD []

/-- All that a resource points at. -/
def Resource.linked (r : Resource) : List Identifier :=
  ((r.relationships.map Dict.values).getD []).flatMap (fun rel => rel.linkage.targets)

theorem Resource.mem_linked_of_mem_targets {r : Resource} {name : String} {target : Identifier}
    (h : target ∈ r.targets name) : target ∈ r.linked := by
  unfold targets at h
  cases hrelationships : r.relationships with
  | none => simp [hrelationships] at h
  | some d =>
    cases hget : d.get? name with
    | none => simp [hrelationships, hget] at h
    | some rel =>
      simp only [hrelationships, hget, Option.bind_some, Option.map_some, Option.getD_some] at h
      rw [linked, hrelationships]
      exact List.mem_flatMap.2 ⟨rel, List.mem_map.2 ⟨_, Dict.mem_of_get? hget, rfl⟩, h⟩

/-! ## What relationships point at -/

/-- What a relationship points at so far. -/
def Collected.targets (c : Collected) (name : String) : List Identifier :=
  ((c.relationships.get? name).map (fun rel => rel.linkage.targets)).getD []

theorem Collected.targets_add (c : Collected) (name other : String) (linkage : Linkage) (found : List Assembled) :
    (c.add name linkage found).targets other = if other = name then linkage.targets else c.targets other := by
  unfold targets add
  rw [Dict.get?_insert]
  split <;> rfl

theorem bind_unlessEmpty {α β : Type} (d : Dict α) (f : Dict α → Option β) (hempty : f ∅ = none) :
    (unlessEmpty d).bind f = f d := by
  unfold unlessEmpty
  split
  · rename_i h
    rw [Dict.isEmpty_iff.1 h, hempty]
    rfl
  · rfl

section

variable {caller : Caller} {entity : Value} {nest : Part entity → κ → Result Assembled}

/-- A relationship is the only one to change what its name points at. -/
theorem targets_collect_of_ne {c c' : Collected} {relationship : String × RelationshipSpec κ}
    (h : collect caller entity nest c relationship = .ok c') {other : String} (hother : other ≠ relationship.1) :
    c'.targets other = c.targets other := by
  obtain ⟨assembled, -, ⟨-, rfl⟩ | ⟨linkage, rfl, -⟩⟩ := collect_cases h
  · rfl
  · rw [Collected.targets_add, if_neg hother]

/-- A nested relationship points at what it finds. -/
theorem targets_collect_nested {c c' : Collected} {name : String} {fallback : κ} {choose : Option (Value → Option κ)}
    (h : collect caller entity nest c (name, .nested fallback choose) = .ok c') (hfresh : c.targets name = []) :
    ∃ assembled, (found entity (name, .nested fallback choose)).mapM (fun item => nest item.2 item.1) = .ok assembled ∧
      c'.targets name = assembled.map (fun a => a.resource.identifier) := by
  obtain ⟨assembled, hassembled, ⟨rfl, rfl⟩ | ⟨linkage, rfl, hlinkage⟩⟩ := collect_cases h
  · exact ⟨[], hassembled, hfresh⟩
  · exact ⟨assembled, hassembled, by rw [Collected.targets_add, if_pos rfl, hlinkage _ _ rfl]⟩

/-- Names that no relationship has keep what they point at. -/
theorem targets_foldlM_of_not_mem {relationships : List (String × RelationshipSpec κ)} {c c' : Collected}
    (h : relationships.foldlM (collect caller entity nest) c = .ok c') {other : String}
    (hother : other ∉ relationships.map Prod.fst) : c'.targets other = c.targets other := by
  induction relationships generalizing c with
  | nil =>
    cases h
    rfl
  | cons relationship rest ih =>
    rw [List.map_cons, List.mem_cons, not_or] at hother
    rw [List.foldlM_cons] at h
    obtain ⟨mid, hmid, hrun⟩ := Result.bind_eq_ok_iff.1 h
    rw [ih hrun hother.2, targets_collect_of_ne hmid hother.1]

/-- Among relationships with different names each nested one points at what it finds. -/
theorem targets_foldlM_nested {relationships : List (String × RelationshipSpec κ)} {c c' : Collected}
    (h : relationships.foldlM (collect caller entity nest) c = .ok c') (hdistinct : (relationships.map Prod.fst).Nodup)
    {name : String} {fallback : κ} {choose : Option (Value → Option κ)} (hfresh : c.targets name = [])
    (hmem : (name, .nested fallback choose) ∈ relationships) :
    ∃ assembled, (found entity (name, .nested fallback choose)).mapM (fun item => nest item.2 item.1) = .ok assembled ∧
      c'.targets name = assembled.map (fun a => a.resource.identifier) := by
  induction relationships generalizing c with
  | nil => cases hmem
  | cons relationship rest ih =>
    rw [List.map_cons, List.nodup_cons] at hdistinct
    rw [List.foldlM_cons] at h
    obtain ⟨mid, hmid, hrun⟩ := Result.bind_eq_ok_iff.1 h
    rcases List.mem_cons.1 hmem with rfl | hmem
    · obtain ⟨assembled, hassembled, htargets⟩ := targets_collect_nested hmid hfresh
      exact ⟨assembled, hassembled, by rw [targets_foldlM_of_not_mem hrun hdistinct.1, htargets]⟩
    · have hname : name ≠ relationship.1 := by
        rintro rfl
        exact hdistinct.1 (List.mem_map.2 ⟨_, hmem, rfl⟩)
      exact ih hrun hdistinct.2 (by rw [targets_collect_of_ne hmid hname, hfresh]) hmem

end

/-- The entities that a relationship finds inside another, each with the key of its serializer. -/
def foundValues (entity : Value) (relationship : String × RelationshipSpec κ) : List (κ × Value) :=
  (found entity relationship).map (fun item => (item.1, item.2.val))

theorem nested_of_mem_foundValues {entity : Value} {relationship : String × RelationshipSpec κ} {item : κ × Value}
    (h : item ∈ foundValues entity relationship) : ∃ fallback choose, relationship.2 = .nested fallback choose := by
  obtain ⟨name, spec⟩ := relationship
  cases spec with
  | link type id => cases h
  | nested fallback choose => exact ⟨fallback, choose, rfl⟩

namespace Assembler

variable {a : Assembler κ} {caller : Caller}

/-- Where the relationships of a serializer have different names, a nested one points at the resources of the entities
that it finds. -/
theorem targets_resourceOf {item : κ × Value} {r : Resource} (h : a.resourceOf caller item = .ok r)
    (hdistinct : ((a.catalog item.1).relationships.map Prod.fst).Nodup) {name : String} {fallback : κ}
    {choose : Option (Value → Option κ)} (hmem : (name, .nested fallback choose) ∈ (a.catalog item.1).relationships) :
    ∃ linked, (foundValues item.2 (name, .nested fallback choose)).mapM (a.resourceOf caller) = .ok linked ∧
      r.targets name = linked.map Resource.identifier := by
  obtain ⟨assembled, hassembled, rfl⟩ := Result.map_eq_ok_iff.1 h
  rw [assemble, assembleWith] at hassembled
  split at hassembled
  · cases hassembled
  obtain ⟨c, hc, rfl⟩ := Result.map_eq_ok_iff.1 hassembled
  obtain ⟨inner, hinner, htargets⟩ := targets_foldlM_nested hc hdistinct rfl hmem
  refine ⟨inner.map (fun f => f.resource), ?_, ?_⟩
  · rw [foundValues, List.mapM_map]
    exact Result.mapM_map_of_eq_ok hinner (fun f => f.resource)
  · rw [Resource.targets, bind_unlessEmpty _ _ rfl, List.map_map]
    exact htargets

end Assembler

/-! ## Walks -/

/-- The entities right inside an entity, with the keys of their serializers. -/
def inside (catalog : Catalog κ) (item : κ × Value) : List (κ × Value) :=
  (catalog item.1).relationships.flatMap (foundValues item.2)

/-- A walk meets the entities right inside an entity, and what a walk through each of them meets. -/
theorem mem_visits {catalog : Catalog κ} {root item : κ × Value} :
    item ∈ visits catalog root.1 root.2 ↔
      ∃ child ∈ inside catalog root, item = child ∨ item ∈ visits catalog child.1 child.2 := by
  rw [visits, inside]
  simp only [List.mem_flatMap, foundValues, List.mem_map, List.mem_cons]
  constructor
  · rintro ⟨part, ⟨relationship, hrelationship, hpart⟩, hitem⟩
    exact ⟨_, ⟨relationship, hrelationship, part, hpart, rfl⟩, hitem⟩
  · rintro ⟨_, ⟨relationship, hrelationship, part, hpart, rfl⟩, hitem⟩
    exact ⟨part, ⟨relationship, hrelationship, hpart⟩, hitem⟩

theorem sizeOf_lt_of_mem_inside {catalog : Catalog κ} {root child : κ × Value} (h : child ∈ inside catalog root) :
    sizeOf child.2 < sizeOf root.2 := by
  obtain ⟨relationship, -, h⟩ := List.mem_flatMap.1 h
  obtain ⟨part, -, rfl⟩ := List.mem_map.1 h
  exact part.2.property

/-- A walk goes on into whatever it meets. -/
theorem mem_visits_of_inside {catalog : Catalog κ} (root : κ × Value) {parent item : κ × Value}
    (hparent : parent = root ∨ parent ∈ visits catalog root.1 root.2) (hitem : item ∈ inside catalog parent) :
    item ∈ visits catalog root.1 root.2 := by
  rcases hparent with rfl | hparent
  · exact mem_visits.2 ⟨item, hitem, .inl rfl⟩
  · obtain ⟨child, hchild, hparent⟩ := mem_visits.1 hparent
    have := sizeOf_lt_of_mem_inside hchild
    exact mem_visits.2 ⟨child, hchild, .inr (mem_visits_of_inside child hparent hitem)⟩
termination_by sizeOf root.2

/-- Whatever a walk meets lies right inside something that it met before. -/
theorem exists_parent_of_mem_visits {catalog : Catalog κ} (root : κ × Value) {item : κ × Value}
    (h : item ∈ visits catalog root.1 root.2) :
    ∃ parent, (parent = root ∨ parent ∈ visits catalog root.1 root.2) ∧ item ∈ inside catalog parent := by
  obtain ⟨child, hchild, rfl | h⟩ := mem_visits.1 h
  · exact ⟨root, .inl rfl, hchild⟩
  · have := sizeOf_lt_of_mem_inside hchild
    obtain ⟨parent, hparent, hitem⟩ := exists_parent_of_mem_visits child h
    exact ⟨parent, .inr (mem_visits.2 ⟨child, hchild, hparent⟩), hitem⟩
termination_by sizeOf root.2

/-- All entities of a list and those inside them, each before what is inside it. -/
def walk (catalog : Catalog κ) (key : κ) (entities : List Value) : List (κ × Value) :=
  entities.flatMap (fun entity => (key, entity) :: visits catalog key entity)

theorem mem_walk {catalog : Catalog κ} {key : κ} {entities : List Value} {item : κ × Value} :
    item ∈ walk catalog key entities ↔
      item ∈ entities.map (Prod.mk key) ∨ item ∈ entities.flatMap (visits catalog key) := by
  simp only [walk, List.mem_flatMap, List.mem_cons, List.mem_map]
  constructor
  · rintro ⟨entity, hentity, rfl | hitem⟩
    · exact .inl ⟨entity, hentity, rfl⟩
    · exact .inr ⟨entity, hentity, hitem⟩
  · rintro (⟨entity, hentity, rfl⟩ | ⟨entity, hentity, hitem⟩)
    · exact ⟨entity, hentity, .inl rfl⟩
    · exact ⟨entity, hentity, .inr hitem⟩

theorem mem_walk_of_inside {catalog : Catalog κ} {key : κ} {entities : List Value} {parent item : κ × Value}
    (hparent : parent ∈ walk catalog key entities) (hitem : item ∈ inside catalog parent) :
    item ∈ walk catalog key entities := by
  obtain ⟨entity, hentity, hparent⟩ := List.mem_flatMap.1 hparent
  have hvisits := mem_visits_of_inside (key, entity) (List.mem_cons.1 hparent) hitem
  exact List.mem_flatMap.2 ⟨entity, hentity, List.mem_cons_of_mem _ hvisits⟩

theorem exists_parent_of_mem_flatMap_visits {catalog : Catalog κ} {key : κ} {entities : List Value} {item : κ × Value}
    (h : item ∈ entities.flatMap (visits catalog key)) :
    ∃ parent ∈ walk catalog key entities, item ∈ inside catalog parent := by
  obtain ⟨entity, hentity, h⟩ := List.mem_flatMap.1 h
  obtain ⟨parent, hparent, hitem⟩ := exists_parent_of_mem_visits (key, entity) h
  exact ⟨parent, List.mem_flatMap.2 ⟨entity, hentity, List.mem_cons.2 hparent⟩, hitem⟩

/-! ## What a document holds -/

namespace Included

theorem mem_resources_foldl_insert {s : Included} {met : List Resource} {r : Resource}
    (h : r ∈ (met.foldl insert s).resources) : r ∈ s.resources ∨ r ∈ met := by
  induction met generalizing s with
  | nil => exact .inl h
  | cons first rest ih =>
    rcases ih h with h | h
    · by_cases hkey : first.identifier ∈ s.seen
      · rw [insert_of_mem hkey] at h
        exact .inl h
      · rw [insert_of_not_mem hkey] at h
        rcases List.mem_append.1 h with h | h
        · exact .inl h
        · exact .inr (List.mem_cons.2 (.inl (List.mem_singleton.1 h)))
    · exact .inr (List.mem_cons_of_mem _ h)

theorem mem_seen_foldl_insert_of_mem {s : Included} {key : Identifier} (h : key ∈ s.seen) (met : List Resource) :
    key ∈ (met.foldl insert s).seen := by
  induction met generalizing s with
  | nil => exact h
  | cons first rest ih => exact ih (mem_seen_insert_of_mem h first)

theorem mem_seen_foldl_insert (s : Included) {met : List Resource} {r : Resource} (h : r ∈ met) :
    r.identifier ∈ (met.foldl insert s).seen := by
  induction met generalizing s with
  | nil => cases h
  | cons first rest ih =>
    rcases List.mem_cons.1 h with rfl | h
    · exact mem_seen_foldl_insert_of_mem (mem_seen_insert s r) rest
    · exact ih _ h

/-- Whatever is met, a resource with its type and id stays. -/
theorem exists_held_of_mem {met : List Resource} {r : Resource} (h : r ∈ met) :
    ∃ held ∈ (ofMet met).resources, held.identifier = r.identifier := by
  have hseen : r.identifier ∈ (ofMet met).seen := mem_seen_foldl_insert ∅ h
  rw [(inStep_ofMet met).seen] at hseen
  exact List.mem_map.1 hseen

end Included

/-- A document of a list of entities holds their resources, and for every entity inside them a resource with the same
type and id. -/
structure Holds (a : Assembler κ) (caller : Caller) (key : κ) (entities : List Value) (d : Document) : Prop where
  primary : ∀ r ∈ d.primaryResources, ∃ item ∈ entities.map (Prod.mk key), a.resourceOf caller item = .ok r
  included : ∀ r ∈ d.included, ∃ item ∈ entities.flatMap (visits a.catalog key), a.resourceOf caller item = .ok r
  present : ∀ item ∈ walk a.catalog key entities, ∃ r, a.resourceOf caller item = .ok r ∧
    ∃ held ∈ d.resources, held.identifier = r.identifier

namespace Holds

variable {a : Assembler κ} {caller : Caller} {key : κ} {entities : List Value} {d : Document}

theorem of_met (primary met : List Resource)
    (hprimary : (entities.map (Prod.mk key)).mapM (a.resourceOf caller) = .ok primary)
    (hmet : (entities.flatMap (visits a.catalog key)).mapM (a.resourceOf caller) = .ok met)
    (hdata : d.primaryResources = primary)
    (hincluded : d.included = (Included.ofMet met).finish none (primary.map Resource.identifier)) :
    Holds a caller key entities d where
  primary := by
    rw [hdata]
    exact (Result.mem_of_mapM_eq_ok hprimary).2
  included := by
    intro r hr
    rw [hincluded, Included.mem_finish] at hr
    refine (Result.mem_of_mapM_eq_ok hmet).2 r ?_
    exact (Included.mem_resources_foldl_insert hr.1).resolve_left List.not_mem_nil
  present := by
    intro item hitem
    rcases mem_walk.1 hitem with hitem | hitem
    · obtain ⟨r, hr, hresource⟩ := (Result.mem_of_mapM_eq_ok hprimary).1 item hitem
      exact ⟨r, hresource, r, List.mem_append_left _ (hdata ▸ hr), rfl⟩
    · obtain ⟨r, hr, hresource⟩ := (Result.mem_of_mapM_eq_ok hmet).1 item hitem
      refine ⟨r, hresource, ?_⟩
      by_cases hkey : r.identifier ∈ primary.map Resource.identifier
      · obtain ⟨held, hheld, hidentifier⟩ := List.mem_map.1 hkey
        exact ⟨held, List.mem_append_left _ (hdata ▸ hheld), hidentifier⟩
      · obtain ⟨held, hheld, hidentifier⟩ := Included.exists_held_of_mem hr
        refine ⟨held, List.mem_append_right _ ?_, hidentifier⟩
        rw [hincluded, Included.mem_finish]
        exact ⟨hheld, by rwa [hidentifier], by simp⟩

theorem single (request : Request) (hwanted : request.wanted = none) {entity : Option Value}
    (h : a.single key entity request = .ok d) : Holds a request.caller key entity.toList d := by
  cases entity with
  | none =>
    cases h
    exact .of_met [] [] rfl rfl rfl rfl
  | some entity =>
    obtain ⟨assembled, hassembled, rfl⟩ := Result.map_eq_ok_iff.1 h
    obtain ⟨met, hmet, hnested⟩ := Assembler.nested_eq_ofMet hassembled
    refine .of_met [assembled.resource] met ?_ ?_ rfl ?_
    · exact Result.mapM_cons_eq_ok_iff.2 ⟨_, [], Result.map_eq_ok_iff.2 ⟨assembled, hassembled, rfl⟩, rfl, rfl⟩
    · rw [Option.toList_some, List.flatMap_singleton]
      exact hmet
    · rw [← hnested, ← hwanted]
      rfl

theorem list (request : Request) (hwanted : request.wanted = none) (h : a.list key entities request = .ok d) :
    Holds a request.caller key entities d := by
  obtain ⟨assembled, hassembled, rfl⟩ := Result.map_eq_ok_iff.1 h
  obtain ⟨met, hmet, hnested⟩ := Assembler.list_nested_eq_ofMet hassembled
  refine .of_met (assembled.map (fun f => f.resource)) met ?_ hmet rfl ?_
  · rw [List.mapM_map]
    exact Result.mapM_map_of_eq_ok hassembled (fun f => f.resource)
  · rw [← hnested, ← hwanted]

end Holds

/-! ## No link dangles -/

/-- The relationships of each serializer that is used for one of the entities have different names. -/
def NamesApart (catalog : Catalog κ) (items : List (κ × Value)) : Prop :=
  ∀ item ∈ items, ((catalog item.1).relationships.map Prod.fst).Nodup

/-- Every resource of a document is that of an entity, and whatever its nested relationships point at is in the
document as well. -/
structure NothingDangles (a : Assembler κ) (caller : Caller) (items : List (κ × Value)) (d : Document) : Prop where
  origin : ∀ r ∈ d.resources, ∃ item ∈ items, a.resourceOf caller item = .ok r
  linked : ∀ r ∈ d.resources, ∀ item ∈ items, a.resourceOf caller item = .ok r → ∀ name fallback choose,
    (name, .nested fallback choose) ∈ (a.catalog item.1).relationships →
      ∀ target ∈ r.targets name, ∃ held ∈ d.resources, held.identifier = target

theorem Holds.nothingDangles {a : Assembler κ} {caller : Caller} {key : κ} {entities : List Value} {d : Document}
    (h : Holds a caller key entities d) (hapart : NamesApart a.catalog (walk a.catalog key entities)) :
    NothingDangles a caller (walk a.catalog key entities) d where
  origin := by
    intro r hr
    rcases List.mem_append.1 hr with hr | hr
    · obtain ⟨item, hitem, hresource⟩ := h.primary r hr
      exact ⟨item, mem_walk.2 (.inl hitem), hresource⟩
    · obtain ⟨item, hitem, hresource⟩ := h.included r hr
      exact ⟨item, mem_walk.2 (.inr hitem), hresource⟩
  linked := by
    intro r _ item hitem hresource name fallback choose hmem target htarget
    obtain ⟨linked, hlinked, htargets⟩ := Assembler.targets_resourceOf hresource (hapart item hitem) hmem
    rw [htargets] at htarget
    obtain ⟨child, hchild, rfl⟩ := List.mem_map.1 htarget
    obtain ⟨inner, hinner, hchildOf⟩ := (Result.mem_of_mapM_eq_ok hlinked).2 child hchild
    have hmet : inner ∈ walk a.catalog key entities :=
      mem_walk_of_inside hitem (List.mem_flatMap.2 ⟨_, hmem, hinner⟩)
    obtain ⟨r', hr', held, hheld, hidentifier⟩ := h.present inner hmet
    rw [hchildOf] at hr'
    exact ⟨held, hheld, by rw [hidentifier, Except.ok.inj hr']⟩

/-- Unless types are left out on purpose, a document holds whatever the nested relationships of its resources point
at. -/
theorem nested_links_are_held (a : Assembler κ) (key : κ) (request : Request) (hwanted : request.wanted = none) :
    (∀ entity d, a.single key entity request = .ok d →
      NamesApart a.catalog (walk a.catalog key entity.toList) →
        NothingDangles a request.caller (walk a.catalog key entity.toList) d) ∧
    (∀ entities d, a.list key entities request = .ok d →
      NamesApart a.catalog (walk a.catalog key entities) →
        NothingDangles a request.caller (walk a.catalog key entities) d) ∧
    ∀ p d, a.page key p request = .ok d →
      NamesApart a.catalog (walk a.catalog key p.items) →
        NothingDangles a request.caller (walk a.catalog key p.items) d := by
  refine ⟨fun entity d h => ?_, fun entities d h => ?_, fun p d h => ?_⟩
  · exact (Holds.single request hwanted h).nothingDangles
  · exact (Holds.list request hwanted h).nothingDangles
  · exact (Holds.list { request with cursor := some p.cursor, total := p.total } hwanted h).nothingDangles

theorem nodup_parts (key : Unit) : ((partsAssembler.catalog key).relationships.map Prod.fst).Nodup := by
  simp [partsAssembler]

/-- The first part holds another version of the second, and the document keeps the part "3" that only this version
points at. -/
theorem nested_links_are_held_in_parts :
    ∃ d, partsAssembler.list () [part "1" [part "2" [part "3" []]], part "2" []] ⟨.anonymous, none, none, none, none⟩ =
        .ok d ∧ d.resources.map Resource.id = ["1", "2", "3"] ∧
      NothingDangles partsAssembler .anonymous
        (walk partsAssembler.catalog () [part "1" [part "2" [part "3" []]], part "2" []]) d := by
  obtain ⟨d, hd, hids⟩ := Result.exists_of_toOption_map (f := fun d : Document => d.resources.map Resource.id)
    (show ((partsAssembler.list () [part "1" [part "2" [part "3" []]], part "2" []]
      ⟨.anonymous, none, none, none, none⟩).map _).toOption = some ["1", "2", "3"] by decide +kernel)
  exact ⟨d, hd, hids, (nested_links_are_held partsAssembler () ⟨.anonymous, none, none, none, none⟩ rfl).2.1 _ d hd
    (fun item _ => nodup_parts item.1)⟩

/-! ## Whatever is included is linked -/

/-- Resources of the entities with the same type and id have the same relationships. -/
def VersionsAgree (a : Assembler κ) (caller : Caller) (items : List (κ × Value)) : Prop :=
  ∀ item ∈ items, ∀ other ∈ items, ∀ r s, a.resourceOf caller item = .ok r → a.resourceOf caller other = .ok s →
    r.identifier = s.identifier → r.relationships = s.relationships

/-- What points at the included resources of a document. -/
structure LinkedByVersions (a : Assembler κ) (caller : Caller) (items : List (κ × Value)) (d : Document) : Prop where
  /-- Some version of a resource of the document does. -/
  version : ∀ r ∈ d.included, ∃ item ∈ items, ∃ version, a.resourceOf caller item = .ok version ∧
    r.identifier ∈ version.linked ∧ ∃ held ∈ d.resources, held.identifier = version.identifier
  /-- If versions do not differ in what they point at, a resource of the document does. -/
  held : VersionsAgree a caller items → ∀ r ∈ d.included, ∃ held ∈ d.resources, r.identifier ∈ held.linked

theorem Holds.linkedByVersions {a : Assembler κ} {caller : Caller} {key : κ} {entities : List Value} {d : Document}
    (h : Holds a caller key entities d) (hapart : NamesApart a.catalog (walk a.catalog key entities)) :
    LinkedByVersions a caller (walk a.catalog key entities) d := by
  have hversion : ∀ r ∈ d.included, ∃ item ∈ walk a.catalog key entities, ∃ version,
      a.resourceOf caller item = .ok version ∧ r.identifier ∈ version.linked ∧
        ∃ held ∈ d.resources, held.identifier = version.identifier := by
    intro r hr
    obtain ⟨item, hitem, hresource⟩ := h.included r hr
    obtain ⟨parent, hparent, hinside⟩ := exists_parent_of_mem_flatMap_visits hitem
    obtain ⟨⟨name, spec⟩, hmem, hfound⟩ := List.mem_flatMap.1 hinside
    obtain ⟨fallback, choose, hspec⟩ := nested_of_mem_foundValues hfound
    obtain rfl : spec = .nested fallback choose := hspec
    obtain ⟨version, hversion, held⟩ := h.present parent hparent
    obtain ⟨linked, hlinked, htargets⟩ := Assembler.targets_resourceOf hversion (hapart parent hparent) hmem
    obtain ⟨r', hr', hitemOf⟩ := (Result.mem_of_mapM_eq_ok hlinked).1 item hfound
    obtain rfl := Except.ok.inj (hresource.symm.trans hitemOf)
    have htarget : r.identifier ∈ version.targets name := by
      rw [htargets]
      exact List.mem_map_of_mem hr'
    exact ⟨parent, hparent, version, hversion, Resource.mem_linked_of_mem_targets htarget, held⟩
  refine ⟨hversion, fun hagree r hr => ?_⟩
  obtain ⟨item, hitem, version, hof, hlinked, held, hheld, hidentifier⟩ := hversion r hr
  obtain ⟨other, hother, hotherOf⟩ := (h.nothingDangles hapart).origin held hheld
  have hsame := hagree other hother item hitem held version hotherOf hof hidentifier
  refine ⟨held, hheld, ?_⟩
  rwa [Resource.linked, hsame]

/-- Unless types are left out on purpose, every included resource is linked by a version of a resource that the document
holds. -/
theorem included_is_linked_by_a_version (a : Assembler κ) (key : κ) (request : Request)
    (hwanted : request.wanted = none) :
    (∀ entity d, a.single key entity request = .ok d →
      NamesApart a.catalog (walk a.catalog key entity.toList) →
        LinkedByVersions a request.caller (walk a.catalog key entity.toList) d) ∧
    ∀ entities d, a.list key entities request = .ok d →
      NamesApart a.catalog (walk a.catalog key entities) →
        LinkedByVersions a request.caller (walk a.catalog key entities) d := by
  refine ⟨fun entity d h => ?_, fun entities d h => ?_⟩
  · exact (Holds.single request hwanted h).linkedByVersions
  · exact (Holds.list request hwanted h).linkedByVersions

/-- A part that lies in another version of itself. -/
theorem part_of_itself : ∃ d, partsAssembler.single () (some (part "1" [part "1" [part "2" []]]))
      ⟨.anonymous, none, none, none, none⟩ = .ok d ∧
    (d.included.map Resource.identifier, d.resources.flatMap Resource.linked) =
      ([⟨"parts", "2"⟩], [⟨"parts", "1"⟩]) :=
  Result.exists_of_toOption_map (show ((partsAssembler.single () (some (part "1" [part "1" [part "2" []]]))
    ⟨.anonymous, none, none, none, none⟩).map _).toOption = some _ by decide +kernel)

/-- The version that the document does not hold points at the part "2". -/
theorem included_is_linked_by_a_version_of_part :
    ∃ d, partsAssembler.single () (some (part "1" [part "1" [part "2" []]])) ⟨.anonymous, none, none, none, none⟩ =
        .ok d ∧ d.included.map Resource.id = ["2"] ∧
      LinkedByVersions partsAssembler .anonymous
        (walk partsAssembler.catalog () [part "1" [part "1" [part "2" []]]]) d := by
  obtain ⟨d, hd, hshown⟩ := part_of_itself
  have hids := congrArg (List.map Identifier.id) (Prod.mk.inj hshown).1
  rw [List.map_map] at hids
  exact ⟨d, hd, hids, (included_is_linked_by_a_version partsAssembler ()
    ⟨.anonymous, none, none, none, none⟩ rfl).1 _ d hd (fun item _ => nodup_parts item.1)⟩

/-- A document may include a resource that nothing in it points at. -/
theorem not_included_is_linked :
    ¬∀ (a : Assembler Unit) (request : Request) (entity : Value) (d : Document), request.wanted = none →
      (∀ key, ((a.catalog key).relationships.map Prod.fst).Nodup) →
        a.single () (some entity) request = .ok d →
          ∀ r ∈ d.included, ∃ held ∈ d.resources, r.identifier ∈ held.linked := by
  intro h
  obtain ⟨d, hd, hshown⟩ := part_of_itself
  obtain ⟨hincluded, hlinked⟩ := Prod.mk.inj hshown
  have hmem : (⟨"parts", "2"⟩ : Identifier) ∈ d.included.map Resource.identifier := by
    rw [hincluded]
    exact List.mem_singleton_self _
  obtain ⟨r, hr, hidentifier⟩ := List.mem_map.1 hmem
  obtain ⟨held, hheld, hlinks⟩ := h partsAssembler _ _ d rfl nodup_parts hd r hr
  have hall : r.identifier ∈ d.resources.flatMap Resource.linked := List.mem_flatMap.2 ⟨held, hheld, hlinks⟩
  rw [hidentifier, hlinked] at hall
  exact absurd hall (by decide)

end Document
end EntityGraph
