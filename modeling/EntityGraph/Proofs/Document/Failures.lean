import EntityGraph.Proofs.Document.Linkage
import Mathlib.Logic.Relation
import Mathlib.Order.WellFounded

/-!
# When assembly fails

Assembly asks for ids: for the own id of every entity, and for the ids behind every relationship that links by ids.
A walk asks for them in order: first for the own id of an entity, then relationship by relationship, and for each
entity found inside another one before it goes on. Assembly fails on the first id of this walk that is none, and only
on that, although it puts lists together from parts that fail on their own. It ends whatever serializers are chosen,
since it goes only into values that lie inside the entity.
-/
namespace EntityGraph

open Json (Value Part)

namespace Json.Value

/-- One value is an item or a member of another. -/
inductive Direct : Value → Value → Prop
  | item {w : Value} {items : List Value} (h : w ∈ items) : Direct w (.arr items)
  | member {w : Value} {members : List (String × Value)} {key : String} (h : (key, w) ∈ members) :
      Direct w (.obj members)

/-- One value lies strictly inside another. -/
def Within : Value → Value → Prop := Relation.TransGen Direct

theorem Direct.sizeOf_lt {w v : Value} (h : Direct w v) : sizeOf w < sizeOf v := by
  cases h with
  | item h => exact sizeOf_lt_arr h
  | @member members key h =>
    have := List.sizeOf_lt_of_mem h
    simp only [Prod.mk.sizeOf_spec, obj.sizeOf_spec] at this ⊢
    omega

/-- There is no way into a value that does not end. -/
theorem wellFounded_within : WellFounded Within :=
  (Subrelation.wf Direct.sizeOf_lt (measure fun v : Value => sizeOf v).wf).transGen

end Json.Value

namespace Json.Part

theorem map_val_member? (v : Value) (key : String) : (Part.member? v key).map Subtype.val = v.member? key := by
  unfold Part.member?
  split <;> simp_all

theorem direct_of_member? {v : Value} {key : String} {p : Part v} (h : Part.member? v key = some p) :
    p.val.Direct v := by
  unfold Part.member? at h
  split at h
  · cases h
  · next w hw =>
    obtain rfl := Option.some.inj h
    cases v with
    | obj members =>
      obtain ⟨before, after, rfl, -⟩ := List.lookup_eq_some_iff.1 hw
      exact .member (List.mem_append_right _ List.mem_cons_self)
    | _ => cases hw

theorem direct_of_items? {v : Value} {items : List (Part v)} (h : Part.items? v = some items) :
    ∀ p ∈ items, p.val.Direct v := by
  cases v with
  | arr values =>
    obtain rfl := Option.some.inj h
    intro p hp
    obtain ⟨⟨w, hw⟩, -, rfl⟩ := List.mem_map.1 hp
    exact .item hw
  | _ => cases h

end Json.Part

namespace Document

variable {κ : Type}

/-! ## Ids -/

/-- The values that stand for an id: texts that are not empty, numbers, and objects whose `id` member does. -/
inductive UsableId : Value → Prop
  | text {s : String} (h : s ≠ "") : UsableId (.str s)
  | number (n : Json.Number) : UsableId (.num n)
  | member {members : List (String × Value)} {v : Value} (h : members.lookup "id" = some v) (hv : UsableId v) :
      UsableId (.obj members)

theorem idText?_obj (members : List (String × Value)) :
    idText? (.obj members) = (members.lookup "id").bind idText? := by
  have hmember := Part.map_val_member? (.obj members) "id"
  rw [idText?, ← show Value.member? (.obj members) "id" = members.lookup "id" from rfl, ← hmember, Option.bind_map]
  rfl

theorem isSome_idText?_iff {v : Value} : (idText? v).isSome = true ↔ UsableId v := by
  match v with
  | .str s =>
    rw [idText?]
    constructor
    · intro h
      exact .text fun hempty => by simp [hempty] at h
    · intro husable
      cases husable with
      | text h => simp [h]
  | .num n => exact ⟨fun _ => .number n, fun _ => by rw [idText?]; rfl⟩
  | .obj members =>
    rw [idText?_obj]
    cases hid : members.lookup "id" with
    | none =>
      constructor
      · intro h
        cases h
      · intro husable
        cases husable with
        | member h => cases hid.symm.trans h
    | some w =>
      have hlt := Json.sizeOf_lt_of_lookup hid
      rw [Option.bind_some, isSome_idText?_iff]
      constructor
      · exact .member hid
      · intro husable
        cases husable with
        | member h hv => exact Option.some.inj (hid.symm.trans h) ▸ hv
  | .null => exact ⟨fun h => by simp [idText?] at h, fun husable => by cases husable⟩
  | .bool b => exact ⟨fun h => by simp [idText?] at h, fun husable => by cases husable⟩
  | .arr items => exact ⟨fun h => by simp [idText?] at h, fun husable => by cases husable⟩
termination_by sizeOf v

/-! ## The points of a walk -/

/-- A place where assembly asks for an id, with the value that it finds there. -/
inductive Point where
  /-- The own id of an entity, for a resource of a type. -/
  | ownId (type : String) (value : Value)
  /-- One of the ids behind a relationship. -/
  | linkedId (relationship : String) (value : Value)

namespace Point

def value : Point → Value
  | ownId _ value => value
  | linkedId _ value => value

/-- What assembly reports if the value stands for no id. -/
def failure : Point → GraphError
  | ownId type _ => .mapping (.unusableId type)
  | linkedId relationship value => .mapping (.unusableLinkage relationship value)

/-- The failure at a point, if there is one. -/
def failure? (p : Point) : Option GraphError := if (idText? p.value).isSome then none else some p.failure

theorem failure?_eq_none_iff {p : Point} : p.failure? = none ↔ UsableId p.value := by
  rw [failure?, ← isSome_idText?_iff]
  cases idText? p.value <;> simp

theorem failure?_eq_some_iff {p : Point} {e : GraphError} :
    p.failure? = some e ↔ ¬UsableId p.value ∧ e = p.failure := by
  rw [failure?, ← isSome_idText?_iff]
  cases idText? p.value <;> simp [eq_comm]

end Point

/-- The points of a relationship that links by ids: one for an id, one for each of several, and none for null. -/
def linkedIds (caller : Caller) (entity : Value) (relationship : String × RelationshipSpec κ) : List Point :=
  match relationship.2 with
  | .nested _ _ => []
  | .link _ id =>
    match id.resolve entity caller with
    | .null => []
    | .arr items => items.map (.linkedId relationship.1)
    | v => [.linkedId relationship.1 v]

/-- The points of a walk through an entity, in its order. -/
def points (catalog : Catalog κ) (caller : Caller) (key : κ) (entity : Value) : List Point :=
  .ownId (catalog key).type ((catalog key).id.resolve entity caller) ::
    (catalog key).relationships.flatMap fun relationship => linkedIds caller entity relationship ++
      (found entity relationship).flatMap fun item => points catalog caller item.1 item.2.val
termination_by sizeOf entity
decreasing_by exact item.2.property

/-- The first of several walks, one behind the other, that meets a failure. -/
theorem findSome?_flatMap {α β γ : Type} (f : β → Option γ) (g : α → List β) (items : List α) :
    (items.flatMap g).findSome? f = items.findSome? fun a => (g a).findSome? f := by
  induction items with
  | nil => rfl
  | cons a rest ih =>
    rw [List.flatMap_cons, List.findSome?_append, ih, List.findSome?_cons]
    cases (g a).findSome? f <;> rfl

section

variable {caller : Caller} {entity : Value} {nest : Json.Part entity → κ → Result Assembled}

/-- What a relationship points at for one id. -/
def linkTarget (name type : String) (v : Value) : Result Identifier :=
  match idText? v with
  | some id => .ok ⟨type, id⟩
  | none => .error (.mapping (.unusableLinkage name v))

theorem linkage_arr (name type : String) (items : List Value) :
    linkage name type (.arr items) = (items.mapM (linkTarget name type)).map .many := rfl

theorem linkage_single {v : Value} (hnull : v ≠ .null) (harr : ∀ items, v ≠ .arr items) (name type : String) :
    linkage name type v = (linkTarget name type v).map fun t => .one (some t) := by
  cases v with
  | null => exact absurd rfl hnull
  | arr items => exact absurd rfl (harr items)
  | _ => rfl

theorem failure?_linkTarget (name type : String) (v : Value) :
    Result.failure? (linkTarget name type v) = (Point.linkedId name v).failure? := by
  rw [linkTarget, Point.failure?, Point.value]
  cases idText? v <;> rfl

theorem failure?_linkage (name type : String) (id : Source) :
    Result.failure? (linkage name type (id.resolve entity caller)) =
      (linkedIds caller entity (name, (.link type id : RelationshipSpec κ))).findSome? Point.failure? := by
  unfold linkedIds
  simp only
  cases id.resolve entity caller with
  | null => rfl
  | arr items =>
    rw [linkage_arr, Result.failure?_map, Result.failure?_mapM, List.findSome?_map]
    simp only [failure?_linkTarget]
    rfl
  | _ =>
    rw [linkage_single (by simp) (by simp), Result.failure?_map, failure?_linkTarget, List.findSome?_singleton]

/-- A relationship fails as its first point, whatever was taken in before it. -/
theorem failure?_collect {walk : Json.Part entity → κ → List Point}
    (hnest : ∀ item key, Result.failure? (nest item key) = (walk item key).findSome? Point.failure?) (c : Collected)
    (relationship : String × RelationshipSpec κ) :
    Result.failure? (collect caller entity nest c relationship) =
      (linkedIds caller entity relationship ++
        (found entity relationship).flatMap fun item => walk item.2 item.1).findSome? Point.failure? := by
  obtain ⟨name, spec⟩ := relationship
  cases spec with
  | link type id =>
    rw [collect, Result.failure?_map, failure?_linkage, found, List.flatMap_nil, List.append_nil]
  | nested fallback choose =>
    rw [show linkedIds caller entity (name, .nested fallback choose) = [] from rfl, List.nil_append, findSome?_flatMap]
    simp only [collect, found]
    cases related? entity name with
    | none => rfl
    | some related =>
      rw [Option.map_some, Option.getD_some, List.findSome?_map]
      cases related with
      | one item =>
        cases item with
        | none => rfl
        | some item =>
          simp only [Related.items, Option.toList_some, List.findSome?_singleton, Function.comp_apply]
          rw [Result.failure?_map, hnest]
      | many items =>
        simp only [Related.items, Function.comp_def]
        rw [Result.failure?_map, Result.failure?_mapM]
        simp only [hnest]

end

namespace Assembler

variable (a : Assembler κ) (caller : Caller)

/-- An entity fails as the first point of the walk through it, by induction on the entity. -/
theorem failure?_assemble (key : κ) (entity : Value) :
    Result.failure? (a.assemble caller key entity) = (points a.catalog caller key entity).findSome? Point.failure? := by
  rw [assemble, assembleWith, points, List.findSome?_cons, Point.failure?, Point.value]
  cases hid : idText? ((a.catalog key).id.resolve entity caller) with
  | none => rfl
  | some id =>
    have hnest (item : Json.Part entity) (key : κ) := failure?_assemble key item.val
    simp only
    rw [Result.failure?_map, Result.failure?_foldlM (failure?_collect hnest), findSome?_flatMap]
    rfl
termination_by sizeOf entity
decreasing_by exact item.property

end Assembler

/-! ## The way down -/

theorem within_of_direct? {entity : Value} {name : String} {related : Related entity}
    (h : direct? entity name = some related) : ∀ item ∈ related.items, item.val.Within entity := by
  obtain ⟨p, hp, rfl⟩ := Option.map_eq_some_iff.1 h
  have hdirect : p.val.Within entity := .single (Part.direct_of_member? hp)
  intro item hitem
  split at hitem
  · simp [Related.items] at hitem
  · split at hitem
    · next items hitems =>
      obtain ⟨q, hq, rfl⟩ := List.mem_map.1 hitem
      exact .head (Part.direct_of_items? hitems q (List.mem_filter.1 hq).1) hdirect
    · obtain rfl : item = p := by simpa [Related.items] using hitem
      exact hdirect

theorem within_of_joined? {entity : Value} {join target : String} {items : List (Json.Part entity)}
    (h : joined? entity join target = some items) : ∀ item ∈ items, item.val.Within entity := by
  obtain ⟨list, hlist, h⟩ := Option.bind_eq_some_iff.1 h
  obtain ⟨rows, hrows, h⟩ := Option.bind_eq_some_iff.1 h
  obtain rfl := Option.some.inj h
  intro item hitem
  obtain ⟨row, hrow, hmember⟩ := List.mem_filterMap.1 hitem
  obtain ⟨inner, hinner, rfl⟩ := List.mem_map.1 hrow
  obtain ⟨p, hp, rfl⟩ := Option.map_eq_some_iff.1 hmember
  have hlast := Part.direct_of_member? (Option.eq_some_of_filter_eq_some hp)
  exact .head hlast (.head (Part.direct_of_items? hrows inner hinner) (.single (Part.direct_of_member? hlist)))

/-- The entities that a relationship finds lie strictly inside the entity. -/
theorem within_of_mem_found {entity : Value} {relationship : String × RelationshipSpec κ} {item : κ × Json.Part entity}
    (h : item ∈ found entity relationship) : item.2.val.Within entity := by
  obtain ⟨name, spec⟩ := relationship
  cases spec with
  | link type id => cases h
  | nested fallback choose =>
    obtain ⟨p, hp, rfl⟩ := List.mem_map.1 h
    cases hrelated : related? entity name with
    | none => simp [hrelated] at hp
    | some related =>
      rw [hrelated, Option.map_some, Option.getD_some] at hp
      unfold related? at hrelated
      simp only at hrelated
      split at hrelated
      · next items hjoined =>
        obtain rfl := Option.some.inj hrelated
        obtain ⟨names, -, hjoined⟩ := Option.bind_eq_some_iff.1 hjoined
        exact within_of_joined? hjoined p hp
      · exact within_of_direct? hrelated p hp

/-- Taking in a relationship asks for nothing but the entities that it finds. -/
theorem collect_congr {caller : Caller} {entity : Value} {nest nest' : Json.Part entity → κ → Result Assembled}
    {relationship : String × RelationshipSpec κ}
    (h : ∀ item ∈ found entity relationship, nest item.2 item.1 = nest' item.2 item.1) (c : Collected) :
    collect caller entity nest c relationship = collect caller entity nest' c relationship := by
  obtain ⟨name, spec⟩ := relationship
  cases spec with
  | link type id => rfl
  | nested fallback choose =>
    unfold found at h
    simp only [List.forall_mem_map] at h
    unfold collect
    simp only
    cases hrelated : related? entity name with
    | none => rfl
    | some related =>
      rw [hrelated, Option.map_some, Option.getD_some] at h
      cases related with
      | one item =>
        cases item with
        | none => rfl
        | some item => simp only [h item (List.mem_singleton_self item)]
      | many items =>
        have hitems : ∀ item ∈ items, nest item (RelationshipSpec.chosen fallback choose item) =
            nest' item (RelationshipSpec.chosen fallback choose item) := h
        simp only
        rw [Result.mapM_congr hitems]

namespace Assembler

variable (a : Assembler κ)

/-- Why assembly ends: to assemble an entity is to assemble those found inside it, these lie strictly inside it, and
there is no endless way into a value. -/
structure Descends : Prop where
  calls : ∀ caller key entity (nest : Json.Part entity → κ → Result Assembled),
    (∀ relationship ∈ (a.catalog key).relationships, ∀ item ∈ found entity relationship,
      nest item.2 item.1 = a.assemble caller item.1 item.2.val) →
    a.assembleWith caller key entity nest = a.assemble caller key entity
  within : ∀ key entity, ∀ relationship ∈ (a.catalog key).relationships, ∀ item ∈ found entity relationship,
    item.2.val.Within entity
  ends : WellFounded Value.Within

theorem descends : a.Descends where
  calls := by
    intro caller key entity nest h
    have hfold (c : Collected) : (a.catalog key).relationships.foldlM (collect caller entity nest) c =
        (a.catalog key).relationships.foldlM
          (collect caller entity fun item key => a.assemble caller key item.val) c :=
      Result.foldlM_congr (fun relationship hmem => collect_congr (h relationship hmem)) c
    rw [assemble, assembleWith, assembleWith]
    simp only [hfold]
  within := fun _ _ _ _ _ h => within_of_mem_found h
  ends := Value.wellFounded_within

end Assembler

/-! ## The outcome -/

/-- A result is there if all points of a walk have ids, and else it is the failure of the first point without. -/
structure EndsAtFirst (r : Result Document) (walk : List Point) : Prop where
  ok_iff : (∃ d, r = .ok d) ↔ ∀ p ∈ walk, UsableId p.value
  error_iff : ∀ e, r = .error e ↔ ∃ before p after, walk = before ++ p :: after ∧
    (∀ q ∈ before, UsableId q.value) ∧ ¬UsableId p.value ∧ e = p.failure

theorem endsAtFirst_of_failure? {r : Result Document} {walk : List Point}
    (h : Result.failure? r = walk.findSome? Point.failure?) : EndsAtFirst r walk where
  ok_iff := by
    rw [← Result.failure?_eq_none_iff, h, List.findSome?_eq_none_iff]
    simp only [Point.failure?_eq_none_iff]
  error_iff := by
    intro e
    rw [← Result.failure?_eq_some_iff, h, List.findSome?_eq_some_iff]
    simp only [Point.failure?_eq_none_iff, Point.failure?_eq_some_iff]
    constructor
    · rintro ⟨before, p, after, hwalk, ⟨hp, he⟩, hbefore⟩
      exact ⟨before, p, after, hwalk, hbefore, hp, he⟩
    · rintro ⟨before, p, after, hwalk, hbefore, hp, he⟩
      exact ⟨before, p, after, hwalk, ⟨hp, he⟩, hbefore⟩

namespace Assembler

/-- Assembly fails exactly on the first id of the walk that is none, and it always ends. -/
theorem assembly_ends_at_first_unusable_id (a : Assembler κ) (key : κ) (request : Request) :
    (∀ entities, EndsAtFirst (a.list key entities request)
      (entities.flatMap (points a.catalog request.caller key))) ∧
    (∀ entity : Option Value, EndsAtFirst (a.single key entity request)
      (entity.toList.flatMap (points a.catalog request.caller key))) ∧
    (∀ page : Paging.Page Value, EndsAtFirst (a.page key page request)
      (page.items.flatMap (points a.catalog request.caller key))) ∧
    a.Descends := by
  have hlist (request : Request) (entities : List Value) : EndsAtFirst (a.list key entities request)
      (entities.flatMap (points a.catalog request.caller key)) := by
    refine endsAtFirst_of_failure? ?_
    rw [list, Result.failure?_map, Result.failure?_mapM, findSome?_flatMap]
    simp only [a.failure?_assemble]
  refine ⟨hlist request, fun entity => endsAtFirst_of_failure? ?_, fun page => ?_, a.descends⟩
  · cases entity with
    | none => rfl
    | some entity =>
      rw [single, Result.failure?_map, a.failure?_assemble, Option.toList_some, List.flatMap_singleton]
  · exact hlist { request with cursor := some page.cursor, total := page.total } page.items

end Assembler

end Document
end EntityGraph
