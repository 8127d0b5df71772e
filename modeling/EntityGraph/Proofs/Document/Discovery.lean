import EntityGraph.Document.Assembly
import EntityGraph.Proofs.Result
import Mathlib.Tactic.Common

/-!
# What a document includes

Assembly drops duplicates wherever it puts resources together: for every relationship, every entity and every item
of a list. The outcome is the same as if it walked all entities, collected every resource that it meets, and dropped
the duplicates once at the end.
-/
namespace EntityGraph.Document

open Json (Value Part)

variable {κ : Type}

/-! ## First occurrences -/

/-- The resources without those whose type and id came before. -/
def firstOccurrences (resources : List Resource) : List Resource :=
  resources.eraseDupsBy (fun r first => r.identifier == first.identifier)

theorem firstOccurrences_cons (r : Resource) (rest : List Resource) :
    firstOccurrences (r :: rest) =
      r :: firstOccurrences (rest.filter (fun other => decide (other.identifier ≠ r.identifier))) := by
  rw [firstOccurrences, List.eraseDupsBy_cons]
  congr 2
  refine List.filter_congr fun other _ => ?_
  simp

namespace Included

theorem contains_iff {s : Included} {key : Identifier} : s.contains key = true ↔ key ∈ s.seen := by
  rw [contains, List.contains_iff_mem]

theorem offer_of_mem {s : Included} {r : Resource} (h : r.identifier ∈ s.seen) : s.offer r = (false, s) := by
  rw [offer, if_pos (contains_iff.2 h)]

theorem offer_of_not_mem {s : Included} {r : Resource} (h : r.identifier ∉ s.seen) :
    s.offer r = (true, ⟨s.resources ++ [r], s.seen ++ [r.identifier]⟩) := by
  rw [offer, if_neg (fun hcontains => h (contains_iff.1 hcontains))]

theorem insert_of_mem {s : Included} {r : Resource} (h : r.identifier ∈ s.seen) : s.insert r = s := by
  rw [insert, offer_of_mem h]

theorem insert_of_not_mem {s : Included} {r : Resource} (h : r.identifier ∉ s.seen) :
    s.insert r = ⟨s.resources ++ [r], s.seen ++ [r.identifier]⟩ := by
  rw [insert, offer_of_not_mem h]

theorem mem_seen_insert (s : Included) (r : Resource) : r.identifier ∈ (s.insert r).seen := by
  by_cases h : r.identifier ∈ s.seen
  · rw [insert_of_mem h]
    exact h
  · rw [insert_of_not_mem h]
    exact List.mem_append_right _ (List.mem_singleton.2 rfl)

theorem mem_seen_insert_of_mem {s : Included} {key : Identifier} (h : key ∈ s.seen) (r : Resource) :
    key ∈ (s.insert r).seen := by
  by_cases hr : r.identifier ∈ s.seen
  · rw [insert_of_mem hr]
    exact h
  · rw [insert_of_not_mem hr]
    exact List.mem_append_left _ h

/-- What is noted beside the resources are their types and ids, and these differ from one another. -/
structure InStep (s : Included) : Prop where
  seen : s.seen = s.keys
  distinct : s.keys.Nodup

theorem inStep_empty : InStep ∅ := ⟨rfl, List.nodup_nil⟩

theorem InStep.insert {s : Included} (h : s.InStep) (r : Resource) : (s.insert r).InStep := by
  by_cases hr : r.identifier ∈ s.seen
  · rwa [insert_of_mem hr]
  · rw [insert_of_not_mem hr]
    have hnew : r.identifier ∉ s.keys := h.seen ▸ hr
    refine ⟨?_, ?_⟩
    · rw [keys, List.map_append, h.seen]
      rfl
    · rw [keys, List.map_append]
      exact List.nodup_append.2 ⟨h.distinct, List.pairwise_singleton _ _, fun key hkey other hother heq =>
        hnew (List.mem_singleton.1 hother ▸ heq ▸ hkey)⟩

theorem InStep.foldl_insert {s : Included} (h : s.InStep) (met : List Resource) : (met.foldl Included.insert s).InStep := by
  induction met generalizing s with
  | nil => exact h
  | cons r rest ih => exact ih (h.insert r)

/-- Resources whose type and id are in the set may be left out. -/
theorem foldl_insert_filter {s : Included} {key : Identifier} (h : key ∈ s.seen) (resources : List Resource) :
    (resources.filter (fun r => decide (r.identifier ≠ key))).foldl insert s = resources.foldl insert s := by
  induction resources generalizing s with
  | nil => rfl
  | cons r rest ih =>
    by_cases hr : r.identifier = key
    · rw [List.filter_cons_of_neg (by simpa using hr), List.foldl_cons, insert_of_mem (hr ▸ h)]
      exact ih h
    · rw [List.filter_cons_of_pos (by simpa using hr), List.foldl_cons, List.foldl_cons]
      exact ih (mem_seen_insert_of_mem h r)

/-- A set takes in the same whether or not duplicates have been dropped before. -/
theorem foldl_insert_firstOccurrences (s : Included) (resources : List Resource) :
    (firstOccurrences resources).foldl insert s = resources.foldl insert s := by
  match resources with
  | [] => rfl
  | r :: rest =>
    rw [firstOccurrences_cons, List.foldl_cons, List.foldl_cons, foldl_insert_firstOccurrences,
      foldl_insert_filter (mem_seen_insert s r)]
termination_by resources.length
decreasing_by exact Nat.lt_succ_of_le (List.length_filter_le ..)

/-- Only new resources come behind those of the set. -/
theorem resources_foldl_insert (s : Included) (resources : List Resource) :
    (resources.foldl insert s).resources =
      s.resources ++ firstOccurrences (resources.filter (fun r => decide (r.identifier ∉ s.seen))) := by
  induction resources generalizing s with
  | nil => exact (List.append_nil _).symm
  | cons r rest ih =>
    rw [List.foldl_cons, ih]
    by_cases hr : r.identifier ∈ s.seen
    · rw [insert_of_mem hr, List.filter_cons_of_neg (by simpa using hr)]
    · have hseen : (insert s r).seen = s.seen ++ [r.identifier] := by rw [insert_of_not_mem hr]
      have hnew : rest.filter (fun other => decide (other.identifier ∉ s.seen ++ [r.identifier])) =
          rest.filter fun other =>
            decide (other.identifier ≠ r.identifier) && decide (other.identifier ∉ s.seen) := by
        refine List.filter_congr fun other _ => ?_
        simp [not_or, and_comm]
      rw [List.filter_cons_of_pos (by simpa using hr), firstOccurrences_cons, List.filter_filter, hseen, hnew,
        insert_of_not_mem hr, List.append_assoc, List.singleton_append]

/-- The set of the resources that a walk meets. -/
def ofMet (met : List Resource) : Included := met.foldl insert ∅

theorem resources_ofMet (met : List Resource) : (ofMet met).resources = firstOccurrences met := by
  have hall : met.filter (fun r => decide (r.identifier ∉ (∅ : Included).seen)) = met :=
    List.filter_eq_self.2 fun r _ => decide_eq_true List.not_mem_nil
  rw [ofMet, resources_foldl_insert, hall]
  rfl

theorem inStep_ofMet (met : List Resource) : (ofMet met).InStep := inStep_empty.foldl_insert met

/-- Merging a set is the same as adding, one by one, what was met for it. -/
theorem extend_ofMet (s : Included) (met : List Resource) : s.extend (ofMet met) = met.foldl insert s := by
  rw [extend, resources_ofMet, foldl_insert_firstOccurrences]

end Included

/-! ## The walk -/

/-- The entities, in their order. -/
def Related.items {entity : Value} : Related entity → List (Part entity)
  | .one item => item.toList
  | .many items => items

/-- The entities that a relationship finds inside an entity, in their order, with the keys of their serializers. -/
def found (entity : Value) (relationship : String × RelationshipSpec κ) : List (κ × Part entity) :=
  match relationship.2 with
  | .link _ _ => []
  | .nested fallback choose =>
    let items := ((related? entity relationship.1).map Related.items).getD []
    items.map (fun item => (RelationshipSpec.chosen fallback choose item.val, item))

/-- The entities inside an entity that a walk meets: one relationship after the other, and each entity before
those inside it. -/
def visits (catalog : Catalog κ) (key : κ) (entity : Value) : List (κ × Value) :=
  ((catalog key).relationships.flatMap (found entity)).flatMap (fun item =>
    (item.1, item.2.val) :: visits catalog item.1 item.2.val)
termination_by sizeOf entity
decreasing_by exact item.2.property

namespace Assembler

variable (a : Assembler κ) (caller : Caller)

/-- The resource of an entity alone. -/
def resourceOf (item : κ × Value) : Result Resource :=
  (a.assemble caller item.1 item.2).map (fun assembled => assembled.resource)

end Assembler

section

variable {caller : Caller} {entity : Value} {nest : Part entity → κ → Result Assembled}

/-- What one relationship adds: nothing where the entity does not have it, and else its linkage with what is found. A
nested relationship points at what it finds. -/
theorem collect_cases {c c' : Collected} {relationship : String × RelationshipSpec κ}
    (h : collect caller entity nest c relationship = .ok c') :
    ∃ assembled, (found entity relationship).mapM (fun item => nest item.2 item.1) = .ok assembled ∧
      (assembled = [] ∧ c' = c ∨ ∃ linkage, c' = c.add relationship.1 linkage assembled ∧
        ∀ fallback choose, relationship.2 = .nested fallback choose →
          linkage.targets = assembled.map (fun a => a.resource.identifier)) := by
  obtain ⟨name, spec⟩ := relationship
  cases spec with
  | link type id =>
    obtain ⟨l, -, rfl⟩ := Result.map_eq_ok_iff.1 h
    exact ⟨[], rfl, .inr ⟨l, rfl, fun _ _ hnested => by cases hnested⟩⟩
  | nested fallback choose =>
    match hrelated : related? entity name with
    | none =>
      simp only [collect, hrelated, Except.ok.injEq] at h
      exact ⟨[], by simp [found, hrelated]; rfl, .inl ⟨rfl, h.symm⟩⟩
    | some (.one none) =>
      simp only [collect, hrelated, Except.ok.injEq] at h
      exact ⟨[], by simp [found, hrelated, Related.items]; rfl, .inr ⟨.one none, h.symm, fun _ _ _ => rfl⟩⟩
    | some (.one (some item)) =>
      simp only [collect, hrelated] at h
      obtain ⟨one, hone, rfl⟩ := Result.map_eq_ok_iff.1 h
      refine ⟨[one], ?_, .inr ⟨_, rfl, fun _ _ _ => rfl⟩⟩
      simp only [found, hrelated, Option.map_some, Option.getD_some, Related.items, Option.toList_some, List.map_cons,
        List.map_nil]
      exact Result.mapM_cons_eq_ok_iff.2 ⟨one, [], hone, rfl, rfl⟩
    | some (.many items) =>
      simp only [collect, hrelated] at h
      obtain ⟨many, hmany, rfl⟩ := Result.map_eq_ok_iff.1 h
      refine ⟨many, ?_, .inr ⟨_, rfl, fun _ _ _ => rfl⟩⟩
      simp only [found, hrelated, Option.map_some, Option.getD_some, Related.items, List.mapM_map]
      exact hmany

/-- The resources that one relationship adds. -/
theorem collect_eq_ok {c c' : Collected} {relationship : String × RelationshipSpec κ}
    (h : collect caller entity nest c relationship = .ok c') :
    ∃ assembled, (found entity relationship).mapM (fun item => nest item.2 item.1) = .ok assembled ∧
      c'.nested = assembled.foldl Included.addAssembled c.nested := by
  obtain ⟨assembled, hassembled, ⟨rfl, rfl⟩ | ⟨linkage, rfl, -⟩⟩ := collect_cases h
  · exact ⟨[], hassembled, rfl⟩
  · exact ⟨assembled, hassembled, rfl⟩

/-- What all relationships add, one after the other. -/
theorem foldlM_collect_eq_ok {relationships : List (String × RelationshipSpec κ)} {c c' : Collected}
    (h : relationships.foldlM (collect caller entity nest) c = .ok c') :
    ∃ assembled, (relationships.flatMap (found entity)).mapM (fun item => nest item.2 item.1) = .ok assembled ∧
      c'.nested = assembled.foldl Included.addAssembled c.nested := by
  induction relationships generalizing c with
  | nil =>
    cases h
    exact ⟨[], rfl, rfl⟩
  | cons relationship rest ih =>
    rw [List.foldlM_cons] at h
    obtain ⟨mid, hmid, hrest⟩ := Result.bind_eq_ok_iff.1 h
    obtain ⟨first, hfirst, hnested⟩ := collect_eq_ok hmid
    obtain ⟨others, hothers, heq⟩ := ih hrest
    refine ⟨first ++ others, ?_, ?_⟩
    · rw [List.flatMap_cons]
      exact Result.mapM_append_eq_ok_iff.2 ⟨first, others, hfirst, hothers, rfl⟩
    · rw [heq, hnested, List.foldl_append]

end

namespace Assembler

variable {a : Assembler κ} {caller : Caller}

/-- Sets that are put together one by one hold what a walk through all of their entities meets. -/
theorem foldl_met {ι : Type} {items : List ι} {nest : ι → Result Assembled} {walk : ι → List (κ × Value)}
    {put : Included → Assembled → Included} {assembled : List Assembled} (h : items.mapM nest = .ok assembled)
    (hput : ∀ item f, nest item = .ok f → ∃ met, (walk item).mapM (a.resourceOf caller) = .ok met ∧
      ∀ s, put s f = met.foldl Included.insert s) :
    ∃ met, (items.flatMap walk).mapM (a.resourceOf caller) = .ok met ∧
      ∀ s, assembled.foldl put s = met.foldl Included.insert s := by
  induction items generalizing assembled with
  | nil =>
    cases h
    exact ⟨[], rfl, fun s => rfl⟩
  | cons item rest ih =>
    obtain ⟨f, others, hf, hothers, rfl⟩ := Result.mapM_cons_eq_ok_iff.1 h
    obtain ⟨first, hfirst, hstep⟩ := hput item f hf
    obtain ⟨met, hmet, hfold⟩ := ih hothers
    refine ⟨first ++ met, ?_, fun s => ?_⟩
    · rw [List.flatMap_cons]
      exact Result.mapM_append_eq_ok_iff.2 ⟨first, met, hfirst, hmet, rfl⟩
    · rw [List.foldl_cons, hstep, hfold, List.foldl_append]

/-- The resources nested in an entity are those that a walk through it meets. By induction on the entity. -/
theorem nested_eq_ofMet {key : κ} {entity : Value} {assembled : Assembled}
    (h : a.assemble caller key entity = .ok assembled) :
    ∃ met, (visits a.catalog key entity).mapM (a.resourceOf caller) = .ok met ∧
      assembled.nested = Included.ofMet met := by
  rw [assemble, assembleWith] at h
  split at h
  · cases h
  obtain ⟨c, hc, rfl⟩ := Result.map_eq_ok_iff.1 h
  obtain ⟨inner, hinner, hnested⟩ := foldlM_collect_eq_ok hc
  have hput (item : κ × Part entity) (f : Assembled) (hf : a.assemble caller item.1 item.2.val = .ok f) :
      ∃ met, ((item.1, item.2.val) :: visits a.catalog item.1 item.2.val).mapM (a.resourceOf caller) = .ok met ∧
        ∀ s : Included, s.addAssembled f = met.foldl Included.insert s := by
    obtain ⟨met, hmet, hf'⟩ := nested_eq_ofMet hf
    refine ⟨f.resource :: met, Result.mapM_cons_eq_ok_iff.2 ⟨_, _, ?_, hmet, rfl⟩, fun s => ?_⟩
    · exact Result.map_eq_ok_iff.2 ⟨f, hf, rfl⟩
    · rw [Included.addAssembled, hf', Included.extend_ofMet, List.foldl_cons]
  obtain ⟨met, hmet, hfold⟩ := foldl_met hinner hput
  refine ⟨met, ?_, ?_⟩
  · rw [visits]
    exact hmet
  · rw [hnested, hfold]
    rfl
termination_by sizeOf entity
decreasing_by exact item.2.property

/-- The resources found in a list of entities are those that a walk through all of them meets. -/
theorem list_nested_eq_ofMet {key : κ} {entities : List Value} {assembled : List Assembled}
    (h : entities.mapM (a.assemble caller key) = .ok assembled) :
    ∃ met, (entities.flatMap (visits a.catalog key)).mapM (a.resourceOf caller) = .ok met ∧
      assembled.foldl (fun s f => s.extend f.nested) ∅ = Included.ofMet met := by
  have hput (entity : Value) (f : Assembled) (hf : a.assemble caller key entity = .ok f) :
      ∃ met, (visits a.catalog key entity).mapM (a.resourceOf caller) = .ok met ∧
        ∀ s : Included, s.extend f.nested = met.foldl Included.insert s := by
    obtain ⟨met, hmet, hnested⟩ := nested_eq_ofMet hf
    exact ⟨met, hmet, fun s => by rw [hnested, Included.extend_ofMet]⟩
  obtain ⟨met, hmet, hfold⟩ := foldl_met h hput
  exact ⟨met, hmet, hfold ∅⟩

end Assembler

/-! ## The included resources of a document -/

theorem Included.mem_finish {s : Included} {wanted : Option (List String)} {primary : List Identifier} {r : Resource} :
    r ∈ s.finish wanted primary ↔
      r ∈ s.resources ∧ r.identifier ∉ primary ∧ ∀ types ∈ wanted, r.type ∈ types := by
  cases wanted <;> simp [finish]

theorem Included.finish_ofMet (met : List Resource) (wanted : Option (List String)) (primary : List Identifier) :
    (ofMet met).finish wanted primary =
      ((firstOccurrences met).filter (fun r => !primary.contains r.identifier)).filter (fun r =>
        wanted.all (fun types => types.contains r.type)) := by
  rw [finish, resources_ofMet, List.filter_filter]
  refine List.filter_congr fun r _ => ?_
  cases wanted with
  | none => rw [Option.all_none, Bool.true_and, Option.map_none, Option.getD_none, Bool.and_true]
  | some types => rw [Option.all_some, Option.map_some, Option.getD_some, Bool.and_comm]

/-- How a document of a list comes about, if duplicates are dropped once: `primary` are the resources of the entities
themselves and `met` those that a walk through the entities meets. -/
structure Discovered (a : Assembler κ) (key : κ) (request : Request) (entities : List Value) (document : Document)
    (primary met : List Resource) : Prop where
  entities_are_primary : (entities.map (Prod.mk key)).mapM (a.resourceOf request.caller) = .ok primary
  data : document.primary = some (.many primary)
  walk : (entities.flatMap (visits a.catalog key)).mapM (a.resourceOf request.caller) = .ok met
  /-- First the duplicates go, then the primary data, then what is not wanted. -/
  included : document.included =
    ((firstOccurrences met).filter (fun r => !(primary.map Resource.identifier).contains r.identifier)).filter
      (fun r => request.wanted.all (fun types => types.contains r.type))

/-- The document of a list includes the first occurrences of what a walk through its entities meets, and the document
of one entity includes what the document of a list of that entity does. -/
theorem Assembler.included_eq_first_occurrences (a : Assembler κ) (key : κ) (request : Request) :
    (∀ entities document, a.list key entities request = .ok document →
      ∃ primary met, Discovered a key request entities document primary met) ∧
    ∀ entity, (a.single key (some entity) request).map Document.included =
      (a.list key [entity] request).map Document.included := by
  constructor
  · intro entities document h
    obtain ⟨assembled, hassembled, rfl⟩ := Result.map_eq_ok_iff.1 h
    obtain ⟨met, hmet, hnested⟩ := list_nested_eq_ofMet hassembled
    refine ⟨assembled.map (fun f => f.resource), met, ?_, rfl, hmet, ?_⟩
    · rw [List.mapM_map]
      exact Result.mapM_map_of_eq_ok hassembled (fun f => f.resource)
    · exact (congrArg (fun s => Included.finish s _ _) hnested).trans (Included.finish_ofMet ..)
  · intro entity
    cases h : a.assemble request.caller key entity with
    | error e => simp [single, list, h, Except.map]
    | ok f =>
      obtain ⟨met, -, hnested⟩ := nested_eq_ofMet h
      have hsame : (∅ : Included).extend f.nested = f.nested := by
        rw [hnested, Included.extend_ofMet]
        rfl
      simp [single, list, h, Except.map, hsame]

/-- Parts that are made of parts. -/
def partsAssembler : Assembler Unit :=
  ⟨fun _ => ⟨"parts", .field "id", [], [], [("parts", .nested () none)], false⟩, none⟩

/-- A part with the parts that it is made of. -/
def part (id : String) (parts : List Value) : Value := .obj [("id", .str id), ("parts", .arr parts)]

/-- The second of the two parts lies in the first, and the part "3" in both. -/
theorem included_of_parts_in_parts :
    ∃ document, partsAssembler.list () [part "1" [part "2" [part "3" []], part "4" []], part "2" [part "3" []]]
        ⟨.anonymous, some ["parts"], none, none, none⟩ = .ok document ∧
      document.included.map Resource.id = ["3", "4"] ∧
      ∃ primary met, Discovered partsAssembler () ⟨.anonymous, some ["parts"], none, none, none⟩
        [part "1" [part "2" [part "3" []], part "4" []], part "2" [part "3" []]] document primary met := by
  have hsome : ((partsAssembler.list () [part "1" [part "2" [part "3" []], part "4" []], part "2" [part "3" []]]
      ⟨.anonymous, some ["parts"], none, none, none⟩).map (fun d => d.included.map Resource.id)).toOption =
        some ["3", "4"] := by decide +kernel
  cases hlist : partsAssembler.list () [part "1" [part "2" [part "3" []], part "4" []], part "2" [part "3" []]]
      ⟨.anonymous, some ["parts"], none, none, none⟩ with
  | error e =>
    rw [hlist] at hsome
    cases hsome
  | ok document =>
    rw [hlist] at hsome
    exact ⟨document, rfl, Option.some.inj hsome, (Assembler.included_eq_first_occurrences ..).1 _ _ hlist⟩

end EntityGraph.Document
