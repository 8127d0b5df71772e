import EntityGraph.Proofs.Document.Discovery

/-!
# Sets of resources put together

Resources are inserted one by one, and whole sets are merged. However a set is put together, it is the set of all
resources that were offered along the way, inserted one by one: what is offered behind other resources comes behind them
in the list, so the laws of merging are those of joining lists.
-/
namespace EntityGraph.Document

/-- How a set is put together from the empty set, by inserting resources and by merging sets that are put together in
the same way. -/
inductive Gathering where
  | start
  | insert (g : Gathering) (r : Resource)
  | extend (g other : Gathering)

namespace Gathering

/-- The set that is put together. -/
def set : Gathering → Included
  | start => ∅
  | insert g r => g.set.insert r
  | extend g other => g.set.extend other.set

/-- All resources that are offered to the set and to those merged into it, in order. -/
def offered : Gathering → List Resource
  | start => []
  | insert g r => g.offered ++ [r]
  | extend g other => g.offered ++ other.offered

end Gathering

namespace Included

theorem foldl_insert_of_forall_mem {s : Included} {resources : List Resource}
    (h : ∀ r ∈ resources, r.identifier ∈ s.seen) : resources.foldl insert s = s := by
  induction resources with
  | nil => rfl
  | cons r rest ih =>
    obtain ⟨hr, hrest⟩ := List.forall_mem_cons.1 h
    rw [List.foldl_cons, insert_of_mem hr, ih hrest]

/-- Merging a set brings nothing new if all of its types and ids have been found. -/
theorem extend_of_keys_subset {s other : Included} (h : ∀ key ∈ other.keys, key ∈ s.seen) : s.extend other = s :=
  foldl_insert_of_forall_mem fun _ hr => h _ (List.mem_map_of_mem hr)

theorem ofMet_append (met met' : List Resource) : ofMet (met ++ met') = (ofMet met).extend (ofMet met') := by
  rw [extend_ofMet, ofMet, List.foldl_append]
  rfl

/-- What a set holds can be offered in its place. -/
theorem ofMet_resources (met : List Resource) : ofMet (ofMet met).resources = ofMet met := by
  rw [resources_ofMet, ofMet, foldl_insert_firstOccurrences, ofMet]

theorem offer_fst_iff {s : Included} {r : Resource} : (s.offer r).1 = true ↔ r.identifier ∉ s.seen := by
  by_cases h : r.identifier ∈ s.seen
  · simp [offer_of_mem h, h]
  · simp [offer_of_not_mem h, h]

/-- The laws of a set that came about by offering it resources in this order. -/
structure OrderedSet (s : Included) (offered : List Resource) : Prop where
  /-- No type and id comes twice, and those noted are those of the resources. -/
  inStep : s.InStep
  first : s.resources = firstOccurrences offered
  /-- A resource is taken in exactly if its type and id are new. -/
  offer : ∀ r, (s.offer r).1 = true ↔ r.identifier ∉ s.keys
  empty_extend : (∅ : Included).extend s = s
  extend_empty : s.extend ∅ = s
  finish_sublist : ∀ wanted primary, (s.finish wanted primary).Sublist s.resources
  mem_finish : ∀ wanted primary r, r ∈ s.finish wanted primary ↔
    r ∈ s.resources ∧ r.identifier ∉ primary ∧ ∀ types ∈ wanted, r.type ∈ types

theorem orderedSet_ofMet (met : List Resource) : OrderedSet (ofMet met) met where
  inStep := inStep_ofMet met
  first := resources_ofMet met
  offer r := by rw [offer_fst_iff, (inStep_ofMet met).seen]
  empty_extend := (ofMet_append [] met).symm
  extend_empty := rfl
  finish_sublist wanted primary := List.filter_sublist
  mem_finish wanted primary r := Included.mem_finish

end Included

namespace Gathering

/-- By induction on the calls: each of them does what inserting the resources that it offers would do. -/
theorem set_eq_ofMet (g : Gathering) : g.set = Included.ofMet g.offered := by
  induction g with
  | start => rfl
  | insert g r ih =>
    rw [set, offered, Included.ofMet, List.foldl_append, ← Included.ofMet, ← ih]
    rfl
  | extend g other ih ih' => rw [set, offered, Included.ofMet_append, ← ih, ← ih']

/-- A set that is put together holds the first occurrences of all that was offered, each type and id once and noted
once. Merging keeps what the set has in front; it is associative, with the empty set as unit, and does nothing where
nothing is new. -/
theorem set_keeps_first_occurrences (g : Gathering) :
    g.set.OrderedSet g.offered ∧
      (∀ g' : Gathering, (g.set.extend g'.set).resources = firstOccurrences (g.set.resources ++ g'.set.resources)) ∧
      (∀ g' g'' : Gathering, (g.set.extend g'.set).extend g''.set = g.set.extend (g'.set.extend g''.set)) ∧
      ∀ g' : Gathering, (∀ key ∈ g'.set.keys, key ∈ g.set.keys) → g.set.extend g'.set = g.set := by
  have hset : g.set.OrderedSet g.offered := g.set_eq_ofMet ▸ Included.orderedSet_ofMet g.offered
  refine ⟨hset, fun g' => ?_, fun g' g'' => ?_, fun g' hkeys => ?_⟩
  · rw [← Included.resources_ofMet, Included.ofMet_append, set_eq_ofMet, set_eq_ofMet, Included.ofMet_resources,
      Included.ofMet_resources]
  · simp only [set_eq_ofMet, ← Included.ofMet_append, List.append_assoc]
  · exact Included.extend_of_keys_subset (hset.inStep.seen ▸ hkeys)

/-- A tag with a title. -/
def tag (id title : String) : Resource := ⟨"tags", id, Dict.ofList [("title", .str title)], none, none, none⟩

/-- Two tags. -/
def tags : Gathering := (start.insert (tag "1" "new")).insert (tag "2" "old")

/-- The first of them with another title. -/
def retitled : Gathering := start.insert (tag "1" "newer")

/-- The other title is not taken over. -/
theorem set_keeps_titles_of_tags : (∀ key ∈ retitled.set.keys, key ∈ tags.set.keys) ∧
    tags.set.extend retitled.set = tags.set ∧
    tags.set.resources = firstOccurrences [tag "1" "new", tag "2" "old"] := by
  have hkeys : ∀ key ∈ retitled.set.keys, key ∈ tags.set.keys := by decide
  have h := set_keeps_first_occurrences tags
  exact ⟨hkeys, h.2.2.2 retitled hkeys, h.1.first⟩

end Gathering
end EntityGraph.Document
