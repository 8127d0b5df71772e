import EntityGraph.Proofs.Statements.Emitted

/-!
# Statements that change nothing

Lists, look-ups and searches only read. The one clause of theirs that is not the compiler's own is the custom result
of the descriptor, so if a clause of such a statement changes the graph, it is that one.
-/
namespace EntityGraph.Cypher

mutual
/-- Whether a clause changes the graph, or a clause inside it does. -/
def Clause.updates : Clause → Bool
  | .subquery _ body => anyUpdates body
  | .create _ => true
  | .merge _ => true
  | .set _ => true
  | .delete .. => true
  | .pattern .. => false
  | .procedure .. => false
  | .projection .. => false
  | .unwind .. => false
  | .returning .. => false
/-- Whether one of the clauses changes the graph. -/
def anyUpdates : List Clause → Bool
  | [] => false
  | k :: rest => k.updates || anyUpdates rest
end

theorem Clause.updates_guardedBy (k : Clause) (ps : List Predicate) : (k.guardedBy ps).updates = k.updates := by
  induction ps generalizing k with
  | nil => rfl
  | cons p rest ih =>
    refine (ih (k.guarded p)).trans ?_
    cases k <;> rfl

/-- Only a projection loses its order in a count, and no projection changes the graph. -/
theorem Clause.unordered_of_updates {k : Clause} (h : (Statement.unordered k).updates = true) :
    Statement.unordered k = k := by
  cases k with
  | projection columns distinct predicate order page => cases h
  | _ => rfl

theorem Statement.subset_of_throughMarker {ks kept : List Clause} (h : throughMarker ks = some kept) : kept ⊆ ks := by
  induction ks generalizing kept with
  | nil => cases h
  | cons k rest ih =>
    rw [throughMarker] at h
    split at h
    · cases h
      exact List.cons_subset_cons k (List.nil_subset rest)
    · obtain ⟨kept', hkept', rfl⟩ := Option.map_eq_some_iff.1 h
      exact List.cons_subset_cons k (ih hkept')

end EntityGraph.Cypher

namespace EntityGraph.Compile.Compiler

open Cypher
open Schema (Relationship)

variable (c : Compiler)

/-- Whether a clause is the custom result of the descriptor. -/
def IsCustomResult (k : Clause) : Prop :=
  ∃ custom bound, c.descriptor.returnClause = some custom ∧ k = custom c.node bound

/-- None of the compiler's own clauses changes the graph. -/
def Quiet (ks : List Clause) : Prop := ∀ k ∈ ks, k.updates = true → c.IsCustomResult k

variable {c}

theorem quiet_append {ks ks' : List Clause} : c.Quiet (ks ++ ks') ↔ c.Quiet ks ∧ c.Quiet ks' :=
  List.forall_mem_append

theorem quiet_cons {k : Clause} {ks : List Clause} (hk : k.updates = false) (hks : c.Quiet ks) : c.Quiet (k :: ks) :=
  List.forall_mem_cons.2 ⟨fun h => absurd (hk.symm.trans h) Bool.false_ne_true, hks⟩

theorem quiet_nil : c.Quiet [] := nofun

/-! ## The parts of a read -/

theorem quiet_openingInit (tied : Bool) (source : Source) : c.Quiet (c.openingInit tied source) := by
  cases source with
  | label => cases tied <;> simp [openingInit, Quiet, Clause.matching, Clause.updates]
  | index procedure args => cases tied <;> simp [openingInit, Quiet, hitClause, Clause.updates]

theorem updates_openingLast (tied : Bool) (source : Source) : (c.openingLast tied source).updates = false := by
  cases tied <;> cases source <;> rfl

theorem quiet_tail (bound : List String) (order : List SortKey) : c.Quiet (c.tail bound order) := by
  have htraversals (links : List (String × Relationship)) : ∀ bound, c.Quiet (c.traversals bound links) := by
    induction links with
    | nil => exact fun _ => quiet_nil
    | cons e rest ih => exact fun _ => quiet_cons rfl (quiet_cons rfl (ih _))
  refine quiet_append.2 ⟨htraversals _ _, List.forall_mem_singleton.2 fun h => ?_⟩
  unfold finish at h ⊢
  cases hcustom : c.descriptor.returnClause with
  | some custom => exact ⟨custom, _, hcustom, rfl⟩
  | none =>
    rw [hcustom] at h
    cases h

theorem quiet_candidates (tied : Bool) (criteria : Criteria) (related : Option Relationship) :
    c.Quiet (c.candidates tied criteria related) := by
  have hrelated : c.Quiet (related.map c.relatedMatch).toList := by
    cases related with
    | none => exact quiet_nil
    | some r => exact quiet_cons rfl quiet_nil
  have hlast := (Clause.updates_guardedBy _ (c.listTests criteria)).trans
    (c.updates_openingLast tied (c.listSource criteria))
  exact quiet_append.2 ⟨quiet_openingInit _ _, quiet_cons hlast hrelated⟩

/-! ## The statements that read -/

theorem quiet_list {caller : Caller} {criteria : Criteria} {related : Option (Relationship × List String)}
    {s : Statement} (h : c.list caller criteria related = .ok s) : c.Quiet s.clauses := by
  obtain ⟨scope, order, -, -, rfl⟩ := c.list_outline h
  exact quiet_append.2 ⟨quiet_candidates _ _ _, quiet_cons rfl (quiet_tail _ _)⟩

theorem quiet_findById {caller : Caller} {id : String} {s : Statement} (h : c.findById caller id = .ok s) :
    c.Quiet s.clauses := by
  obtain ⟨scope, -, rfl⟩ := c.findById_outline h
  have hlast := (Clause.updates_guardedBy _ [c.idTest]).trans (c.updates_openingLast scope.isSome .label)
  exact quiet_append.2 ⟨quiet_openingInit _ _, quiet_cons hlast (quiet_tail _ _)⟩

theorem quiet_findSimilar {caller : Caller} {vector : List Float} {k : Nat} {s : Statement}
    (h : c.findSimilar caller vector k = .ok s) : c.Quiet s.clauses := by
  obtain ⟨index, scope, -, -, rfl⟩ := c.findSimilar_outline h
  exact quiet_append.2 ⟨quiet_openingInit _ _, quiet_cons (updates_openingLast _ _) (quiet_tail _ _)⟩

theorem quiet_existsUnscoped {id : String} {s : Statement} (h : c.existsUnscoped id = .ok s) : c.Quiet s.clauses := by
  rw [c.existsUnscoped_outline h]
  exact quiet_cons rfl (quiet_cons rfl quiet_nil)

theorem quiet_relatedExistence {refs : List Reference} {s : Statement}
    (h : c.relatedExistence refs = .ok (some s)) : c.Quiet s.clauses := by
  have houtline := c.relatedExistence_outline h
  split at houtline
  · cases houtline
  · cases houtline
    exact quiet_cons rfl (quiet_cons rfl (quiet_cons rfl quiet_nil))

/-- The count of a statement changes no more than the statement. -/
theorem Quiet.count {s t : Statement} (h : c.Quiet s.clauses) (ht : s.count? = some t) : c.Quiet t.clauses := by
  obtain ⟨primary, -, ht⟩ := Option.bind_eq_some_iff.1 ht
  obtain ⟨kept, hkept, ht⟩ := Option.bind_eq_some_iff.1 ht
  cases ht
  refine quiet_append.2 ⟨fun k hk hupdates => ?_, quiet_cons rfl quiet_nil⟩
  obtain ⟨k', hk', rfl⟩ := List.mem_map.1 hk
  have hsame := Clause.unordered_of_updates hupdates
  rw [hsame] at hupdates ⊢
  exact h k' (Statement.subset_of_throughMarker hkept hk') hupdates

end EntityGraph.Compile.Compiler
