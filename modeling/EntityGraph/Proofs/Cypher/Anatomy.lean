import EntityGraph.Proofs.Cypher.References

/-!
# The anatomy of a statement

Inner clauses pass rows on: they neither order nor page nor return them, and neither do the clauses of subqueries
inside them. A statement consists of inner clauses with one result behind them, and a list has one page among them.
-/
namespace EntityGraph.Cypher

open Paging (Window)

mutual
/-- Whether a clause neither orders nor pages nor returns rows, at any depth. The procedure of a call has a name
without a dollar sign. -/
def Clause.isInner : Clause → Bool
  | .procedure name _ _ => !name.toList.contains '$'
  | .subquery _ body => areInner body
  | .projection _ _ _ order page => order.isEmpty && !page
  | .returning .. => false
  | .pattern .. => true
  | .unwind .. => true
  | .create _ => true
  | .merge _ => true
  | .set _ => true
  | .delete .. => true
/-- Whether all clauses are inner ones. -/
def areInner : List Clause → Bool
  | [] => true
  | k :: rest => k.isInner && areInner rest
end

theorem areInner_iff {ks : List Clause} : areInner ks = true ↔ ∀ k ∈ ks, k.isInner = true := by
  induction ks with
  | nil => simp [areInner]
  | cons k rest ih => rw [areInner, Bool.and_eq_true, ih, List.forall_mem_cons]

@[simp] theorem areInner_append {ks ks' : List Clause} :
    areInner (ks ++ ks') = true ↔ areInner ks = true ∧ areInner ks' = true := by
  simp only [areInner_iff, List.forall_mem_append]

@[simp] theorem areInner_cons {k : Clause} {ks : List Clause} :
    areInner (k :: ks) = true ↔ k.isInner = true ∧ areInner ks = true := by
  rw [areInner, Bool.and_eq_true]

@[simp] theorem areInner_nil : areInner [] = true := rfl

theorem Clause.isInner_guardedBy {k : Clause} (h : k.isInner = true) (ps : List Predicate) :
    (k.guardedBy ps).isInner = true := by
  induction ps generalizing k with
  | nil => exact h
  | cons p rest ih =>
    refine ih ?_
    cases k <;> exact h

/-- How a statement is built: inner clauses and the result, perhaps with one page among the inner clauses. -/
inductive Anatomy : List Clause → Prop
  | plain {ks : List Clause} (h : areInner ks = true) (columns : List Column) (order : List SortKey) :
      Anatomy (ks ++ [.returning columns false order])
  | paged {ks ks' : List Clause} (h : areInner ks = true) (h' : areInner ks' = true) (carried : List Column)
      (distinct : Bool) (keys : List SortKey) (columns : List Column) (order : List SortKey) :
      Anatomy (ks ++ .projection carried distinct none keys true :: (ks' ++ [.returning columns false order]))

/-! ## Markers -/

theorem Clause.not_marker_of_isInner {k : Clause} (h : k.isInner = true) : k.isPageMarker = false := by
  cases k with
  | projection columns distinct predicate order page =>
    rw [isInner, Bool.and_eq_true, Bool.not_eq_true'] at h
    exact h.2
  | _ => rfl

theorem any_marker_of_areInner {ks : List Clause} (h : areInner ks = true) : ks.any Clause.isPageMarker = false := by
  rw [List.any_eq_false]
  intro k hk
  rw [Clause.not_marker_of_isInner (areInner_iff.1 h k hk)]
  exact Bool.false_ne_true

/-! ## References -/

mutual
theorem Clause.references_of_isInner (w : Window) : (k : Clause) → k.isInner = true →
    k.references w = nameReferences k.names
  | .procedure name args yields, h => by
    have hplain : '$' ∉ name.toList := by simpa [Clause.isInner] using h
    rw [Clause.references, Clause.names, Text.references_plain hplain, List.nil_append]
  | .subquery imports body, h => by
    rw [Clause.references, Clause.names, clauseReferences_of_areInner w body h, nameReferences_append]
  | .projection columns distinct predicate order page, h => by
    have hpage : page = false := Clause.not_marker_of_isInner h
    subst hpage
    rw [Clause.references, Clause.names, if_neg Bool.false_ne_true, List.append_nil]
  | .pattern _ _ _, _ => by rw [Clause.references, Clause.names]
  | .unwind _ _, _ => by rw [Clause.references, Clause.names]
  | .create _, _ => by rw [Clause.references, Clause.names]
  | .merge _, _ => by rw [Clause.references, Clause.names]
  | .set _, _ => by rw [Clause.references, Clause.names]
  | .delete _ _, _ => by rw [Clause.references, Clause.names]
theorem clauseReferences_of_areInner (w : Window) : (ks : List Clause) → areInner ks = true →
    clauseReferences w ks = nameReferences (clauseNames ks)
  | [], _ => rfl
  | k :: rest, h => by
    obtain ⟨hk, hrest⟩ := areInner_cons.1 h
    rw [clauseReferences, clauseNames, k.references_of_isInner w hk, clauseReferences_of_areInner w rest hrest,
      nameReferences_append]
end

theorem clauseReferences_append (w : Window) (ks ks' : List Clause) :
    clauseReferences w (ks ++ ks') = clauseReferences w ks ++ clauseReferences w ks' := by
  induction ks with
  | nil => rfl
  | cons k rest ih => rw [List.cons_append, clauseReferences, clauseReferences, ih, List.append_assoc]

/-- What a statement refers to: what its names do, and the sizes of the window if it is paged. -/
theorem Anatomy.mem_references {ks : List Clause} (h : Anatomy ks) (w : Window) (p : String) :
    p ∈ clauseReferences w ks ↔
      p ∈ nameReferences (clauseNames ks) ∨ ks.any Clause.isPageMarker = true ∧ p ∈ windowReferences w := by
  cases h with
  | plain h columns order =>
    rw [clauseReferences_append, clauseNames_append, clauseReferences_of_areInner w _ h, nameReferences_append,
      List.any_append, any_marker_of_areInner h]
    simp [clauseReferences, clauseNames, Clause.references, Clause.names, Clause.isPageMarker]
  | @paged ks ks' h h' carried distinct keys columns order =>
    have hrest := clauseReferences_of_areInner w _ h'
    rw [clauseReferences_append, clauseNames_append, clauseReferences_of_areInner w _ h, nameReferences_append]
    simp only [clauseReferences, clauseNames, clauseReferences_append, clauseNames_append, hrest, Clause.references,
      Clause.names, nameReferences_append, List.mem_append, List.any_append, List.any_cons, Clause.isPageMarker]
    simp
    grind

end EntityGraph.Cypher
