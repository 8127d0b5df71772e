import EntityGraph.Proofs.Cypher.Misuses
import EntityGraph.Proofs.Cypher.References

/-!
# Windows at any depth

The text of a statement refers to the size of its window wherever a page marker stands, in a subquery too. The size is
among the parameters only if a marker stands at the top level. So a statement that is built with markers in subqueries
alone refers to a size that nothing gives a value, unless a call happened to bind it; every other reference is bound.
-/
namespace EntityGraph.Cypher

open Paging (Window)

mutual
/-- Whether a page marker stands in a clause, at any depth. -/
def Clause.marked : Clause → Bool
  | .projection _ _ _ _ page => page
  | .subquery _ body => anyMarked body
  | _ => false
/-- Whether a page marker stands in clauses, at any depth. -/
def anyMarked : List Clause → Bool
  | [] => false
  | k :: rest => k.marked || anyMarked rest
end

/-! ## What the text refers to -/

mutual
/-- A clause refers to what its names and procedures spell, and to the sizes of the window if it is marked. -/
theorem Clause.mem_references (w : Window) (p : String) : (k : Clause) → (p ∈ k.references w ↔
    p ∈ nameReferences k.names ∨ p ∈ k.procedures.flatMap Text.references ∨ k.marked = true ∧ p ∈ windowReferences w)
  | .procedure name args yields => by
    simp [Clause.references, Clause.procedures, Clause.marked, or_comm]
  | .subquery imports body => by
    rw [Clause.references, Clause.names, Clause.procedures, Clause.marked, List.mem_append,
      mem_clauseReferences w p body, nameReferences_append, List.mem_append, or_assoc]
  | .projection columns distinct predicate order page => by
    rw [Clause.references, Clause.names, List.mem_append]
    cases page <;> simp [Clause.procedures, Clause.marked]
  | .pattern _ _ _ => by simp [Clause.references, Clause.procedures, Clause.marked]
  | .unwind _ _ => by simp [Clause.references, Clause.procedures, Clause.marked]
  | .create _ => by simp [Clause.references, Clause.procedures, Clause.marked]
  | .merge _ => by simp [Clause.references, Clause.procedures, Clause.marked]
  | .set _ => by simp [Clause.references, Clause.procedures, Clause.marked]
  | .delete _ _ => by simp [Clause.references, Clause.procedures, Clause.marked]
  | .returning _ _ _ => by simp [Clause.references, Clause.procedures, Clause.marked]
theorem mem_clauseReferences (w : Window) (p : String) : (ks : List Clause) → (p ∈ clauseReferences w ks ↔
    p ∈ nameReferences (clauseNames ks) ∨ p ∈ (proceduresOf ks).flatMap Text.references ∨
      anyMarked ks = true ∧ p ∈ windowReferences w)
  | [] => by simp [clauseReferences, proceduresOf, anyMarked]
  | k :: rest => by
    rw [clauseReferences, clauseNames, proceduresOf, anyMarked, List.mem_append, k.mem_references w p,
      mem_clauseReferences w p rest, nameReferences_append, List.mem_append, List.flatMap_append, List.mem_append,
      Bool.or_eq_true, or_and_right]
    tauto
end

/-- Whether a name other than that of a parameter spells a reference to it. -/
def Strays (ks : List Clause) (p : String) : Prop :=
  (∃ n ∈ clauseNames ks, n ≠ .param p ∧ p ∈ n.references) ∨ ∃ name ∈ proceduresOf ks, p ∈ Text.references name

/-- The text of a statement refers to a parameter by its name, by a stray one, or as the size of a window. -/
theorem Statement.mem_references_render (s : Statement) (w : Window) (p : String) :
    p ∈ Text.references (s.render w).text ↔
      (.param p ∈ s.names ∧ p ∈ (Name.param p).references) ∨ Strays s.clauses p ∨
        anyMarked s.clauses = true ∧ p ∈ windowReferences w := by
  have hnames : p ∈ nameReferences (clauseNames s.clauses) ↔ (.param p ∈ s.names ∧ p ∈ (Name.param p).references) ∨
      ∃ n ∈ clauseNames s.clauses, n ≠ .param p ∧ p ∈ n.references := by
    rw [nameReferences, List.mem_flatMap]
    constructor
    · rintro ⟨n, hn, hp⟩
      by_cases hparam : n = .param p
      · subst hparam
        exact .inl ⟨hn, hp⟩
      · exact .inr ⟨n, hn, hparam, hp⟩
    · rintro (⟨hn, hp⟩ | ⟨n, hn, -, hp⟩)
      · exact ⟨.param p, hn, hp⟩
      · exact ⟨n, hn, hp⟩
  rw [Statement.render, references_render, mem_clauseReferences, hnames, List.mem_flatMap, Strays, or_assoc, or_assoc]

/-! ## Statements that are built -/

section Built

variable {primary entity : Option String} {calls : List Call} {s : Statement}

/-- A statement that is built holds a value under each name that was bound, at any depth, and under no other. -/
theorem contains_built_iff (h : built primary entity calls = .ok s) (p : String) :
    s.params.contains p = true ↔ ∃ value, (p, value) ∈ boundIn calls := by
  obtain ⟨hclean, -, rfl⟩ := built_eq_ok_iff.1 h
  have hgathers := gathers_of_clean hclean
  constructor
  · intro hp
    obtain ⟨value, hvalue⟩ := Option.isSome_iff_exists.1 hp
    exact ⟨value, hgathers.bound (p, value) (Dict.mem_of_get? hvalue)⟩
  · rintro ⟨value, hbound⟩
    obtain ⟨held, hheld, -⟩ := hgathers.leads (p, value) hbound
    exact Dict.contains_of_get? hheld

end Built

/-- A statement whose parameters were all bound has a value for every reference in its text, except for those that
stray names spell and, if there are page markers in subqueries alone, for the sizes of the window. The text does refer
to these, and they have a value only if a call bound one. -/
theorem built_window_references {primary entity : Option String} {calls : List Call} {s : Statement}
    (h : built primary entity calls = .ok s) (hbound : ∀ p, .param p ∈ s.names → ∃ value, (p, value) ∈ boundIn calls)
    (w : Window) :
    (∀ p ∈ Text.references (s.render w).text, (s.render w).params.contains p = true ∨ Strays s.clauses p ∨
      s.isPaginated = false ∧ anyMarked s.clauses = true ∧ p ∈ windowReferences w) ∧
    (∀ p, (s.render w).params.contains p = true ↔
      (∃ value, (p, value) ∈ boundIn calls) ∨ s.isPaginated = true ∧ p ∈ windowReferences w) ∧
    (anyMarked s.clauses = true → ∀ p ∈ windowReferences w, p ∈ Text.references (s.render w).text) := by
  have hcontains (p : String) : (s.render w).params.contains p = true ↔
      (∃ value, (p, value) ∈ boundIn calls) ∨ s.isPaginated = true ∧ p ∈ windowReferences w := by
    rw [s.contains_render, contains_built_iff h]
  refine ⟨fun p hp => ?_, hcontains, fun hmarked p hp => (s.mem_references_render w p).2 (.inr (.inr ⟨hmarked, hp⟩))⟩
  rw [hcontains]
  rcases (s.mem_references_render w p).1 hp with ⟨hparam, -⟩ | hstray | ⟨hmarked, hsize⟩
  · exact .inl (.inl (hbound p hparam))
  · exact .inr (.inl hstray)
  · cases hpaged : s.isPaginated with
    | true => exact .inl (.inr ⟨rfl, hsize⟩)
    | false => exact .inr (.inr ⟨rfl, hmarked, hsize⟩)

/-- Takes tags from a user, as many as the window holds. -/
def purge : List Call :=
  let user := (Node.labeled "user" "User").withProp "id" (.param "id")
  let tagged := (Pattern.node (.bound "user")).hop (some "edge") "TAGGED" .outgoing (.anonymous "Tag")
  [.bind "id" (.str "u1"), .matching (.node user) false,
    .subquery ["user"] [.matching tagged false, .page [.ofVar "edge"] [] false, .delete ["edge"] false],
    .returning [.ofVar "user"] []]

/-- The statement that takes tags from a user. -/
def purged : Statement := ⟨clausesOf purge, paramsOf purge, none, none⟩

theorem built_purge : built none none purge = .ok purged := rfl

theorem bound_of_param_purged {p : String} (h : .param p ∈ purged.names) : ∃ value, (p, value) ∈ boundIn purge := by
  have hnames : purged.names = [.var "user", .label "User", .key "id", .param "id", .var "user", .var "user",
      .var "edge", .type "TAGGED", .label "Tag", .var "edge", .var "edge", .var "user"] := rfl
  have hp : p = "id" := by simpa [hnames] using h
  subst hp
  exact ⟨.str "u1", List.mem_singleton_self _⟩

theorem limitParam_purged : (purged.render (.first 26)).params.contains limitParam = false := by decide

theorem built_window_references_purge : built none none purge = .ok purged ∧
    (∀ p, .param p ∈ purged.names → ∃ value, (p, value) ∈ boundIn purge) ∧
    limitParam ∈ Text.references (purged.render (.first 26)).text ∧
    (purged.render (.first 26)).params.contains limitParam = false := by
  have hsize : limitParam ∈ windowReferences (.first 26) := List.mem_singleton_self _
  obtain ⟨-, -, hrefers⟩ := built_window_references built_purge (fun _ => bound_of_param_purged) (.first 26)
  exact ⟨built_purge, fun _ => bound_of_param_purged, hrefers rfl limitParam hsize, limitParam_purged⟩

/-- Not every reference in the text of a rendered window is bound. -/
theorem not_built_window_closed : ¬∀ (primary entity : Option String) (calls : List Call) (s : Statement) (w : Window),
    built primary entity calls = .ok s → (∀ p, .param p ∈ s.names → ∃ value, (p, value) ∈ boundIn calls) →
      ∀ p ∈ Text.references (s.render w).text, (s.render w).params.contains p = true := by
  intro hclosed
  have hsize : limitParam ∈ windowReferences (.first 26) := List.mem_singleton_self _
  have hreference := (purged.mem_references_render (.first 26) limitParam).2 (.inr (.inr ⟨rfl, hsize⟩))
  have hbound := hclosed none none purge purged _ built_purge (fun _ => bound_of_param_purged) limitParam hreference
  rw [limitParam_purged] at hbound
  cases hbound

end EntityGraph.Cypher
