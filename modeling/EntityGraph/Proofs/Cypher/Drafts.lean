import EntityGraph.Cypher.Builder
import EntityGraph.Proofs.Dict

/-!
# What a builder holds

A builder gathers a draft of its statement and remembers its first misuse. Once misused it stays misused, so a
statement that was built at all is exactly the draft that its steps append to, one equation for each step. A
parameter that was given a value keeps it: only a value that equals it may be bound to the same name again.
-/
namespace EntityGraph.Cypher

/-- Appends a clause. -/
def Statement.push (s : Statement) (k : Clause) : Statement := { s with clauses := s.clauses ++ [k] }

/-- Sets the value of a parameter. -/
def Statement.bind (s : Statement) (name : String) (value : Json.Value) : Statement :=
  { s with params := s.params.insert name value }

/-- The clause with a predicate joined to its own; a clause that carries none stays as it is. -/
def Clause.guarded (k : Clause) (p : Predicate) : Clause := (k.filtered? p).getD k

/-- The clause with all predicates joined to its own, from left to right. -/
def Clause.guardedBy (k : Clause) (ps : List Predicate) : Clause := ps.foldl Clause.guarded k

@[simp] theorem Clause.guardedBy_nil (k : Clause) : k.guardedBy [] = k := rfl

@[simp] theorem Clause.guardedBy_cons (k : Clause) (p : Predicate) (ps : List Predicate) :
    k.guardedBy (p :: ps) = (k.guarded p).guardedBy ps := rfl

theorem Clause.guardedBy_append (k : Clause) (ps qs : List Predicate) :
    k.guardedBy (ps ++ qs) = (k.guardedBy ps).guardedBy qs := List.foldl_append

namespace Clause

@[simp] theorem isPageMarker_guarded (k : Clause) (p : Predicate) : (k.guarded p).isPageMarker = k.isPageMarker := by
  cases k <;> rfl

@[simp] theorem isPageMarker_guardedBy (k : Clause) (tests : List Predicate) :
    (k.guardedBy tests).isPageMarker = k.isPageMarker := by
  induction tests generalizing k with
  | nil => rfl
  | cons p rest ih => rw [guardedBy_cons, ih, isPageMarker_guarded]

/-- Whether a clause takes predicates does not depend on those that it has. -/
theorem isSome_filtered?_guardedBy (k : Clause) (tests : List Predicate) (p : Predicate) :
    ((k.guardedBy tests).filtered? p).isSome = (k.filtered? p).isSome := by
  induction tests generalizing k with
  | nil => rfl
  | cons q rest ih =>
    rw [guardedBy_cons, ih]
    cases k <;> rfl

/-- A clause that takes predicates takes one more. -/
theorem filtered?_guardedBy {k : Clause} {p : Predicate} (h : (k.filtered? p).isSome = true) (tests : List Predicate) :
    (k.guardedBy tests).filtered? p = some (k.guardedBy (tests ++ [p])) := by
  obtain ⟨k', hk'⟩ := Option.isSome_iff_exists.1 ((isSome_filtered?_guardedBy k tests p).trans h)
  rw [guardedBy_append, guardedBy_cons, guardedBy_nil, guarded, hk', Option.getD_some]

end Clause

/-- Joins a predicate to the last clause. -/
def Statement.filter (s : Statement) (p : Predicate) : Statement :=
  { s with clauses := s.clauses.dropLast ++ (s.clauses.getLast?.map (Clause.guarded · p)).toList }

@[simp] theorem Statement.filter_last (ks : List Clause) (k : Clause) (params : Params)
    (primary entity : Option String) (p : Predicate) :
    (Statement.mk (ks ++ [k]) params primary entity).filter p =
      ⟨ks ++ [k.guarded p], params, primary, entity⟩ := by
  simp [Statement.filter]

namespace Builder

/-- The statement gathered so far. -/
def draft (b : Builder) : Statement := ⟨b.clauses, b.params, b.primary, b.entity⟩

/-- Unless it was misused, the builder holds this statement. -/
def Holds (b : Builder) (s : Statement) : Prop := b.misuse = none → b.draft = s

/-- Unless it was misused, the builder holds a fitting value under the name of a parameter. -/
def Carries (b : Builder) (name : String) (fits : Json.Value → Prop) : Prop :=
  b.misuse = none → ∃ value, b.params.get? name = some value ∧ fits value

theorem fail_misused (b : Builder) (cause : ArgumentError) : (b.fail cause).misuse ≠ none := by
  unfold fail
  cases b.misuse <;> simp

/-- Binding a name either inserts its value or is a misuse. -/
theorem bind_cases (b : Builder) (name : String) (value : Json.Value) :
    (b.bind name value).misuse ≠ none ∨
      b.bind name value = { b with params := b.params.insert name value } ∧
        ∀ old, b.params.get? name = some old → old.same value = true := by
  unfold bind
  split
  · rename_i old hold
    by_cases h : old.same value = true
    · rw [if_pos h]
      refine .inr ⟨rfl, fun other hother => ?_⟩
      rw [hold, Option.some.injEq] at hother
      exact hother ▸ h
    · rw [if_neg h]
      exact .inl (fail_misused b _)
  · rename_i hnone
    refine .inr ⟨rfl, fun other hother => ?_⟩
    rw [hnone] at hother
    cases hother

theorem push_eq (b : Builder) (k : Clause) :
    b.push k = if b.misuse.isSome then b else { b with clauses := b.clauses ++ [k] } := rfl

@[simp] theorem push_misuse (b : Builder) (k : Clause) : (b.push k).misuse = b.misuse := by
  rw [push_eq]
  split <;> rfl

@[simp] theorem push_params (b : Builder) (k : Clause) : (b.push k).params = b.params := by
  rw [push_eq]
  split <;> rfl

/-- Every filter but a misused one replaces the last clause. -/
theorem filter_cases (b : Builder) (p : Predicate) :
    (b.filter p).misuse ≠ none ∨ b.misuse = none ∧ ∃ k,
      b.clauses.getLast?.bind (Clause.filtered? p) = some k ∧
        b.filter p = { b with clauses := b.clauses.dropLast ++ [k] } := by
  unfold filter
  cases hm : b.misuse with
  | some cause => exact .inl (by simp [hm])
  | none =>
    simp only [Option.isSome_none, Bool.false_eq_true, if_false]
    cases hk : b.clauses.getLast?.bind (Clause.filtered? p) with
    | some k => exact .inr ⟨trivial, k, rfl, rfl⟩
    | none => exact .inl (fail_misused b _)

/-! ## The draft after each step -/

theorem holds_forEntity (entity : String) (primary : Option String) :
    (forEntity entity primary).Holds ⟨[], ∅, primary, some entity⟩ := fun _ => rfl

theorem holds_empty : empty.Holds ⟨[], ∅, none, none⟩ := fun _ => rfl

theorem Holds.bind {b : Builder} {s : Statement} (h : b.Holds s) (name : String) (value : Json.Value) :
    (b.bind name value).Holds (s.bind name value) := by
  intro hm
  rcases bind_cases b name value with hbad | ⟨heq, -⟩
  · exact absurd hm hbad
  · rw [heq] at hm ⊢
    rw [← h hm]
    rfl

theorem Holds.push {b : Builder} {s : Statement} (h : b.Holds s) (k : Clause) :
    (b.push k).Holds (s.push k) := by
  intro hm
  rw [push_misuse] at hm
  rw [← h hm, push_eq, hm]
  rfl

theorem Holds.filter {b : Builder} {s : Statement} (h : b.Holds s) (p : Predicate) :
    (b.filter p).Holds (s.filter p) := by
  intro hm
  rcases filter_cases b p with hbad | ⟨hm', k, hk, heq⟩
  · exact absurd hm hbad
  · obtain ⟨last, hlast, hlk⟩ := Option.bind_eq_some_iff.1 hk
    rw [heq, ← h hm']
    simp [draft, Statement.filter, hlast, Clause.guarded, hlk]

theorem Holds.page {b : Builder} {s : Statement} (h : b.Holds s) (columns : List Column)
    (order : List SortKey) (distinct : Bool) :
    (b.page columns order distinct).Holds (s.push (.projection columns distinct none order true)) := by
  unfold Builder.page
  split
  · exact fun hm => absurd hm (fail_misused b _)
  · exact h.push _

theorem Holds.set {b : Builder} {s : Statement} (h : b.Holds s) {items : List Assignment}
    (hne : items ≠ []) : (b.set items).Holds (s.push (.set items)) := by
  unfold Builder.set
  rw [if_neg (by simpa using hne)]
  exact h.push _

theorem Holds.bindAll {b : Builder} {s : Statement} (h : b.Holds s) (params : Params) :
    (b.bindAll params).Holds { s with params := s.params.overlay params } := by
  unfold Builder.bindAll Dict.overlay
  induction params.toList generalizing b s with
  | nil => exact h
  | cons e rest ih => exact ih (h.bind e.1 e.2)

/-- A subquery leaves its clauses in a clause of their own and adds its parameters to those around it. -/
theorem Holds.subquery {b nested : Builder} {s t : Statement} (h : b.Holds s) (hn : nested.Holds t)
    (imports : List String) :
    (b.subquery imports nested).Holds
      ({ s with params := s.params.overlay t.params }.push (.subquery imports t.clauses)) := by
  intro hm
  unfold Builder.subquery at hm ⊢
  cases hb : b.misuse with
  | some cause => simp [hb] at hm
  | none =>
    simp only [hb, Option.isSome_none, Bool.false_eq_true, if_false] at hm ⊢
    cases hnm : nested.misuse with
    | some cause =>
      simp only [hnm] at hm
      exact absurd hm (fail_misused b _)
    | none =>
      simp only [hnm] at hm ⊢
      rw [← hn hnm]
      exact (h.bindAll nested.params).push _ hm

/-- A statement that is built is the one that its builder holds. -/
theorem Holds.build {b : Builder} {s t : Statement} (h : b.Holds s) (ht : b.build = .ok t) : t = s := by
  unfold Builder.build at ht
  cases hm : b.misuse with
  | some cause => rw [hm] at ht; cases ht
  | none =>
    rw [hm] at ht
    simp only at ht
    split at ht
    · cases ht
    · cases ht
      exact h hm

/-! ## Parameters that stay -/

section Stay

variable {b nested : Builder} {name : String} {fits : Json.Value → Prop}

theorem carries_bind (b : Builder) (name : String) {value : Json.Value} (hfits : fits value) :
    (b.bind name value).Carries name fits := by
  intro hm
  rcases bind_cases b name value with hbad | ⟨heq, -⟩
  · exact absurd hm hbad
  · rw [heq]
    exact ⟨value, by rw [Dict.get?_insert, if_pos rfl], hfits⟩

theorem carries_bind_self (b : Builder) (name : String) (value : Json.Value) :
    (b.bind name value).Carries name (· = value) :=
  carries_bind b name rfl

/-- A name that is bound again takes a value that equals the one it has. -/
theorem Carries.bind (h : b.Carries name fits) (other : String) (value : Json.Value)
    (hagain : other = name → ∀ old, fits old → old.same value = true → fits value) :
    (b.bind other value).Carries name fits := by
  intro hm
  rcases bind_cases b other value with hbad | ⟨heq, hsame⟩
  · exact absurd hm hbad
  · rw [heq] at hm ⊢
    obtain ⟨old, hold, hfits⟩ := h hm
    by_cases hname : name = other
    · subst hname
      exact ⟨value, by rw [Dict.get?_insert, if_pos rfl], hagain rfl old hfits (hsame old hold)⟩
    · exact ⟨old, by rw [Dict.get?_insert, if_neg hname, hold], hfits⟩

theorem Carries.push (h : b.Carries name fits) (k : Clause) : (b.push k).Carries name fits := by
  intro hm
  rw [push_misuse] at hm
  rw [push_params]
  exact h hm

theorem Carries.set (h : b.Carries name fits) (items : List Assignment) : (b.set items).Carries name fits := by
  unfold Builder.set
  split
  · exact h
  · exact h.push _

theorem Carries.foldl_bind (h : b.Carries name fits) (entries : List (String × Json.Value))
    (hagain : ∀ value, (name, value) ∈ entries → ∀ old, fits old → old.same value = true → fits value) :
    (entries.foldl (fun b e => b.bind e.1 e.2) b).Carries name fits := by
  induction entries generalizing b with
  | nil => exact h
  | cons e rest ih =>
    refine ih (h.bind e.1 e.2 ?_) fun value hvalue => hagain value (List.mem_cons_of_mem _ hvalue)
    rintro rfl
    exact hagain e.2 List.mem_cons_self

/-- Of entries with different keys each one is there after all are bound. -/
theorem carries_bindAll (b : Builder) {params : Params} {value : Json.Value} (hvalue : params.get? name = some value)
    (hfits : fits value) : (b.bindAll params).Carries name fits := by
  obtain ⟨before, after, hentries, -⟩ := List.lookup_eq_some_iff.1 hvalue
  have hascending : Ascending (before ++ (name, value) :: after) := hentries ▸ params.ascending
  have hlater := (List.pairwise_cons.1 (List.pairwise_append.1 hascending).2.1).1
  unfold bindAll
  rw [hentries, List.foldl_append, List.foldl_cons]
  refine (carries_bind _ name hfits).foldl_bind after fun other hother => ?_
  exact absurd (hlater _ hother) (String.lt_irrefl name)

/-- A subquery brings values of its own for parameters that are bound already. -/
theorem Carries.subquery {t : Statement} (h : b.Carries name fits) (hnested : nested.Holds t) (imports : List String)
    (hagain : ∀ value, t.params.get? name = some value → ∀ old, fits old → old.same value = true → fits value) :
    (b.subquery imports nested).Carries name fits := by
  unfold Builder.subquery
  split
  · exact h
  · split
    · exact fun hm => absurd hm (fail_misused b _)
    · rename_i hmisuse
      rw [← hnested hmisuse] at hagain
      exact (h.foldl_bind _ fun value hvalue => hagain value (Dict.get?_of_mem hvalue)).push _

theorem carries_subquery {t : Statement} (b : Builder) (hnested : nested.Holds t) (imports : List String)
    {value : Json.Value} (hvalue : t.params.get? name = some value) (hfits : fits value) :
    (b.subquery imports nested).Carries name fits := by
  unfold Builder.subquery
  split
  · rename_i hmisused
    exact fun hm => by simp [hm] at hmisused
  · split
    · exact fun hm => absurd hm (fail_misused b _)
    · rename_i hmisuse
      rw [← hnested hmisuse] at hvalue
      exact (carries_bindAll b hvalue hfits).push _

theorem Carries.build {s : Statement} (h : b.Carries name fits) (hs : b.build = .ok s) :
    ∃ value, s.params.get? name = some value ∧ fits value := by
  unfold Builder.build at hs
  cases hm : b.misuse with
  | some cause => rw [hm] at hs; cases hs
  | none =>
    rw [hm] at hs
    simp only at hs
    split at hs
    · cases hs
    · cases hs
      exact h hm

end Stay

end Builder
end EntityGraph.Cypher
