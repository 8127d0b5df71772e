import EntityGraph.Proofs.Graph.Matching

/-!
# Reading boolean texts

A boolean text is made of atoms, parentheses and the words `NOT`, `AND` and `OR`. Parentheses bind most tightly,
then `NOT`, then `AND`, then `OR`. Where atoms are signs of their own, a text has one reading at most: its signs fall
into tokens in one way, and one pass over the tokens finds whatever the rules of precedence allow.
-/
namespace EntityGraph.Cypher

open EntityGraph.Graph (allOf anyOf)

variable {α : Type}

/-! ## Formulas -/

/-- A boolean combination of atoms. -/
inductive Formula (α : Type) where
  | atom (a : α)
  | not (f : Formula α)
  | and (f g : Formula α)
  | or (f g : Formula α)

/-- The truth of a formula over three values, for an assignment to its atoms. -/
def Formula.truth (v : α → Option Bool) : Formula α → Option Bool
  | .atom a => v a
  | .not f => (f.truth v).map Bool.not
  | .and f g => allOf [f.truth v, g.truth v]
  | .or f g => anyOf [f.truth v, g.truth v]

theorem allOf_singleton (x : Option Bool) : allOf [x] = x := by
  rcases x with _ | _ | _ <;> rfl

theorem anyOf_singleton (x : Option Bool) : anyOf [x] = x := by
  rcases x with _ | _ | _ <;> rfl

/-- A conjunction may be taken apart. -/
theorem allOf_append (xs ys : List (Option Bool)) : allOf (xs ++ ys) = allOf [allOf xs, allOf ys] := by
  by_cases hx : some false ∈ xs <;> by_cases hy : some false ∈ ys <;> by_cases hx' : none ∈ xs <;>
    by_cases hy' : none ∈ ys <;> simp [allOf, hx, hy, hx', hy']

/-- A disjunction may be taken apart. -/
theorem anyOf_append (xs ys : List (Option Bool)) : anyOf (xs ++ ys) = anyOf [anyOf xs, anyOf ys] := by
  by_cases hx : some true ∈ xs <;> by_cases hy : some true ∈ ys <;> by_cases hx' : none ∈ xs <;>
    by_cases hy' : none ∈ ys <;> simp [anyOf, hx, hy, hx', hy']

theorem allOf_cons (x : Option Bool) (xs : List (Option Bool)) : allOf (x :: xs) = allOf [x, allOf xs] := by
  rw [← List.singleton_append, allOf_append, allOf_singleton]

theorem anyOf_cons (x : Option Bool) (xs : List (Option Bool)) : anyOf (x :: xs) = anyOf [x, anyOf xs] := by
  rw [← List.singleton_append, anyOf_append, anyOf_singleton]

theorem allOf_assoc (x y z : Option Bool) : allOf [allOf [x, y], z] = allOf [x, allOf [y, z]] :=
  calc allOf [allOf [x, y], z]
    _ = allOf [allOf [x, y], allOf [z]] := by rw [allOf_singleton]
    _ = allOf [x, y, z] := (allOf_append [x, y] [z]).symm
    _ = allOf [x, allOf [y, z]] := allOf_cons x [y, z]

theorem anyOf_assoc (x y z : Option Bool) : anyOf [anyOf [x, y], z] = anyOf [x, anyOf [y, z]] :=
  calc anyOf [anyOf [x, y], z]
    _ = anyOf [anyOf [x, y], anyOf [z]] := by rw [anyOf_singleton]
    _ = anyOf [x, y, z] := (anyOf_append [x, y] [z]).symm
    _ = anyOf [x, anyOf [y, z]] := anyOf_cons x [y, z]

/-! ## Precedence -/

/-- What a boolean text is made of. -/
inductive Token (α : Type) where
  | atom (a : α)
  | opening
  | closing
  | not
  | and
  | or

/-- How tightly the outermost connective of an expression binds. -/
inductive Binding where
  | operand
  | negation
  | conjunction
  | disjunction

/-- The rules of precedence: which tokens are an expression, and for which formula. -/
inductive Reads : Binding → List (Token α) → Formula α → Prop
  | atom (a : α) : Reads .operand [.atom a] (.atom a)
  | group {ts : List (Token α)} {f : Formula α} (h : Reads .disjunction ts f) :
      Reads .operand (.opening :: ts ++ [.closing]) f
  | ofOperand {ts : List (Token α)} {f : Formula α} (h : Reads .operand ts f) : Reads .negation ts f
  | not {ts : List (Token α)} {f : Formula α} (h : Reads .negation ts f) : Reads .negation (.not :: ts) (.not f)
  | ofNegation {ts : List (Token α)} {f : Formula α} (h : Reads .negation ts f) : Reads .conjunction ts f
  | and {ts us : List (Token α)} {f g : Formula α} (h : Reads .conjunction ts f) (h' : Reads .negation us g) :
      Reads .conjunction (ts ++ .and :: us) (.and f g)
  | ofConjunction {ts : List (Token α)} {f : Formula α} (h : Reads .conjunction ts f) : Reads .disjunction ts f
  | or {ts us : List (Token α)} {f g : Formula α} (h : Reads .disjunction ts f) (h' : Reads .conjunction us g) :
      Reads .disjunction (ts ++ .or :: us) (.or f g)

namespace Reads

variable {ts us : List (Token α)} {f g : Formula α}

/-- Conjunctions join to a conjunction, by induction on the second one. -/
theorem conjoin (h : Reads .conjunction ts f) (h' : Reads .conjunction us g) :
    ∃ k, Reads .conjunction (ts ++ .and :: us) k ∧ ∀ v, k.truth v = allOf [f.truth v, g.truth v] := by
  generalize hb : Binding.conjunction = b at h'
  induction h' with
  | ofNegation h' => exact ⟨_, .and h h', fun v => rfl⟩
  | @and us us' g g' _ h₂ ih _ =>
    obtain ⟨k, hk, htruth⟩ := ih hb
    refine ⟨.and k g', ?_, fun v => ?_⟩
    · have hboth := hk.and h₂
      rwa [List.append_assoc, List.cons_append] at hboth
    · rw [Formula.truth, Formula.truth, htruth v, allOf_assoc]
  | _ => cases hb

/-- Disjunctions join to a disjunction, by induction on the second one. -/
theorem disjoin (h : Reads .disjunction ts f) (h' : Reads .disjunction us g) :
    ∃ k, Reads .disjunction (ts ++ .or :: us) k ∧ ∀ v, k.truth v = anyOf [f.truth v, g.truth v] := by
  generalize hb : Binding.disjunction = b at h'
  induction h' with
  | ofConjunction h' => exact ⟨_, .or h h', fun v => rfl⟩
  | @or us us' g g' _ h₂ ih _ =>
    obtain ⟨k, hk, htruth⟩ := ih hb
    refine ⟨.or k g', ?_, fun v => ?_⟩
    · have hboth := hk.or h₂
      rwa [List.append_assoc, List.cons_append] at hboth
    · rw [Formula.truth, Formula.truth, htruth v, anyOf_assoc]
  | _ => cases hb

end Reads

/-! ## One pass -/

/-- What one level of parentheses holds so far: what stands before its last `OR`, what stands behind that before its
last `AND`, and how many times the next operand is negated. -/
structure Pending (α : Type) where
  disjunction : Option (Formula α)
  conjunction : Option (Formula α)
  negations : Nat

/-- A place in a text: the levels around it, its own level, and the operand right before it. -/
structure Place (α : Type) where
  outer : List (Pending α)
  level : Pending α
  operand : Option (Formula α)

namespace Formula

/-- Joins a formula to one that may stand before it. -/
def onto (f : Formula α) (join : Formula α → Formula α → Formula α) : Option (Formula α) → Formula α
  | none => f
  | some before => join before f

/-- A formula negated a number of times. -/
def negated (f : Formula α) : Nat → Formula α
  | 0 => f
  | n + 1 => f.not.negated n

end Formula

namespace Pending

def empty : Pending α := ⟨none, none, 0⟩

/-- The conjunction that ends with an operand. -/
def conjoined (l : Pending α) (f : Formula α) : Formula α := f.onto .and l.conjunction

/-- All of a level that ends with an operand. -/
def closed (l : Pending α) (f : Formula α) : Formula α := (l.conjoined f).onto .or l.disjunction

end Pending

namespace Place

/-- The place behind one more operand. -/
def behind (outer : List (Pending α)) (l : Pending α) (f : Formula α) : Place α :=
  ⟨outer, { l with negations := 0 }, some (f.negated l.negations)⟩

/-- Reads one token. -/
def step : Place α → Token α → Option (Place α)
  | ⟨outer, l, none⟩, .atom a => some (behind outer l (.atom a))
  | ⟨outer, l, none⟩, .opening => some ⟨l :: outer, .empty, none⟩
  | ⟨outer, l, none⟩, .not => some ⟨outer, { l with negations := l.negations + 1 }, none⟩
  | ⟨outer, l, some f⟩, .and => some ⟨outer, ⟨l.disjunction, some (l.conjoined f), 0⟩, none⟩
  | ⟨outer, l, some f⟩, .or => some ⟨outer, ⟨some (l.closed f), none, 0⟩, none⟩
  | ⟨l' :: outer, l, some f⟩, .closing => some (behind outer l' (l.closed f))
  | _, _ => none

/-- Reads tokens. -/
def run : Place α → List (Token α) → Option (Place α)
  | s, [] => some s
  | s, t :: ts => (s.step t).bind (run · ts)

theorem run_append (s : Place α) (ts us : List (Token α)) : s.run (ts ++ us) = (s.run ts).bind (run · us) := by
  induction ts generalizing s with
  | nil => rfl
  | cons t ts ih =>
    rw [List.cons_append, run, run, Option.bind_assoc]
    exact congrArg _ (funext ih)

/-- What the pass makes of an expression where one may stand. Behind an operand or a negation, it has negated the
formula as often as it had to. Behind a conjunction that starts there, and behind a disjunction that starts its
level, what is pending and the last operand make up the formula. -/
def Finds : Binding → List (Token α) → Formula α → Prop
  | .operand, ts, f | .negation, ts, f => ∀ outer l, run ⟨outer, l, none⟩ ts = some (behind outer l f)
  | .conjunction, ts, f => ∀ outer d, ∃ c x,
      run ⟨outer, ⟨d, none, 0⟩, none⟩ ts = some ⟨outer, ⟨d, c, 0⟩, some x⟩ ∧ x.onto .and c = f
  | .disjunction, ts, f => ∀ outer, ∃ d c x,
      run ⟨outer, .empty, none⟩ ts = some ⟨outer, ⟨d, c, 0⟩, some x⟩ ∧ (x.onto .and c).onto .or d = f

/-- The pass finds whatever the rules of precedence allow, by induction on the rules that were used. -/
theorem finds_of_reads {b : Binding} {ts : List (Token α)} {f : Formula α} (h : Reads b ts f) : Finds b ts f := by
  induction h with
  | atom a => exact fun outer l => rfl
  | @group ts f _ ih =>
    intro outer l
    obtain ⟨d, c, x, hrun, hf⟩ := ih (l :: outer)
    change (run ⟨l :: outer, .empty, none⟩ (ts ++ [.closing])) = _
    rw [run_append, hrun]
    change some (behind outer l ((x.onto .and c).onto .or d)) = _
    rw [hf]
  | ofOperand _ ih => exact ih
  | not _ ih => exact fun outer l => ih outer { l with negations := l.negations + 1 }
  | @ofNegation ts f _ ih => exact fun outer d => ⟨none, f, ih outer ⟨d, none, 0⟩, rfl⟩
  | @and ts us f g _ _ ih ih' =>
    intro outer d
    obtain ⟨c, x, hrun, hf⟩ := ih outer d
    refine ⟨some f, g, ?_, rfl⟩
    rw [run_append, hrun]
    change run ⟨outer, ⟨d, some (x.onto .and c), 0⟩, none⟩ us = _
    rw [hf]
    exact ih' outer ⟨d, some f, 0⟩
  | ofConjunction _ ih =>
    intro outer
    obtain ⟨c, x, hrun, hf⟩ := ih outer none
    exact ⟨none, c, x, hrun, hf⟩
  | @or ts us f g _ _ ih ih' =>
    intro outer
    obtain ⟨d, c, x, hrun, hf⟩ := ih outer
    obtain ⟨c', y, hrun', hg⟩ := ih' outer (some f)
    refine ⟨some f, c', y, ?_, by rw [hg]; rfl⟩
    rw [run_append, hrun]
    change run ⟨outer, ⟨some ((x.onto .and c).onto .or d), none, 0⟩, none⟩ us = _
    rw [hf]
    exact hrun'

end Place

/-- No tokens have two formulas. -/
theorem Reads.unique {ts : List (Token α)} {f g : Formula α} (hf : Reads .disjunction ts f)
    (hg : Reads .disjunction ts g) : f = g := by
  obtain ⟨d, c, x, hrun, rfl⟩ := Place.finds_of_reads hf []
  obtain ⟨d', c', x', hrun', rfl⟩ := Place.finds_of_reads hg []
  cases hrun.symm.trans hrun'
  rfl

/-! ## Signs -/

/-- A sign of a boolean text: a character, or an atom taken as a whole. -/
inductive Sign (α : Type) where
  | char (c : Char)
  | atom (a : α)

/-- The tokens of a text. Blanks separate them and mean nothing. -/
def tokens? : List (Sign α) → Option (List (Token α))
  | [] => some []
  | .atom a :: rest => (tokens? rest).map (.atom a :: ·)
  | .char ' ' :: rest => tokens? rest
  | .char '(' :: rest => (tokens? rest).map (.opening :: ·)
  | .char ')' :: rest => (tokens? rest).map (.closing :: ·)
  | .char 'N' :: .char 'O' :: .char 'T' :: rest => (tokens? rest).map (.not :: ·)
  | .char 'A' :: .char 'N' :: .char 'D' :: rest => (tokens? rest).map (.and :: ·)
  | .char 'O' :: .char 'R' :: rest => (tokens? rest).map (.or :: ·)
  | _ => none

/-- Whether a formula is what the rules of precedence make of a text. -/
def ReadsAs (text : List (Sign α)) (f : Formula α) : Prop := ∃ ts, tokens? text = some ts ∧ Reads .disjunction ts f

/-- A text whose tokens have a formula is read as that one and no other. -/
theorem readsAs_iff {text : List (Sign α)} {ts : List (Token α)} {f : Formula α} (ht : tokens? text = some ts)
    (hf : Reads .disjunction ts f) (g : Formula α) : ReadsAs text g ↔ g = f := by
  constructor
  · rintro ⟨us, hus, hg⟩
    cases ht.symm.trans hus
    exact hg.unique hf
  · rintro rfl
    exact ⟨ts, ht, hf⟩

/-- How a token is written: a space follows `NOT`, and one stands on either side of `AND` and `OR`. -/
def Token.signs : Token α → List (Sign α)
  | .atom a => [.atom a]
  | .opening => [.char '(']
  | .closing => [.char ')']
  | .not => "NOT ".toList.map .char
  | .and => " AND ".toList.map .char
  | .or => " OR ".toList.map .char

theorem tokens?_append (t : Token α) (rest : List (Sign α)) :
    tokens? (t.signs ++ rest) = (tokens? rest).map (t :: ·) := by
  cases t <;> rfl

/-- Tokens are found again where they are written. -/
theorem tokens?_signs (ts : List (Token α)) : tokens? (ts.flatMap Token.signs) = some ts := by
  induction ts with
  | nil => rfl
  | cons t ts ih => rw [List.flatMap_cons, tokens?_append, ih, Option.map_some]

end EntityGraph.Cypher
