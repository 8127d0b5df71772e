/-!
# Reading from the front of a text

A step that reads something returns what is left of the text together with the proof that it is shorter, so that
a loop of such steps ends.
-/
namespace EntityGraph.Text

/-- What is left after something was read from `cs`. -/
abbrev Rest (cs : List Char) := { rest : List Char // rest.length < cs.length }

/-- What is left after something, perhaps nothing, was read from `cs`. -/
abbrev Tail (cs : List Char) := { rest : List Char // rest.length ≤ cs.length }

namespace Tail

/-- Nothing was read. -/
def whole (cs : List Char) : Tail cs := ⟨cs, Nat.le_refl _⟩

/-- One more character stands before the text. -/
def cons {cs : List Char} (c : Char) (t : Tail cs) : Tail (c :: cs) := ⟨t.1, Nat.le_succ_of_le t.2⟩

/-- Two readings, one behind the other. -/
def trans {cs : List Char} (t : Tail cs) (u : Tail t.1) : Tail cs := ⟨u.1, Nat.le_trans u.2 t.2⟩

/-- A reading of something behind one of perhaps nothing. -/
def rest {cs : List Char} (t : Tail cs) (r : Rest t.1) : Rest cs := ⟨r.1, Nat.lt_of_lt_of_le r.2 t.2⟩

end Tail

namespace Rest

/-- The first character was read. -/
def ofCons (c : Char) (cs : List Char) : Rest (c :: cs) := ⟨cs, Nat.lt_succ_self _⟩

/-- One more character stands before the text. -/
def cons {cs : List Char} (c : Char) (r : Rest cs) : Rest (c :: cs) := ⟨r.1, Nat.lt_succ_of_lt r.2⟩

/-- Two readings, one behind the other. -/
def trans {cs : List Char} (r : Rest cs) (q : Rest r.1) : Rest cs := ⟨q.1, Nat.lt_trans q.2 r.2⟩

/-- A reading of perhaps nothing behind one of something. -/
def tail {cs : List Char} (r : Rest cs) (t : Tail r.1) : Rest cs := ⟨t.1, Nat.lt_of_le_of_lt t.2 r.2⟩

/-- What is left is no longer than the text. -/
def toTail {cs : List Char} (r : Rest cs) : Tail cs := ⟨r.1, Nat.le_of_lt r.2⟩

end Rest

theorem length_dropWhile_le {α : Type} (p : α → Bool) (xs : List α) :
    (xs.dropWhile p).length ≤ xs.length := by
  induction xs with
  | nil => simp
  | cons x xs ih =>
    rw [List.dropWhile_cons]
    split
    · exact Nat.le_succ_of_le ih
    · exact Nat.le_refl _

theorem length_drop_le (n : Nat) (cs : List Char) : (cs.drop n).length ≤ cs.length := by
  rw [List.length_drop]
  exact Nat.sub_le _ _

/-- Drops the characters of a class. -/
def dropAll (p : Char → Bool) (cs : List Char) : Tail cs := ⟨cs.dropWhile p, length_dropWhile_le p cs⟩

/-- Drops a number of characters, all if there are fewer. -/
def dropSome (n : Nat) (cs : List Char) : Tail cs := ⟨cs.drop n, length_drop_le n cs⟩

/-- Reads a fixed text. -/
def word? (word : List Char) (cs : List Char) : Option (Tail cs) :=
  if word.isPrefixOf cs then some (dropSome word.length cs) else none

/-- Reads a fixed character. -/
def char? (c : Char) : (cs : List Char) → Option (Rest cs)
  | [] => none
  | d :: rest => if d = c then some (.ofCons d rest) else none

/-- The value of a hexadecimal digit. -/
def hexDigit? (c : Char) : Option Nat :=
  let n := c.toNat
  if 48 ≤ n ∧ n ≤ 57 then some (n - 48)
  else if 97 ≤ n ∧ n ≤ 102 then some (n - 87)
  else if 65 ≤ n ∧ n ≤ 70 then some (n - 55)
  else none

end EntityGraph.Text
