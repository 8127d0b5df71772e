import EntityGraph.Text.Blank
import EntityGraph.Text.Number
import Mathlib.Tactic.Common

/-!
# Numerals read back

The decimal digits of a number are read back as the number, if it fits 64 bits. Trimming leaves them as they are.
-/
namespace EntityGraph.Text

theorem digitsValue_eq_ofDigitChars (cs : List Char) (value : Nat) :
    digitsValue value cs = Nat.ofDigitChars 10 cs value := by
  induction cs generalizing value with
  | nil => rfl
  | cons ch rest ih =>
    have hzero : '0'.toNat = 48 := by decide
    rw [digitsValue.eq_def, Nat.ofDigitChars_cons]
    simp only
    rw [ih, Nat.mul_comm value 10, hzero]

theorem isDigit_of_mem_toDigits {n : Nat} {ch : Char} (h : ch ∈ Nat.toDigits 10 n) : ch.isDigit = true :=
  Nat.isDigit_of_mem_toDigits (by decide) (by decide) h

theorem digits?_toDigits (n : Nat) : digits? (Nat.toDigits 10 n) = some n := by
  have hall : (Nat.toDigits 10 n).all Char.isDigit = true :=
    List.all_eq_true.2 fun ch hch => isDigit_of_mem_toDigits hch
  rw [digits?, if_neg (by simp), if_pos hall, digitsValue_eq_ofDigitChars,
    Nat.ofDigitChars_ten_toDigits]

/-- Digits begin with no sign. -/
theorem dropPlus_toDigits (n : Nat) : dropPlus (Nat.toDigits 10 n) = Nat.toDigits 10 n := by
  unfold dropPlus
  split
  · next rest heq =>
    have hdigit : Char.isDigit '+' = true := isDigit_of_mem_toDigits (heq ▸ List.mem_cons_self)
    exact absurd hdigit (by decide)
  · rfl

/-- Numbers with the same digits are the same. -/
theorem eq_of_repr_eq {m n : Nat} (h : Nat.repr m = Nat.repr n) : m = n := by
  have hdigits : Nat.toDigits 10 m = Nat.toDigits 10 n := by
    rw [← Nat.toList_repr, h, Nat.toList_repr]
  rw [← Nat.ofDigitChars_ten_toDigits (n := m), hdigits, Nat.ofDigitChars_ten_toDigits]

theorem nat64?_repr {n : Nat} (h : n < Nat.pow 2 64) : nat64? (Nat.repr n) = some n := by
  rw [nat64?, Nat.toList_repr, dropPlus_toDigits, digits?_toDigits, Option.filter_some, if_pos (decide_eq_true h)]

/-- Digits are read back as nothing but their number. -/
theorem eq_of_nat64?_repr {m n : Nat} (h : nat64? (Nat.repr n) = some m) : m = n := by
  rw [nat64?, Nat.toList_repr, dropPlus_toDigits, digits?_toDigits] at h
  exact (Option.some.inj (Option.eq_some_of_filter_eq_some h)).symm

theorem isBlank_of_isDigit {ch : Char} (h : ch.isDigit = true) : isBlank ch = false := by
  obtain ⟨hlow, hhigh⟩ := Char.isDigit_iff_toNat.1 h
  simp at hlow hhigh
  simp [isBlank]
  omega

theorem dropWhile_isBlank {cs : List Char} (h : ∀ ch ∈ cs, isBlank ch = false) : cs.dropWhile isBlank = cs := by
  cases cs with
  | nil => rfl
  | cons ch rest => rw [List.dropWhile_cons_of_neg (Bool.eq_false_iff.1 (h ch List.mem_cons_self))]

theorem trim_repr (n : Nat) : trim (Nat.repr n) = Nat.repr n := by
  have hdigits : ∀ ch ∈ Nat.toDigits 10 n, isBlank ch = false := fun ch hch =>
    isBlank_of_isDigit (isDigit_of_mem_toDigits hch)
  rw [trim, trimChars, Nat.toList_repr, dropWhile_isBlank hdigits,
    dropWhile_isBlank (fun ch hch => hdigits ch (List.mem_reverse.1 hch)), List.reverse_reverse, ← Nat.toList_repr,
    String.ofList_toList]

end EntityGraph.Text
