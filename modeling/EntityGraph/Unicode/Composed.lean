import EntityGraph.Unicode.CombiningClass
import EntityGraph.Unicode.Decomposition

/-!
# Composed form

The one spelling of a text in which every character that can be is a composite. The text is decomposed, the marks
behind a character are put in the order of their classes, and then each mark that is not cut off from its
character is drawn into it.
-/
namespace EntityGraph.Unicode

/-! ## Order -/

/-- Puts a mark behind the marks whose class is not above its own. -/
def insertMark (n : Nat) : List Nat → List Nat
  | [] => [n]
  | m :: rest => if combiningClass m ≤ combiningClass n then m :: insertMark n rest else n :: m :: rest

/-- Orders the marks of a text; `marks` are those read since the last character of class zero. -/
def orderFrom (marks : List Nat) : List Nat → List Nat
  | [] => marks
  | n :: rest =>
    if combiningClass n = 0 then marks ++ n :: orderFrom [] rest else orderFrom (insertMark n marks) rest

/-- The decomposed form of a text. -/
def decomposed (ns : List Nat) : List Nat := orderFrom [] (ns.flatMap decomposition)

/-! ## Composites -/

/-- The syllable of a leading consonant and a vowel. -/
def syllable? (lead vowel : Nat) : Option Nat :=
  if firstLead ≤ lead ∧ lead < firstLead + 19 ∧ firstVowel ≤ vowel ∧ vowel < firstVowel + 21 then
    some (firstSyllable + (lead - firstLead) * 588 + (vowel - firstVowel) * 28)
  else none

/-- The syllable of one that is open and a trailing consonant. -/
def closed? (syllable trail : Nat) : Option Nat :=
  if isSyllable syllable ∧ (syllable - firstSyllable) % 28 = 0 ∧ beforeTrail < trail ∧ trail ≤ beforeTrail + 27 then
    some (syllable + (trail - beforeTrail))
  else none

/-- The composite of two characters, the first of which may be a composite. -/
def composite? (a b : Nat) : Option Nat :=
  (syllable? a b).or ((closed? a b).or (composites.preimage? (decomposition a ++ [b])))

/-- Whether a character of the given class is cut off from the one that a composite begins with: something of no
lower class is in between. -/
def isBlocked (between : List Nat) (cls : Nat) : Bool :=
  match between.getLast? with
  | none => false
  | some m => decide (cls ≤ combiningClass m)

/-- Composes from a character on; `between` is what follows it and could not be drawn in. -/
def composeFrom (start : Nat) (between : List Nat) : List Nat → List Nat
  | [] => start :: between
  | n :: rest =>
    let joined := if isBlocked between (combiningClass n) then none else composite? start n
    match joined with
    | some whole => composeFrom whole between rest
    | none =>
      if combiningClass n = 0 then start :: between ++ composeFrom n [] rest
      else composeFrom start (between ++ [n]) rest

/-- Composes a text; marks before its first character stay. -/
def compose : List Nat → List Nat
  | [] => []
  | n :: rest => if combiningClass n = 0 then composeFrom n [] rest else n :: compose rest

/-- The composed form of a text. -/
def composed (ns : List Nat) : List Nat := compose (decomposed ns)

end EntityGraph.Unicode
