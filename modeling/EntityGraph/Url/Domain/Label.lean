import EntityGraph.Unicode.CombiningClass
import EntityGraph.Unicode.Composed
import EntityGraph.Unicode.Direction
import EntityGraph.Unicode.Joining
import EntityGraph.Url.Domain.Mapping
import EntityGraph.Url.Punycode

/-!
# Labels of domains

A label is a name in the characters of any script. In ASCII it is written as it is, or as Punycode behind `xn--`.
A name is composed, has valid characters only and begins with no mark. The two invisible joiners may stand only
where they change how letters join. Where a domain has characters that are written from right to left, the
characters of each label have to go together.
-/
namespace EntityGraph.Url.Domain

open Unicode (Direction)

/-- The code points of a label as it is read. -/
abbrev Name := List Nat

def isAscii (name : Name) : Bool := name.all (fun n => decide (n < 0x80))

/-- Whether a code point may not stand in a domain although it is ASCII. -/
def isForbidden (n : Nat) : Bool :=
  n ≤ 0x20 || n == 0x7F ||
    (['%', '#', '/', ':', '<', '>', '?', '@', '[', '\\', ']', '^', '|'].map Char.toNat).contains n

/-! ## Joiners -/

def nonJoiner : Nat := 0x200C

def joiner : Nat := 0x200D

/-- Whether the first letter that joining sees is of a kind. -/
def meets (kind : Nat → Bool) (ns : List Nat) : Bool := ((ns.dropWhile Unicode.isTransparent).head?.map kind).getD false

/-- Whether a joiner may stand between two texts, the first of which is given from its end: behind a sign that
silences a vowel, and the one that separates also between letters that would join. -/
def joinerFits (n : Nat) (before behind : List Nat) : Bool :=
  (before.head?.map (fun m => Unicode.combiningClass m == Unicode.viramaClass)).getD false ||
    (n == nonJoiner && meets Unicode.joinsBehind before && meets Unicode.joinsBefore behind)

/-- Whether all joiners fit; `before` is what has been passed, from its end. -/
def joinersFit (before : List Nat) : List Nat → Bool
  | [] => true
  | n :: rest => (!(n == nonJoiner || n == joiner) || joinerFits n before rest) && joinersFit (n :: before) rest

/-! ## Directions -/

/-- Whether a name makes its domain one that is partly written from right to left. -/
def turns (name : Name) : Bool :=
  name.any (fun n => Direction.of n == .right || Direction.of n == .arabicNumber)

/-- The last direction that is not that of a mark. -/
def lastSolid? (ds : List Direction) : Option Direction := (ds.reverse.dropWhile (· == .mark)).head?

/-- Whether directions go together. -/
def goTogether (ds : List Direction) : Bool :=
  match ds with
  | [] => true
  | .right :: _ =>
    !ds.contains .left && !(ds.contains .europeanNumber && ds.contains .arabicNumber) &&
      (lastSolid? ds).any (fun d => [.right, .europeanNumber, .arabicNumber].contains d)
  | .left :: _ =>
    !ds.contains .right && !ds.contains .arabicNumber &&
      (lastSolid? ds).any (fun d => [.left, .europeanNumber].contains d)
  | _ => false

/-! ## Criteria -/

/-- The most characters that a name outside ASCII may have. -/
def longestName : Nat := 1000

/-- The most characters that Punycode may have. -/
def longestCode : Nat := 2000

/-- What every name begins with that is written as Punycode. -/
def codeMark : List Char := ['x', 'n', '-', '-']

/-- Whether the characters of a name may be a label. -/
def isLabel (name : Name) : Bool :=
  name.all isValid && !name.any isForbidden && !(name.head?.any Unicode.isMark) && joinersFit [] name &&
    (isAscii name || name.length ≤ longestName)

/-- The name that Punycode stands for, if it is the only spelling of a name that needs it. -/
def ofCode? (code : List Char) : Option Name := do
  if longestCode < code.length then none
  let name := (← Punycode.decode? code).map Char.toNat
  if isAscii name || name.contains '.'.toNat || codeMark.isPrefixOf (name.map Char.ofNat) ||
    Unicode.composed name != name then none
  else some name

/-- The label of composed characters: its name, and the text it is written with. -/
def label? (cs : List Char) : Option (Name × List Char) := do
  let name := cs.map Char.toNat
  if codeMark.isPrefixOf cs then
    if !isAscii name then none
    let inner ← ofCode? (cs.drop codeMark.length)
    if isLabel inner then some (inner, cs) else none
  else if isLabel name then
    some (name, if isAscii name then cs else codeMark ++ Punycode.encode cs)
  else none

end EntityGraph.Url.Domain
