import EntityGraph.Text.Blank
import EntityGraph.Text.Scan

/-!
# Tables of code points

A table is written in words. A word names a code point, a run such as `41-5A`, or every second code point of a
run, as in `100-12E/2`. Behind `=` it tells what all of them have as their image, and behind `>` an image that
moves along with them. An image of several code points has dots between them. All numbers are hexadecimal.
-/
namespace EntityGraph.Unicode

/-- The code points from a first to a last one at every step. -/
structure Run where
  first : Nat
  last : Nat
  step : Nat
  deriving Repr, DecidableEq, Inhabited

def Run.contains (r : Run) (n : Nat) : Bool :=
  decide (r.first ≤ n) && decide (n ≤ r.last) && (n - r.first) % r.step == 0

/-- A run and the image of its code points. -/
structure Entry where
  run : Run
  /-- Whether the image moves along with the code point. -/
  moving : Bool
  image : List Nat
  deriving Repr, DecidableEq, Inhabited

/-- The image of a code point of the run. -/
def Entry.imageOf (e : Entry) (n : Nat) : List Nat :=
  if e.moving then e.image.map (· + (n - e.run.first)) else e.image

/-- Entries, of which the first that holds a code point counts. -/
abbrev Table := List Entry

namespace Table

variable (t : Table)

/-- Whether a code point is in the table. -/
def holds (n : Nat) : Bool := t.any (fun e => e.run.contains n)

/-- The image of a code point that is in the table. -/
def image? (n : Nat) : Option (List Nat) := (t.find? (fun e => e.run.contains n)).map (fun e => e.imageOf n)

/-- The first code point of an entry with a given image. -/
def preimage? (image : List Nat) : Option Nat := (t.find? (fun e => e.image == image)).map (fun e => e.run.first)

end Table

/-! ## Reading -/

/-- The parts of a word before and after a mark. -/
def cut (mark : Char) (cs : List Char) : List Char × List Char :=
  (cs.takeWhile (· ≠ mark), (cs.dropWhile (· ≠ mark)).drop 1)

/-- The number that hexadecimal digits spell. -/
def hexNumber (cs : List Char) : Nat := cs.foldl (fun n c => n * 16 + (Text.hexDigit? c).getD 0) 0

def Run.ofWord (cs : List Char) : Run :=
  let (span, step) := cut '/' cs
  let (first, last) := cut '-' span
  ⟨hexNumber first, if last.isEmpty then hexNumber first else hexNumber last,
    if step.isEmpty then 1 else hexNumber step⟩

/-- The code points of an image. -/
def imageOfWord (cs : List Char) : List Nat := if cs.isEmpty then [] else (cs.splitOn '.').map hexNumber

def Entry.ofWord (cs : List Char) : Entry :=
  let moving := cs.contains '>'
  let (run, image) := cut (if moving then '>' else '=') cs
  ⟨Run.ofWord run, moving, imageOfWord image⟩

/-- The table that a text spells. -/
def Table.ofText (s : String) : Table := (Text.words s).map (fun word => Entry.ofWord word.toList)

end EntityGraph.Unicode
