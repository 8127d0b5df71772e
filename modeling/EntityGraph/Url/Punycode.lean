/-!
# Punycode

Names outside ASCII in ASCII letters, digits and hyphens. The ASCII characters come first; every other one is
then told by how many places it has to be moved on, in the order of code points, in digits of base 36 whose
weights adapt to the numbers written before.
-/
namespace EntityGraph.Url.Punycode

/-- The least value of a digit that is not the last one, for the given position. -/
def threshold (position bias : Nat) : Nat := min 26 (max 1 (position - bias))

theorem threshold_pos (position bias : Nat) : 1 ≤ threshold position bias := by
  unfold threshold; omega

/-- Divides by 35 while the number is large, and counts positions. -/
def shrink (delta position : Nat) : Nat :=
  if h : 455 < delta then shrink (delta / 35) (position + 36) else position + 36 * delta / (delta + 38)
termination_by delta
decreasing_by exact Nat.div_lt_self (by omega) (by omega)

/-- The bias after a number has been written; `count` is how many characters are told by then. -/
def adapt (delta count : Nat) (isFirst : Bool) : Nat :=
  let d := if isFirst then delta / 700 else delta / 2
  shrink (d + d / count) 0

/-- The code points of a text with one put in at a place. -/
def insertAt (cs : List Nat) (place n : Nat) : List Nat := cs.take place ++ n :: cs.drop place

/-! ## Writing -/

def digit (n : Nat) : Char := if n < 26 then Char.ofNat (97 + n) else Char.ofNat (22 + n)

/-- The digits of a number. -/
def digits (bias position q : Nat) : List Char :=
  let t := threshold position bias
  if q < t then [digit q]
  else digit (t + (q - t) % (36 - t)) :: digits bias (position + 36) ((q - t) / (36 - t))
termination_by q
decreasing_by
  have := threshold_pos position bias
  exact Nat.lt_of_le_of_lt (Nat.div_le_self _ _) (by omega)

/-- What has been written: the text, the moves since the last number, the bias, and how many characters are
told. -/
structure Writing where
  text : List Char
  moves : Nat
  bias : Nat
  count : Nat

/-- Passes one character while the characters with code point `n` are told. -/
def Writing.pass (isFirst : Nat → Bool) (n : Nat) (w : Writing) (c : Nat) : Writing :=
  if c < n then { w with moves := w.moves + 1 }
  else if c = n then
    ⟨w.text ++ digits w.bias 36 w.moves, 0, adapt w.moves (w.count + 1) (isFirst w.count), w.count + 1⟩
  else w

/-- Tells the characters of the code points given in increasing order; `low` is the next one to be reached. -/
def Writing.tell (cs : List Nat) (isFirst : Nat → Bool) : List Nat → Nat → Writing → Writing
  | [], _, w => w
  | n :: rest, low, w =>
    let w := { w with moves := w.moves + (n - low) * (w.count + 1) }
    let w := cs.foldl (Writing.pass isFirst n) w
    tell cs isFirst rest (n + 1) { w with moves := w.moves + 1 }

/-- The code points outside ASCII, increasing, each once. -/
def foreign (cs : List Nat) : List Nat :=
  ((cs.filter (fun n => decide (0x80 ≤ n))).mergeSort (fun a b => decide (a ≤ b))).eraseDups

/-- The text of a name. -/
def encode (cs : List Char) : List Char :=
  let basic := cs.filter (fun c => decide (c.toNat < 0x80))
  let codes := cs.map Char.toNat
  let start := if basic.isEmpty then [] else basic ++ ['-']
  (Writing.tell codes (fun count => count == basic.length) (foreign codes) 0x80
    ⟨start, 0, 72, basic.length⟩).text

/-! ## Reading -/

def digitValue? (c : Char) : Option Nat :=
  let n := c.toNat
  if 97 ≤ n ∧ n ≤ 122 then some (n - 97)
  else if 65 ≤ n ∧ n ≤ 90 then some (n - 65)
  else if 48 ≤ n ∧ n ≤ 57 then some (n - 22)
  else none

/-- What has been read: the code points, the code point and the place that moves are counted from, the bias, and
of the number under way its value, the weight of its next digit and the position of that digit. -/
structure Reading where
  codes : List Nat
  code : Nat
  place : Nat
  bias : Nat
  value : Nat
  weight : Nat
  position : Nat

/-- Puts in the character that a complete number tells. -/
def Reading.finish? (r : Reading) (isFirst : Bool) (value : Nat) : Option Reading :=
  let count := r.codes.length + 1
  let moved := r.place + value
  let code := r.code + moved / count
  if code < 0x110000 ∧ ¬ (0xD800 ≤ code ∧ code < 0xE000) then
    some ⟨insertAt r.codes (moved % count) code, code, moved % count + 1, adapt value count isFirst, 0, 1, 36⟩
  else none

/-- Reads numbers to the end; `isFirst` until one is complete. -/
def Reading.run (r : Reading) (isFirst : Bool) : List Char → Option (List Nat)
  | [] => if r.position = 36 then some r.codes else none
  | c :: rest =>
    match digitValue? c with
    | none => none
    | some d =>
      let t := threshold r.position r.bias
      let value := r.value + d * r.weight
      if d < t then (r.finish? isFirst value).bind (fun r => r.run false rest)
      else run { r with value := value, weight := r.weight * (36 - t), position := r.position + 36 } isFirst rest

/-- The characters that stand before the last hyphen, and the digits behind it. A hyphen in front is no mark. -/
def splitBasic (cs : List Char) : List Char × List Char :=
  let basic := ((cs.reverse.dropWhile (· ≠ '-')).drop 1).reverse
  if basic.isEmpty then ([], cs) else (basic, (cs.reverse.takeWhile (· ≠ '-')).reverse)

/-- The name of a text. -/
def decode? (cs : List Char) : Option (List Char) :=
  let (basic, digits) := splitBasic cs
  if cs.all (fun c => decide (c.toNat < 0x80)) then
    (Reading.run ⟨basic.map Char.toNat, 0x80, 0, 72, 0, 1, 36⟩ true digits).map (fun codes => codes.map Char.ofNat)
  else none

end EntityGraph.Url.Punycode
