/-!
# UTF-8

Characters as bytes and back. Bytes that are no UTF-8 are read as U+FFFD, one for each longest run that could
still have become a character.
-/
namespace EntityGraph.Text.Utf8

/-- The bytes of a character. -/
def encodeChar (c : Char) : List Nat :=
  let n := c.toNat
  if n < 0x80 then [n]
  else if n < 0x800 then [0xC0 + n / 64, 0x80 + n % 64]
  else if n < 0x10000 then [0xE0 + n / 4096, 0x80 + n / 64 % 64, 0x80 + n % 64]
  else [0xF0 + n / 262144, 0x80 + n / 4096 % 64, 0x80 + n / 64 % 64, 0x80 + n % 64]

/-- The bytes of a text. -/
def encode (cs : List Char) : List Nat := cs.flatMap encodeChar

/-- What a first byte announces: its own bits, how many bytes follow, and the range of the next one. -/
structure Lead where
  bits : Nat
  count : Nat
  low : Nat
  high : Nat
  deriving Repr, DecidableEq

/-- The announcement of a first byte of two or more. -/
def lead? (b : Nat) : Option Lead :=
  if 0xC2 ≤ b ∧ b ≤ 0xDF then some ⟨b - 0xC0, 1, 0x80, 0xBF⟩
  else if b = 0xE0 then some ⟨0, 2, 0xA0, 0xBF⟩
  else if b = 0xED then some ⟨0xD, 2, 0x80, 0x9F⟩
  else if 0xE1 ≤ b ∧ b ≤ 0xEF then some ⟨b - 0xE0, 2, 0x80, 0xBF⟩
  else if b = 0xF0 then some ⟨0, 3, 0x90, 0xBF⟩
  else if 0xF1 ≤ b ∧ b ≤ 0xF3 then some ⟨b - 0xF0, 3, 0x80, 0xBF⟩
  else if b = 0xF4 then some ⟨4, 3, 0x80, 0x8F⟩
  else none

/-- Reads `count` more bytes on top of the bits read so far, the first of them in the given range. Stops at the
first byte out of range, which is left unread. -/
def tails (count value low high : Nat) : (bytes : List Nat) →
    Option Nat × { rest : List Nat // rest.length ≤ bytes.length }
  | [] => (if count = 0 then some value else none, ⟨[], Nat.le_refl _⟩)
  | b :: rest =>
    if count = 0 then (some value, ⟨b :: rest, Nat.le_refl _⟩)
    else if low ≤ b ∧ b ≤ high then
      let (result, ⟨left, h⟩) := tails (count - 1) (value * 64 + (b - 0x80)) 0x80 0xBF rest
      (result, ⟨left, Nat.le_succ_of_le h⟩)
    else (none, ⟨b :: rest, Nat.le_refl _⟩)

/-- The characters of bytes, where `none` stands for a run that is no character. -/
def scan (bytes : List Nat) : List (Option Char) :=
  match bytes with
  | [] => []
  | b :: rest =>
    if b < 0x80 then some (Char.ofNat b) :: scan rest
    else
      match lead? b with
      | none => none :: scan rest
      | some l =>
        let (value, ⟨left, _⟩) := tails l.count l.bits l.low l.high rest
        value.map Char.ofNat :: scan left
termination_by bytes.length
decreasing_by all_goals simp only [List.length_cons]; omega

/-- The text of bytes. -/
def decodeLossy (bytes : List Nat) : List Char := (scan bytes).map (fun c => c.getD (Char.ofNat 0xFFFD))

/-- The text of bytes that are UTF-8. -/
def decode? (bytes : List Nat) : Option (List Char) := (scan bytes).mapM id

end EntityGraph.Text.Utf8
