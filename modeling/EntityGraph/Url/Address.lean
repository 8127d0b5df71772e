/-!
# Internet addresses

The addresses that may stand for a host. An IPv4 address has up to four numbers, decimal, octal behind `0` or
hexadecimal behind `0x`, of which the last fills all bytes that remain. An IPv6 address has eight pieces of 16
bits; `::` stands for the zeros that are missing, and the last two pieces may be written as an IPv4 address.
-/
namespace EntityGraph.Url.Address

/-- The value of a digit in a base up to 16. -/
def digitIn? (base : Nat) (c : Char) : Option Nat :=
  let n := c.toNat
  let value := if 48 ≤ n ∧ n ≤ 57 then n - 48 else if 97 ≤ n ∧ n ≤ 102 then n - 87
    else if 65 ≤ n ∧ n ≤ 70 then n - 55 else 16
  if value < base then some value else none

/-- The number that digits spell; no digits spell zero. -/
def numberIn? (base : Nat) (cs : List Char) : Option Nat :=
  cs.foldlM (fun value c => (digitIn? base c).map (fun d => value * base + d)) 0

/-! ## IPv4 -/

/-- A number of an IPv4 address. -/
def number? : List Char → Option Nat
  | [] => none
  | '0' :: 'x' :: cs => numberIn? 16 cs
  | '0' :: 'X' :: cs => numberIn? 16 cs
  | '0' :: c :: cs => numberIn? 8 (c :: cs)
  | cs => numberIn? 10 cs

/-- The parts of a domain, without an empty one at the end. -/
def parts (cs : List Char) : List (List Char) :=
  let parts := cs.splitOn '.'
  if parts.length > 1 && parts.getLast? == some [] then parts.dropLast else parts

/-- Whether a domain has to be read as an IPv4 address: its last part is a number. -/
def endsInNumber (cs : List Char) : Bool :=
  match (parts cs).getLast? with
  | none => false
  | some part => (!part.isEmpty && part.all Char.isDigit) || (number? part).isSome

/-- The value of an IPv4 address. -/
def ipv4? (cs : List Char) : Option Nat := do
  let numbers ← (parts cs).mapM number?
  let last ← numbers.getLast?
  let bytes := numbers.dropLast
  if bytes.length ≤ 3 ∧ bytes.all (fun n => decide (n < 256)) ∧ last < Nat.pow 256 (4 - bytes.length) then
    some ((bytes.foldl (fun value n => value * 256 + n) 0) * Nat.pow 256 (4 - bytes.length) + last)
  else none

/-- An IPv4 address as four decimal numbers. -/
def ipv4Text (value : Nat) : String :=
  ".".intercalate ([3, 2, 1, 0].map (fun place => Nat.repr (value / Nat.pow 256 place % 256)))

/-! ## IPv6 -/

/-- A piece of up to four hexadecimal digits. -/
def piece? (cs : List Char) : Option Nat :=
  if cs.isEmpty || 4 < cs.length then none else numberIn? 16 cs

/-- A decimal byte without leading zeros. -/
def byte? (cs : List Char) : Option Nat :=
  if cs.isEmpty || (cs.head? == some '0' && 1 < cs.length) then none
  else (numberIn? 10 cs).filter (fun n => decide (n < 256))

/-- The two pieces that an IPv4 address at the end stands for. -/
def tailPieces? (cs : List Char) : Option (List Nat) :=
  match (cs.splitOn '.').mapM byte? with
  | some [a, b, c, d] => some [a * 256 + b, c * 256 + d]
  | _ => none

/-- The pieces between colons; only the last may be an IPv4 address, and only where one may end. -/
def pieces? (mayEnd : Bool) : List (List Char) → Option (List Nat)
  | [] => some []
  | [last] => if mayEnd && last.contains '.' then tailPieces? last else (piece? last).map (fun n => [n])
  | first :: rest => do
    let n ← piece? first
    let ns ← pieces? mayEnd rest
    some (n :: ns)

/-- The pieces of a run of characters between colons, none if it is empty. -/
def run? (mayEnd : Bool) (cs : List Char) : Option (List Nat) :=
  if cs.isEmpty then some [] else pieces? mayEnd (cs.splitOn ':')

/-- Splits at the first double colon. -/
def cutGap : List Char → List Char × Option (List Char)
  | ':' :: ':' :: rest => ([], some rest)
  | c :: rest => (c :: (cutGap rest).1, (cutGap rest).2)
  | [] => ([], none)

/-- The eight pieces of an IPv6 address. -/
def ipv6? (cs : List Char) : Option (List Nat) := do
  let (before, after) := cutGap cs
  match after with
  | none =>
    let ns ← run? true before
    if ns.length = 8 then some ns else none
  | some after =>
    let left ← run? false before
    let right ← run? true after
    let count := left.length + right.length
    if count ≤ 7 then some (left ++ List.replicate (8 - count) 0 ++ right) else none

/-- A number in hexadecimal digits. -/
def hexText (n : Nat) : String := String.ofList (Nat.toDigits 16 n)

/-- How many zeros begin a list. -/
def zeros (ns : List Nat) : Nat := (ns.takeWhile (· == 0)).length

/-- The place and the length of the first among the longest runs of at least two zeros. -/
def longestGap? (ns : List Nat) : Option (Nat × Nat) :=
  let runs := (List.range ns.length).map (fun place => (place, zeros (ns.drop place)))
  runs.foldl (fun best run => if max 1 ((best.map Prod.snd).getD 1) < run.2 then some run else best) none

/-- Pieces between colons. -/
def piecesText (ns : List Nat) : String := ":".intercalate (ns.map hexText)

/-- An IPv6 address, the longest run of zeros written as a double colon. -/
def ipv6Text (ns : List Nat) : String :=
  match longestGap? ns with
  | none => piecesText ns
  | some (place, count) => piecesText (ns.take place) ++ "::" ++ piecesText (ns.drop (place + count))

end EntityGraph.Url.Address
