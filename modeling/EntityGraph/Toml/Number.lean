import EntityGraph.Decimal.Reading
import EntityGraph.Text.Scan
import EntityGraph.Toml.Value

/-!
# TOML numbers

Digits may be grouped by underscores. A whole number has 64 bits with a sign and may be hexadecimal, octal or
binary; a float has a point, an exponent or both. A float beyond the largest double is refused.
-/
namespace EntityGraph.Toml.Number

/-- The value of a digit in a base up to 16. -/
def digitIn? (base : Nat) (c : Char) : Option Nat := (Text.hexDigit? c).filter (fun d => decide (d < base))

/-- Digits, each perhaps with an underscore before the next. -/
def grouped? (base : Nat) : List Char → Option (List Nat)
  | [] => none
  | [c] => (digitIn? base c).map (fun d => [d])
  | c :: '_' :: rest => do
    let d ← digitIn? base c
    let ds ← grouped? base rest
    some (d :: ds)
  | c :: rest => do
    let d ← digitIn? base c
    let ds ← grouped? base rest
    some (d :: ds)

/-- The number that digits spell. -/
def ofDigits (base : Nat) (ds : List Nat) : Nat := ds.foldl (fun n d => n * base + d) 0

/-- A whole number that fits 64 bits. -/
def int64? (n : Int) : Option Value :=
  let half : Int := Int.ofNat (Nat.pow 2 63)
  if -half ≤ n ∧ n < half then some (.int n) else none

/-- The whole digits of a decimal, which have no leading zero. -/
def whole? (cs : List Char) : Option (List Nat) :=
  (grouped? 10 cs).filter (fun ds => ds.length == 1 || ds.head? != some 0)

/-- Drops a sign and says whether it was a minus. -/
def sign : List Char → Bool × List Char
  | '-' :: rest => (true, rest)
  | '+' :: rest => (false, rest)
  | cs => (false, cs)

/-- The exponent behind its mark; none without a mark. -/
def exponent? (cs : List Char) : Option Int :=
  match cs with
  | [] => some 0
  | _ :: rest =>
    let (negative, digits) := sign rest
    (grouped? 10 digits).map (fun ds => if negative then -(ofDigits 10 ds : Int) else ofDigits 10 ds)

/-- The digits behind the point; none without a point. -/
def fraction? (cs : List Char) : Option (List Nat) :=
  match cs with
  | [] => some []
  | _ :: digits => grouped? 10 digits

/-- A float that is no more than the largest double. -/
def float? (negative : Bool) (whole fraction : List Nat) (exponent : Int) : Option Value :=
  let x := Decimal.nearest negative whole fraction exponent
  if x.isInf && !negative then none else some (.float x)

def isMark (c : Char) : Bool := c == 'e' || c == 'E'

/-- A decimal: whole digits, and after them a point with digits, an exponent, or both. -/
def decimal? (negative : Bool) (cs : List Char) : Option Value := do
  let head := cs.takeWhile (fun c => c ≠ '.' && !isMark c)
  let tail := cs.dropWhile (fun c => c ≠ '.' && !isMark c)
  let whole ← whole? head
  if tail.isEmpty then int64? (if negative then -(ofDigits 10 whole : Int) else ofDigits 10 whole)
  else
    let fraction ← fraction? (tail.takeWhile (fun c => !isMark c))
    let exponent ← exponent? (tail.dropWhile (fun c => !isMark c))
    float? negative whole fraction exponent

/-- The number that a word spells. -/
def read? (cs : List Char) : Option Value :=
  match cs with
  | '0' :: 'x' :: digits => (grouped? 16 digits).bind (fun ds => int64? (ofDigits 16 ds))
  | '0' :: 'o' :: digits => (grouped? 8 digits).bind (fun ds => int64? (ofDigits 8 ds))
  | '0' :: 'b' :: digits => (grouped? 2 digits).bind (fun ds => int64? (ofDigits 2 ds))
  | cs =>
    let (negative, unsigned) := sign cs
    if unsigned = ['i', 'n', 'f'] then some (.float (if negative then -1.0 / 0.0 else 1.0 / 0.0))
    else if unsigned = ['n', 'a', 'n'] then some (.float (0.0 / 0.0))
    else decimal? negative unsigned

end EntityGraph.Toml.Number
