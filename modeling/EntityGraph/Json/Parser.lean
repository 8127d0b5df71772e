import EntityGraph.Decimal.Reading
import EntityGraph.Json.Value
import EntityGraph.Text.Scan

/-!
# Reading JSON text

Every reading step returns what is left of the text together with the proof that it is shorter, which is why
the recursion ends. Containers nest at most 127 deep. Of members with the same key the last one stays. A whole
number that fits 64 bits is an integer; `-0`, larger numbers and all with a fraction or exponent are doubles.
-/
namespace EntityGraph.Json.Parser

open Text (Rest Tail char? dropAll hexDigit? word?)

/-- The four blanks of JSON. -/
def isSpace (c : Char) : Bool := c == ' ' || c == '\t' || c == '\n' || c == '\r'

/-- Drops leading blanks. -/
def skip (cs : List Char) : Tail cs := dropAll isSpace cs

/-! ## Strings -/

/-- Reads a 16-bit unit of four hexadecimal digits. -/
def hexUnit? : (cs : List Char) → Option (Nat × Rest cs)
  | a :: b :: c :: d :: rest => do
    let high ← hexDigit? a
    let upper ← hexDigit? b
    let lower ← hexDigit? c
    let low ← hexDigit? d
    some (((high * 16 + upper) * 16 + lower) * 16 + low, (((Rest.ofCons d rest).cons c).cons b).cons a)
  | _ => none

/-- Reads the low surrogate that must follow a high one. -/
def lowSurrogate? (cs : List Char) : Option (Nat × Rest cs) := do
  let t ← word? ['\\', 'u'] cs
  let (low, r) ← hexUnit? t.1
  if 0xDC00 ≤ low ∧ low ≤ 0xDFFF then some (low, t.rest r) else none

/-- The character of an escape with a single letter. -/
def simpleEscape? (c : Char) : Option Char :=
  if c = '"' ∨ c = '\\' ∨ c = '/' then some c
  else if c = 'b' then some (Char.ofNat 8)
  else if c = 'f' then some (Char.ofNat 12)
  else if c = 'n' then some '\n'
  else if c = 'r' then some '\r'
  else if c = 't' then some '\t'
  else none

/-- Reads what follows a backslash. A high surrogate needs a low one right behind it. -/
def escape? : (cs : List Char) → Option (Char × Rest cs)
  | 'u' :: rest => do
    let (unit, r) ← hexUnit? rest
    if 0xD800 ≤ unit ∧ unit ≤ 0xDBFF then
      let (low, q) ← lowSurrogate? r.1
      some (Char.ofNat (0x10000 + (unit - 0xD800) * 0x400 + (low - 0xDC00)), (r.trans q).cons 'u')
    else if 0xDC00 ≤ unit ∧ unit ≤ 0xDFFF then none
    else some (Char.ofNat unit, r.cons 'u')
  | c :: rest => (simpleEscape? c).map (fun e => (e, .ofCons c rest))
  | [] => none

/-- Reads the rest of a string, up to and with the closing quote. -/
def string? (cs : List Char) : Option (List Char × Rest cs) :=
  match cs with
  | [] => none
  | c :: rest =>
    if c = '"' then some ([], .ofCons c rest)
    else if c = '\\' then
      match escape? rest with
      | none => none
      | some (e, after) => (string? after.1).map (fun (s, r) => (e :: s, (after.trans r).cons c))
    else if c.toNat < 32 then none
    else (string? rest).map (fun (s, r) => (c :: s, r.cons c))
termination_by cs.length
decreasing_by
  · exact (after.cons c).2
  · exact (Rest.ofCons c rest).2

/-! ## Numbers -/

/-- The digits at the front of a text. -/
def digits (cs : List Char) : List Nat := (cs.takeWhile Char.isDigit).map (fun c => c.toNat - 48)

/-- What follows the digits at the front of a text. -/
def afterDigits (cs : List Char) : Tail cs := dropAll Char.isDigit cs

/-- A point and digits, or nothing. -/
def fraction? : (cs : List Char) → Option (Option (List Nat) × Tail cs)
  | '.' :: rest =>
    let ds := digits rest
    if ds.isEmpty then none else some (some ds, (afterDigits rest).cons '.')
  | cs => some (none, .whole cs)

/-- Drops a sign and says whether it was a minus. -/
def sign : (cs : List Char) → Bool × Tail cs
  | '+' :: rest => (false, (Tail.whole rest).cons '+')
  | '-' :: rest => (true, (Tail.whole rest).cons '-')
  | cs => (false, .whole cs)

/-- The number that digits spell. -/
def ofDigits (ds : List Nat) : Nat := ds.foldl (fun n d => n * 10 + d) 0

/-- An exponent with its sign, or nothing. -/
def exponent? : (cs : List Char) → Option (Option Int × Tail cs)
  | c :: rest =>
    if c = 'e' ∨ c = 'E' then
      let (negative, unsigned) := sign rest
      let ds := digits unsigned.1
      if ds.isEmpty then none
      else
        let n : Int := ofDigits ds
        some (some (if negative then -n else n), (unsigned.trans (afterDigits unsigned.1)).cons c)
    else some (none, .whole (c :: rest))
  | [] => some (none, .whole [])

/-- The number with the given parts. Only a whole number without fraction and exponent can be an integer. -/
def numberOf (negative : Bool) (whole : List Nat) (fraction : Option (List Nat)) (exponent : Option Int) :
    Option Number :=
  let n := ofDigits whole
  if fraction.isNone && exponent.isNone && !negative && decide (n < Nat.pow 2 64) then some (.int n)
  else if fraction.isNone && exponent.isNone && negative && decide (0 < n) && decide (n ≤ Nat.pow 2 63) then
    some (.int (-n))
  else (Decimal.read negative whole (fraction.getD []) (exponent.getD 0)).map .double

/-- Reads a number without its minus sign. -/
def unsigned? (negative : Bool) : (cs : List Char) → Option (Number × Rest cs)
  | [] => none
  | c :: rest =>
    if ¬c.isDigit then none
    else
      let whole := digits (c :: rest)
      if c = '0' ∧ 1 < whole.length then none
      else do
        let t := afterDigits rest
        let (fraction, u) ← fraction? t.1
        let (exponent, v) ← exponent? u.1
        let n ← numberOf negative whole fraction exponent
        some (n, (Rest.ofCons c rest).tail (t.trans (u.trans v)))

/-- Reads a number. -/
def number? : (cs : List Char) → Option (Number × Rest cs)
  | '-' :: rest => (unsigned? true rest).map (fun (n, r) => (n, r.cons '-'))
  | cs => unsigned? false cs

/-! ## Values -/

/-- How many containers may be open around a value that is being read, plus one. -/
def nestingLimit : Nat := 128

/-- Reads the key of a member and the colon behind it. -/
def key? (cs : List Char) : Option (String × Rest cs) := do
  let quote ← char? '"' (skip cs).1
  let (key, r) ← string? quote.1
  let colon ← char? ':' (skip r.1).1
  some (String.ofList key, ((skip cs).rest quote).trans (r.trans ((skip r.1).rest colon)))

mutual
/-- Reads a value, blanks before it included. -/
def value? (depth : Nat) (cs : List Char) : Option (Value × Rest cs) :=
  match cs with
  | [] => none
  | c :: rest =>
    if isSpace c then (value? depth rest).map (fun (v, r) => (v, r.cons c))
    else if c = '"' then (string? rest).map (fun (s, r) => (.str (String.ofList s), r.cons c))
    else if c = '[' then
      if depth ≤ 1 then none
      else
        match char? ']' (skip rest).1 with
        | some r => some (.arr [], ((skip rest).rest r).cons c)
        | none => (items? (depth - 1) rest).map (fun (vs, r) => (.arr vs, r.cons c))
    else if c = '\x7b' then
      if depth ≤ 1 then none
      else
        match char? '\x7d' (skip rest).1 with
        | some r => some (.obj [], ((skip rest).rest r).cons c)
        | none => (members? (depth - 1) rest).map (fun (ms, r) => (.object ms, r.cons c))
    else if c = 'n' then (word? ['u', 'l', 'l'] rest).map (fun t => (.null, (Rest.ofCons c rest).tail t))
    else if c = 't' then (word? ['r', 'u', 'e'] rest).map (fun t => (.bool true, (Rest.ofCons c rest).tail t))
    else if c = 'f' then
      (word? ['a', 'l', 's', 'e'] rest).map (fun t => (.bool false, (Rest.ofCons c rest).tail t))
    else (number? (c :: rest)).map (fun (n, r) => (.num n, r))
termination_by 2 * cs.length
decreasing_by all_goals simp only [List.length_cons]; omega

/-- Reads one or more items and the closing bracket. -/
def items? (depth : Nat) (cs : List Char) : Option (List Value × Rest cs) :=
  match value? depth cs with
  | none => none
  | some (v, r) =>
    match char? ',' (skip r.1).1 with
    | some comma =>
      (items? depth (r.trans ((skip r.1).rest comma)).1).map (fun (vs, q) =>
        (v :: vs, (r.trans ((skip r.1).rest comma)).trans q))
    | none => (char? ']' (skip r.1).1).map (fun closing => ([v], r.trans ((skip r.1).rest closing)))
termination_by 2 * cs.length + 1
decreasing_by
  · omega
  · have := (r.trans ((skip r.1).rest comma)).2
    omega

/-- Reads one or more members and the closing brace. -/
def members? (depth : Nat) (cs : List Char) : Option (List (String × Value) × Rest cs) :=
  match key? cs with
  | none => none
  | some (key, k) =>
    match value? depth k.1 with
    | none => none
    | some (v, r) =>
      match char? ',' (skip r.1).1 with
      | some comma =>
        (members? depth (k.trans (r.trans ((skip r.1).rest comma))).1).map (fun (ms, q) =>
          ((key, v) :: ms, (k.trans (r.trans ((skip r.1).rest comma))).trans q))
      | none =>
        (char? '\x7d' (skip r.1).1).map (fun closing => ([(key, v)], k.trans (r.trans ((skip r.1).rest closing))))
termination_by 2 * cs.length + 1
decreasing_by
  · have := k.2
    omega
  · have := (k.trans (r.trans ((skip r.1).rest comma))).2
    omega
end

end EntityGraph.Json.Parser

namespace EntityGraph.Json

/-- Reads a document: one value with nothing but blanks around it. -/
def Value.parse? (s : String) : Option Value :=
  match Parser.value? Parser.nestingLimit s.toList with
  | some (v, rest) => if rest.1.all Parser.isSpace then some v else none
  | none => none

end EntityGraph.Json
