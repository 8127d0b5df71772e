import EntityGraph.Decimal.Shortest

/-!
# Written doubles

A double is written with its shortest digits and always with a fraction or an exponent. The exponent is used
from `1e+16` on and below `1e-5`; it carries its sign and no leading zeros.
-/
namespace EntityGraph.Decimal

/-- Decimal digits of a positive number, the first one apart from the others. -/
def leadingDigit (digits : List Char) : Char × List Char :=
  match digits with
  | [] => ('0', [])
  | c :: rest => (c, rest)

/-- Digits with a point after the first, and the exponent with its sign. -/
def exponential (digits : List Char) (exponent : Int) : String :=
  let (first, rest) := leadingDigit digits
  let fraction := if rest.isEmpty then [] else '.' :: rest
  let sign := if exponent < 0 then "-" else "+"
  String.ofList (first :: fraction) ++ "e" ++ sign ++ Nat.repr exponent.natAbs

/-- Digits with the point `point` places after the first digit's left edge. -/
def positional (digits : List Char) (point : Int) : String :=
  if point ≤ 0 then
    "0." ++ String.ofList (List.replicate point.natAbs '0' ++ digits)
  else if digits.length ≤ point.toNat then
    String.ofList (digits ++ List.replicate (point.toNat - digits.length) '0') ++ ".0"
  else
    String.ofList (digits.take point.toNat) ++ "." ++ String.ofList (digits.drop point.toNat)

/-- A positive decimal in its positional or exponential form. -/
def Scaled.text (d : Scaled) : String :=
  let digits := (Nat.repr d.digits).toList
  let exponent := d.exponent + digits.length - 1
  if -5 ≤ exponent && exponent < 16 then positional digits (exponent + 1)
  else exponential digits exponent

/-- The text of a finite double. -/
def ofFloat (x : Float) : String :=
  let (negative, magnitude) := decode x
  let body := match magnitude with
    | none => "0.0"
    | some b => (shortest b).text
  if negative then "-" ++ body else body

end EntityGraph.Decimal
