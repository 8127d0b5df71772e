/-!
# Numerals

Positions and sizes are written in decimal digits without leading zeros and read as decimal digits behind an
optional plus sign, as long as the number fits 64 bits.
-/
namespace EntityGraph.Text

/-- The number that digits spell, on top of the digits read before them. -/
def digitsValue (value : Nat) : List Char → Nat
  | [] => value
  | c :: rest => digitsValue (value * 10 + (c.toNat - 48)) rest

/-- Reads at least one digit and nothing else. -/
def digits? (cs : List Char) : Option Nat :=
  if cs.isEmpty then none
  else if cs.all Char.isDigit then some (digitsValue 0 cs)
  else none

/-- Drops one plus sign. -/
def dropPlus : List Char → List Char
  | '+' :: rest => rest
  | cs => cs

/-- Reads a number of 64 bits. -/
def nat64? (s : String) : Option Nat := (digits? (dropPlus s.toList)).filter (fun n => decide (n < Nat.pow 2 64))

end EntityGraph.Text
