/-!
# Reading doubles

A decimal in a document is read in two steps: its significand, cut to the leading digits that fit 64 bits, is
rounded to a double, and that double is scaled by a power of ten. A power too small for one step is applied
in steps of `10 ^ 308`; a result beyond the largest double is refused.
-/
namespace EntityGraph.Decimal

/-- The double nearest to a power of ten. -/
def powerOfTen (n : Nat) : Float := Float.ofScientific 1 false n

/-- A double times a power of ten. -/
def scaleByPower (x : Float) (exponent : Int) : Option Float :=
  if exponent.natAbs ≤ 308 then
    if 0 ≤ exponent then
      let y := x * powerOfTen exponent.natAbs
      if y.isInf then none else some y
    else some (x / powerOfTen exponent.natAbs)
  else if x == 0.0 then some x
  else if 0 ≤ exponent then none
  else scaleByPower (x / powerOfTen 308) (exponent + 308)
termination_by exponent.natAbs
decreasing_by omega

/-- A significand being read: its value, the power of ten that scales it, and whether digits were cut off. -/
structure Significand where
  value : Nat
  exponent : Int
  deriving Repr, DecidableEq

/-- Whether a significand with one more digit still fits 64 bits. -/
def Significand.fits (s : Significand) (digit : Nat) : Bool := s.value * 10 + digit < Nat.pow 2 64

/-- Reads the digits before the point. From the first digit that does not fit on, each counts as a factor of ten. -/
def Significand.whole : List Nat → Significand → Significand
  | [], s => s
  | d :: rest, s =>
    if s.exponent = 0 && s.fits d then whole rest ⟨s.value * 10 + d, 0⟩
    else whole rest ⟨s.value, s.exponent + 1⟩

/-- Reads the digits after the point. From the first digit that does not fit on, all are dropped. -/
def Significand.fraction : List Nat → Significand → Significand
  | [], s => s
  | d :: rest, s => if s.fits d then fraction rest ⟨s.value * 10 + d, s.exponent - 1⟩ else s

/-- The double of a decimal with the given digits before and after its point and the given exponent. -/
def read (negative : Bool) (whole fraction : List Nat) (exponent : Int) : Option Float :=
  let s := Significand.fraction fraction (Significand.whole whole ⟨0, 0⟩)
  (scaleByPower (Float.ofNat s.value) (s.exponent + exponent)).map (fun x => if negative then -x else x)

/-- The double nearest to a decimal, all its digits counted; infinite beyond the largest double. -/
def nearest (negative : Bool) (whole fraction : List Nat) (exponent : Int) : Float :=
  let digits := (whole ++ fraction).foldl (fun n d => n * 10 + d) 0
  let e := exponent - fraction.length
  let x :=
    if digits = 0 then 0.0
    else if 400 < e + (whole ++ fraction).length then 1.0 / 0.0
    else if e + (whole ++ fraction).length < -400 then 0.0
    else Float.ofScientific digits (decide (e < 0)) e.natAbs
  if negative then -x else x

end EntityGraph.Decimal
