/-!
# Shortest decimals of doubles

A finite double is `m · 2 ^ q`. The reals that round to it form an interval around it, ends included exactly
when `m` is even. Its shortest decimal lies on the coarsest grid of multiples of a power of ten that has a
point in the interval; of two such points the nearer is taken, and of two equally near ones the even.
Everything is exact arithmetic on natural numbers.
-/
namespace EntityGraph.Decimal

/-- The number `digits · 10 ^ exponent`. -/
structure Scaled where
  digits : Nat
  exponent : Int
  deriving Repr, DecidableEq

/-- A positive binary number `mantissa · 2 ^ exponent`. -/
structure Binary where
  mantissa : Nat
  exponent : Int
  deriving Repr, DecidableEq

/-- `b ^ e` for a positive exponent, else one. -/
def positivePower (b : Nat) (e : Int) : Nat := Nat.pow b e.toNat

/-- Both sides of comparing `c · 10 ^ p` with `x · 2 ^ q`, cleared of denominators. -/
def crossed (c : Nat) (p : Int) (x : Nat) (q : Int) : Nat × Nat :=
  (c * positivePower 10 p * positivePower 2 (-q), x * positivePower 2 q * positivePower 10 (-p))

/-- The interval of reals that round to a double, in quarters of its last binary place. -/
structure Interval where
  low : Nat
  value : Nat
  high : Nat
  exponent : Int
  closed : Bool
  deriving Repr, DecidableEq

/-- The gap below a power of two is half the gap above it, except at the smallest exponent. -/
def Interval.of (b : Binary) : Interval where
  low := 4 * b.mantissa - (if b.mantissa = Nat.pow 2 52 ∧ b.exponent ≠ -1074 then 1 else 2)
  value := 4 * b.mantissa
  high := 4 * b.mantissa + 2
  exponent := b.exponent - 2
  closed := b.mantissa % 2 = 0

/-- Whether `c · 10 ^ p` lies in the interval. -/
def Interval.contains (i : Interval) (c : Nat) (p : Int) : Bool :=
  let low := crossed c p i.low i.exponent
  let high := crossed c p i.high i.exponent
  if i.closed then low.2 ≤ low.1 && high.1 ≤ high.2 else low.2 < low.1 && high.1 < high.2

/-- The point of the grid of multiples of `10 ^ p` that is taken, if one lies in the interval. -/
def Interval.pick? (i : Interval) (p : Int) : Option Nat :=
  let scaled := crossed 1 p i.value i.exponent
  let below := scaled.2 / scaled.1
  let above := below + 1
  match i.contains below p, i.contains above p with
  | true, true =>
    let rest := scaled.2 % scaled.1
    if 2 * rest < scaled.1 then some below
    else if scaled.1 < 2 * rest then some above
    else if below % 2 = 0 then some below else some above
  | true, false => some below
  | false, true => some above
  | false, false => none

/-- Tries the grids from `10 ^ p` down, at most `count` of them. -/
def Interval.search (i : Interval) : Nat → Int → Scaled
  | 0, p => ⟨0, p⟩
  | count + 1, p =>
    match i.pick? p with
    | some c => ⟨c, p⟩
    | none => i.search count (p - 1)

/-- The shortest decimal that rounds to a double. Every double lies on the last grid tried. -/
def shortest (b : Binary) : Scaled := (Interval.of b).search 1384 309

/-- Sign and magnitude of a finite double; the magnitude of a zero is absent. -/
def decode (x : Float) : Bool × Option Binary :=
  let bits := x.toBits.toNat
  let fraction := bits % Nat.pow 2 52
  let biased : Nat := bits / Nat.pow 2 52 % Nat.pow 2 11
  let magnitude :=
    if biased = 0 then
      if fraction = 0 then none else some ⟨fraction, -1074⟩
    else some ⟨Nat.pow 2 52 + fraction, Int.ofNat biased - 1075⟩
  (decide (Nat.pow 2 63 ≤ bits), magnitude)

end EntityGraph.Decimal
