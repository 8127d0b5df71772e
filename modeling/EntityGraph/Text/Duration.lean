/-!
# Durations

A duration counts whole nanoseconds and is capped at the largest number of seconds that fits 64 bits. It is
written in the largest unit among `s`, `ms`, `µs` and `ns` that gives a nonzero whole part, followed by the
remaining digits without trailing zeros.
-/
namespace EntityGraph

/-- A span of time in nanoseconds. -/
structure Duration where
  nanos : Nat
  deriving Repr, DecidableEq, Inhabited

namespace Duration

/-- The longest span: all seconds that 64 bits can count, and every nanosecond below the next one. -/
def max : Duration := ⟨(Nat.pow 2 64 - 1) * 1000000000 + 999999999⟩

def ofMillis (n : Nat) : Duration := ⟨n * 1000000⟩

/-- Whole seconds. -/
def seconds (d : Duration) : Nat := d.nanos / 1000000000

/-- Nanoseconds beyond the whole seconds. -/
def subsecondNanos (d : Duration) : Nat := d.nanos % 1000000000

/-- Whole milliseconds. -/
def millis (d : Duration) : Nat := d.nanos / 1000000

/-- Repetition, capped at the longest span. -/
def scale (d : Duration) (n : Nat) : Duration :=
  if d.nanos * n ≤ max.nanos then ⟨d.nanos * n⟩ else max

/-- The digits of `part` after the point of a unit that holds `10 ^ width` parts, trailing zeros dropped. -/
def fractionDigits (part width : Nat) : List Char :=
  let digits := (Nat.repr part).toList
  let padded := List.replicate (width - digits.length) '0' ++ digits
  (padded.reverse.dropWhile (· == '0')).reverse

/-- A whole part, a fraction if there is one, and the unit. -/
def inUnit (whole part width : Nat) (unit : String) : String :=
  let digits := fractionDigits part width
  if digits.isEmpty then Nat.repr whole ++ unit
  else Nat.repr whole ++ "." ++ String.ofList digits ++ unit

/-- The duration in its largest unit, as in `1.5s`, `250ms` and `0ns`. -/
def text (d : Duration) : String :=
  if 1000000000 ≤ d.nanos then inUnit (d.nanos / 1000000000) (d.nanos % 1000000000) 9 "s"
  else if 1000000 ≤ d.nanos then inUnit (d.nanos / 1000000) (d.nanos % 1000000) 6 "ms"
  else if 1000 ≤ d.nanos then inUnit (d.nanos / 1000) (d.nanos % 1000) 3 "µs"
  else inUnit d.nanos 0 0 "ns"

end Duration
end EntityGraph
