/-
This file finds the shortest decimal that reads back as a given binary floating-point number.
-/

import BusBridge.Decimal.Binary

namespace BusBridge.Decimal

/-- The value is `digits · 10 ^ exponent`. -/
structure Scaled where
  digits : Nat
  exponent : Int
  deriving DecidableEq, Repr

/--
The reals between `low` and `high` round to `value`, and all three are over one denominator.
The ends round to `value` too when its significand is even.
-/
structure RoundingInterval where
  low : Nat
  value : Nat
  high : Nat
  denominator : Nat
  closed : Bool

/-- The unit is a quarter of the gap above the value. -/
def RoundingInterval.around (significand : Nat) (exponent : Int) (isPowerOfTwo : Bool) :
    RoundingInterval :=
  let up := Nat.pow 2 (exponent - 2).toNat
  { low := (4 * significand - if isPowerOfTwo then 1 else 2) * up
    value := 4 * significand * up
    high := (4 * significand + 2) * up
    denominator := Nat.pow 2 (2 - exponent).toNat
    closed := significand % 2 == 0 }

def digitCount (number : Nat) : Nat :=
  (Nat.toDigits 10 number).length

/-- The result `k` places the value below `10 ^ k` and not below `10 ^ (k - 1)`. -/
def RoundingInterval.magnitude (interval : RoundingInterval) : Int :=
  if interval.denominator ≤ interval.value then
    digitCount (interval.value / interval.denominator)
  else 1 - (digitCount ((interval.denominator - 1) / interval.value) : Int)

/-- The numerator of `digits · 10 ^ exponent` over the interval's denominator, scaled. -/
def RoundingInterval.contains (interval : RoundingInterval) (candidate : Scaled) : Bool :=
  let number := candidate.digits * Nat.pow 10 candidate.exponent.toNat * interval.denominator
  let scale := Nat.pow 10 (-candidate.exponent).toNat
  if interval.closed then interval.low * scale ≤ number && number ≤ interval.high * scale
  else interval.low * scale < number && number < interval.high * scale

def RoundingInterval.distance (interval : RoundingInterval) (candidate : Scaled) : Nat :=
  let number := candidate.digits * Nat.pow 10 candidate.exponent.toNat * interval.denominator
  let value := interval.value * Nat.pow 10 (-candidate.exponent).toNat
  max number value - min number value

/-- Of two neighbours that both read back the nearer one wins, and the upper one wins a tie. -/
def RoundingInterval.withDigits? (interval : RoundingInterval) (count : Nat) : Option Scaled :=
  let exponent := interval.magnitude - count
  let below := interval.value * Nat.pow 10 (-exponent).toNat /
    (interval.denominator * Nat.pow 10 exponent.toNat)
  let lower : Scaled := ⟨below, exponent⟩
  let upper : Scaled := ⟨below + 1, exponent⟩
  match interval.contains lower, interval.contains upper with
  | true, true =>
      if interval.distance lower < interval.distance upper then some lower else some upper
  | true, false => some lower
  | false, true => some upper
  | false, false => none

/-- Seventeen digits are enough for every double. -/
def RoundingInterval.shortest (interval : RoundingInterval) : Scaled :=
  ((List.range 17).findSome? fun count => interval.withDigits? (count + 1)).getD ⟨0, 0⟩

end BusBridge.Decimal
