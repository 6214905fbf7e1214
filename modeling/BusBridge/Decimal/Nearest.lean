/-
This file rounds quotients to doubles, and decimals to doubles in two steps.
-/

import BusBridge.Decimal.Shortest

namespace BusBridge.Decimal

/-- The value is `significand · 2 ^ exponent`, which is never negative. -/
structure Double where
  significand : Nat
  exponent : Int
  deriving DecidableEq, Repr

namespace Double

def leastExponent : Int := -1074

def numerator (value : Double) : Nat :=
  value.significand * Nat.pow 2 value.exponent.toNat

def denominator (value : Double) : Nat :=
  Nat.pow 2 (-value.exponent).toNat

/-- The exponent of the greatest power of two that is no greater than a quotient. -/
def binaryMagnitude (numerator denominator : Nat) : Int :=
  let estimate : Int := (numerator.log2 : Int) - denominator.log2
  if denominator * Nat.pow 2 estimate.toNat ≤ numerator * Nat.pow 2 (-estimate).toNat then estimate
  else estimate - 1

/-- Of two neighbours that are equally near the even one is taken. -/
def roundedQuotient (numerator denominator : Nat) : Nat :=
  let below := numerator / denominator
  let rest := 2 * (numerator % denominator)
  if denominator < rest || (rest = denominator && below % 2 = 1) then below + 1 else below

/-- A significand that rounds up to the next power of two is halved. -/
def ofSignificand (significand : Nat) (exponent : Int) : Double :=
  if significand = Nat.pow 2 53 then ⟨Nat.pow 2 52, exponent + 1⟩ else ⟨significand, exponent⟩

/-- Small values have fewer bits than the others. -/
def nearest (numerator denominator : Nat) : Double :=
  let exponent := max (binaryMagnitude numerator denominator - 52) leastExponent
  ofSignificand
    (roundedQuotient (numerator * Nat.pow 2 (-exponent).toNat)
      (denominator * Nat.pow 2 exponent.toNat))
    exponent

def product (first second : Double) : Double :=
  nearest (first.numerator * second.numerator) (first.denominator * second.denominator)

def quotient (first second : Double) : Double :=
  nearest (first.numerator * second.denominator) (first.denominator * second.numerator)

def powerOfTen (exponent : Nat) : Double :=
  nearest (Nat.pow 10 exponent) 1

/-- The greatest double is `(2 ^ 53 - 1) · 2 ^ 971`. -/
def isFinite (value : Double) : Bool :=
  value.exponent ≤ 971

/--
The power of ten is rounded too. A power that is no double is too great to multiply by, and
it is divided by in steps.
-/
def scaled? (value : Double) (exponent : Int) : Option Double :=
  if value.significand = 0 then some value
  else if 308 < exponent then none
  else if 0 ≤ exponent then
    let product := value.product (powerOfTen exponent.toNat)
    if product.isFinite then some product else none
  else if -308 ≤ exponent then some (value.quotient (powerOfTen (-exponent).toNat))
  else scaled? (value.quotient (powerOfTen 308)) (exponent + 308)
termination_by (-exponent).toNat

/-- The shortest decimal that reads back as the value. -/
def shortest (value : Double) : Scaled :=
  if value.significand = 0 then ⟨0, 0⟩
  else
    (RoundingInterval.around value.significand value.exponent
      (value.significand = Nat.pow 2 52 && value.exponent != leastExponent)).shortest

end Double

/-- The leading digits of a number that fit into 64 bits, and how many digits follow them. -/
def leadingDigits (number : Nat) : Nat × Nat :=
  if number < UInt64.size then (number, 0)
  else
    let (leading, count) := leadingDigits (number / 10)
    (leading, count + 1)
  decreasing_by
    simp only [UInt64.size] at *
    omega

/--
Only the leading digits count. They are rounded before they are scaled, and a number above all
doubles has none near it.
-/
def toDouble? (number : Scaled) : Option Double :=
  let (leading, count) := leadingDigits number.digits
  (Double.nearest leading 1).scaled? (number.exponent + count)

end BusBridge.Decimal
