/-
This file decodes binary floating-point numbers from their bits, and tells which decimals are too
great for a double.
-/

namespace BusBridge.Decimal

/-- The sign bit stands above the exponent bits, and these above the fraction bits. -/
structure BinaryFormat where
  fractionBits : Nat
  exponentBits : Nat

def single : BinaryFormat := ⟨23, 8⟩

def double : BinaryFormat := ⟨52, 11⟩

/--
A finite value is `significand · 2 ^ exponent`. Its gap downward is half its gap upward when
`isPowerOfTwo` holds.
-/
inductive BinaryValue where
  | nan
  | infinite (negative : Bool)
  | finite (negative : Bool) (significand : Nat) (exponent : Int) (isPowerOfTwo : Bool)
  deriving DecidableEq, Repr

def BinaryFormat.decode (format : BinaryFormat) (bits : Nat) : BinaryValue :=
  let fraction := bits % Nat.pow 2 format.fractionBits
  let field := bits / Nat.pow 2 format.fractionBits % Nat.pow 2 format.exponentBits
  let negative := bits / Nat.pow 2 (format.fractionBits + format.exponentBits) % 2 == 1
  let bias : Int := (Nat.pow 2 (format.exponentBits - 1) : Int) - 1
  if field = Nat.pow 2 format.exponentBits - 1 then
    if fraction = 0 then .infinite negative else .nan
  else if field = 0 then
    .finite negative fraction (1 - bias - format.fractionBits) false
  else
    .finite negative (fraction + Nat.pow 2 format.fractionBits) (field - bias - format.fractionBits)
      (fraction == 0 && field != 1)


/-- The greatest double lies below this by half of its gap, and the tie goes up. -/
def overflowBound : Nat := Nat.pow 2 1024 - Nat.pow 2 970

/--
The value `significand · 10 ^ exponent` lies below `10 ^ magnitude`, so most decimals are
compared by their magnitude alone.
-/
def isBelowInfinity (significand : Nat) (exponent : Int) : Bool :=
  let magnitude := (Nat.toDigits 10 significand).length + exponent
  if significand = 0 || magnitude < 309 then true
  else if 309 < magnitude then false
  else if 0 ≤ exponent then significand * Nat.pow 10 exponent.toNat < overflowBound
  else significand < overflowBound * Nat.pow 10 (-exponent).toNat

end BusBridge.Decimal
