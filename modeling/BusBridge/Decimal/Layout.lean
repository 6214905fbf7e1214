/-
This file writes decimals, positionally for moderate values and with an exponent otherwise.
-/

import BusBridge.Decimal.Shortest

namespace BusBridge.Decimal

/-- Values from `10 ^ low` up to `10 ^ high` are written positionally. -/
structure PositionalRange where
  low : Int
  high : Int

/-- Four places after the point and sixteen before it are still positional. -/
def moderate : PositionalRange := ⟨-4, 16⟩

def dropTrailingZeros (digits : List Char) : List Char :=
  (digits.reverse.dropWhile (· == '0')).reverse

def zeros (count : Nat) : List Char :=
  List.replicate count '0'

/-- The point stands after `point` digits, and a zero fills each empty side. -/
def positional (digits : List Char) (point : Int) : List Char :=
  if point ≤ 0 then ['0', '.'] ++ zeros (-point).toNat ++ digits
  else if digits.length ≤ point.toNat then
    digits ++ zeros (point.toNat - digits.length) ++ ['.', '0']
  else digits.take point.toNat ++ ['.'] ++ digits.drop point.toNat

def integerText (value : Int) : List Char :=
  if value < 0 then '-' :: Nat.toDigits 10 value.natAbs else Nat.toDigits 10 value.natAbs

def exponential (digits : List Char) (point : Int) : List Char :=
  match digits with
  | [] => []
  | [digit] => digit :: 'e' :: integerText (point - 1)
  | digit :: rest => digit :: '.' :: (rest ++ 'e' :: integerText (point - 1))

def Scaled.text (range : PositionalRange) (number : Scaled) : List Char :=
  let written := Nat.toDigits 10 number.digits
  let point := written.length + number.exponent
  let digits := dropTrailingZeros written
  if range.low < point && point ≤ range.high then positional digits point
  else exponential digits point

def signed (negative : Bool) (text : List Char) : List Char :=
  if negative then '-' :: text else text

def BinaryValue.text (range : PositionalRange) : BinaryValue → List Char
  | .nan => ['N', 'a', 'N']
  | .infinite negative => signed negative ['i', 'n', 'f']
  | .finite negative 0 _ _ => signed negative ['0', '.', '0']
  | .finite negative significand exponent isPowerOfTwo =>
      signed negative
        ((RoundingInterval.around significand exponent isPowerOfTwo).shortest.text range)

end BusBridge.Decimal
