/-
This file reads JSON documents, which are JSON texts with limits on their nesting and numbers.
-/

import BusBridge.Decimal.Nearest
import BusBridge.Json.Reader

namespace BusBridge.Json

/-- An array or object of a document lies within fewer others than this. -/
def documentNesting : Nat := 127

def Number.ofDouble (negative : Bool) (value : Decimal.Double) : Number :=
  .decimal negative value.shortest.digits value.shortest.exponent

/-- Integers of 64 bits stay as they are, and any other number is the double near it. -/
def Number.narrow? : Number → Option Number
  | .integer value =>
      if -(Nat.pow 2 63 : Int) ≤ value && value < UInt64.size then some (.integer value)
      else (Decimal.toDouble? ⟨value.natAbs, 0⟩).map (.ofDouble (value < 0))
  | .decimal negative significand exponent =>
      (Decimal.toDouble? ⟨significand, exponent⟩).map (.ofDouble negative)

mutual

/-- The levels are those that arrays and objects may still open. -/
def narrow? (levels : Nat) : Json → Option Json
  | .number value => value.narrow?.map .number
  | .unpaired => none
  | .array items =>
      match levels with
      | 0 => none
      | levels + 1 => (narrowItems? levels items).map .array
  | .object members =>
      match levels with
      | 0 => none
      | levels + 1 => (narrowMembers? levels members).map .object
  | other => some other

def narrowItems? (levels : Nat) : List Json → Option (List Json)
  | [] => some []
  | item :: rest => do
      return (← narrow? levels item) :: (← narrowItems? levels rest)

def narrowMembers? (levels : Nat) : List (String × Json) → Option (List (String × Json))
  | [] => some []
  | (key, value) :: rest => do
      return (key, ← narrow? levels value) :: (← narrowMembers? levels rest)

end

def parseDocument? (text : String) : Option Json :=
  (parse? text).bind (narrow? documentNesting)

end BusBridge.Json
