/-
This file holds JSON values and the reading of records out of them.
-/

import BusBridge.Decimal.Binary

namespace BusBridge

/-- An integer literal has neither a fraction nor an exponent. A decimal zero has a sign too. -/
inductive Json.Number where
  | integer (value : Int)
  | decimal (negative : Bool) (significand : Nat) (exponent : Int)
  deriving DecidableEq, Repr

/--
A text with half of a surrogate pair is well formed but has no value, and neither has an object
with such a key. Both are read as `unpaired`.
-/
inductive Json where
  | null
  | boolean (value : Bool)
  | number (value : Json.Number)
  | text (value : String)
  | unpaired
  | array (items : List Json)
  | object (members : List (String × Json))

namespace Json

instance : Inhabited Json := ⟨.null⟩

mutual

/-- Objects are equal when they hold the same members in the same order. -/
def equal : Json → Json → Bool
  | .null, .null => true
  | .boolean first, .boolean second => first == second
  | .number first, .number second => first == second
  | .text first, .text second => first == second
  | .unpaired, .unpaired => true
  | .array first, .array second => equalItems first second
  | .object first, .object second => equalMembers first second
  | _, _ => false

def equalItems : List Json → List Json → Bool
  | [], [] => true
  | first :: firstRest, second :: secondRest =>
      equal first second && equalItems firstRest secondRest
  | _, _ => false

def equalMembers : List (String × Json) → List (String × Json) → Bool
  | [], [] => true
  | (firstKey, first) :: firstRest, (secondKey, second) :: secondRest =>
      firstKey == secondKey && equal first second && equalMembers firstRest secondRest
  | _, _ => false

end

instance : BEq Json := ⟨equal⟩

mutual

/-- The nesting of a value, with at least one level. -/
def depth : Json → Nat
  | .array items => itemDepth items + 1
  | .object members => memberDepth members + 1
  | _ => 1

def itemDepth : List Json → Nat
  | [] => 0
  | item :: rest => max (depth item) (itemDepth rest)

def memberDepth : List (String × Json) → Nat
  | [] => 0
  | (_, value) :: rest => max (depth value) (memberDepth rest)

end

def natural (value : Nat) : Json :=
  .number (.integer value)

def ofTexts (texts : List String) : Json :=
  .array (texts.map .text)

/-- The first member with a key, of an object. -/
def member? (value : Json) (key : String) : Option Json :=
  match value with
  | .object members => members.lookup key
  | _ => none

def text? : Json → Option String
  | .text value => some value
  | _ => none

def boolean? : Json → Option Bool
  | .boolean value => some value
  | _ => none

def textMember? (value : Json) (key : String) : Option String :=
  (value.member? key).bind text?

/-- A size fits into 64 bits. -/
def size? : Json → Option Nat
  | .number (.integer value) =>
      if 0 ≤ value && value < UInt64.size then some value.toNat else none
  | _ => none

def sizeMember? (value : Json) (key : String) : Option Nat :=
  (value.member? key).bind size?

/-- A value without the member has no items. -/
def itemsOf (value : Json) (key : String) : List Json :=
  match value.member? key with
  | some (.array items) => items
  | _ => []

/-- Items that are no texts are passed over. -/
def textsOf (value : Json) (key : String) : List String :=
  (value.itemsOf key).filterMap text?

/-- A flag that is absent is not set. -/
def flagOf (value : Json) (key : String) : Bool :=
  ((value.member? key).bind boolean?).getD false

def list? (read : Json → Option α) : Json → Option (List α)
  | .array items => items.mapM read
  | _ => none

/-- A text or an explicit null. -/
def optionalText? : Json → Option (Option String)
  | .null => some none
  | .text value => some (some value)
  | _ => none

/-- A word stands alone or as the only key of an object that maps it to null. -/
def word? : Json → Option String
  | .text value => some value
  | .object [(value, .null)] => some value
  | _ => none

/-- An integer has 128 bits, with a sign where it is negative, and a decimal is a double. -/
def Number.isBounded : Number → Bool
  | .integer value => -(Nat.pow 2 127 : Int) ≤ value && value < Nat.pow 2 128
  | .decimal _ significand exponent => Decimal.isBelowInfinity significand exponent

mutual

def isBounded : Json → Bool
  | .number value => value.isBounded
  | .array items => areBounded items
  | .object members => holdsBounded members
  | _ => true

def areBounded : List Json → Bool
  | [] => true
  | item :: rest => isBounded item && areBounded rest

def holdsBounded : List (String × Json) → Bool
  | [] => true
  | (_, value) :: rest => isBounded value && holdsBounded rest

end

/--
A JSON array is at most as long as the record that is read from it, and what is ignored only
has to be well formed. A TOML array may be longer, and numbers are bounded also where they are
ignored.
-/
inductive Dialect where
  | json
  | toml
  deriving DecidableEq, Repr

def Dialect.admitsSurplus : Dialect → Bool
  | .json => false
  | .toml => true

def Dialect.ignores (dialect : Dialect) (value : Json) : Bool :=
  dialect = .json || value.isBounded

/--
A record is an object that holds no known field twice, or an array of its first fields in
order. Unknown members of an object are ignored.
-/
def recordIn? (dialect : Dialect) (fields : List String) : Json → Option (List (Option Json))
  | .object members =>
      let isKnownOnce (field : String) : Bool :=
        (members.filter fun member => member.1 == field).length ≤ 1
      let isAdmitted (member : String × Json) : Bool :=
        fields.contains member.1 || dialect.ignores member.2
      if fields.all isKnownOnce && members.all isAdmitted then
        some (fields.map fun field => members.lookup field)
      else none
  | .array items =>
      if items.length ≤ fields.length || dialect.admitsSurplus then
        some ((items.map some ++ List.replicate (fields.length - items.length) none).take
          fields.length)
      else none
  | _ => none

def record? (fields : List String) (value : Json) : Option (List (Option Json)) :=
  value.recordIn? .json fields

def required (read : Json → Option α) (field : Option Json) : Option α :=
  field.bind read

/-- An absent field has its default, and a present one is read. -/
def withDefault (read : Json → Option α) (default : α) : Option Json → Option α
  | none => some default
  | some value => read value

end Json

end BusBridge
