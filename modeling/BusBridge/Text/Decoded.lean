/-
This file decodes bytes into characters. What is part of no character keeps a place of its own
or is replaced.
-/

namespace BusBridge.Text

def continues (byte : UInt8) : Bool :=
  0x80 ≤ byte && byte < 0xC0

def payload (byte : UInt8) : Nat :=
  byte.toNat % 64

/-- The shortest encoding of a character is its only one, and surrogates have none. -/
def characterBetween? (low value : Nat) : Option Char :=
  if low ≤ value && value < 0x110000 && (value < 0xD800 || 0xE000 ≤ value) then
    some (Char.ofNat value)
  else none

/-- How many bytes follow the first one of a character. -/
def followers (first : UInt8) : Nat :=
  if first < 0xC0 then 0
  else if first < 0xE0 then 1
  else if first < 0xF0 then 2
  else if first < 0xF8 then 3
  else 0

/-- The character that starts with the first byte, and how many of the others belong to it. -/
def firstCharacter? (first : UInt8) (others : List UInt8) : Option (Char × Nat) :=
  let lead := first.toNat
  if lead < 0x80 then some (Char.ofNat lead, 0)
  else if !(others.take (followers first)).all continues then none
  else
    match followers first, others with
    | 1, second :: _ => (characterBetween? 0x80 (lead % 32 * 64 + payload second)).map (·, 1)
    | 2, second :: third :: _ =>
        (characterBetween? 0x800
          ((lead % 16 * 64 + payload second) * 64 + payload third)).map (·, 2)
    | 3, second :: third :: fourth :: _ =>
        (characterBetween? 0x10000
          (((lead % 8 * 64 + payload second) * 64 + payload third) * 64 + payload fourth)).map
          (·, 3)
    | _, _ => none

def decodeEach : List UInt8 → List (Option Char)
  | [] => []
  | first :: others =>
      match firstCharacter? first others with
      | some (character, count) => some character :: decodeEach (others.drop count)
      | none => none :: decodeEach others
termination_by bytes => bytes.length
decreasing_by
  all_goals simp only [List.length_cons, List.length_drop]
  all_goals omega

/-- A stray byte is read as no character. -/
def decode (content : ByteArray) : List (Option Char) :=
  match String.fromUTF8? content with
  | some text => text.toList.map some
  | none => decodeEach content.data.toList

/-- How many bytes after the first one still belong to a character that breaks off. -/
def brokenFollowers (first : UInt8) (others : List UInt8) : Nat :=
  let couldGoOn (count : Nat) : Bool :=
    count ≤ others.length &&
      (firstCharacter? first (others.take count ++ [0x80, 0x80, 0x80])).isSome
  ([2, 1].find? couldGoOn).getD 0

def replaceEach : List UInt8 → List Char
  | [] => []
  | first :: others =>
      match firstCharacter? first others with
      | some (character, count) => character :: replaceEach (others.drop count)
      | none => '\uFFFD' :: replaceEach (others.drop (brokenFollowers first others))
termination_by bytes => bytes.length
decreasing_by
  all_goals simp only [List.length_cons, List.length_drop]
  all_goals omega

/-- A replacement character stands for each broken one. -/
def replaceBroken (content : ByteArray) : String :=
  (String.fromUTF8? content).getD (String.ofList (replaceEach content.data.toList))

end BusBridge.Text
