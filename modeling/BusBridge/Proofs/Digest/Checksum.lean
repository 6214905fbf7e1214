/-
This file proves that a checksum verifies exactly the content that has its digest.
-/

import BusBridge.Digest.Sha256

namespace BusBridge.Digest

theorem hexDigit_inj {first second : Nat} (firstSmall : first < 16) (secondSmall : second < 16)
    (same : Java.hexDigit first = Java.hexDigit second) : first = second := by
  have each : ∀ first < 16, ∀ second < 16,
      Java.hexDigit first = Java.hexDigit second → first = second := by decide
  exact each first firstSmall second secondSmall same

theorem hexByte_inj {first second : UInt8} (same : hexByte first = hexByte second) :
    first = second := by
  have firstSmall : first.toNat < 256 := first.toNat_lt
  have secondSmall : second.toNat < 256 := second.toNat_lt
  simp only [hexByte, List.cons.injEq, and_true] at same
  have high := hexDigit_inj (by omega) (by omega) same.1
  have low := hexDigit_inj (by omega) (by omega) same.2
  apply UInt8.toNat.inj
  omega

/-- Each byte takes two digits. -/
theorem flatMap_hexByte_inj {first second : List UInt8}
    (same : first.flatMap hexByte = second.flatMap hexByte) : first = second := by
  induction first generalizing second with
  | nil =>
      cases second with
      | nil => rfl
      | cons head rest => cases same
  | cons head rest ih =>
      cases second with
      | nil => cases same
      | cons other others =>
          rw [List.flatMap_cons, List.flatMap_cons] at same
          obtain ⟨heads, tails⟩ := List.append_inj same rfl
          rw [hexByte_inj heads, ih tails]

theorem hex_inj {first second : ByteArray} :
    hex first = hex second ↔ sha256 first = sha256 second := by
  constructor
  · intro same
    apply flatMap_hexByte_inj
    simpa [hex] using congrArg String.toList same
  · intro same
    rw [hex, hex, same]

theorem toLower_hexDigit {value : Nat} (small : value < 16) :
    (Java.hexDigit value).toLower = Java.hexDigit value := by
  have each : ∀ digit < 16, (Java.hexDigit digit).toLower = Java.hexDigit digit := by decide
  exact each value small

/-- Digests are written with small letters. -/
theorem lowerAscii_hex (content : ByteArray) : Text.lowerAscii (hex content) = hex content := by
  have each : ∀ bytes : List UInt8,
      (bytes.flatMap hexByte).map Char.toLower = bytes.flatMap hexByte := by
    intro bytes
    induction bytes with
    | nil => rfl
    | cons byte rest ih =>
        have small : byte.toNat < 256 := byte.toNat_lt
        have digits : (hexByte byte).map Char.toLower = hexByte byte := by
          rw [hexByte, List.map_cons, List.map_cons, List.map_nil,
            toLower_hexDigit (by omega), toLower_hexDigit (by omega)]
        rw [List.flatMap_cons, List.map_append, digits, ih]
  rw [Text.lowerAscii, hex, String.toList_ofList, each]

theorem withoutStart_append (start text : String) :
    Text.withoutStart start (start ++ text) = text := by
  have begun : start.toList.isPrefixOf (start ++ text).toList := by
    rw [List.isPrefixOf_iff_prefix, String.toList_append]
    exact List.prefix_append ..
  rw [Text.withoutStart, if_pos begun, String.toList_append, List.drop_left, String.ofList_toList]

/-- The checksum of a content verifies what has the same digest, and nothing else. -/
theorem verifies_checksum_iff {content original : ByteArray} :
    verifies content (checksum original) ↔ sha256 content = sha256 original := by
  rw [verifies, checksum, withoutStart_append, Text.sameAsciiLetters, lowerAscii_hex,
    lowerAscii_hex, beq_iff_eq, hex_inj]

/-- A checksum names a content by its digest, with or without the mark of the algorithm, and in
letters of either case. -/
def Names (checksum : String) (content : ByteArray) : Prop :=
  ∃ digits, (checksum = digits ∨ checksum = algorithmMark ++ digits) ∧
    Text.lowerAscii digits = hex content

/-- Digits hold no colon, so they do not start with the mark. -/
theorem withoutStart_of_lowerAscii {digits : String} {content : ByteArray}
    (lowered : Text.lowerAscii digits = hex content) :
    Text.withoutStart algorithmMark digits = digits := by
  have colonless : ∀ value < 16, Java.hexDigit value ≠ ':' := by decide
  rw [Text.withoutStart, if_neg]
  intro marked
  have colon : ':' ∈ digits.toList :=
    (List.isPrefixOf_iff_prefix.1 marked).subset (by decide)
  have inHex : ':' ∈ (hex content).toList := by
    rw [← lowered, Text.lowerAscii, String.toList_ofList]
    exact List.mem_map.2 ⟨':', colon, by decide⟩
  rw [hex, String.toList_ofList, List.mem_flatMap] at inHex
  obtain ⟨byte, -, digit⟩ := inHex
  have small : byte.toNat < 256 := byte.toNat_lt
  rw [hexByte, List.mem_cons, List.mem_singleton] at digit
  rcases digit with same | same
  · exact colonless _ (by omega) same.symm
  · exact colonless _ (by omega) same.symm

theorem verifies_iff {content : ByteArray} {checksum : String} :
    verifies content checksum = true ↔ Names checksum content := by
  rw [verifies, Text.sameAsciiLetters, lowerAscii_hex, beq_iff_eq, eq_comm]
  constructor
  · intro lowered
    refine ⟨_, ?_, lowered⟩
    rw [Text.withoutStart]
    split
    case isTrue marked =>
      obtain ⟨rest, whole⟩ := List.isPrefixOf_iff_prefix.1 marked
      right
      rw [← String.toList_inj, ← whole, String.toList_append, List.drop_left,
        String.toList_ofList]
    case isFalse => exact .inl rfl
  · rintro ⟨digits, rfl | rfl, lowered⟩
    · rw [withoutStart_of_lowerAscii lowered, lowered]
    · rw [withoutStart_append, lowered]

/-- No two of the sources have the same digest. -/
def Separates (sources : List String) : Prop :=
  ∀ first ∈ sources, ∀ second ∈ sources,
    sha256 first.toUTF8 = sha256 second.toUTF8 → first = second

instance (sources : List String) : Decidable (Separates sources) :=
  inferInstanceAs (Decidable (∀ first ∈ sources, ∀ second ∈ sources, _ → _))

end BusBridge.Digest
