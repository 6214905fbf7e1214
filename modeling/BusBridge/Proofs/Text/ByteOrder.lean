/-
This file proves that texts are ordered by their UTF-8 bytes as they are by their characters, and
that a mark of one byte is found behind a start of a text in the bytes as in the characters.
-/

import Mathlib.Data.String.Basic
import BusBridge.Text.Basic

namespace BusBridge.Text

def bytes (text : String) : List UInt8 :=
  text.toUTF8.data.toList

theorem bytes_eq_flatMap (text : String) :
    bytes text = text.toList.flatMap String.utf8EncodeChar := by
  rw [bytes, String.toUTF8, ← String.utf8Encode_toList, List.utf8Encode]
  exact List.toList_data_toByteArray

/-- The bytes of a lesser character are less, whatever follows them. -/
theorem utf8EncodeChar_append_lt {first second : Char} (less : first < second)
    (after behind : List UInt8) :
    String.utf8EncodeChar first ++ after < String.utf8EncodeChar second ++ behind := by
  have points : first.val.toNat < second.val.toNat := less
  have bounded : second.val.toNat < 0x110000 := by
    have valid := second.valid
    rw [UInt32.isValidChar, Nat.isValidChar] at valid
    omega
  unfold String.utf8EncodeChar
  generalize first.val.toNat = lower at points ⊢
  generalize second.val.toNat = upper at points bounded ⊢
  -- The digits of a point in base 64 are what its bytes hold after their marks.
  have digits : ∀ point : Nat,
      point / 64 / 64 = point / 4096 ∧ point / 4096 / 64 = point / 262144 :=
    fun point => ⟨Nat.div_div_eq_div_mul .., Nat.div_div_eq_div_mul ..⟩
  have marked : ∀ value mark size : Nat, 0 < size → mark + size ≤ 256 →
      (value % size + mark) % 2 ^ 8 = value % size + mark := by
    intro value mark size positive fits
    have small := Nat.mod_lt value positive
    exact Nat.mod_eq_of_lt (by omega)
  have first : (lower / 262144 % 8 + 240) % 2 ^ 8 = lower / 262144 + 240 := by omega
  have second : (upper / 262144 % 8 + 240) % 2 ^ 8 = upper / 262144 + 240 := by omega
  have low := digits lower
  have high := digits upper
  simp only []
  split_ifs <;>
    simp only [List.cons_append, List.nil_append, List.cons_lt_cons_iff, UInt8.lt_iff_toNat_lt,
      ← UInt8.toNat_inj, UInt8.toNat_ofNat', marked _ 128 64 (by decide) (by decide),
      marked _ 192 32 (by decide) (by decide), marked _ 224 16 (by decide) (by decide),
      first, second] <;>
    omega

theorem flatMap_utf8EncodeChar_lt {first second : List Char} (less : first < second) :
    first.flatMap String.utf8EncodeChar < second.flatMap String.utf8EncodeChar := by
  induction less with
  | nil =>
      rename_i character rest
      rw [List.flatMap_nil, List.flatMap_cons]
      obtain ⟨byte, others, shape⟩ :=
        List.exists_cons_of_ne_nil (String.utf8EncodeChar_ne_nil (c := character))
      rw [shape]
      exact .nil
  | rel less =>
      rw [List.flatMap_cons, List.flatMap_cons]
      exact utf8EncodeChar_append_lt less _ _
  | cons _ ih =>
      rw [List.flatMap_cons, List.flatMap_cons]
      exact List.append_left_lt ih

/-- The order of texts is the order of their bytes. -/
theorem bytes_lt_iff {first second : String} : bytes first < bytes second ↔ first < second := by
  have increasing : ∀ {left right : String}, left < right → bytes left < bytes right := by
    intro left right less
    rw [bytes_eq_flatMap, bytes_eq_flatMap]
    exact flatMap_utf8EncodeChar_lt (String.lt_iff_toList_lt.1 less)
  refine ⟨fun less => ?_, increasing⟩
  rcases lt_trichotomy first second with before | rfl | behind
  · exact before
  · exact absurd less (List.lt_irrefl _)
  · exact absurd less (List.lt_asymm (increasing behind))

theorem getElem?_toUTF8 (text : String) (offset : Nat) :
    text.toUTF8[offset]? = (bytes text)[offset]? := by
  rw [bytes, Array.getElem?_toList]
  rfl

theorem length_bytes (text : String) : (bytes text).length = text.utf8ByteSize := by
  rw [bytes, Array.length_toList]
  rfl

/-- The first byte tells a character of one byte from all others. -/
theorem head?_utf8EncodeChar_append_iff {mark character : Char} {byte : UInt8}
    {after : List UInt8} (narrow : String.utf8EncodeChar mark = [byte]) :
    (String.utf8EncodeChar character ++ after).head? = some byte ↔ character = mark := by
  constructor
  · intro first
    obtain ⟨head, others, shape⟩ :=
      List.exists_cons_of_ne_nil (String.utf8EncodeChar_ne_nil (c := character))
    rw [shape, List.cons_append, List.head?_cons, Option.some_inj] at first
    subst first
    -- another character has lesser or greater bytes, whatever is put behind them and the mark
    rcases lt_trichotomy character mark with less | same | greater
    · have wrong := utf8EncodeChar_append_lt less [] []
      rw [shape, narrow] at wrong
      simp at wrong
    · exact same
    · have wrong := utf8EncodeChar_append_lt greater others []
      rw [shape, narrow, List.append_nil] at wrong
      exact absurd wrong (List.lt_irrefl _)
  · rintro rfl
    rw [narrow]
    rfl

/-- A character of one byte stands behind a start of a text exactly when its byte stands behind the
bytes of that start. -/
theorem getElem?_utf8ByteSize_iff {front text : String} {rest : List Char} {mark : Char}
    {byte : UInt8} (narrow : String.utf8EncodeChar mark = [byte])
    (whole : text.toList = front.toList ++ rest) :
    text.toUTF8[front.utf8ByteSize]? = some byte ↔ rest.head? = some mark := by
  rw [getElem?_toUTF8, ← length_bytes, bytes_eq_flatMap text, whole, List.flatMap_append,
    ← bytes_eq_flatMap, List.getElem?_append_right le_rfl, Nat.sub_self, ← List.head?_eq_getElem?]
  cases rest with
  | nil => simp
  | cons character others =>
      rw [List.flatMap_cons, head?_utf8EncodeChar_append_iff narrow, List.head?_cons,
        Option.some_inj]

end BusBridge.Text
