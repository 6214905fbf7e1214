/-
This file proves what trimming and decoding leave of a text, and which texts cannot be told apart
once several marks are replaced by one.
-/

import BusBridge.Text.Basic
import BusBridge.Text.Decoded
import Mathlib.Data.List.DropRight
import Mathlib.Data.List.Forall2

namespace BusBridge.Text

section Trimming

theorem toList_trim (text : String) :
    (trim text).toList =
      (text.toList.dropWhile Character.isBlank).rdropWhile Character.isBlank := by
  simp [trim, List.rdropWhile]

theorem isBlank_getLast?_trim (text : String) :
    ∀ character ∈ (trim text).toList.getLast?, Character.isBlank character = false := by
  intro character last
  rw [toList_trim] at last
  obtain ⟨filled, rfl⟩ := List.mem_getLast?_eq_getLast last
  exact Bool.eq_false_iff.2 (List.rdropWhile_last_not _ _ filled)

theorem isBlank_head?_trim (text : String) :
    ∀ character ∈ (trim text).toList.head?, Character.isBlank character = false := by
  intro character first
  rw [toList_trim] at first
  obtain ⟨cut, whole⟩ := List.rdropWhile_prefix Character.isBlank
    (text.toList.dropWhile Character.isBlank)
  have kept : (text.toList.dropWhile Character.isBlank).head? = some character := by
    rw [← whole, List.head?_append, Option.mem_def.1 first]
    rfl
  have visible := List.head?_dropWhile_not Character.isBlank text.toList
  rw [kept] at visible
  exact visible

/-- A text without white space is kept as it is. -/
theorem trim_eq_self {text : String}
    (visible : ∀ character ∈ text.toList, Character.isBlank character = false) :
    trim text = text := by
  have shown (characters : List Char) (all : ∀ character ∈ characters,
      Character.isBlank character = false) :
    characters.dropWhile Character.isBlank = characters := by
    cases characters with
    | nil => rfl
    | cons head rest => exact List.dropWhile_cons_of_neg (by simp [all])
  rw [trim, shown _ visible, shown _ (by simpa using visible)]
  simp

end Trimming

section Decoding

theorem fromUTF8?_toUTF8 (text : String) : String.fromUTF8? text.toUTF8 = some text := by
  have valid : text.toUTF8.IsValidUTF8 := text.isValidUTF8
  rw [String.fromUTF8?, dif_pos valid]
  rfl

theorem fromUTF8?_eq_some_iff {content : ByteArray} {text : String} :
    String.fromUTF8? content = some text ↔ content = text.toUTF8 := by
  constructor
  · intro decoded
    rw [String.fromUTF8?] at decoded
    split at decoded
    case isTrue => cases decoded; rfl
    case isFalse => cases decoded
  · rintro rfl
    exact fromUTF8?_toUTF8 text

/-- Encoded text holds no stray byte. -/
theorem decode_toUTF8 (text : String) : decode text.toUTF8 = text.toList.map some := by
  rw [decode, fromUTF8?_toUTF8]

end Decoding

section Merging

/-- The texts differ at most in the marks that they have at the same places. -/
def AgreeUpTo (marks : List Char) (first second : String) : Prop :=
  List.Forall₂ (fun left right => left = right ∨ left ∈ marks ∧ right ∈ marks)
    first.toList second.toList

instance (marks : List Char) (first second : String) : Decidable (AgreeUpTo marks first second) :=
  inferInstanceAs (Decidable (List.Forall₂ _ _ _))

/-- All marks become one of them, and every other character is kept. -/
structure Merges (change : Char → Char) (marks : List Char) (mark : Char) : Prop where
  member : mark ∈ marks
  merged : ∀ character ∈ marks, change character = mark
  kept : ∀ character ∉ marks, change character = character

variable {change : Char → Char} {marks : List Char} {mark : Char}

theorem Merges.apply_eq_iff (merges : Merges change marks mark) (left right : Char) :
    change left = change right ↔ left = right ∨ left ∈ marks ∧ right ∈ marks := by
  by_cases leftMarked : left ∈ marks <;> by_cases rightMarked : right ∈ marks
  · simp [leftMarked, rightMarked, merges.merged]
  · have different : mark ≠ right := fun same => rightMarked (same ▸ merges.member)
    have apart : left ≠ right := fun same => rightMarked (same ▸ leftMarked)
    simp [rightMarked, merges.merged left leftMarked, merges.kept right rightMarked, different,
      apart]
  · have different : left ≠ mark := fun same => leftMarked (same ▸ merges.member)
    simp [leftMarked, merges.merged right rightMarked, merges.kept left leftMarked, different]
    rintro rfl
    contradiction
  · simp [leftMarked, merges.kept left leftMarked, merges.kept right rightMarked]

/-- Texts with merged marks are equal exactly when they agree up to these marks. -/
theorem Merges.map_eq_map_iff (merges : Merges change marks mark) (first second : String) :
    first.toList.map change = second.toList.map change ↔ AgreeUpTo marks first second := by
  rw [AgreeUpTo, ← List.forall₂_eq_eq_eq, List.forall₂_map_left_iff, List.forall₂_map_right_iff]
  simp only [merges.apply_eq_iff]

end Merging

end BusBridge.Text
