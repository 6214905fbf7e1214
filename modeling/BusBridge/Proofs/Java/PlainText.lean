/-
This file proves that names, types and numbers hold no quote, no backslash and no slash.
-/

import BusBridge.Java.Fragment
import BusBridge.Proofs.Java.ReferenceLanguage

namespace BusBridge.Java

/-- These characters start literals, escapes and comments. -/
def lexicalMarks : List Char := ['"', '\'', '\\', '/']

def isPlain (character : Char) : Bool :=
  !lexicalMarks.contains character

/-- The text has none of the marks. -/
def IsPlain (text : List Char) : Prop :=
  ∀ character ∈ text, isPlain character = true

/-- An empty text is plain. -/
@[simp] theorem isPlain_nil : IsPlain [] :=
  nofun

/-- The first character is judged apart from the rest. -/
@[simp] theorem isPlain_cons {character : Char} {text : List Char} :
    IsPlain (character :: text) ↔ isPlain character = true ∧ IsPlain text :=
  List.forall_mem_cons

/-- It is enough that the marks are left out. -/
theorem isPlain_of_forall {allowed : Char → Bool} {character : Char}
    (excluded : lexicalMarks.all (fun mark => !allowed mark) = true)
    (held : allowed character = true) : isPlain character = true := by
  rw [isPlain, Bool.not_eq_true', ← Bool.not_eq_true, List.contains_iff_mem]
  intro member
  have refused := List.all_eq_true.1 excluded character member
  rw [held] at refused
  contradiction

/-- A character of names and of numbers. -/
def isWordCharacter (character : Char) : Bool :=
  TypeReference.continuesName character || character = '-'

def IsWord (text : List Char) : Prop :=
  ∀ character ∈ text, isWordCharacter character = true

/-- An empty text has no character that is not one of a word. -/
@[simp] theorem isWord_nil : IsWord [] :=
  nofun

/-- The first character is judged apart from the rest. -/
@[simp] theorem isWord_cons {character : Char} {text : List Char} :
    IsWord (character :: text) ↔ isWordCharacter character = true ∧ IsWord text :=
  List.forall_mem_cons

/-- Words are judged one after the other. -/
@[simp] theorem isWord_append {first second : List Char} :
    IsWord (first ++ second) ↔ IsWord first ∧ IsWord second :=
  List.forall_mem_append

/-- A part of a word is a word. -/
theorem IsWord.of_subset {text part : List Char} (word : IsWord text) (inside : part ⊆ text) :
    IsWord part :=
  fun _ member => word _ (inside member)

/-- A word is plain. -/
theorem IsWord.isPlain {text : List Char} (word : IsWord text) : IsPlain text :=
  fun character member => isPlain_of_forall (by decide) (word character member)

/-- A qualified name is a word. -/
theorem isWord_of_isQualifiedName {name : String} (qualified : isQualifiedName name = true) :
    IsWord name.toList := by
  intro character member
  rw [isWordCharacter, TypeReference.continuesName_of_isQualifiedName qualified character member,
    Bool.true_or]

/-- An identifier is a word. -/
theorem isWord_of_isIdentifier {name : String} (identifier : isIdentifier name = true) :
    IsWord name.toList := by
  intro character member
  rw [isWordCharacter, TypeReference.continuesName,
    continues_of_isIdentifier identifier character member, Bool.true_or, Bool.true_or]

/-- A digit is a character of words. -/
theorem isWordCharacter_of_isDigit {character : Char} (digit : character.isDigit = true) :
    isWordCharacter character = true := by
  have small : character.toNat < 128 := by
    simp only [Char.isDigit, Bool.and_eq_true, decide_eq_true_eq, UInt32.le_iff_toNat_le] at digit
    exact Nat.lt_of_le_of_lt digit.2 (by decide)
  simp [isWordCharacter, TypeReference.continuesName, continuesIdentifier,
    Character.isAlphanumeric, Character.isNumber, small, digit]

/-- What is spelled with tokens is plain. -/
theorem TypeReference.Spells.isPlain {cut : List Token} {text : List Char}
    (spelled : Spells cut text) : IsPlain text := by
  have plain : symbols.all Java.isPlain = true := by decide
  intro character member
  rcases spelled.character_mem member with named | known | blank
  · exact isPlain_of_forall (by decide) named
  · exact List.all_eq_true.1 plain _ known
  · exact isPlain_of_forall (by decide) blank

/-- A type reference is plain. -/
theorem isPlain_of_isTypeReference {type : String} (accepted : isTypeReference type = true) :
    IsPlain type.toList := by
  obtain ⟨cut, read, -⟩ := (TypeReference.isTypeReference_iff type).1 accepted
  exact ((TypeReference.tokens_eq_ok_iff type cut).1 read).isPlain

section Numbers

open Decimal

/-- A number is written as a word. -/
theorem isWord_toDigits (number : Nat) : IsWord (Nat.toDigits 10 number) :=
  fun _ member =>
    isWordCharacter_of_isDigit (Nat.isDigit_of_mem_toDigits (by decide) (by decide) member)

/-- Zeros are a word. -/
theorem isWord_zeros (count : Nat) : IsWord (zeros count) := by
  intro character member
  rw [List.eq_of_mem_replicate member]
  decide

/-- An integer is written as a word. -/
theorem isWord_integerText (value : Int) : IsWord (integerText value) := by
  unfold integerText
  split
  · exact isWord_cons.2 ⟨by decide, isWord_toDigits _⟩
  · exact isWord_toDigits _

/-- A number with a decimal point is a word. -/
theorem isWord_positional {digits : List Char} (word : IsWord digits) (point : Int) :
    IsWord (positional digits point) := by
  have signs : isWordCharacter '0' = true ∧ isWordCharacter '.' = true := by decide
  unfold positional
  split
  case isTrue => simp [signs, word, isWord_zeros]
  case isFalse =>
    split
    case isTrue => simp [signs, word, isWord_zeros]
    case isFalse =>
      simp [signs, word.of_subset (List.take_subset _ _), word.of_subset (List.drop_subset _ _)]

/-- A number with an exponent is a word. -/
theorem isWord_exponential {digits : List Char} (word : IsWord digits) (point : Int) :
    IsWord (exponential digits point) := by
  have signs : isWordCharacter 'e' = true ∧ isWordCharacter '.' = true := by decide
  unfold exponential
  split
  case h_1 => simp
  case h_2 digit => simpa [signs, isWord_integerText] using word
  case h_3 digit rest _ => simpa [signs, isWord_integerText] using word

/-- A decimal number is written as a word. -/
theorem isWord_scaled (range : PositionalRange) (number : Scaled) :
    IsWord (number.text range) := by
  have kept : IsWord (dropTrailingZeros (Nat.toDigits 10 number.digits)) := by
    refine (isWord_toDigits number.digits).of_subset fun character member => ?_
    rw [dropTrailingZeros, List.mem_reverse] at member
    exact List.mem_reverse.1 ((List.dropWhile_suffix _).subset member)
  unfold Scaled.text
  dsimp only
  split
  · exact isWord_positional kept _
  · exact isWord_exponential kept _

/-- A sign before a word makes a word. -/
theorem isWord_signed {text : List Char} (word : IsWord text) (negative : Bool) :
    IsWord (signed negative text) := by
  unfold signed
  split
  · exact isWord_cons.2 ⟨by decide, word⟩
  · exact word

/-- A number of any format is written as a word. -/
theorem isWord_floatText (format : BinaryFormat) (bits : Nat) :
    IsWord (floatText format bits) := by
  unfold floatText BinaryValue.text
  split
  · exact List.all_eq_true.1 (by decide)
  · exact isWord_signed (List.all_eq_true.1 (by decide)) _
  · exact isWord_signed (List.all_eq_true.1 (by decide)) _
  · exact isWord_signed (isWord_scaled _ _) _

end Numbers

/-- Text and character literals stand between quotes. -/
def Literal.isQuoted : Literal → Bool
  | .text _ | .character _ => true
  | _ => false

/-- A literal without quotes is written as a word. -/
theorem Literal.isWord_source {value : Literal} (unquoted : value.isQuoted = false) :
    IsWord value.source := by
  have suffixes : isWordCharacter 'L' = true ∧ isWordCharacter 'f' = true ∧
      isWordCharacter 'd' = true := by
    decide
  cases value with
  | text | character => cases unquoted
  | boolean truth => cases truth <;> exact List.all_eq_true.1 (by decide)
  | int value => exact isWord_integerText _
  | long value => simp [source, isWord_integerText, suffixes]
  | float bits => simp [source, isWord_floatText, suffixes]
  | double bits => simp [source, isWord_floatText, suffixes]

end BusBridge.Java
