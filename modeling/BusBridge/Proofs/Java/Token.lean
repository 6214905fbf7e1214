/-
This file proves that no letter and no digit is white space, and how text is cut into names and
symbols: a name is a run of name characters, and the source form of a text has the source forms of
its names.
-/

import BusBridge.Character.Basic
import BusBridge.Character.Number
import BusBridge.Java.TypeReference.Basic
import BusBridge.Proofs.Java.Identifier
import BusBridge.Proofs.Outcome

namespace BusBridge.Character

def Ranges.areApart (first second : Ranges) : Bool :=
  first.all fun one => second.all fun other => one.2 < other.1 || other.2 < one.1

/-- Two sets of ranges without a common point cover no common character. -/
theorem Ranges.covers_eq_false {first second : Ranges} {point : Nat}
    (apart : first.areApart second = true) (covered : first.covers point = true) :
    second.covers point = false := by
  obtain ⟨one, inFirst, within⟩ := List.any_eq_true.1 covered
  refine List.any_eq_false.2 fun other inSecond => ?_
  have disjoint := List.all_eq_true.1 (List.all_eq_true.1 apart one inFirst) other inSecond
  simp only [Bool.and_eq_true, Bool.or_eq_true, decide_eq_true_eq] at within disjoint ⊢
  omega

/-- No letter and no digit is white space. -/
theorem isBlank_eq_false_of_isAlphanumeric {character : Char}
    (alphanumeric : isAlphanumeric character = true) : isBlank character = false := by
  have letters : letterRanges.areApart blankRanges = true := by decide +kernel
  have numbers : numberRanges.areApart blankRanges = true := by decide +kernel
  have ascii : ∀ code < 128, (Char.ofNat code).isAlpha = true ∨ (Char.ofNat code).isDigit = true →
      isBlank (Char.ofNat code) = false := by
    decide +kernel
  have small := ascii character.toNat
  rw [Char.ofNat_toNat] at small
  simp only [isAlphanumeric, isLetter, isNumber, Bool.or_eq_true] at alphanumeric
  by_cases below : character.toNat < 128
  · rw [if_pos below, if_pos below] at alphanumeric
    exact small below alphanumeric
  · rw [if_neg below, if_neg below] at alphanumeric
    rcases alphanumeric with letter | number
    · exact Ranges.covers_eq_false letters letter
    · exact Ranges.covers_eq_false numbers number

end BusBridge.Character

namespace BusBridge.Java.TypeReference

/-- No character of a name is white space. -/
theorem isBlank_eq_false_of_continuesName {character : Char}
    (continues : continuesName character = true) : Character.isBlank character = false := by
  simp only [continuesName, continuesIdentifier, Bool.or_eq_true, decide_eq_true_eq] at continues
  rcases continues with ((alphanumeric | rfl) | rfl) | rfl
  · exact Character.isBlank_eq_false_of_isAlphanumeric alphanumeric
  all_goals decide

/-- A run of name characters is read as a whole. -/
theorem tokenize_append {name : List Char} (continues : ∀ character ∈ name,
    continuesName character = true) (pending rest : List Char) :
    tokenize pending (name ++ rest) = tokenize (name.reverse ++ pending) rest := by
  induction name generalizing pending with
  | nil => rfl
  | cons head tail ih =>
      have kept : ∀ character ∈ tail, continuesName character = true := fun character member =>
        continues character (List.mem_cons_of_mem _ member)
      rw [List.cons_append, tokenize, if_pos (continues head (List.mem_cons_self ..)), ih kept]
      simp

/-- All characters of a qualified name continue a name. -/
theorem continuesName_of_isQualifiedName {name : String} (qualified : isQualifiedName name = true) :
    ∀ character ∈ name.toList, continuesName character = true := by
  intro character member
  simp only [continuesName, Bool.or_eq_true, decide_eq_true_eq]
  exact (continues_of_isQualifiedName qualified character member).symm

/-- A name that a text is cut into is a run of name characters. -/
def Token.IsRun : Token → Prop
  | .name text => text.toList ≠ [] ∧ ∀ character ∈ text.toList, continuesName character = true
  | .symbol _ => True

/-- A name that is held back is a run once it ends. -/
theorem isRun_closeName {pending : List Char} {tokens : List Token}
    (continues : ∀ character ∈ pending, continuesName character = true)
    (runs : ∀ token ∈ tokens, token.IsRun) : ∀ token ∈ closeName pending tokens, token.IsRun := by
  unfold closeName
  split
  case isTrue => exact runs
  case isFalse filled =>
    intro token member
    rcases List.mem_cons.1 member with rfl | member
    · exact ⟨by simpa using filled, by simpa using continues⟩
    · exact runs token member

/-- All names that are cut are runs. -/
theorem isRun_tokenize {pending characters : List Char} {tokens : List Token}
    (continues : ∀ character ∈ pending, continuesName character = true)
    (cut : tokenize pending characters = .ok tokens) : ∀ token ∈ tokens, token.IsRun := by
  induction characters generalizing pending tokens with
  | nil =>
      cases cut
      exact isRun_closeName continues (by simp)
  | cons head rest ih =>
      rw [tokenize] at cut
      split at cut
      case isTrue named => exact ih (by simpa [named] using continues) cut
      case isFalse =>
        split at cut
        case isTrue =>
          obtain ⟨others, cutRest, rfl⟩ := map_eq_ok_iff.1 cut
          refine isRun_closeName continues fun token member => ?_
          rcases List.mem_cons.1 member with rfl | member
          · trivial
          · exact ih (by simp) cutRest token member
        case isFalse =>
          split at cut
          case isTrue =>
            obtain ⟨others, cutRest, rfl⟩ := map_eq_ok_iff.1 cut
            exact isRun_closeName continues (ih (by simp) cutRest)
          case isFalse => cases cut

/-- A name that is read from a text is not empty and has name characters only. -/
theorem isRun_of_tokens {text : String} {cut : List Token} (read : tokens text = .ok cut) :
    ∀ token ∈ cut, token.IsRun :=
  isRun_tokenize (by simp) read

def Token.sourceForm : Token → Token
  | .name text => .name (Java.sourceForm text)
  | .symbol character => .symbol character

/-- The character that a source name has in place of one of a binary name. -/
def sourceCharacter (character : Char) : Char :=
  if character = '$' then '.' else character

/-- The source form goes through the text character by character. -/
theorem toList_sourceForm (text : String) :
    (sourceForm text).toList = text.toList.map sourceCharacter := by
  rw [sourceForm, toList_replace]
  rfl

/-- A name may be given its source form before or after it ends. -/
theorem closeName_map (pending : List Char) (tokens : List Token) :
    closeName (pending.map sourceCharacter) (tokens.map Token.sourceForm) =
      (closeName pending tokens).map Token.sourceForm := by
  cases pending with
  | nil => rfl
  | cons head rest =>
      simp only [closeName, List.map_cons, List.isEmpty_cons, Bool.false_eq_true, if_false,
        Token.sourceForm, List.cons.injEq, Token.name.injEq, and_true]
      rw [← String.toList_inj, toList_sourceForm]
      simp

/-- A text may be given its source form before or after it is cut. -/
theorem tokenize_map (pending characters : List Char) :
    tokenize (pending.map sourceCharacter) (characters.map sourceCharacter) =
      (tokenize pending characters).map (List.map Token.sourceForm) := by
  induction characters generalizing pending with
  | nil => rw [List.map_nil, tokenize, tokenize, Except.map, ← closeName_map]; rfl
  | cons head rest ih =>
      rw [List.map_cons, tokenize, tokenize]
      by_cases dollar : head = '$'
      · subst dollar
        have named : continuesName '$' = true ∧ continuesName (sourceCharacter '$') = true := by
          decide
        rw [if_pos named.1, if_pos named.2, ← ih ('$' :: pending)]
        rfl
      · have same : sourceCharacter head = head := if_neg dollar
        rw [same]
        split
        case isTrue => rw [← ih (head :: pending), List.map_cons, same]
        case isFalse =>
          have cutRest := ih []
          rw [List.map_nil] at cutRest
          rw [cutRest]
          split
          case isTrue =>
            cases tokenize [] rest with
            | error problem => rfl
            | ok tokens =>
                exact congrArg Except.ok (closeName_map pending (.symbol head :: tokens))
          case isFalse =>
            split
            case isTrue =>
              cases tokenize [] rest with
              | error problem => rfl
              | ok tokens => exact congrArg Except.ok (closeName_map pending tokens)
            case isFalse => rfl

/-- The source form of a text is cut into the source forms of its tokens. -/
theorem tokens_sourceForm (text : String) :
    tokens (sourceForm text) = (tokens text).map (List.map Token.sourceForm) := by
  rw [tokens, toList_sourceForm]
  exact tokenize_map [] text.toList

end BusBridge.Java.TypeReference
