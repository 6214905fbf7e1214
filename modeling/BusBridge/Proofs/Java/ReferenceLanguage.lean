/-
This file proves which texts are type references: those that consist of names, symbols and white
space, and whose names and symbols the grammar derives.
-/

import BusBridge.Proofs.Java.Grammar
import BusBridge.Proofs.Java.Token

namespace BusBridge.Java.TypeReference

/-- Tokens spell a text that holds their characters in order and white space besides. A name has
all the name characters that stand together. -/
inductive Spells : List Token → List Char → Prop where
  | nothing : Spells [] []
  | blank {character : Char} {cut : List Token} {rest : List Char}
      (blank : Character.isBlank character = true) (spelled : Spells cut rest) :
      Spells cut (character :: rest)
  | symbol {character : Char} {cut : List Token} {rest : List Char}
      (known : character ∈ symbols) (spelled : Spells cut rest) :
      Spells (.symbol character :: cut) (character :: rest)
  | name {run rest : List Char} {cut : List Token} (filled : run ≠ [])
      (continues : ∀ character ∈ run, continuesName character = true)
      (ends : ∀ character ∈ rest.head?, continuesName character = false)
      (spelled : Spells cut rest) : Spells (.name (String.ofList run) :: cut) (run ++ rest)

/-- The language of type references. -/
def IsReferenceText (text : String) : Prop :=
  ∃ cut, Spells cut text.toList ∧ IsReferenceTokens cut

/-- A text that is cut into tokens has no other characters. -/
theorem Spells.character_mem {cut : List Token} {characters : List Char}
    (spelled : Spells cut characters) {character : Char} (member : character ∈ characters) :
    continuesName character = true ∨ character ∈ symbols ∨
      Character.isBlank character = true := by
  induction spelled with
  | nothing => cases member
  | blank blank spelled ih =>
      rcases List.mem_cons.1 member with rfl | member
      · exact .inr (.inr blank)
      · exact ih member
  | symbol known spelled ih =>
      rcases List.mem_cons.1 member with rfl | member
      · exact .inr (.inl known)
      · exact ih member
  | name filled continues ends spelled ih =>
      rcases List.mem_append.1 member with member | member
      · exact .inl (continues _ member)
      · exact ih member

theorem continuesName_of_isBlank {character : Char} (blank : Character.isBlank character = true) :
    continuesName character = false := by
  refine Bool.eq_false_iff.2 fun continues => ?_
  rw [isBlank_eq_false_of_continuesName continues] at blank
  contradiction

theorem continuesName_of_mem_symbols {character : Char} (known : character ∈ symbols) :
    continuesName character = false := by
  have all : symbols.all (fun character => !continuesName character) = true := by decide
  simpa using List.all_eq_true.1 all character known

theorem not_mem_symbols_of_isBlank {character : Char}
    (blank : Character.isBlank character = true) : character ∉ symbols := by
  have all : symbols.all (fun character => !Character.isBlank character) = true := by decide
  intro known
  have other := List.all_eq_true.1 all character known
  rw [blank] at other
  contradiction

/-- The pending characters become a name before anything else is read. -/
theorem tokenize_pending (pending : List Char) {rest : List Char}
    (ends : ∀ character ∈ rest.head?, continuesName character = false) :
    tokenize pending rest = (tokenize [] rest).map (closeName pending) := by
  cases rest with
  | nil => rfl
  | cons head tail =>
      have other : continuesName head = false := ends head rfl
      simp only [tokenize, other, Bool.false_eq_true, if_false]
      split
      case isTrue => cases tokenize [] tail <;> rfl
      case isFalse =>
        split
        case isTrue => cases tokenize [] tail <;> rfl
        case isFalse => rfl

theorem Spells.tokenize_eq {cut : List Token} {characters : List Char}
    (spelled : Spells cut characters) : tokenize [] characters = .ok cut := by
  induction spelled with
  | nothing => rfl
  | blank blank spelled ih =>
      rw [tokenize, if_neg (by simp [continuesName_of_isBlank blank]),
        if_neg (by simpa using not_mem_symbols_of_isBlank blank), if_pos blank, ih]
      rfl
  | symbol known spelled ih =>
      rw [tokenize, if_neg (by simp [continuesName_of_mem_symbols known]),
        if_pos (by simpa using known), ih]
      rfl
  | @name run rest cut filled continues ends spelled ih =>
      rw [tokenize_append continues, tokenize_pending _ ends, ih, Except.map, closeName,
        if_neg (by simpa using filled)]
      simp

theorem Spells.closeName {pending rest : List Char} {cut : List Token}
    (continues : ∀ character ∈ pending, continuesName character = true)
    (ends : ∀ character ∈ rest.head?, continuesName character = false)
    (spelled : Spells cut rest) : Spells (closeName pending cut) (pending.reverse ++ rest) := by
  unfold TypeReference.closeName
  split
  case isTrue empty => simpa [List.isEmpty_iff.1 empty] using spelled
  case isFalse filled =>
    exact .name (by simpa using filled) (by simpa using continues) ends spelled

theorem spells_of_tokenize {pending characters : List Char} {cut : List Token}
    (continues : ∀ character ∈ pending, continuesName character = true)
    (read : tokenize pending characters = .ok cut) :
    Spells cut (pending.reverse ++ characters) := by
  induction characters generalizing pending cut with
  | nil =>
      cases read
      exact Spells.closeName continues (by simp) .nothing
  | cons head rest ih =>
      rw [tokenize] at read
      split at read
      case isTrue named => simpa using ih (by simpa [named] using continues) read
      case isFalse other =>
        have ends : ∀ character ∈ (head :: rest).head?, continuesName character = false := by
          simpa using other
        split at read
        case isTrue known =>
          obtain ⟨others, readRest, rfl⟩ := map_eq_ok_iff.1 read
          have spelled : Spells others rest := ih (by simp) readRest
          exact (Spells.symbol (by simpa using known) spelled).closeName continues ends
        case isFalse =>
          split at read
          case isTrue blank =>
            obtain ⟨others, readRest, rfl⟩ := map_eq_ok_iff.1 read
            have spelled : Spells others rest := ih (by simp) readRest
            exact (Spells.blank blank spelled).closeName continues ends
          case isFalse => cases read

/-- A text is cut into the tokens that spell it, and no others spell it. -/
theorem tokens_eq_ok_iff (text : String) (cut : List Token) :
    tokens text = .ok cut ↔ Spells cut text.toList :=
  ⟨fun read => spells_of_tokenize (by simp) read, Spells.tokenize_eq⟩

/-- A text has no problem exactly when it belongs to the language. -/
theorem no_problem_iff_isReferenceText (text : String) :
    problem? text = none ↔ IsReferenceText text := by
  have accepted := isTypeReference_iff text
  simp only [tokens_eq_ok_iff] at accepted
  rw [IsReferenceText, ← accepted, isTypeReference, Option.isNone_iff_eq_none]

end BusBridge.Java.TypeReference
