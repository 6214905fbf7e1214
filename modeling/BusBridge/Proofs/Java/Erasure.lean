/-
This file proves what the erasure of a type reference is: its leading name and its brackets.
-/

import BusBridge.Java.DeclaredType
import BusBridge.Proofs.Java.SourceForm

namespace BusBridge.Java

namespace TypeReference

/-- The characters that a token was read from. -/
def Token.spelling : Token → List Char
  | .name text => text.toList
  | .symbol character => [character]

/-- The tokens outside all argument lists, with the number of lists that are open. -/
def eraseTokens (depth : Nat) : List Token → List Token
  | [] => []
  | .symbol '<' :: rest => eraseTokens (depth + 1) rest
  | .symbol '>' :: rest => eraseTokens (depth - 1) rest
  | token :: rest =>
      if depth = 0 then token :: eraseTokens depth rest else eraseTokens depth rest

attribute [local simp] eraseTokens

/-- A name is kept outside of type arguments. -/
theorem eraseTokens_name (depth : Nat) (name : String) (rest : List Token) :
    eraseTokens depth (.name name :: rest) =
      if depth = 0 then .name name :: eraseTokens depth rest else eraseTokens depth rest := by
  rw [eraseTokens]
  all_goals simp

/-- A symbol is kept outside of type arguments. -/
theorem eraseTokens_symbol {character : Char} (opening : character ≠ '<')
    (closing : character ≠ '>') (depth : Nat) (rest : List Token) :
    eraseTokens depth (.symbol character :: rest) =
      if depth = 0 then .symbol character :: eraseTokens depth rest
      else eraseTokens depth rest := by
  rw [eraseTokens]
  · simpa using opening
  · simpa using closing

/-- The brackets of type arguments are dropped. -/
theorem eraseTokens_brackets (depth count : Nat) (rest : List Token) :
    eraseTokens (depth + 1) (brackets count ++ rest) = eraseTokens (depth + 1) rest := by
  induction count with
  | zero => rfl
  | succ count ih => simpa [brackets] using ih

/-- Inside an argument list nothing is kept, and the list is closed where it was opened. -/
theorem Derives.eraseTokens_append {part : Part} {cut : List Token} (derived : Derives part cut)
    (depth : Nat) (rest : List Token) :
    eraseTokens (depth + 1) (cut ++ rest) = eraseTokens (depth + 1) rest := by
  induction derived generalizing depth rest with
  | primitive primitive count =>
      simpa [eraseTokens_name] using eraseTokens_brackets depth count rest
  | named qualified count =>
      simpa [eraseTokens_name] using eraseTokens_brackets depth count rest
  | generic qualified given count ih =>
      simp [ih, eraseTokens_brackets]
  | wildcard => simp
  | bounded bound derived ih => simp [ih]
  | plainArgument derived boxed ih => exact ih depth rest
  | plain derived ih => exact ih depth rest
  | last derived ih => exact ih depth rest
  | more derived others ih ihOthers => simp [ih, ihOthers]

/-- The brackets of the reference itself are kept. -/
theorem eraseTokens_zero_brackets (count : Nat) :
    eraseTokens 0 (brackets count) = brackets count := by
  induction count with
  | zero => rfl
  | succ count ih => simp [brackets, ih]

/-- A reference keeps its leading name and its own brackets. -/
theorem Derives.eraseTokens_reference {result : Reference} {cut : List Token}
    (derived : Derives (.reference result) cut) :
    eraseTokens 0 cut = .name result.name :: brackets result.dimensions := by
  cases derived with
  | primitive | named => simp [eraseTokens_zero_brackets]
  | generic qualified given count =>
      simp [given.eraseTokens_append, eraseTokens_zero_brackets]

/-- A name that is held back is spelled before what follows. -/
theorem spelling_closeName (depth : Nat) (pending : List Char) (cut : List Token) :
    (eraseTokens depth (closeName pending cut)).flatMap Token.spelling =
      (if depth = 0 then pending.reverse else []) ++
        (eraseTokens depth cut).flatMap Token.spelling := by
  cases pending with
  | nil => simp [closeName]
  | cons head rest =>
      simp only [closeName, List.isEmpty_cons, Bool.false_eq_true, if_false, eraseTokens_name]
      split <;> simp [Token.spelling]

/-- A visible character is kept outside of type arguments. -/
theorem eraseArguments_cons {character : Char} (opening : character ≠ '<')
    (closing : character ≠ '>') (depth : Nat) (rest : List Char) :
    DeclaredType.eraseArguments depth (character :: rest) =
      if depth = 0 && !Character.isBlank character then
        character :: DeclaredType.eraseArguments depth rest
      else DeclaredType.eraseArguments depth rest := by
  rw [DeclaredType.eraseArguments]
  · exact opening
  · exact closing

/-- Characters and tokens are erased alike. -/
theorem spelling_eraseTokens {pending characters : List Char} {cut : List Token} (depth : Nat)
    (read : tokenize pending characters = .ok cut) :
    (eraseTokens depth cut).flatMap Token.spelling =
      (if depth = 0 then pending.reverse else []) ++
        DeclaredType.eraseArguments depth characters := by
  induction characters generalizing pending cut depth with
  | nil =>
      cases read
      rw [spelling_closeName]
      rfl
  | cons head rest ih =>
      rw [tokenize] at read
      split at read
      case isTrue named =>
        have visible := isBlank_eq_false_of_continuesName named
        have plain : head ≠ '<' ∧ head ≠ '>' := by
          constructor <;> rintro rfl <;> exact absurd named (by decide)
        rw [ih depth read, eraseArguments_cons plain.1 plain.2, visible]
        by_cases outside : depth = 0 <;> simp [outside]
      case isFalse =>
        split at read
        case isTrue symbol =>
          obtain ⟨others, readRest, rfl⟩ := map_eq_ok_iff.1 read
          rw [spelling_closeName]
          congr 1
          -- An opening bracket goes one deeper, a closing one goes back, and other symbols do neither.
          simp only [symbols, List.contains_eq_mem, decide_eq_true_eq, List.mem_cons,
            List.not_mem_nil, or_false] at symbol
          rcases symbol with rfl | rfl | other
          · simpa [eraseTokens, DeclaredType.eraseArguments] using ih (depth + 1) readRest
          · simpa [eraseTokens, DeclaredType.eraseArguments] using ih (depth - 1) readRest
          · have plain : head ≠ '<' ∧ head ≠ '>' ∧ Character.isBlank head = false := by
              rcases other with rfl | rfl | rfl | rfl <;> decide
            rw [eraseTokens_symbol plain.1 plain.2.1, eraseArguments_cons plain.1 plain.2.1,
              plain.2.2]
            by_cases outside : depth = 0
            · subst outside
              simpa [Token.spelling] using ih 0 readRest
            · simpa [outside] using ih depth readRest
        case isFalse =>
          split at read
          case isTrue blank =>
            obtain ⟨others, readRest, rfl⟩ := map_eq_ok_iff.1 read
            have plain : head ≠ '<' ∧ head ≠ '>' := by
              constructor <;> rintro rfl <;> exact absurd blank (by decide)
            rw [spelling_closeName, eraseArguments_cons plain.1 plain.2, blank, ih depth readRest]
            simp
          case isFalse => cases read

/-- Brackets end a name that is held back. -/
theorem tokenize_brackets (pending : List Char) (count : Nat) :
    tokenize pending ((brackets count).flatMap Token.spelling) =
      .ok (closeName pending (brackets count)) := by
  have bracket : ∀ character, character = '[' ∨ character = ']' →
      continuesName character = false ∧ symbols.contains character = true := by
    rintro _ (rfl | rfl) <;> decide
  induction count generalizing pending with
  | zero => rfl
  | succ count ih =>
      have opening := bracket '[' (.inl rfl)
      have closing := bracket ']' (.inr rfl)
      simp only [brackets, List.flatMap_cons, Token.spelling, List.cons_append, List.nil_append]
      rw [tokenize, if_neg (by simp [opening.1]), if_pos opening.2, tokenize,
        if_neg (by simp [closing.1]), if_pos closing.2, ih]
      rfl

/-- The erasure is read as the leading name with its brackets. -/
theorem tokens_spelling {name : String} (run : (Token.name name).IsRun) (count : Nat) :
    tokens (String.ofList ((Token.name name :: brackets count).flatMap Token.spelling)) =
      .ok (.name name :: brackets count) := by
  have read := tokenize_append run.2 [] ((brackets count).flatMap Token.spelling)
  rw [tokenize_brackets, List.append_nil, closeName, if_neg (by simpa using run.1)] at read
  simpa [tokens, Token.spelling] using read

/-- The erasure of a text spells the tokens that are kept. -/
theorem toList_erasure {type : DeclaredType} {cut : List Token}
    (read : tokens type.name = .ok cut) :
    type.erasure.toList = (eraseTokens 0 cut).flatMap Token.spelling := by
  rw [spelling_eraseTokens 0 read]
  simp [DeclaredType.erasure]

/-- The erasure of a type reference is a type reference. -/
theorem isTypeReference_erasure {type : DeclaredType}
    (accepted : isTypeReference type.name = true) : isTypeReference type.erasure = true := by
  obtain ⟨cut, read, derived⟩ := (isTypeReference_iff _).1 accepted
  have spelled := toList_erasure read
  rcases derived with rfl | ⟨result, derived⟩
  · have alone : type.erasure = "void" := String.toList_inj.1 spelled
    rw [alone]
    decide
  · have run : (Token.name result.name).IsRun := by
      obtain ⟨others, rfl⟩ := derived.reference_eq
      exact isRun_of_tokens read _ (List.mem_cons_self ..)
    rw [derived.eraseTokens_reference, ← String.toList_ofList
      (l := (Token.name result.name :: brackets result.dimensions).flatMap Token.spelling),
      String.toList_inj] at spelled
    refine (isTypeReference_iff _).2 ⟨_, spelled ▸ tokens_spelling run result.dimensions, .inr ?_⟩
    rcases derived.reference_name with primitive | qualified
    · exact ⟨_, .primitive primitive result.dimensions⟩
    · exact ⟨_, .named qualified result.dimensions⟩

end TypeReference

namespace DeclaredType

open TypeReference (sourceCharacter)

/-- An erasure leaves characters out and adds none. -/
theorem eraseArguments_sublist (depth : Nat) (characters : List Char) :
    (eraseArguments depth characters).Sublist characters := by
  fun_induction eraseArguments depth characters with
  | case1 => exact .slnil
  | case2 depth rest ih => exact ih.cons '<'
  | case3 depth rest ih => exact ih.cons '>'
  | case4 depth character rest _ _ _ ih => exact ih.cons_cons character
  | case5 depth character rest _ _ _ ih => exact ih.cons character

/-- A dollar sign and a dot are kept alike. -/
theorem eraseArguments_map (depth : Nat) (characters : List Char) :
    eraseArguments depth (characters.map sourceCharacter) =
      (eraseArguments depth characters).map sourceCharacter := by
  induction characters generalizing depth with
  | nil => rfl
  | cons head rest ih =>
      by_cases opening : head = '<'
      · subst opening
        exact ih (depth + 1)
      by_cases closing : head = '>'
      · subst closing
        exact ih (depth - 1)
      have alike : sourceCharacter head ≠ '<' ∧ sourceCharacter head ≠ '>' ∧
          Character.isBlank (sourceCharacter head) = Character.isBlank head := by
        by_cases dollar : head = '$'
        · subst dollar
          decide
        · rw [sourceCharacter, if_neg dollar]
          exact ⟨opening, closing, rfl⟩
      rw [List.map_cons, TypeReference.eraseArguments_cons alike.1 alike.2.1,
        TypeReference.eraseArguments_cons opening closing, alike.2.2, ih]
      split <;> rfl

/-- The source form of an erasure is the erasure of the source form. -/
theorem sourceErasure_eq (type : DeclaredType) :
    type.sourceErasure = (DeclaredType.mk type.sourceName).erasure := by
  rw [← String.toList_inj]
  simp [sourceErasure, erasure, sourceName, TypeReference.toList_sourceForm, eraseArguments_map]

end DeclaredType

end BusBridge.Java
