/-
This file proves when a type reference in binary form has a source form: each of its names must
stay a qualified name when its dollar signs are read as dots.
-/

import BusBridge.Proofs.Java.Grammar
import BusBridge.Proofs.Java.Token

namespace BusBridge.Java

mutual

def Reference.sourceForm : Reference → Reference
  | ⟨name, arguments, dimensions⟩ =>
      ⟨Java.sourceForm name, TypeArgument.sourceForms arguments, dimensions⟩

def TypeArgument.sourceForm : TypeArgument → TypeArgument
  | .wildcard => .wildcard
  | .bounded bound reference => .bounded bound reference.sourceForm
  | .plain reference => .plain reference.sourceForm

def TypeArgument.sourceForms : List TypeArgument → List TypeArgument
  | [] => []
  | argument :: rest => argument.sourceForm :: TypeArgument.sourceForms rest

end

namespace TypeReference

def Part.sourceForm : Part → Part
  | .reference result => .reference result.sourceForm
  | .plainArgument result => .plainArgument result.sourceForm
  | .argument result => .argument result.sourceForm
  | .arguments result => .arguments (TypeArgument.sourceForms result)

/-- The names of types in a text, as opposed to keywords and primitive types. -/
def typeNames (text : String) : List String :=
  match tokens text with
  | .error _ => []
  | .ok cut => cut.filterMap fun
      | .name name => if isQualifiedName name then some name else none
      | .symbol _ => none

/-- The names of a type are the qualified ones among its tokens. -/
theorem mem_typeNames {text : String} {cut : List Token} (read : tokens text = .ok cut)
    (name : String) :
    name ∈ typeNames text ↔ .name name ∈ cut ∧ isQualifiedName name = true := by
  simp only [typeNames, read, List.mem_filterMap]
  constructor
  · rintro ⟨token, member, named⟩
    cases token with
    | symbol character => cases named
    | name text =>
        simp only [Option.ite_none_right_eq_some, Option.some.injEq] at named
        obtain ⟨qualified, rfl⟩ := named
        exact ⟨member, qualified⟩
  · rintro ⟨member, qualified⟩
    exact ⟨.name name, member, by simp [qualified]⟩

/-- A primitive type is written as it is. -/
theorem sourceForm_of_isPrimitiveName {name : String} (primitive : isPrimitiveName name = true) :
    sourceForm name = name := by
  have same : ∀ name ∈ primitiveNames, sourceForm name = name := by decide
  exact same name (List.contains_iff_mem.1 primitive)

/-- Brackets are written as they are. -/
theorem brackets_sourceForm (count : Nat) :
    (brackets count).map Token.sourceForm = brackets count := by
  induction count with
  | zero => rfl
  | succ count ih => simp [brackets, Token.sourceForm, ih]

/-- The name of a reference is a primitive type or a qualified name. -/
theorem Derives.reference_name {result : Reference} {cut : List Token}
    (derived : Derives (.reference result) cut) :
    isPrimitiveName result.name = true ∨ isQualifiedName result.name = true := by
  cases derived with
  | primitive primitive => exact .inl primitive
  | named qualified | generic qualified => exact .inr qualified

/-- The source form of a class is no primitive type. -/
theorem isBarePrimitive_sourceForm {result : Reference} {cut : List Token}
    (derived : Derives (.reference result) cut) (boxed : result.isBarePrimitive = false)
    (kept : isQualifiedName result.name = true → isQualifiedName (sourceForm result.name) = true) :
    result.sourceForm.isBarePrimitive = false := by
  obtain ⟨name, arguments, dimensions⟩ := result
  rcases derived.reference_name with primitive | qualified
  · simpa [Reference.sourceForm, Reference.isBarePrimitive,
      sourceForm_of_isPrimitiveName primitive] using boxed
  · simp [Reference.sourceForm, Reference.isBarePrimitive,
      isPrimitiveName_of_isQualifiedName (kept qualified)]

/-- The source form of a part means the source form of what the part means. -/
theorem Derives.sourceForm {part : Part} {cut : List Token} (derived : Derives part cut)
    (kept : ∀ name, .name name ∈ cut → isQualifiedName name = true →
      isQualifiedName (sourceForm name) = true) :
    Derives part.sourceForm (cut.map Token.sourceForm) := by
  induction derived with
  | @primitive name primitive count =>
      have whole := Derives.primitive primitive count
      simpa [Part.sourceForm, Reference.sourceForm, TypeArgument.sourceForms, Token.sourceForm,
        brackets_sourceForm, sourceForm_of_isPrimitiveName primitive] using whole
  | @named name qualified count =>
      have whole := Derives.named (kept name (by simp) qualified) count
      simpa [Part.sourceForm, Reference.sourceForm, TypeArgument.sourceForms, Token.sourceForm,
        brackets_sourceForm] using whole
  | @generic name qualified arguments inner given count ih =>
      have filled := ih fun name member => kept name (by simp [member])
      have whole := Derives.generic (kept name (by simp) qualified) filled count
      simpa [Part.sourceForm, Reference.sourceForm, Token.sourceForm, brackets_sourceForm]
        using whole
  | @plainArgument result cut derived boxed ih =>
      refine .plainArgument (ih kept) (isBarePrimitive_sourceForm derived boxed ?_)
      obtain ⟨others, rfl⟩ := derived.reference_eq
      exact kept result.name (by simp)
  | wildcard => exact .wildcard
  | @bounded bound result cut derived ih =>
      have whole := Derives.bounded bound (ih fun name member => kept name (by simp [member]))
      have keyword : Java.sourceForm bound.keyword = bound.keyword := by
        cases bound <;> decide
      simpa [Part.sourceForm, TypeArgument.sourceForm, Token.sourceForm, keyword] using whole
  | plain derived ih => exact .plain (ih kept)
  | last derived ih => exact .last (ih kept)
  | more derived others ih ihOthers =>
      have first := ih fun name member => kept name (by simp [member])
      have rest := ihOthers fun name member => kept name (by simp [member])
      have whole := Derives.more first rest
      simpa [Part.sourceForm, TypeArgument.sourceForms, Token.sourceForm] using whole

/-- No name is among brackets. -/
theorem not_name_mem_brackets (count : Nat) (name : String) : .name name ∉ brackets count := by
  induction count with
  | zero => simp [brackets]
  | succ count ih => simpa [brackets] using ih

/-- The words that a type reference may hold besides qualified names. -/
def referenceWords : List String :=
  "void" :: "extends" :: "super" :: primitiveNames

/-- A primitive type is a word of references. -/
theorem mem_referenceWords {name : String} (primitive : isPrimitiveName name = true) :
    name ∈ referenceWords := by
  simp [referenceWords, List.contains_iff_mem.1 primitive]

/-- A name in a reference is a word of references or qualified. -/
theorem Derives.name_mem {part : Part} {cut : List Token} (derived : Derives part cut)
    {name : String} (member : .name name ∈ cut) :
    name ∈ referenceWords ∨ isQualifiedName name = true := by
  induction derived with
  | primitive primitive count =>
      simp only [List.mem_cons, Token.name.injEq, not_name_mem_brackets, or_false] at member
      exact .inl (member ▸ mem_referenceWords primitive)
  | named qualified count =>
      simp only [List.mem_cons, Token.name.injEq, not_name_mem_brackets, or_false] at member
      exact .inr (member ▸ qualified)
  | generic qualified given count ih =>
      simp only [List.mem_cons, Token.name.injEq, List.mem_append, reduceCtorEq,
        not_name_mem_brackets, or_false, false_or] at member
      rcases member with rfl | inside
      · exact .inr qualified
      · exact ih inside
  | wildcard => simp at member
  | bounded bound derived ih =>
      simp only [List.mem_cons, Token.name.injEq, reduceCtorEq, false_or] at member
      rcases member with rfl | inside
      · cases bound <;> exact .inl (by decide)
      · exact ih inside
  | plainArgument derived boxed ih => exact ih member
  | plain derived ih => exact ih member
  | last derived ih => exact ih member
  | more derived others ih ihOthers =>
      simp only [List.mem_append, List.mem_cons, reduceCtorEq, false_or] at member
      exact member.elim ih ihOthers

/-- A text without a dot in its source form had no dollar sign to lose. -/
theorem sourceForm_eq_self {name : String} (plain : '.' ∉ (Java.sourceForm name).toList) :
    Java.sourceForm name = name := by
  rw [← String.toList_inj, toList_sourceForm]
  rw [toList_sourceForm] at plain
  have same : ∀ character ∈ name.toList, sourceCharacter character = character := by
    intro character member
    refine if_neg fun dollar => plain ?_
    exact List.mem_map.2 ⟨character, member, if_pos dollar⟩
  rw [List.map_congr_left same]
  exact List.map_id' name.toList

/-- The source form of a qualified name is no word of references. -/
theorem isQualifiedName_of_sourceForm {name : String} (qualified : isQualifiedName name = true)
    (allowed : Java.sourceForm name ∈ referenceWords ∨
      isQualifiedName (Java.sourceForm name) = true) :
    isQualifiedName (Java.sourceForm name) = true := by
  refine allowed.resolve_left fun word => ?_
  have words : ∀ word ∈ referenceWords, '.' ∉ word.toList ∧ isQualifiedName word = false := by
    decide
  have same := sourceForm_eq_self (words _ word).1
  have refused := (words _ word).2
  rw [same, qualified] at refused
  contradiction

/-- A type reference has a source form exactly when each of its names has one. -/
theorem isTypeReference_sourceForm_iff {text : String} (binary : isTypeReference text = true) :
    isTypeReference (Java.sourceForm text) = true ↔
      ∀ name ∈ typeNames text, isQualifiedName (Java.sourceForm name) = true := by
  obtain ⟨cut, read, derived⟩ := (isTypeReference_iff text).1 binary
  have source : tokens (Java.sourceForm text) = .ok (cut.map Token.sourceForm) := by
    rw [tokens_sourceForm, read]
    rfl
  constructor
  · intro accepted name member
    obtain ⟨inside, qualified⟩ := (mem_typeNames read name).1 member
    refine isQualifiedName_of_sourceForm qualified ?_
    obtain ⟨others, readSource, derivedSource⟩ := (isTypeReference_iff _).1 accepted
    obtain rfl := Except.ok.inj (source.symm.trans readSource)
    have moved : Token.name (Java.sourceForm name) ∈ cut.map Token.sourceForm :=
      List.mem_map.2 ⟨.name name, inside, rfl⟩
    rcases derivedSource with alone | ⟨result, derivedSource⟩
    · rw [alone, List.mem_singleton, Token.name.injEq] at moved
      rw [moved]
      exact .inl (by decide)
    · exact derivedSource.name_mem moved
  · intro kept
    refine (isTypeReference_iff _).2 ⟨_, source, ?_⟩
    rcases derived with rfl | ⟨result, derived⟩
    · exact .inl (by decide)
    · exact .inr ⟨result.sourceForm, derived.sourceForm fun name inside qualified =>
        kept name ((mem_typeNames read name).2 ⟨inside, qualified⟩)⟩

/-- A primitive type is a type reference. -/
theorem isTypeReference_of_isPrimitiveName {name : String}
    (primitive : isPrimitiveName name = true) : isTypeReference name = true := by
  have read : ∀ name ∈ primitiveNames, tokens name = .ok [.name name] := by
    intro name member
    simp only [primitiveNames, List.mem_cons, List.not_mem_nil, or_false] at member
    rcases member with rfl | rfl | rfl | rfl | rfl | rfl | rfl | rfl <;> rfl
  exact (isTypeReference_iff name).2
    ⟨_, read name (List.contains_iff_mem.1 primitive), .inr ⟨_, .primitive primitive 0⟩⟩

/-- A qualified name by itself is a type reference. -/
theorem isTypeReference_of_isQualifiedName {name : String}
    (qualified : isQualifiedName name = true) : isTypeReference name = true := by
  have read : tokens name = .ok [.name name] := by
    have run := tokenize_append (continuesName_of_isQualifiedName qualified) [] []
    obtain ⟨first, rest, split, -⟩ := cons_of_isQualifiedName qualified
    rw [List.append_nil, List.append_nil] at run
    rw [tokens, run, tokenize, closeName, if_neg (by simp [split])]
    simp
  exact (isTypeReference_iff name).2 ⟨_, read, .inr ⟨_, .named qualified 0⟩⟩

end TypeReference

end BusBridge.Java
