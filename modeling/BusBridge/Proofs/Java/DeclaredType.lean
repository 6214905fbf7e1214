/-
This file proves that a declared type is classified as it is read: its erasure, its element, and
whether it is `void`, a primitive type or a reference type all follow from how the reader of type
references takes its text apart.
-/

import BusBridge.Java.ValueType
import BusBridge.Proofs.Java.Erasure
import BusBridge.Proofs.Java.ReferenceLanguage
import BusBridge.Proofs.Text.Basic

namespace BusBridge.Java

namespace TypeReference

def leadingName : TypeReference → String
  | .void => "void"
  | .value reference => reference.name

/-- The brackets of the reference itself, without those of its type arguments. -/
def dimensions : TypeReference → Nat
  | .void => 0
  | .value reference => reference.dimensions

def isBarePrimitive : TypeReference → Bool
  | .void => false
  | .value reference => reference.isBarePrimitive

/-- The tokens from which a reading comes. -/
def IsReadFrom : TypeReference → List Token → Prop
  | .void, cut => cut = [.name "void"]
  | .value reference, cut => Derives (.reference reference) cut

/-- A reading comes from the tokens that were read. -/
theorem isReadFrom_of_ofTokens {cut : List Token} {reading : TypeReference}
    (read : ofTokens cut = .ok reading) : reading.IsReadFrom cut := by
  unfold ofTokens at read
  split at read
  case isTrue alone =>
    cases read
    exact alone
  case isFalse =>
    obtain ⟨⟨reference, remaining⟩, inner, same⟩ := bind_eq_ok_iff.1 read
    cases remaining with
    | cons token others => cases same
    | nil =>
        cases same
        obtain ⟨front, whole, derived⟩ := (Part.isSound _).1 cut reference [] inner
        rw [whole, List.append_nil]
        exact derived

/-- A text without a problem has a reading, which comes from the tokens of the text. -/
theorem exists_reading {text : String} (accepted : problem? text = none) :
    ∃ reading cut, parse text = .ok reading ∧ tokens text = .ok cut ∧ reading.IsReadFrom cut := by
  unfold problem? at accepted
  split at accepted
  case h_2 => cases accepted
  case h_1 reading parsed =>
    obtain ⟨cut, read, given⟩ := bind_eq_ok_iff.1 parsed
    exact ⟨reading, cut, parsed, read, isReadFrom_of_ofTokens given⟩

variable {reading : TypeReference} {cut : List Token}

/-- The tokens of a reading start with its leading name. -/
theorem IsReadFrom.name_eq (given : reading.IsReadFrom cut) :
    ∃ others, cut = .name reading.leadingName :: others := by
  cases reading with
  | void => exact ⟨[], given⟩
  | value reference => exact Derives.reference_eq given

/-- Without type arguments, the leading name and its brackets are left. -/
theorem IsReadFrom.eraseTokens (given : reading.IsReadFrom cut) :
    eraseTokens 0 cut = .name reading.leadingName :: brackets reading.dimensions := by
  cases reading with
  | void =>
      rw [show cut = [.name "void"] from given]
      rfl
  | value reference => exact Derives.eraseTokens_reference given

/-- A single name is read as `void` exactly when it is that word. -/
theorem IsReadFrom.eq_void_iff (given : reading.IsReadFrom cut) :
    reading = .void ↔ cut = [.name "void"] := by
  cases reading with
  | void => exact iff_of_true rfl given
  | value reference =>
      refine iff_of_false (by simp) fun alone => ?_
      subst alone
      have named := (Derives.reference_name given).symm
      obtain ⟨others, same⟩ := Derives.reference_eq given
      rw [← (Token.name.inj (List.cons.inj same).1)] at named
      exact absurd named (by decide)

/-- A reading is a bare primitive exactly when its tokens are one primitive name. -/
theorem IsReadFrom.isBarePrimitive_iff (given : reading.IsReadFrom cut) :
    reading.isBarePrimitive = true ↔
      ∃ name, isPrimitiveName name = true ∧ cut = [.name name] := by
  cases reading with
  | void =>
      rw [show cut = [.name "void"] from given]
      refine iff_of_false (by simp [isBarePrimitive]) ?_
      rintro ⟨name, primitive, alone⟩
      rw [← Token.name.inj (List.cons.inj alone).1] at primitive
      exact absurd primitive (by decide)
  | value reference =>
      simp only [isBarePrimitive, Reference.isBarePrimitive, Bool.and_eq_true, beq_iff_eq]
      cases given with
      | primitive primitive count => cases count <;> simp [primitive, brackets]
      | named qualified count =>
          have other := isPrimitiveName_of_isQualifiedName qualified
          cases count <;> simp [other, brackets]
      | generic qualified => simp [isPrimitiveName_of_isQualifiedName qualified]

/-- Without tokens there is only white space. -/
theorem Spells.isBlank_of_nil {characters : List Char} (spelled : Spells [] characters) :
    ∀ character ∈ characters, Character.isBlank character = true := by
  induction characters with
  | nil => simp
  | cons head rest ih =>
      cases spelled with
      | blank blank spelled => exact List.forall_mem_cons.2 ⟨blank, ih spelled⟩

/-- A trimmed text that is cut into one name is that name. -/
theorem tokens_trim_eq_name_iff {text name : String} (run : (Token.name name).IsRun) :
    tokens (Text.trim text) = .ok [.name name] ↔ Text.trim text = name := by
  constructor
  · intro read
    have spelled := (tokens_eq_ok_iff _ _).1 read
    have first := Text.isBlank_head?_trim text
    have last := Text.isBlank_getLast?_trim text
    rw [← String.toList_inj]
    generalize (Text.trim text).toList = characters at spelled first last
    cases spelled with
    | blank blank _ =>
        rw [first _ rfl] at blank
        cases blank
    | @name letters rest _ _ _ _ spelled =>
        have blanks := spelled.isBlank_of_nil
        cases rest using List.reverseRecOn with
        | nil => simp
        | append_singleton before character =>
            have blank := blanks character (by simp)
            rw [last character (by simp)] at blank
            cases blank
  · rintro rfl
    have read := tokenize_append run.2 [] []
    rw [List.append_nil, List.append_nil, tokenize, closeName,
      if_neg (by simpa using run.1)] at read
    simpa [tokens] using read

/-- Brackets are spelled in pairs. -/
theorem flatMap_spelling_brackets (count : Nat) :
    (brackets count).flatMap Token.spelling = (List.replicate count ['[', ']']).flatten := by
  induction count with
  | zero => rfl
  | succ count ih => simp [brackets, Token.spelling, ih, List.replicate_succ]

end TypeReference

/-- Exactly the primitive types and void have a wrapper class. -/
theorem isSome_wrapperClass?_iff (name : String) :
    (wrapperClass? name).isSome = true ↔ isPrimitiveName name = true ∨ name = "void" := by
  unfold wrapperClass?
  split <;> simp_all [isPrimitiveName, primitiveNames]

/-- A type that is neither void nor primitive starts with null. -/
theorem ValueType.initial?_eq_null {type : ValueType} (void : type.declared ≠ "void")
    (primitive : isPrimitiveName type.declared = false) : type.initial? = some .null := by
  unfold initial?
  split <;> simp_all [isPrimitiveName, primitiveNames]

namespace DeclaredType

open TypeReference (Token brackets tokens)

/-- All pairs of brackets at the end are dropped. -/
theorem dropBrackets_replicate (count : Nat) (rest : List Char) :
    dropBrackets ((List.replicate count [']', '[']).flatten ++ rest) = dropBrackets rest := by
  induction count with
  | zero => rfl
  | succ count ih => exact ih

/-- Nothing is dropped where no bracket closes. -/
theorem dropBrackets_of_head {characters : List Char} (other : characters.head? ≠ some ']') :
    dropBrackets characters = characters := by
  unfold dropBrackets
  split
  · simp at other
  · rfl

/-- The name that a reading starts with is a run of name characters. -/
theorem isRun_leadingName {text : String} {reading : TypeReference} {cut : List Token}
    (read : tokens text = .ok cut) (given : reading.IsReadFrom cut) :
    (Token.name reading.leadingName).IsRun := by
  obtain ⟨others, rfl⟩ := given.name_eq
  exact TypeReference.isRun_of_tokens read _ (List.mem_cons_self ..)

variable {type : DeclaredType} {reading : TypeReference} {cut : List Token}

/-- The erasure is spelled as the leading name and its brackets. -/
theorem toList_erasure_eq (read : tokens type.name = .ok cut) (given : reading.IsReadFrom cut) :
    type.erasure.toList =
      reading.leadingName.toList ++ (List.replicate reading.dimensions ['[', ']']).flatten := by
  rw [TypeReference.toList_erasure read, given.eraseTokens, List.flatMap_cons,
    TypeReference.flatMap_spelling_brackets]
  rfl

/-- The erasure is the leading name and its brackets. -/
theorem erasure_eq (read : tokens type.name = .ok cut) (given : reading.IsReadFrom cut) :
    type.erasure =
      reading.leadingName ++ String.join (List.replicate reading.dimensions "[]") := by
  rw [← String.toList_inj, toList_erasure_eq read given, String.toList_append,
    String.toList_join]
  simp [List.flatMap_def]

/-- The element is named as the reference is. -/
theorem elementName_eq (read : tokens type.name = .ok cut) (given : reading.IsReadFrom cut) :
    type.elementName = reading.leadingName := by
  have run := isRun_leadingName read given
  have other : reading.leadingName.toList.reverse.head? ≠ some ']' := by
    rw [List.head?_reverse]
    intro last
    have continues := run.2 ']' (List.mem_of_getLast? last)
    exact absurd continues (by decide)
  rw [elementName, toList_erasure_eq read given, List.reverse_append, List.reverse_flatten]
  simp only [List.map_replicate, List.reverse_replicate]
  rw [show ['[', ']'].reverse = [']', '['] from rfl, dropBrackets_replicate,
    dropBrackets_of_head other]
  simp

/-- The words for simple types are runs of name characters. -/
theorem isRun_word {word : String} (member : word ∈ "void" :: primitiveNames) :
    (Token.name word).IsRun := by
  have runs : ("void" :: primitiveNames).all (fun word =>
      !word.toList.isEmpty && word.toList.all TypeReference.continuesName) = true := by
    decide
  have run := List.all_eq_true.1 runs word member
  rw [Bool.and_eq_true, Bool.not_eq_true', List.isEmpty_eq_false_iff, List.all_eq_true] at run
  exact run

/-- The declared type and its reading agree on void. -/
theorem isVoid_iff (text : String) {reading : TypeReference}
    (read : tokens (ofText text).name = .ok cut) (given : reading.IsReadFrom cut) :
    (ofText text).isVoid = true ↔ reading = .void := by
  have run : (Token.name "void").IsRun := isRun_word (List.mem_cons_self ..)
  rw [given.eq_void_iff, isVoid, beq_iff_eq]
  refine (TypeReference.tokens_trim_eq_name_iff run).symm.trans ?_
  rw [show tokens (Text.trim text) = .ok cut from read, Except.ok.injEq]

/-- The word void is read as it stands. -/
theorem parse_of_isVoid {text : String} (void : (ofText text).isVoid = true) :
    TypeReference.parse (ofText text).name = .ok .void := by
  rw [beq_iff_eq.1 void]
  rfl

/-- A text without a problem that is not `void` is read as the type of a value. -/
theorem parse_eq_value_iff (text : String) :
    (∃ reference, TypeReference.parse (ofText text).name = .ok (.value reference)) ↔
      (ofText text).isVoid = false ∧ (ofText text).problem? = none := by
  constructor
  · rintro ⟨reference, parsed⟩
    refine ⟨Bool.eq_false_iff.2 fun void => ?_, ?_⟩
    · rw [parse_of_isVoid void] at parsed
      cases parsed
    · rw [problem?, TypeReference.problem?, parsed]
  · rintro ⟨other, accepted⟩
    obtain ⟨reading, cut, parsed, read, given⟩ := TypeReference.exists_reading accepted
    cases reading with
    | void =>
        rw [(isVoid_iff text read given).2 rfl] at other
        cases other
    | value reference => exact ⟨reference, parsed⟩

/-- The declared type and its reading agree on primitive types. -/
theorem isPrimitive_iff (text : String) {reading : TypeReference}
    (read : tokens (ofText text).name = .ok cut) (given : reading.IsReadFrom cut) :
    (ofText text).isPrimitive = true ↔ reading.isBarePrimitive = true := by
  have alone (name : String) (primitive : isPrimitiveName name = true) :
      cut = [.name name] ↔ (ofText text).name = name := by
    have run := isRun_word (List.mem_cons_of_mem _ (List.contains_iff_mem.1 primitive))
    rw [← Except.ok.injEq (ε := TypeReference.Problem), ← read]
    exact TypeReference.tokens_trim_eq_name_iff run
  rw [given.isBarePrimitive_iff, isPrimitive]
  constructor
  · intro primitive
    exact ⟨_, primitive, (alone _ primitive).2 rfl⟩
  · rintro ⟨name, primitive, same⟩
    rw [(alone name primitive).1 same]
    exact primitive

/-- A class literal treats void like a primitive type. -/
theorem isPrimitive_ofDeclared_iff (type : DeclaredType) :
    (ValueType.ofDeclared type).isPrimitive = true ↔
      type.isPrimitive = true ∨ type.isVoid = true := by
  rw [isPrimitive, isVoid, beq_iff_eq, ← isSome_wrapperClass?_iff, ValueType.ofDeclared]
  split
  case h_1 wrapper wrapped => simp [wrapped]
  case h_2 unwrapped => simp [unwrapped]

/-- The wrapper class of void is a class of its own. -/
theorem ofDeclared_of_isVoid (void : type.isVoid = true) :
    ValueType.ofDeclared type = ⟨"void", "java.lang.Void", true⟩ := by
  rw [ValueType.ofDeclared, beq_iff_eq.1 void]
  rfl

/-- A type that is neither `void` nor a primitive is a reference, with `null` as its value. -/
theorem ofDeclared_of_reference (void : type.isVoid = false)
    (primitive : type.isPrimitive = false) :
    ValueType.ofDeclared type = ⟨type.sourceName, type.sourceErasure, false⟩ ∧
      (ValueType.ofDeclared type).initial? = some .null := by
  have words : ∀ word ∈ "void" :: primitiveNames, '.' ∉ word.toList := by decide
  have other : type.sourceName ∉ "void" :: primitiveNames := by
    intro word
    have same : type.sourceName = type.name := TypeReference.sourceForm_eq_self (words _ word)
    rw [same, List.mem_cons] at word
    rcases word with word | word
    · rw [isVoid, word] at void
      cases void
    · rw [isPrimitive, isPrimitiveName, List.contains_iff_mem.2 word] at primitive
      cases primitive
  have unwrapped : wrapperClass? type.name = none := by
    refine Option.not_isSome_iff_eq_none.1 fun wrapped => ?_
    rcases (isSome_wrapperClass?_iff type.name).1 wrapped with word | word
    · rw [isPrimitive, word] at primitive
      cases primitive
    · rw [isVoid, word] at void
      cases void
  have mapped : ValueType.ofDeclared type = ⟨type.sourceName, type.sourceErasure, false⟩ := by
    rw [ValueType.ofDeclared, unwrapped]
  rw [List.mem_cons, not_or] at other
  refine ⟨mapped, ?_⟩
  rw [mapped]
  exact ValueType.initial?_eq_null other.1 (by simpa [isPrimitiveName] using other.2)

/-- No white space and no mark of type arguments is left in an erasure. -/
theorem visible_erasure (read : tokens type.name = .ok cut) (given : reading.IsReadFrom cut) :
    ∀ character ∈ type.erasure.toList,
      Character.isBlank character = false ∧ character ∉ ['<', '>', ',', '?'] := by
  intro character member
  rw [toList_erasure_eq read given] at member
  rcases List.mem_append.1 member with named | bracket
  · have continues := (isRun_leadingName read given).2 character named
    refine ⟨TypeReference.isBlank_eq_false_of_continuesName continues, fun symbol => ?_⟩
    have other := TypeReference.continuesName_of_mem_symbols
      (show character ∈ TypeReference.symbols by
        simp only [TypeReference.symbols, List.mem_cons, List.not_mem_nil, or_false] at symbol ⊢
        tauto)
    rw [continues] at other
    cases other
  · obtain ⟨pair, inside, member⟩ := List.mem_flatten.1 bracket
    rw [List.eq_of_mem_replicate inside] at member
    simp only [List.mem_cons, List.not_mem_nil, or_false] at member
    rcases member with rfl | rfl <;> decide

/-- The erasure is cut into its name and its brackets, so it is its own erasure. -/
theorem erasure_erasure (read : tokens type.name = .ok cut) (given : reading.IsReadFrom cut) :
    (DeclaredType.mk type.erasure).erasure = type.erasure := by
  have cutAgain : tokens type.erasure =
      .ok (.name reading.leadingName :: brackets reading.dimensions) := by
    rw [← String.ofList_toList (s := type.erasure), TypeReference.toList_erasure read,
      given.eraseTokens]
    exact TypeReference.tokens_spelling (isRun_leadingName read given) reading.dimensions
  have erasedAgain : (DeclaredType.mk type.erasure).erasure.toList = _ :=
    TypeReference.toList_erasure cutAgain
  rw [← String.toList_inj, erasedAgain, TypeReference.eraseTokens_name, if_pos rfl,
    TypeReference.eraseTokens_zero_brackets, TypeReference.toList_erasure read,
    given.eraseTokens]

/-- What a declared type says of itself is what its reading says. -/
structure AgreesWith (type : DeclaredType) (reading : TypeReference) : Prop where
  erasure : type.erasure =
    reading.leadingName ++ String.join (List.replicate reading.dimensions "[]")
  plain : ∀ character ∈ type.erasure.toList,
    Character.isBlank character = false ∧ character ∉ ['<', '>', ',', '?']
  accepted : (ofText type.erasure).problem? = none
  erasedAgain : (ofText type.erasure).erasure = type.erasure
  elementName : type.elementName = reading.leadingName
  void : type.isVoid = true ↔ reading = .void
  primitive : type.isPrimitive = true ↔ reading.isBarePrimitive = true
  mapped : (ValueType.ofDeclared type).isPrimitive = true ↔
    reading.isBarePrimitive = true ∨ reading = .void
  wrapped : reading = .void → ValueType.ofDeclared type = ⟨"void", "java.lang.Void", true⟩
  array : 0 < reading.dimensions →
    ValueType.ofDeclared type = ⟨type.sourceName, type.sourceErasure, false⟩ ∧
      (ValueType.ofDeclared type).initial? = some .null

/-- Every type without a problem is classified as the reader of type references reads it. -/
theorem classified_as_read (text : String) (accepted : (ofText text).problem? = none) :
    ∃ reading, TypeReference.parse (ofText text).name = .ok reading ∧
      (ofText text).AgreesWith reading := by
  obtain ⟨reading, cut, parsed, read, given⟩ := TypeReference.exists_reading accepted
  have visible := visible_erasure read given
  have trimmed : ofText (ofText text).erasure = ⟨(ofText text).erasure⟩ :=
    congrArg DeclaredType.mk
      (Text.trim_eq_self fun character member => (visible character member).1)
  have void := isVoid_iff text read given
  have primitive := isPrimitive_iff text read given
  refine ⟨reading, parsed, ?_⟩
  constructor
  case erasure => exact erasure_eq read given
  case plain => exact visible
  case accepted =>
    rw [trimmed]
    exact Option.isNone_iff_eq_none.1
      (TypeReference.isTypeReference_erasure (Option.isNone_iff_eq_none.2 accepted))
  case erasedAgain =>
    rw [trimmed]
    exact erasure_erasure read given
  case elementName => exact elementName_eq read given
  case void => exact void
  case primitive => exact primitive
  case mapped =>
    rw [isPrimitive_ofDeclared_iff, primitive, void]
  case wrapped => exact fun alone => ofDeclared_of_isVoid (void.2 alone)
  case array =>
    intro bracketed
    apply ofDeclared_of_reference
    · refine Bool.eq_false_iff.2 fun alone => ?_
      rw [void.1 alone] at bracketed
      exact Nat.lt_irrefl 0 bracketed
    · refine Bool.eq_false_iff.2 fun alone => ?_
      have bare := primitive.1 alone
      cases reading with
      | void => cases bare
      | value reference =>
          simp only [TypeReference.isBarePrimitive, Reference.isBarePrimitive, Bool.and_eq_true,
            beq_iff_eq] at bare
          exact Nat.ne_of_gt bracketed bare.2

/-- Without type arguments and white space, a name and its brackets are left. -/
theorem spacedMap_classified :
    (ofText " java.util.Map<K, int[]> [ ]\t").problem? = none ∧
      ∃ reading, TypeReference.parse (ofText " java.util.Map<K, int[]> [ ]\t").name = .ok reading ∧
        (ofText " java.util.Map<K, int[]> [ ]\t").AgreesWith reading := by
  have accepted : (ofText " java.util.Map<K, int[]> [ ]\t").problem? = none := by decide +kernel
  exact ⟨accepted, classified_as_read _ accepted⟩

/-- A class literal needs a wrapper class for `void` too, so `void` is mapped like a primitive. -/
theorem void_mapped_as_primitive :
    (ofText "void").problem? = none ∧ (ofText "void").isPrimitive = false ∧
      ∃ reading, TypeReference.parse (ofText "void").name = .ok reading ∧
        ¬((ValueType.ofDeclared (ofText "void")).isPrimitive = true ↔
          reading.isBarePrimitive = true) := by
  refine ⟨by decide, by decide, .void, rfl, ?_⟩
  rw [isPrimitive_ofDeclared_iff]
  simp [isVoid, TypeReference.isBarePrimitive, show (ofText "void").name = "void" from rfl]

end DeclaredType

end BusBridge.Java
