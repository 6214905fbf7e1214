/-
This file proves which characters stand in identifiers and qualified names, and that the names
made for generated code are identifiers.
-/

import BusBridge.Java.Identifier

namespace BusBridge.Java

/-- A character that starts an identifier may continue one. -/
theorem continuesIdentifier_of_startsIdentifier {character : Char}
    (starts : startsIdentifier character = true) : continuesIdentifier character = true := by
  simp only [startsIdentifier, continuesIdentifier, Character.isAlphanumeric, Bool.or_eq_true]
    at starts ⊢
  rcases starts with (letter | mark) | mark
  · exact .inl (.inl (.inl letter))
  · exact .inl (.inr mark)
  · exact .inr mark

/-- A digit may continue an identifier. -/
theorem continuesIdentifier_of_isDigit {character : Char} (digit : character.isDigit = true) :
    continuesIdentifier character = true := by
  have ascii : character.toNat < 128 := by
    have bound : character.toNat ≤ 57 := (Char.isDigit_iff_toNat.1 digit).2
    omega
  simp [continuesIdentifier, Character.isAlphanumeric, Character.isNumber, ascii, digit]

/-- An identifier starts and continues as one, and is not reserved. -/
theorem isIdentifier_iff (name : String) :
    isIdentifier name = true ↔ ∃ first rest, name.toList = first :: rest ∧
      startsIdentifier first = true ∧ (∀ character ∈ rest, continuesIdentifier character = true) ∧
      isReserved name = false := by
  unfold isIdentifier
  split
  case h_1 empty => simp [empty]
  case h_2 first rest split => simp [split, and_assoc]

/-- All characters of an identifier may continue one. -/
theorem continues_of_isIdentifier {name : String} (identifier : isIdentifier name = true) :
    ∀ character ∈ name.toList, continuesIdentifier character = true := by
  obtain ⟨first, rest, split, starts, continues, -⟩ := (isIdentifier_iff name).1 identifier
  rw [split]
  intro character member
  rcases List.mem_cons.1 member with rfl | member
  · exact continuesIdentifier_of_startsIdentifier starts
  · exact continues character member

/-- An identifier is not empty. -/
theorem toList_ne_nil_of_isIdentifier {name : String} (identifier : isIdentifier name = true) :
    name.toList ≠ [] := by
  obtain ⟨first, rest, split, -⟩ := (isIdentifier_iff name).1 identifier
  rw [split]
  exact List.cons_ne_nil first rest

/-- A mark that continues no identifier is in none. -/
theorem not_mem_of_isIdentifier {name : String} {mark : Char}
    (identifier : isIdentifier name = true) (foreign : continuesIdentifier mark = false) :
    mark ∉ name.toList := by
  intro member
  rw [continues_of_isIdentifier identifier mark member] at foreign
  cases foreign

/-- A text without a dot is a qualified name when it is an identifier. -/
theorem isQualifiedName_of_not_mem {name : List Char} (plain : '.' ∉ name) :
    isQualifiedName (String.ofList name) = isIdentifier (String.ofList name) := by
  simp [isQualifiedName, Text.split, List.splitOn_eq_singleton plain]

/-- An identifier is a qualified name of one segment. -/
theorem isQualifiedName_of_isIdentifier {name : String} (identifier : isIdentifier name = true) :
    isQualifiedName name = true := by
  have plain : '.' ∉ name.toList := not_mem_of_isIdentifier identifier (by decide)
  rw [← String.ofList_toList (s := name)] at identifier ⊢
  rwa [isQualifiedName_of_not_mem plain]

/-- Both sides of a dot in a qualified name are qualified names. -/
theorem isQualifiedName_append (front back : List Char) :
    isQualifiedName (String.ofList (front ++ '.' :: back)) =
      (isQualifiedName (String.ofList front) && isQualifiedName (String.ofList back)) := by
  simp [isQualifiedName, Text.split, List.splitOn_append_cons_self]

/-- A qualified name is an identifier, or one before a dot and another qualified name. -/
theorem isQualifiedName_induction
    {holds : (name : List Char) → isQualifiedName (String.ofList name) = true → Prop}
    (single : ∀ name qualified, isIdentifier (String.ofList name) = true → holds name qualified)
    (dotted : ∀ front back qualified whole, isIdentifier (String.ofList front) = true →
      holds back qualified → holds (front ++ '.' :: back) whole)
    (name : List Char) (qualified : isQualifiedName (String.ofList name) = true) :
    holds name qualified := by
  by_cases separated : '.' ∈ name
  case neg =>
    exact single name qualified ((isQualifiedName_of_not_mem separated).symm.trans qualified)
  case pos =>
    obtain ⟨front, back, split, plain⟩ := List.eq_append_cons_of_mem separated
    have shorter : back.length < name.length := by simp [split]; omega
    subst split
    have parts := qualified
    rw [isQualifiedName_append, isQualifiedName_of_not_mem plain, Bool.and_eq_true] at parts
    exact dotted front back parts.2 qualified parts.1
      (isQualifiedName_induction single dotted back parts.2)
termination_by name.length

/-- A qualified name starts as an identifier does. -/
theorem cons_of_isQualifiedName {name : String} (qualified : isQualifiedName name = true) :
    ∃ first rest, name.toList = first :: rest ∧ startsIdentifier first = true := by
  rw [← String.ofList_toList (s := name)] at qualified
  generalize name.toList = characters at qualified ⊢
  induction characters, qualified using isQualifiedName_induction with
  | single name qualified identifier =>
      obtain ⟨first, rest, split, starts, -⟩ := (isIdentifier_iff _).1 identifier
      exact ⟨first, rest, by simpa using split, starts⟩
  | dotted front back qualified whole identifier =>
      obtain ⟨first, rest, split, starts, -⟩ := (isIdentifier_iff _).1 identifier
      rw [String.toList_ofList] at split
      exact ⟨first, rest ++ '.' :: back, by rw [split]; rfl, starts⟩

/-- Between its dots, a qualified name has characters of identifiers only. -/
theorem continues_of_isQualifiedName {name : String} (qualified : isQualifiedName name = true) :
    ∀ character ∈ name.toList, character = '.' ∨ continuesIdentifier character = true := by
  rw [← String.ofList_toList (s := name)] at qualified
  generalize name.toList = characters at qualified ⊢
  induction characters, qualified using isQualifiedName_induction with
  | single name qualified identifier =>
      have continues := continues_of_isIdentifier identifier
      rw [String.toList_ofList] at continues
      exact fun character member => .inr (continues character member)
  | dotted front back qualified whole identifier ih =>
      have continues := continues_of_isIdentifier identifier
      rw [String.toList_ofList] at continues
      intro character member
      rcases List.mem_append.1 member with member | member
      · exact .inr (continues character member)
      · rcases List.mem_cons.1 member with rfl | member
        · exact .inl rfl
        · exact ih character member

/-- A replacement goes through the text character by character. -/
@[simp] theorem toList_replace (old new : Char) (text : String) :
    (Text.replace old new text).toList =
      text.toList.map fun character => if character = old then new else character := by
  simp [Text.replace]

/-- The ending of a generated name keeps it apart from reserved words. -/
theorem isIdentifier_append {name ending : String} {first : Char} {rest : List Char}
    (split : name.toList = first :: rest) (starts : startsIdentifier first = true)
    (continues : ∀ character ∈ rest ++ ending.toList, continuesIdentifier character = true)
    (unreserved : ∀ word ∈ reservedWords, ¬ending.toList <:+ word.toList) :
    isIdentifier (name ++ ending) = true := by
  refine (isIdentifier_iff _).2 ⟨first, rest ++ ending.toList, by simp [split], starts,
    continues, ?_⟩
  refine Bool.eq_false_iff.2 fun reserved => ?_
  refine unreserved _ (List.contains_iff_mem.1 reserved) ?_
  rw [String.toList_append]
  exact List.suffix_append _ _

/-- The dollar signs of a name are gone from the generated name. -/
theorem isIdentifier_replace_append {name ending : String} {first : Char} {rest : List Char}
    (split : name.toList = first :: rest) (starts : startsIdentifier first = true)
    (continues : ∀ character ∈ rest ++ ending.toList, continuesIdentifier character = true)
    (unreserved : ∀ word ∈ reservedWords, ¬ending.toList <:+ word.toList) :
    isIdentifier (Text.replace '$' '_' name ++ ending) = true := by
  have kept : ∀ {allowed : Char → Bool} {character : Char}, allowed character = true →
      allowed '_' = true → allowed (if character = '$' then '_' else character) = true := by
    intro allowed character held underscore
    split
    · exact underscore
    · exact held
  refine isIdentifier_append (by rw [toList_replace, split]; rfl) (kept starts (by decide)) ?_
    unreserved
  intro character member
  rcases List.mem_append.1 member with member | member
  · obtain ⟨old, inside, rfl⟩ := List.mem_map.1 member
    exact kept (continues old (List.mem_append_left _ inside)) (by decide)
  · exact continues character (List.mem_append_right _ member)

/-- Two positions give two names. -/
theorem position_injective :
    Function.Injective fun index => "a" ++ String.ofList (Nat.toDigits 10 index) := by
  intro first second same
  have digits : Nat.toDigits 10 first = Nat.toDigits 10 second :=
    String.ofList_injective ((String.append_right_inj _).1 same)
  rw [← Nat.ofDigitChars_toDigits (n := first) (b := 10) (by decide) (by decide), digits,
    Nat.ofDigitChars_toDigits (by decide) (by decide)]

/-- A parameter that is named after its position has no reserved name. -/
theorem isIdentifier_position (index : Nat) :
    isIdentifier ("a" ++ String.ofList (Nat.toDigits 10 index)) = true := by
  refine (isIdentifier_iff _).2 ⟨'a', Nat.toDigits 10 index, by simp, by decide, ?_, ?_⟩
  · intro character member
    have digit : character.isDigit = true :=
      Nat.isDigit_of_mem_toDigits (by decide) (by decide) member
    exact continuesIdentifier_of_isDigit digit
  · refine Bool.eq_false_iff.2 fun reserved => ?_
    have undigited : ∀ word ∈ reservedWords, word.toList.all (! ·.isDigit) = true := by
      decide +kernel
    obtain ⟨digit, member⟩ :=
      List.exists_mem_of_ne_nil _ (Nat.toDigits_ne_nil (n := index) (b := 10))
    have found := List.all_eq_true.1 (undigited _ (List.contains_iff_mem.1 reserved)) digit
      (by simp [member])
    rw [Nat.isDigit_of_mem_toDigits (by decide) (by decide) member] at found
    exact absurd found (by decide)

end BusBridge.Java
