/-
This file proves that type references are read by their grammar. Each part of a reference
derives token sequences, and a reader accepts a sequence exactly when its part derives it.
-/

import BusBridge.Java.TypeReference.Basic
import BusBridge.Proofs.Outcome

namespace BusBridge.Java.TypeReference

/-- The parts of a type reference with what they mean. -/
inductive Part where
  | reference (reference : Reference)
  | plainArgument (reference : Reference)
  | argument (argument : TypeArgument)
  | arguments (arguments : List TypeArgument)

def brackets : Nat → List Token
  | 0 => []
  | count + 1 => .symbol '[' :: .symbol ']' :: brackets count

/-- The grammar of type references. -/
inductive Derives : Part → List Token → Prop where
  | primitive {name : String} (primitive : isPrimitiveName name = true) (count : Nat) :
      Derives (.reference ⟨name, [], count⟩) (.name name :: brackets count)
  | named {name : String} (qualified : isQualifiedName name = true) (count : Nat) :
      Derives (.reference ⟨name, [], count⟩) (.name name :: brackets count)
  | generic {name : String} (qualified : isQualifiedName name = true)
      {arguments : List TypeArgument} {inner : List Token}
      (given : Derives (.arguments arguments) inner) (count : Nat) :
      Derives (.reference ⟨name, arguments, count⟩)
        (.name name :: .symbol '<' :: (inner ++ .symbol '>' :: brackets count))
  | plainArgument {reference : Reference} {tokens : List Token}
      (derived : Derives (.reference reference) tokens)
      (boxed : reference.isBarePrimitive = false) : Derives (.plainArgument reference) tokens
  | wildcard : Derives (.argument .wildcard) [.symbol '?']
  | bounded (bound : Bound) {reference : Reference} {tokens : List Token}
      (derived : Derives (.plainArgument reference) tokens) :
      Derives (.argument (.bounded bound reference))
        (.symbol '?' :: .name bound.keyword :: tokens)
  | plain {reference : Reference} {tokens : List Token}
      (derived : Derives (.plainArgument reference) tokens) :
      Derives (.argument (.plain reference)) tokens
  | last {argument : TypeArgument} {tokens : List Token}
      (derived : Derives (.argument argument) tokens) : Derives (.arguments [argument]) tokens
  | more {argument : TypeArgument} {arguments : List TypeArgument} {tokens rest : List Token}
      (derived : Derives (.argument argument) tokens)
      (others : Derives (.arguments arguments) rest) :
      Derives (.arguments (argument :: arguments)) (tokens ++ .symbol ',' :: rest)

/-- No part of a reference goes on with the tokens that follow it. -/
def endsPart : List Token → Bool
  | [] | .symbol '>' :: _ | .symbol ',' :: _ => true
  | _ => false

/-- The fuel counts the calls that are nested while a part is read. -/
def Part.IsRead (part : Part) (tokens : List Token) : Prop :=
  match part with
  | .reference result => ∀ fuel rest, 3 * tokens.length ≤ fuel + 2 → endsPart rest = true →
      readReference fuel (tokens ++ rest) = .ok (result, rest)
  | .plainArgument result => ∀ fuel rest, 3 * tokens.length ≤ fuel + 1 → endsPart rest = true →
      readPlainArgument fuel (tokens ++ rest) = .ok (result, rest)
  | .argument result => ∀ fuel rest, 3 * tokens.length ≤ fuel → endsPart rest = true →
      readArgument fuel (tokens ++ rest) = .ok (result, rest)
  | .arguments result => ∀ fuel rest, 3 * tokens.length + 1 ≤ fuel →
      readArguments fuel (tokens ++ .symbol '>' :: rest) = .ok (result, rest)

/-- A keyword is no qualified name, so a primitive type is none. -/
theorem isPrimitiveName_of_isQualifiedName {name : String}
    (qualified : isQualifiedName name = true) : isPrimitiveName name = false := by
  refine Bool.eq_false_iff.2 fun primitive => ?_
  have known : ∀ name ∈ primitiveNames, isQualifiedName name = false := by decide
  rw [known name (List.contains_iff_mem.1 primitive)] at qualified
  contradiction

/-- A name tells a reference from a wildcard. -/
theorem Derives.reference_eq {reference : Reference} {tokens : List Token}
    (derived : Derives (.reference reference) tokens) :
    ∃ others, tokens = .name reference.name :: others := by
  cases derived <;> exact ⟨_, rfl⟩

/-- A plain argument starts with the name of its reference. -/
theorem Derives.plainArgument_eq {reference : Reference} {tokens : List Token}
    (derived : Derives (.plainArgument reference) tokens) :
    ∃ others, tokens = .name reference.name :: others := by
  cases derived with
  | plainArgument derived => exact derived.reference_eq

/-- A part ends at the end of the text, at a closing bracket or at a comma. -/
theorem endsPart_cases {rest : List Token} (ends : endsPart rest = true) :
    rest = [] ∨ (∃ others, rest = .symbol '>' :: others) ∨
      ∃ others, rest = .symbol ',' :: others := by
  unfold endsPart at ends
  split at ends <;> simp_all

/-- Pairs of brackets are read as dimensions. -/
theorem readDimensions_brackets (count : Nat) {rest : List Token} (ends : endsPart rest = true) :
    readDimensions (brackets count ++ rest) = .ok (count, rest) := by
  induction count with
  | zero => rcases endsPart_cases ends with rfl | ⟨others, rfl⟩ | ⟨others, rfl⟩ <;> rfl
  | succ count ih => simp [brackets, readDimensions, ih, Except.map]

attribute [local simp] readReference readPlainArgument readArgument readArguments

/-- A primitive type is read with its dimensions. -/
theorem isRead_primitive {name : String} (primitive : isPrimitiveName name = true)
    (count : Nat) : (Part.reference ⟨name, [], count⟩).IsRead (.name name :: brackets count) := by
  intro fuel rest enough ends
  obtain ⟨fuel, rfl⟩ : ∃ smaller, fuel = smaller + 1 := ⟨fuel - 1, by simp at enough; omega⟩
  simp [primitive, readDimensions_brackets count ends, bind, Except.bind, pure, Except.pure]

/-- A named type is read with its dimensions. -/
theorem isRead_named {name : String} (qualified : isQualifiedName name = true) (count : Nat) :
    (Part.reference ⟨name, [], count⟩).IsRead (.name name :: brackets count) := by
  intro fuel rest enough ends
  obtain ⟨fuel, rfl⟩ : ∃ smaller, fuel = smaller + 1 := ⟨fuel - 1, by simp at enough; omega⟩
  have bare : ∀ inner, brackets count ++ rest ≠ .symbol '<' :: inner := by
    intro inner
    cases count with
    | zero =>
        rcases endsPart_cases ends with rfl | ⟨others, rfl⟩ | ⟨others, rfl⟩ <;> simp [brackets]
    | succ count => simp [brackets]
  have dimensions := readDimensions_brackets count ends
  simp only [List.cons_append, readReference, isPrimitiveName_of_isQualifiedName qualified,
    qualified, Bool.false_eq_true, if_false, Bool.not_true]
  rw [dimensions]
  rfl

/-- A generic type is read with its arguments and its dimensions. -/
theorem isRead_generic {name : String} (qualified : isQualifiedName name = true)
    {arguments : List TypeArgument} {inner : List Token}
    (given : (Part.arguments arguments).IsRead inner) (count : Nat) :
    (Part.reference ⟨name, arguments, count⟩).IsRead
      (.name name :: .symbol '<' :: (inner ++ .symbol '>' :: brackets count)) := by
  intro fuel rest enough ends
  obtain ⟨fuel, rfl⟩ : ∃ smaller, fuel = smaller + 1 := ⟨fuel - 1, by simp at enough; omega⟩
  have dimensions := readDimensions_brackets count ends
  have filled := given fuel (brackets count ++ rest) (by simp at enough; omega)
  simp only [List.cons_append, List.append_assoc, readReference,
    isPrimitiveName_of_isQualifiedName qualified, qualified, Bool.false_eq_true, if_false,
    Bool.not_true]
  rw [filled]
  simp only [bind, Except.bind, dimensions]
  rfl

/-- A reference is read as an argument unless it is a bare primitive. -/
theorem isRead_plainArgument {reference : Reference} {tokens : List Token}
    (read : (Part.reference reference).IsRead tokens) (filled : 0 < tokens.length)
    (boxed : reference.isBarePrimitive = false) :
    (Part.plainArgument reference).IsRead tokens := by
  intro fuel rest enough ends
  obtain ⟨fuel, rfl⟩ : ∃ smaller, fuel = smaller + 1 := ⟨fuel - 1, by omega⟩
  rw [readPlainArgument, read fuel rest (by omega) ends]
  simp [bind, Except.bind, boxed]
  rfl

/-- A question mark alone is a wildcard. -/
theorem isRead_wildcard : (Part.argument .wildcard).IsRead [.symbol '?'] := by
  intro fuel rest enough ends
  obtain ⟨fuel, rfl⟩ : ∃ smaller, fuel = smaller + 1 := ⟨fuel - 1, by simp at enough; omega⟩
  rcases endsPart_cases ends with rfl | ⟨others, rfl⟩ | ⟨others, rfl⟩ <;> rfl

/-- A wildcard may have a bound. -/
theorem isRead_bounded (bound : Bound) {reference : Reference} {tokens : List Token}
    (read : (Part.plainArgument reference).IsRead tokens) :
    (Part.argument (.bounded bound reference)).IsRead
      (.symbol '?' :: .name bound.keyword :: tokens) := by
  intro fuel rest enough ends
  obtain ⟨fuel, rfl⟩ : ∃ smaller, fuel = smaller + 1 := ⟨fuel - 1, by simp at enough; omega⟩
  have inner := read fuel rest (by simp at enough; omega) ends
  cases bound <;> simp [Bound.keyword, inner, bind, Except.bind, pure, Except.pure]

/-- An argument that is no wildcard is read as a reference. -/
theorem isRead_plain {reference : Reference} {name : String} {tokens : List Token}
    (read : (Part.plainArgument reference).IsRead (.name name :: tokens)) :
    (Part.argument (.plain reference)).IsRead (.name name :: tokens) := by
  intro fuel rest enough ends
  obtain ⟨fuel, rfl⟩ : ∃ smaller, fuel = smaller + 1 := ⟨fuel - 1, by simp at enough; omega⟩
  have inner := read fuel rest (by omega) ends
  simp only [List.cons_append] at inner
  simp [inner, bind, Except.bind, pure, Except.pure]

/-- The last argument is read on its own. -/
theorem isRead_last {argument : TypeArgument} {tokens : List Token}
    (read : (Part.argument argument).IsRead tokens) :
    (Part.arguments [argument]).IsRead tokens := by
  intro fuel rest enough
  obtain ⟨fuel, rfl⟩ : ∃ smaller, fuel = smaller + 1 := ⟨fuel - 1, by omega⟩
  rw [readArguments, read fuel (.symbol '>' :: rest) (by omega) rfl]
  rfl

/-- An argument is read before the ones after it. -/
theorem isRead_more {argument : TypeArgument} {arguments : List TypeArgument}
    {tokens others : List Token} (read : (Part.argument argument).IsRead tokens)
    (readOthers : (Part.arguments arguments).IsRead others) :
    (Part.arguments (argument :: arguments)).IsRead (tokens ++ .symbol ',' :: others) := by
  intro fuel rest enough
  simp only [List.length_append, List.length_cons] at enough
  obtain ⟨fuel, rfl⟩ : ∃ smaller, fuel = smaller + 1 := ⟨fuel - 1, by omega⟩
  rw [readArguments, List.append_assoc, List.cons_append, read fuel _ (by omega) rfl]
  simp only [bind, Except.bind, readOthers fuel rest (by omega)]
  rfl

/-- A reader accepts what the grammar derives, and gives back what it means. -/
theorem Derives.isRead {part : Part} {tokens : List Token} (derived : Derives part tokens) :
    part.IsRead tokens := by
  induction derived with
  | primitive primitive count => exact isRead_primitive primitive count
  | named qualified count => exact isRead_named qualified count
  | generic qualified _ count ih => exact isRead_generic qualified ih count
  | plainArgument derived boxed ih =>
      obtain ⟨others, rfl⟩ := derived.reference_eq
      exact isRead_plainArgument ih (by simp) boxed
  | wildcard => exact isRead_wildcard
  | bounded bound _ ih => exact isRead_bounded bound ih
  | plain derived ih =>
      obtain ⟨others, rfl⟩ := derived.plainArgument_eq
      exact isRead_plain ih
  | last _ ih => exact isRead_last ih
  | more _ _ ih ihOthers => exact isRead_more ih ihOthers

/-- The dimensions that are read are pairs of brackets. -/
theorem readDimensions_eq {tokens rest : List Token} {count : Nat}
    (read : readDimensions tokens = .ok (count, rest)) : tokens = brackets count ++ rest := by
  fun_induction readDimensions tokens generalizing count with
  | case1 others ih =>
      obtain ⟨⟨smaller, remaining⟩, read, same⟩ := map_eq_ok_iff.1 read
      cases same
      simp [brackets, ih read]
  | case2 => cases read
  | case3 => cases read; rfl

/-- What a reader takes from the front of the tokens, its part derives. -/
def Part.IsSound (fuel : Nat) : Prop :=
  (∀ tokens result rest, readReference fuel tokens = .ok (result, rest) →
    ∃ front, tokens = front ++ rest ∧ Derives (.reference result) front) ∧
  (∀ tokens result rest, readPlainArgument fuel tokens = .ok (result, rest) →
    ∃ front, tokens = front ++ rest ∧ Derives (.plainArgument result) front) ∧
  (∀ tokens result rest, readArgument fuel tokens = .ok (result, rest) →
    ∃ front, tokens = front ++ rest ∧ Derives (.argument result) front) ∧
  (∀ tokens result rest, readArguments fuel tokens = .ok (result, rest) →
    ∃ front, tokens = front ++ .symbol '>' :: rest ∧ Derives (.arguments result) front)

/-- A reference that is read is derived from the tokens before the rest. -/
theorem derives_readReference {fuel : Nat} (smaller : Part.IsSound fuel)
    {tokens rest : List Token} {result : Reference}
    (read : readReference (fuel + 1) tokens = .ok (result, rest)) :
    ∃ front, tokens = front ++ rest ∧ Derives (.reference result) front := by
  unfold readReference at read
  split at read
  case h_2 => cases read
  case h_1 name others fuelEq =>
    obtain rfl := Nat.succ.inj fuelEq
    split at read
    case isTrue primitive =>
      obtain ⟨⟨count, remaining⟩, dimensions, same⟩ := bind_eq_ok_iff.1 read
      cases same
      exact ⟨_, by rw [readDimensions_eq dimensions]; rfl, .primitive primitive count⟩
    case isFalse =>
      by_cases qualified : isQualifiedName name = true
      case neg => simp [qualified] at read; cases read
      case pos =>
        simp only [qualified, Bool.not_true, Bool.false_eq_true, if_false] at read
        split at read
        case h_1 inner =>
          obtain ⟨⟨arguments, after⟩, given, following⟩ := bind_eq_ok_iff.1 read
          obtain ⟨⟨count, remaining⟩, dimensions, same⟩ := bind_eq_ok_iff.1 following
          cases same
          obtain ⟨front, rfl, derived⟩ := smaller.2.2.2 inner arguments after given
          obtain rfl : after = brackets count ++ remaining := readDimensions_eq dimensions
          exact ⟨_, by simp, .generic qualified derived count⟩
        case h_2 =>
          obtain ⟨⟨count, remaining⟩, dimensions, same⟩ := bind_eq_ok_iff.1 read
          cases same
          exact ⟨_, by rw [readDimensions_eq dimensions]; rfl, .named qualified count⟩

/-- A plain argument that is read is derived from the tokens before the rest. -/
theorem derives_readPlainArgument {fuel : Nat} (smaller : Part.IsSound fuel)
    {tokens rest : List Token} {result : Reference}
    (read : readPlainArgument (fuel + 1) tokens = .ok (result, rest)) :
    ∃ front, tokens = front ++ rest ∧ Derives (.plainArgument result) front := by
  rw [readPlainArgument] at read
  obtain ⟨⟨reference, remaining⟩, inner, checked⟩ := bind_eq_ok_iff.1 read
  obtain ⟨front, split, derived⟩ := smaller.1 tokens reference remaining inner
  by_cases bare : reference.isBarePrimitive = true
  case pos => simp [bare] at checked; cases checked
  case neg =>
    simp only [bare] at checked
    cases checked
    exact ⟨front, split, .plainArgument derived (Bool.eq_false_iff.2 bare)⟩

/-- An argument that is read is derived from the tokens before the rest. -/
theorem derives_readArgument {fuel : Nat} (smaller : Part.IsSound fuel)
    {tokens rest : List Token} {result : TypeArgument}
    (read : readArgument (fuel + 1) tokens = .ok (result, rest)) :
    ∃ front, tokens = front ++ rest ∧ Derives (.argument result) front := by
  unfold readArgument at read
  split at read
  case h_1 others fuelEq =>
    obtain rfl := Nat.succ.inj fuelEq
    obtain ⟨⟨reference, remaining⟩, inner, same⟩ := bind_eq_ok_iff.1 read
    cases same
    obtain ⟨front, rfl, derived⟩ := smaller.2.1 _ _ _ inner
    exact ⟨_, rfl, .bounded .upper derived⟩
  case h_2 others fuelEq =>
    obtain rfl := Nat.succ.inj fuelEq
    obtain ⟨⟨reference, remaining⟩, inner, same⟩ := bind_eq_ok_iff.1 read
    cases same
    obtain ⟨front, rfl, derived⟩ := smaller.2.1 _ _ _ inner
    exact ⟨_, rfl, .bounded .lower derived⟩
  case h_3 => cases read; exact ⟨_, rfl, .wildcard⟩
  case h_4 fuelEq _ _ _ =>
    obtain rfl := Nat.succ.inj fuelEq
    obtain ⟨⟨reference, remaining⟩, inner, same⟩ := bind_eq_ok_iff.1 read
    cases same
    obtain ⟨front, rfl, derived⟩ := smaller.2.1 _ _ _ inner
    exact ⟨front, rfl, .plain derived⟩
  case h_5 => cases read

/-- The arguments that are read end with a closing bracket. -/
theorem derives_readArguments {fuel : Nat} (smaller : Part.IsSound fuel)
    {tokens rest : List Token} {result : List TypeArgument}
    (read : readArguments (fuel + 1) tokens = .ok (result, rest)) :
    ∃ front, tokens = front ++ .symbol '>' :: rest ∧ Derives (.arguments result) front := by
  rw [readArguments] at read
  obtain ⟨⟨argument, after⟩, inner, following⟩ := bind_eq_ok_iff.1 read
  obtain ⟨front, rfl, derived⟩ := smaller.2.2.1 tokens argument after inner
  simp only at following
  split at following
  case h_1 => cases following; exact ⟨front, rfl, .last derived⟩
  case h_2 others =>
    obtain ⟨⟨arguments, remaining⟩, outer, same⟩ := bind_eq_ok_iff.1 following
    cases same
    obtain ⟨back, rfl, derivedOthers⟩ := smaller.2.2.2 _ _ _ outer
    exact ⟨_, by simp, .more derived derivedOthers⟩
  case h_3 => cases following
  case h_4 => cases following

/-- What is read is derived, with any amount of fuel. -/
theorem Part.isSound (fuel : Nat) : Part.IsSound fuel := by
  induction fuel with
  | zero =>
      refine ⟨?_, ?_, ?_, ?_⟩ <;> intro tokens result rest read
      · simp [readReference] at read
      · simp [readPlainArgument] at read
      · simp [readArgument] at read
      · simp [readArguments] at read
  | succ fuel ih =>
      exact ⟨fun _ _ _ => derives_readReference ih, fun _ _ _ => derives_readPlainArgument ih,
        fun _ _ _ => derives_readArgument ih, fun _ _ _ => derives_readArguments ih⟩

/-- The word `void` is a type reference of its own. -/
def IsReferenceTokens (tokens : List Token) : Prop :=
  tokens = [.name "void"] ∨ ∃ reference, Derives (.reference reference) tokens

/-- Exactly the tokens of a reference are read. -/
theorem ofTokens_isOk_iff (tokens : List Token) :
    (∃ result, ofTokens tokens = .ok result) ↔ IsReferenceTokens tokens := by
  unfold ofTokens IsReferenceTokens
  split
  case isTrue alone => simp [alone]
  case isFalse different =>
    simp only [different, false_or]
    constructor
    · rintro ⟨result, read⟩
      obtain ⟨⟨reference, remaining⟩, inner, read⟩ := bind_eq_ok_iff.1 read
      cases remaining with
      | cons token others => cases read
      | nil =>
          obtain ⟨front, rfl, derived⟩ := (Part.isSound _).1 tokens reference [] inner
          exact ⟨reference, by simpa using derived⟩
    · rintro ⟨reference, derived⟩
      have read := derived.isRead (3 * tokens.length) [] (by omega) rfl
      rw [List.append_nil] at read
      exact ⟨.value reference, by rw [read]; rfl⟩

/-- A text is a type reference exactly when its tokens are `void` or derived by the grammar. -/
theorem isTypeReference_iff (text : String) :
    isTypeReference text = true ↔ ∃ read, tokens text = .ok read ∧ IsReferenceTokens read := by
  unfold isTypeReference problem? parse
  cases tokens text with
  | error problem => simp [bind, Except.bind]
  | ok read =>
      have parsed := ofTokens_isOk_iff read
      simp only [bind, Except.bind, Except.ok.injEq, exists_eq_left']
      rw [← parsed]
      cases ofTokens read <;> simp

end BusBridge.Java.TypeReference
