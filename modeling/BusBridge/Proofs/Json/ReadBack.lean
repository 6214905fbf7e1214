/-
This file proves that a printed JSON value is read back. Values with numbers are left out.
-/

import BusBridge.Json.Printer
import BusBridge.Json.Reader
import BusBridge.Proofs.Text.Basic
import Mathlib.Data.List.DropRight

namespace BusBridge.Json

mutual

/-- The value is made of texts, truth values and nulls. -/
def isTextual : Json → Bool
  | .number _ => false
  | .unpaired => false
  | .array items => areTextual items
  | .object members => holdsTextual members
  | _ => true

def areTextual : List Json → Bool
  | [] => true
  | item :: rest => isTextual item && areTextual rest

def holdsTextual : List (String × Json) → Bool
  | [] => true
  | (_, value) :: rest => isTextual value && holdsTextual rest

end

mutual

/-- How many calls of the reader stand in each other. -/
def calls : Json → Nat
  | .array items => itemCalls items + 1
  | .object members => memberCalls members + 1
  | _ => 1

def itemCalls : List Json → Nat
  | [] => 0
  | item :: rest => max (calls item) (itemCalls rest) + 1

def memberCalls : List (String × Json) → Nat
  | [] => 0
  | (_, value) :: rest => max (calls value) (memberCalls rest) + 1

end

/-- Characters as the reader takes them. -/
def symbolsOf (characters : List Char) : Symbols :=
  characters.map some

@[simp] theorem symbolsOf_nil : symbolsOf [] = [] := rfl

/-- Each character is a symbol of its own. -/
@[simp] theorem symbolsOf_cons (first : Char) (rest : List Char) :
    symbolsOf (first :: rest) = some first :: symbolsOf rest := rfl

/-- The symbols of two texts come one after the other. -/
@[simp] theorem symbolsOf_append (first second : List Char) :
    symbolsOf (first ++ second) = symbolsOf first ++ symbolsOf second :=
  List.map_append

/-- A hexadecimal digit is read back. -/
theorem hexValue?_hexDigit {value : Nat} (small : value < 16) :
    hexValue? (Java.hexDigit value) = some value := by
  have each : ∀ digit < 16, hexValue? (Java.hexDigit digit) = some digit := by decide
  exact each value small

/-- Four hexadecimal digits give the unit that they were written for. -/
theorem unit?_hexDigit {value : Nat} (small : value < 65536) :
    unit? (Java.hexDigit (value / 4096 % 16)) (Java.hexDigit (value / 256 % 16))
      (Java.hexDigit (value / 16 % 16)) (Java.hexDigit (value % 16)) = some value := by
  have sum : value / 4096 % 16 * 4096 + value / 256 % 16 * 256 + value / 16 % 16 * 16 +
      value % 16 = value := by omega
  simp [unit?, hexValue?_hexDigit (Nat.mod_lt _ (by decide : 0 < 16)), sum]

/-- A unit that stands for a character, whatever follows it. -/
def StandsFor (unit : TextUnit) (character : Char) : Prop :=
  ∀ units, joinUnits? (unit :: units) = (joinUnits? units).map (character :: ·)

/-- A character stands for itself. -/
theorem standsFor_character (character : Char) : StandsFor (.character character) character :=
  fun _ => rfl

/-- A unit that is a character of its own needs no second one. -/
theorem standsFor_unit (character : Char) : StandsFor (.unit character.toNat) character := by
  intro units
  have valid : character.toNat < 0xD800 ∨ 0xDFFF < character.toNat :=
    character.valid.imp id And.left
  have notHigh : ¬(0xD800 ≤ character.toNat ∧ character.toNat < 0xDC00) := by omega
  have notLow : ¬(0xDC00 ≤ character.toNat ∧ character.toNat < 0xE000) := by omega
  have notEither : ¬(0xD800 ≤ character.toNat ∧ character.toNat < 0xE000) := by omega
  cases units with
  | nil => simp [joinUnits?, notEither]
  | cons second rest =>
      cases second with
      | character value => simp [joinUnits?, notEither]
      | unit value => simp [joinUnits?, notHigh, notLow]
      | stray => simp [joinUnits?]

/-- One unit is put before the units of what follows. -/
def withUnit (unit : TextUnit) (read : Option (List TextUnit × Symbols)) :
    Option (List TextUnit × Symbols) :=
  read.map fun (units, remaining) => (unit :: units, remaining)

/-- A character that is not escaped is read as itself. -/
theorem readUnits_plain {character : Char} (notQuote : character ≠ '"')
    (notBackslash : character ≠ '\\') (visible : ¬character.toNat < 32) (rest : Symbols) :
    readUnits (some character :: rest) = withUnit (.character character) (readUnits rest) := by
  rw [readUnits, if_neg visible]
  · cases readUnits rest <;> rfl
  all_goals simp [notQuote, notBackslash]

/-- A named escape is read as the character that it names. -/
theorem readUnits_named {name character : Char} (named : namedEscape? name = some character)
    (notUnicode : name ≠ 'u') (rest : Symbols) :
    readUnits (some '\\' :: some name :: rest) =
      withUnit (.character character) (readUnits rest) := by
  rw [readUnits, named]
  · cases readUnits rest <;> rfl
  · simp [notUnicode]

/-- A Unicode escape is read as its unit. -/
theorem readUnits_unicode {value : Nat} (small : value < 65536) (rest : Symbols) :
    readUnits (symbolsOf (Java.unicodeEscape value) ++ rest) =
      withUnit (.unit value) (readUnits rest) := by
  simp only [Java.unicodeEscape, symbolsOf_cons, symbolsOf_nil, List.cons_append, List.nil_append]
  rw [readUnits, unit?_hexDigit small]
  cases readUnits rest <;> rfl

/-- Whatever a character is escaped to is read as one unit that stands for it. -/
theorem readUnits_escapeCharacter (character : Char) :
    ∃ unit, StandsFor unit character ∧ ∀ rest,
      readUnits (symbolsOf (escapeCharacter character) ++ rest) =
        withUnit unit (readUnits rest) := by
  unfold escapeCharacter
  split
  case isTrue quote =>
    subst quote
    exact ⟨_, standsFor_character _, readUnits_named rfl (by decide)⟩
  case isFalse notQuote =>
  split
  case isTrue backslash =>
    subst backslash
    exact ⟨_, standsFor_character _, readUnits_named rfl (by decide)⟩
  case isFalse notBackslash =>
  split
  case isTrue backspace =>
    subst backspace
    exact ⟨_, standsFor_character _, readUnits_named rfl (by decide)⟩
  split
  case isTrue feed =>
    subst feed
    exact ⟨_, standsFor_character _, readUnits_named rfl (by decide)⟩
  split
  case isTrue newline =>
    subst newline
    exact ⟨_, standsFor_character _, readUnits_named rfl (by decide)⟩
  split
  case isTrue turn =>
    subst turn
    exact ⟨_, standsFor_character _, readUnits_named rfl (by decide)⟩
  split
  case isTrue tab =>
    subst tab
    exact ⟨_, standsFor_character _, readUnits_named rfl (by decide)⟩
  split
  case isTrue control =>
    exact ⟨_, standsFor_unit _, readUnits_unicode (by omega)⟩
  case isFalse visible =>
    exact ⟨_, standsFor_character _, readUnits_plain notQuote notBackslash visible⟩

/-- An escaped text is read up to its closing quote, and gives the text again. -/
theorem readUnits_text (characters : List Char) (rest : Symbols) :
    ∃ units, joinUnits? units = some characters ∧
      readUnits (symbolsOf (characters.flatMap escapeCharacter) ++ some '"' :: rest) =
        some (units, rest) := by
  induction characters with
  | nil => exact ⟨[], rfl, by simp [readUnits]⟩
  | cons first others ih =>
      obtain ⟨units, joined, read⟩ := ih
      obtain ⟨unit, stands, escaped⟩ := readUnits_escapeCharacter first
      refine ⟨unit :: units, by rw [stands, joined]; rfl, ?_⟩
      rw [List.flatMap_cons, symbolsOf_append, List.append_assoc, escaped, read]
      rfl

/-- A text starts with its opening quote. -/
theorem textSource_eq_cons (text : String) : textSource text = '"' :: (textSource text).tail := rfl

/-- A text is read up to its closing quote. -/
theorem readText_textSource (text : String) (rest : Symbols) :
    readText (symbolsOf (textSource text).tail ++ rest) = some (some text, rest) := by
  obtain ⟨units, joined, read⟩ := readUnits_text text.toList rest
  rw [textSource, List.tail_cons, symbolsOf_append, List.append_assoc]
  simp only [symbolsOf_cons, symbolsOf_nil, List.singleton_append]
  rw [readText, read]
  simp [joined]

/-- A line break and its indentation are skipped. -/
theorem skipSpace_lineAt (depth : Nat) (rest : Symbols) :
    skipSpace (symbolsOf (lineAt depth) ++ rest) = skipSpace rest := by
  apply List.dropWhile_append_of_pos
  intro symbol member
  simp only [symbolsOf, lineAt, List.map_cons, List.map_replicate, List.mem_cons,
    List.mem_replicate] at member
  rcases member with rfl | ⟨-, rfl⟩
  · rfl
  · rfl

/-- Nothing is skipped in front of a visible character. -/
theorem skipSpace_of_head {first : Char} (visible : isSpace (some first) = false)
    (rest : Symbols) : skipSpace (some first :: rest) = some first :: rest := by
  rw [skipSpace, List.dropWhile_cons_of_neg (by simp [visible])]

/-- The parts between brackets, with the closing one. -/
def listing (depth : Nat) (closing : Char) : List (List Char) → List Char
  | [] => lineAt depth ++ [closing]
  | [part] => lineAt (depth + 1) ++ part ++ (lineAt depth ++ [closing])
  | part :: rest => lineAt (depth + 1) ++ part ++ ',' :: listing depth closing rest

/-- The parts of a value that is not empty stand on lines of their own. -/
theorem bracketed_cons (opening closing : Char) (depth : Nat) (part : List Char)
    (rest : List (List Char)) :
    bracketed opening closing depth (part :: rest) =
      opening :: listing depth closing (part :: rest) := by
  induction rest generalizing part with
  | nil => simp [bracketed, listing]
  | cons second others ih =>
      have following := List.tail_eq_of_cons_eq (ih second)
      simp only [List.map_cons, List.append_eq] at following
      rw [listing, ← following]
      simp [bracketed]
      simp

/-- A value starts neither with a space nor with a closing bracket. -/
theorem source_eq_cons {value : Json} (textual : value.isTextual) (depth : Nat) :
    ∃ first others, source depth value = first :: others ∧ isSpace (some first) = false ∧
      first ≠ ']' := by
  cases value with
  | null => exact ⟨_, _, rfl, rfl, by decide⟩
  | boolean value =>
      cases value with
      | true => exact ⟨_, _, rfl, rfl, by decide⟩
      | false => exact ⟨_, _, rfl, rfl, by decide⟩
  | number value => cases textual
  | text value => exact ⟨_, _, rfl, rfl, by decide⟩
  | unpaired => cases textual
  | array items =>
      cases items with
      | nil => exact ⟨_, _, rfl, rfl, by decide⟩
      | cons item rest => exact ⟨_, _, bracketed_cons .., rfl, by decide⟩
  | object members =>
      cases members with
      | nil => exact ⟨_, _, rfl, rfl, by decide⟩
      | cons member rest => exact ⟨_, _, bracketed_cons .., rfl, by decide⟩

/-- A value starts with a visible character. -/
theorem skipSpace_source {value : Json} (textual : value.isTextual) (depth : Nat)
    (rest : Symbols) :
    skipSpace (symbolsOf (source depth value) ++ rest) =
      symbolsOf (source depth value) ++ rest := by
  obtain ⟨first, others, shape, visible, -⟩ := source_eq_cons textual depth
  rw [shape, symbolsOf_cons, List.cons_append, skipSpace_of_head visible]

/-- What follows a part is a comma and the other parts, or the closing bracket. -/
theorem symbolsOf_listing (depth : Nat) (closing : Char) (part : List Char)
    (others : List (List Char)) (rest : Symbols) :
    symbolsOf (listing depth closing (part :: others)) ++ rest =
      symbolsOf (lineAt (depth + 1)) ++ (symbolsOf part ++
        if others = [] then symbolsOf (lineAt depth) ++ some closing :: rest
        else some ',' :: (symbolsOf (listing depth closing others) ++ rest)) := by
  cases others with
  | nil => simp [listing]
  | cons second others => simp [listing]

/-- The fuel is enough for every printed value that needs no more of it. -/
def ReadsValues (fuel : Nat) : Prop :=
  ∀ (value : Json) (depth : Nat) (symbols rest : Symbols), value.isTextual → value.calls ≤ fuel →
    skipSpace symbols = symbolsOf (source depth value) ++ rest →
    readValue fuel symbols = some (value, rest)

def ReadsItems (fuel : Nat) : Prop :=
  ∀ (item : Json) (items : List Json) (depth : Nat) (symbols rest : Symbols),
    areTextual (item :: items) → itemCalls (item :: items) ≤ fuel →
    skipSpace symbols =
      skipSpace (symbolsOf (listing depth ']' (itemSources (depth + 1) (item :: items))) ++ rest) →
    readItems fuel symbols = some (item :: items, rest)

def ReadsMembers (fuel : Nat) : Prop :=
  ∀ (member : String × Json) (members : List (String × Json)) (depth : Nat)
    (symbols rest : Symbols),
    holdsTextual (member :: members) → memberCalls (member :: members) ≤ fuel →
    skipSpace symbols =
      skipSpace (symbolsOf (listing depth '\x7d' (memberSources (depth + 1) (member :: members))) ++
        rest) →
    readMembers fuel symbols = some (.object (member :: members), rest)

/-- A part of a value starts with a visible character. -/
theorem skipSpace_symbols {first : Char} {others : List Char}
    (visible : isSpace (some first) = false)
    (depth : Nat) (closing : Char) (rest : List (List Char)) (following : Symbols) :
    skipSpace (symbolsOf (listing depth closing ((first :: others) :: rest)) ++ following) =
      symbolsOf (first :: others) ++
        if rest = [] then symbolsOf (lineAt depth) ++ some closing :: following
        else some ',' :: (symbolsOf (listing depth closing rest) ++ following) := by
  rw [symbolsOf_listing, skipSpace_lineAt, symbolsOf_cons, List.cons_append,
    skipSpace_of_head visible]

/-- Space is skipped once and for all. -/
theorem skipSpace_skipSpace (symbols : Symbols) :
    skipSpace (skipSpace symbols) = skipSpace symbols :=
  List.dropWhile_idempotent isSpace symbols

/-- An array is read when its items are. -/
theorem readValue_array {fuel : Nat} {symbols inner rest : Symbols} {items : List Json}
    (opened : skipSpace symbols = some '[' :: inner)
    (notClosed : ∀ rest, skipSpace inner ≠ some ']' :: rest)
    (read : readItems fuel (skipSpace inner) = some (items, rest)) :
    readValue (fuel + 1) symbols = some (.array items, rest) := by
  simp only [readValue, opened]
  rw [read]
  rfl

/-- An object is read when its members are. -/
theorem readValue_object {fuel : Nat} {symbols inner rest : Symbols} {value : Json}
    (opened : skipSpace symbols = some '\x7b' :: inner)
    (notClosed : ∀ rest, skipSpace inner ≠ some '\x7d' :: rest)
    (read : readMembers fuel (skipSpace inner) = some (value, rest)) :
    readValue (fuel + 1) symbols = some (value, rest) := by
  simp only [readValue, opened]
  exact read

/-- Values are read with one more unit of fuel than their items and members. -/
theorem readsValues_succ {fuel : Nat} (items : ReadsItems fuel) (members : ReadsMembers fuel) :
    ReadsValues (fuel + 1) := by
  intro value depth symbols rest textual enough shape
  cases value with
  | null =>
      rw [readValue, shape]
      rfl
  | boolean value =>
      cases value with
      | true =>
          rw [readValue, shape]
          rfl
      | false =>
          rw [readValue, shape]
          rfl
  | number value => cases textual
  | text value =>
      rw [source, textSource_eq_cons] at shape
      simp only [readValue, shape, symbolsOf_cons, List.cons_append, readText_textSource]
      rfl
  | unpaired => cases textual
  | array values =>
      cases values with
      | nil =>
          rw [readValue, shape]
          rfl
      | cons item others =>
          have first : item.isTextual := by
            simp only [isTextual, areTextual, Bool.and_eq_true] at textual
            exact textual.1
          obtain ⟨head, body, begun, visible, notClosing⟩ := source_eq_cons first (depth + 1)
          rw [source, itemSources, bracketed_cons, symbolsOf_cons, List.cons_append] at shape
          apply readValue_array shape
          · intro following closed
            rw [begun, skipSpace_symbols visible] at closed
            exact notClosing (Option.some.inj (List.cons.inj closed).1)
          · exact items item others depth _ rest textual (Nat.le_of_succ_le_succ enough)
              (skipSpace_skipSpace _)
  | object values =>
      cases values with
      | nil =>
          rw [readValue, shape]
          rfl
      | cons member others =>
          rw [source, memberSources, bracketed_cons, symbolsOf_cons, List.cons_append] at shape
          apply readValue_object shape
          · intro following closed
            rw [textSource, List.cons_append, List.cons_append, skipSpace_symbols rfl] at closed
            cases closed
          · exact members member others depth _ rest textual (Nat.le_of_succ_le_succ enough)
              (skipSpace_skipSpace _)

/-- The last item is followed by the closing bracket. -/
theorem readItems_last {fuel : Nat} {symbols afterItem rest : Symbols} {item : Json}
    (read : readValue fuel symbols = some (item, afterItem))
    (closed : skipSpace afterItem = some ']' :: rest) :
    readItems (fuel + 1) symbols = some ([item], rest) := by
  simp [readItems, read, closed]

/-- An item that is not the last one is followed by a comma. -/
theorem readItems_more {fuel : Nat} {symbols afterItem following rest : Symbols} {item : Json}
    {items : List Json} (read : readValue fuel symbols = some (item, afterItem))
    (comma : skipSpace afterItem = some ',' :: following)
    (others : readItems fuel following = some (items, rest)) :
    readItems (fuel + 1) symbols = some (item :: items, rest) := by
  simp [readItems, read, comma, others]

/-- The last member is followed by the closing brace. -/
theorem readMembers_last {fuel : Nat} {symbols afterQuote afterKey afterColon afterValue rest :
    Symbols} {key : String} {value : Json}
    (quote : skipSpace symbols = some '"' :: afterQuote)
    (keyRead : readText afterQuote = some (some key, afterKey))
    (colon : skipSpace afterKey = some ':' :: afterColon)
    (read : readValue fuel afterColon = some (value, afterValue))
    (closed : skipSpace afterValue = some '\x7d' :: rest) :
    readMembers (fuel + 1) symbols = some (.object [(key, value)], rest) := by
  simp [readMembers, quote, keyRead, colon, read, closed, keyed]

/-- A member that is not the last one is followed by a comma. -/
theorem readMembers_more {fuel : Nat} {symbols afterQuote afterKey afterColon afterValue following
    rest : Symbols} {key : String} {value : Json} {members : List (String × Json)}
    (quote : skipSpace symbols = some '"' :: afterQuote)
    (keyRead : readText afterQuote = some (some key, afterKey))
    (colon : skipSpace afterKey = some ':' :: afterColon)
    (read : readValue fuel afterColon = some (value, afterValue))
    (comma : skipSpace afterValue = some ',' :: following)
    (others : readMembers fuel following = some (.object members, rest)) :
    readMembers (fuel + 1) symbols = some (.object ((key, value) :: members), rest) := by
  simp [readMembers, quote, keyRead, colon, read, comma, others, keyed]

/-- A closing bracket is found on its own line. -/
theorem skipSpace_closing (depth : Nat) {closing : Char} (visible : isSpace (some closing) = false)
    (rest : Symbols) :
    skipSpace (symbolsOf (lineAt depth) ++ some closing :: rest) = some closing :: rest := by
  rw [skipSpace_lineAt, skipSpace_of_head visible]

/-- Items are read with one more unit of fuel than the values among them. -/
theorem readsItems_succ {fuel : Nat} (values : ReadsValues fuel) (items : ReadsItems fuel) :
    ReadsItems (fuel + 1) := by
  intro item others depth symbols rest textual enough shape
  have parts : item.isTextual ∧ areTextual others := by
    simpa only [areTextual, Bool.and_eq_true] using textual
  have bounds : item.calls ≤ fuel ∧ itemCalls others ≤ fuel := by
    simp only [itemCalls] at enough
    omega
  obtain ⟨first, body, begun, visible, -⟩ := source_eq_cons parts.1 (depth + 1)
  rw [itemSources, begun, skipSpace_symbols visible, ← begun] at shape
  have read := values item (depth + 1) symbols _ parts.1 bounds.1 shape
  cases others with
  | nil => exact readItems_last read (skipSpace_closing depth rfl rest)
  | cons second more =>
      apply readItems_more read
      · exact skipSpace_of_head rfl _
      · exact items second more depth _ rest parts.2 bounds.2 rfl

/-- Members are read with one more unit of fuel than the values among them. -/
theorem readsMembers_succ {fuel : Nat} (values : ReadsValues fuel) (members : ReadsMembers fuel) :
    ReadsMembers (fuel + 1) := by
  rintro ⟨key, value⟩ others depth symbols rest textual enough shape
  have parts : value.isTextual ∧ holdsTextual others := by
    simpa only [holdsTextual, Bool.and_eq_true] using textual
  have bounds : value.calls ≤ fuel ∧ memberCalls others ≤ fuel := by
    simp only [memberCalls] at enough
    omega
  rw [memberSources, textSource_eq_cons, List.cons_append, List.cons_append,
    skipSpace_symbols rfl] at shape
  simp only [symbolsOf_cons, symbolsOf_append, List.cons_append, List.nil_append,
    List.append_assoc] at shape
  have read := fun after => values value (depth + 1)
    (some ' ' :: (symbolsOf (source (depth + 1) value) ++ after)) after parts.1 bounds.1
    (skipSpace_source parts.1 (depth + 1) after)
  cases others with
  | nil =>
      exact readMembers_last shape (readText_textSource key _) (skipSpace_of_head rfl _) (read _)
        (skipSpace_closing depth rfl rest)
  | cons second more =>
      apply readMembers_more shape (readText_textSource key _) (skipSpace_of_head rfl _) (read _)
      · exact skipSpace_of_head rfl _
      · exact members second more depth _ rest parts.2 bounds.2 rfl

/-- Every call inside another one has less fuel. -/
theorem reads_all (fuel : Nat) : ReadsValues fuel ∧ ReadsItems fuel ∧ ReadsMembers fuel := by
  induction fuel with
  | zero =>
      refine ⟨fun value _ _ _ _ enough _ => ?_, fun _ _ _ _ _ _ enough _ => ?_,
        fun _ _ _ _ _ _ enough _ => ?_⟩
      · cases value <;> cases enough
      · cases enough
      · cases enough
  | succ fuel ih =>
      obtain ⟨values, items, members⟩ := ih
      exact ⟨readsValues_succ items members, readsItems_succ values items,
        readsMembers_succ values members⟩

/-- A listing is longer than each of its parts. -/
theorem length_listing_cons (depth : Nat) (closing : Char) (part : List Char)
    (others : List (List Char)) :
    part.length + 2 ≤ (listing depth closing (part :: others)).length ∧
      (others ≠ [] → (listing depth closing others).length + 2 ≤
        (listing depth closing (part :: others)).length) := by
  cases others with
  | nil =>
      refine ⟨?_, fun some => absurd rfl some⟩
      simp only [listing, lineAt, List.length_append, List.length_cons, List.length_replicate]
      omega
  | cons second more =>
      have whole : (listing depth closing (part :: second :: more)).length =
          2 * (depth + 1) + 1 + part.length +
            ((listing depth closing (second :: more)).length + 1) := by
        simp only [listing, lineAt, List.length_append, List.length_cons, List.length_replicate]
      rw [whole]
      exact ⟨by omega, fun _ => by omega⟩

mutual

/-- The calls that stand in each other take at least a character each. -/
theorem calls_le : ∀ (value : Json) (depth : Nat), value.calls ≤ (source depth value).length + 1
  | .null, _ | .boolean _, _ | .number _, _ | .text _, _ | .unpaired, _ => by simp [calls]
  | .array items, depth => by
      have inside := itemCalls_le items depth
      cases items with
      | nil => simp [calls, itemCalls]
      | cons item rest =>
          rw [calls, source, itemSources, bracketed_cons, List.length_cons]
          rw [itemSources] at inside
          omega
  | .object members, depth => by
      have inside := memberCalls_le members depth
      cases members with
      | nil => simp [calls, memberCalls]
      | cons member rest =>
          rw [calls, source, memberSources, bracketed_cons, List.length_cons]
          rw [memberSources] at inside
          omega

/-- The characters of the items are enough fuel to read them. -/
theorem itemCalls_le : ∀ (items : List Json) (depth : Nat),
    itemCalls items ≤ (listing depth ']' (itemSources (depth + 1) items)).length
  | [], depth => Nat.zero_le _
  | item :: rest, depth => by
      have first := calls_le item (depth + 1)
      have others := itemCalls_le rest depth
      have bounds := length_listing_cons depth ']' (source (depth + 1) item)
        (itemSources (depth + 1) rest)
      cases rest with
      | nil =>
          simp only [itemCalls, itemSources] at bounds ⊢
          omega
      | cons second more =>
          have following := bounds.2 (List.cons_ne_nil _ _)
          rw [itemCalls, itemSources]
          omega

/-- The characters of the members are enough fuel to read them. -/
theorem memberCalls_le : ∀ (members : List (String × Json)) (depth : Nat),
    memberCalls members ≤ (listing depth '\x7d' (memberSources (depth + 1) members)).length
  | [], depth => Nat.zero_le _
  | (key, value) :: rest, depth => by
      have first := calls_le value (depth + 1)
      have others := memberCalls_le rest depth
      have bounds := length_listing_cons depth '\x7d'
        (textSource key ++ [':', ' '] ++ source (depth + 1) value) (memberSources (depth + 1) rest)
      rw [List.length_append] at bounds
      cases rest with
      | nil =>
          simp only [memberCalls, memberSources] at bounds ⊢
          omega
      | cons second more =>
          have following := bounds.2 (List.cons_ne_nil _ _)
          rw [memberCalls, memberSources]
          omega

end

/-- A printed value is read back. -/
theorem parse?_print {value : Json} (textual : value.isTextual) :
    parse? value.print = some value := by
  have enough : value.calls ≤ 2 * (symbolsOf (source 0 value)).length + 2 := by
    have bound := calls_le value 0
    rw [symbolsOf, List.length_map]
    omega
  have shape : skipSpace (symbolsOf (source 0 value)) = symbolsOf (source 0 value) ++ [] := by
    simpa using skipSpace_source textual 0 []
  have read := (reads_all _).1 value 0 _ [] textual enough shape
  have symbols : value.print.toList.map some = symbolsOf (source 0 value) := by
    rw [print, String.toList_ofList, symbolsOf]
  rw [parse?, symbols, parseSymbols?, read]
  rfl

/-- A printed value is read back from its bytes. -/
theorem parseBytes?_print {value : Json} (textual : value.isTextual) :
    parseBytes? value.print.toUTF8 = some value := by
  rw [parseBytes?, Text.decode_toUTF8]
  exact parse?_print textual

end BusBridge.Json
