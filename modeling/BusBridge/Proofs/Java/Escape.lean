/-
This file proves that escaped characters are read back as their UTF-16 units, and that escaped text
is printable ASCII in which no quote ends a literal.
-/

import BusBridge.Proofs.Java.Lexeme
import BusBridge.Proofs.Json.ReadBack

namespace BusBridge.Java

/-- The characters are translated to the units, whatever follows them. -/
def IsTranslated (source : List Char) (units : List Nat) : Prop :=
  ∀ rest, translate (source ++ rest) = (translate rest).map (units ++ ·)

/-- No characters are no units. -/
theorem IsTranslated.nil : IsTranslated [] [] := by
  simp [IsTranslated]

/-- A translation goes on after what is translated already. -/
theorem IsTranslated.append {first second : List Char} {units others : List Nat}
    (translated : IsTranslated first units) (following : IsTranslated second others) :
    IsTranslated (first ++ second) (units ++ others) := by
  intro rest
  rw [List.append_assoc, translated, following, Option.map_map]
  simp [Function.comp_def]

/-- A character without a backslash stands for its own units. -/
theorem isTranslated_character {character : Char} (plain : character ≠ '\\') :
    IsTranslated [character] (utf16Units character) := by
  intro rest
  rw [List.singleton_append, translate]
  · intro marked same
    exact absurd same plain
  · intro next others same
    exact absurd same plain

/-- A backslash before another character keeps it from being read as an escape. -/
theorem isTranslated_pair {character : Char} (unmarked : character ≠ 'u') :
    IsTranslated ['\\', character] ('\\'.toNat :: utf16Units character) := by
  intro rest
  rw [List.cons_append, List.singleton_append, translate]
  exact unmarked

/-- A digit is never taken for another mark of an escape. -/
theorem hexDigit_ne {value : Nat} (small : value < 16) : hexDigit value ≠ 'u' := by
  have each : ∀ digit < 16, hexDigit digit ≠ 'u' := by decide
  exact each value small

/-- A Unicode escape stands for its one unit. -/
theorem isTranslated_unicodeEscape {unit : Nat} (small : unit < 65536) :
    IsTranslated (unicodeEscape unit) [unit] := by
  intro rest
  have unmarked : hexDigit (unit / 4096 % 16) ≠ 'u' := hexDigit_ne (Nat.mod_lt _ (by decide))
  have digits : (hexDigit (unit / 4096 % 16) :: hexDigit (unit / 256 % 16) ::
      hexDigit (unit / 16 % 16) :: hexDigit (unit % 16) :: rest).dropWhile (· = 'u') =
      hexDigit (unit / 4096 % 16) :: hexDigit (unit / 256 % 16) ::
        hexDigit (unit / 16 % 16) :: hexDigit (unit % 16) :: rest :=
    List.dropWhile_cons_of_neg (by simpa using unmarked)
  simp only [unicodeEscape, List.cons_append, List.nil_append]
  rw [translate]
  split
  case h_1 first second third fourth after found =>
    cases found.symm.trans digits
    rw [Json.unit?_hexDigit small]
    rfl
  case h_2 unread => exact absurd digits (unread _ _ _ _ _)

/-- Texts are translated piece by piece. -/
theorem isTranslated_flatMap {α : Type} {items : List α} {source : α → List Char}
    {units : α → List Nat} (translated : ∀ item ∈ items, IsTranslated (source item) (units item)) :
    IsTranslated (items.flatMap source) (items.flatMap units) := by
  induction items with
  | nil => exact .nil
  | cons head rest ih =>
      obtain ⟨first, others⟩ := List.forall_mem_cons.1 translated
      exact first.append (ih others)

/-- The units stand for the value in a literal, whatever follows them. -/
def IsLiteralPart (quote : Nat) (units value : List Nat) : Prop :=
  ∀ rest, readLiteral quote (units ++ rest) =
    (readLiteral quote rest).map (Prod.map (value ++ ·) id)

/-- No units are an empty value. -/
theorem IsLiteralPart.nil {quote : Nat} : IsLiteralPart quote [] [] := by
  intro rest
  rw [List.nil_append]
  cases readLiteral quote rest <;> rfl

/-- A literal is read part by part. -/
theorem IsLiteralPart.append {quote : Nat} {units others value following : List Nat}
    (first : IsLiteralPart quote units value) (second : IsLiteralPart quote others following) :
    IsLiteralPart quote (units ++ others) (value ++ following) := by
  intro rest
  rw [List.append_assoc, first, second]
  cases readLiteral quote rest <;> simp [Prod.map]

/-- A unit that neither ends a literal nor starts an escape stands for itself. -/
structure IsOrdinary (quote unit : Nat) : Prop where
  inside : unit ≠ quote
  backslash : unit ≠ '\\'.toNat
  lineFeed : unit ≠ '\n'.toNat
  carriageReturn : unit ≠ '\r'.toNat

/-- A literal ends at its quote. -/
theorem IsLiteralPart.readLiteral {quote : Nat} {units value : List Nat}
    (part : IsLiteralPart quote units value) (rest : List Nat) :
    readLiteral quote (units ++ quote :: rest) = some (value, rest) := by
  rw [part, Java.readLiteral, if_pos rfl]
  simp

/-- Ordinary units stand for themselves. -/
theorem isLiteralPart_units {quote : Nat} {units : List Nat}
    (ordinary : ∀ unit ∈ units, IsOrdinary quote unit) : IsLiteralPart quote units units := by
  induction units with
  | nil => exact .nil
  | cons unit units ih =>
      obtain ⟨first, others⟩ := List.forall_mem_cons.1 ordinary
      have single : IsLiteralPart quote [unit] [unit] := by
        intro rest
        rw [List.singleton_append, readLiteral, if_neg first.inside, if_neg (by
          simpa using ⟨first.lineFeed, first.carriageReturn⟩), if_neg first.backslash]
        rfl
      exact single.append (ih others)

/-- An escape stands for the value that is read from it. -/
theorem isLiteralPart_escape {quote value : Nat} {units : List Nat} (other : '\\'.toNat ≠ quote)
    (read : ∀ rest, readEscape? (units ++ rest) = some (value, rest)) :
    IsLiteralPart quote ('\\'.toNat :: units) [value] := by
  intro rest
  rw [List.cons_append, readLiteral, if_neg other, if_neg (by decide), if_pos rfl]
  split
  case h_1 unread =>
    rw [read] at unread
    cases unread
  case h_2 found after known =>
    rw [read] at known
    cases known
    rfl

/-- The source stands for the value between two quotes, and it does not start with a third one. -/
def Stands (quote : Char) (source : List Char) (value : List Nat) : Prop :=
  ∃ units, IsTranslated source units ∧ IsLiteralPart quote.toNat units value ∧
    units.head? ≠ some quote.toNat

/-- Empty source stands for an empty value. -/
theorem Stands.nil {quote : Char} : Stands quote [] [] :=
  ⟨[], .nil, .nil, by simp⟩

/-- Source that stands for a value may be followed by more. -/
theorem Stands.append {quote : Char} {source others : List Char} {value following : List Nat}
    (first : Stands quote source value) (second : Stands quote others following) :
    Stands quote (source ++ others) (value ++ following) := by
  obtain ⟨units, translated, part, inside⟩ := first
  obtain ⟨further, alsoTranslated, alsoPart, alsoInside⟩ := second
  refine ⟨units ++ further, translated.append alsoTranslated, part.append alsoPart, ?_⟩
  cases units with
  | nil => exact alsoInside
  | cons unit units => exact inside

/-- No character lies beyond the last plane. -/
theorem toNat_lt_of_valid (character : Char) : character.toNat < 0x110000 := by
  rcases character.valid with low | high
  · exact low.trans (by decide)
  · exact high.2

/-- A unit is the character itself or a surrogate. -/
theorem mem_utf16Units {character : Char} {unit : Nat} (member : unit ∈ utf16Units character) :
    unit < 65536 ∧ (unit = character.toNat ∨ 0xD800 ≤ unit) := by
  have valid := toNat_lt_of_valid character
  unfold utf16Units at member
  dsimp only at member
  split at member
  case isTrue plane =>
    obtain rfl := List.mem_singleton.1 member
    exact ⟨plane, .inl rfl⟩
  case isFalse beyond =>
    simp only [List.mem_cons, List.not_mem_nil, or_false] at member
    omega

/-- A character of the basic plane is one unit. -/
theorem utf16Units_of_lt {character : Char} (plane : character.toNat < 0x10000) :
    utf16Units character = [character.toNat] := by
  rw [utf16Units, if_pos plane]

/-- A literal of this quote ends only at the quote. -/
structure IsQuote (quote : Char) : Prop where
  backslash : '\\' ≠ quote
  small : quote.toNat < 0x80

/-- Texts stand between double quotes. -/
theorem isQuote_text : IsQuote '"' :=
  ⟨by decide, by decide⟩

/-- Characters stand between single quotes. -/
theorem isQuote_character : IsQuote '\'' :=
  ⟨by decide, by decide⟩

/-- There are no other quotes. -/
theorem isQuote_of_known {quote : Char} (known : quote = '"' ∨ quote = '\'') : IsQuote quote := by
  rcases known with rfl | rfl
  · exact isQuote_text
  · exact isQuote_character

/-- A character that needs no escape stands for itself. -/
theorem stands_character {quote character : Char} (valid : IsQuote quote)
    (inside : character ≠ quote) (backslash : character ≠ '\\') (lineFeed : character ≠ '\n')
    (carriageReturn : character ≠ '\r') : Stands quote [character] (utf16Units character) := by
  have ordinary : ∀ unit ∈ utf16Units character, ∀ other : Char, other.toNat < 0x80 →
      character ≠ other → unit ≠ other.toNat := by
    intro unit member other small different same
    rcases (mem_utf16Units member).2 with rfl | high
    · exact different (Char.toNat_inj.1 same)
    · omega
  refine ⟨utf16Units character, isTranslated_character backslash, isLiteralPart_units ?_, ?_⟩
  · intro unit member
    exact ⟨ordinary unit member quote valid.small inside,
      ordinary unit member '\\' (by decide) backslash,
      ordinary unit member '\n' (by decide) lineFeed,
      ordinary unit member '\r' (by decide) carriageReturn⟩
  · intro first
    exact ordinary _ (List.mem_of_head? first) quote valid.small inside rfl

/-- Each entry of the table is read as the character that it stands for. -/
theorem stands_namedEscape {quote mark character : Char} (valid : IsQuote quote)
    (known : (mark, character) ∈ namedEscapes) :
    Stands quote ['\\', mark] (utf16Units character) := by
  have each : namedEscapes.all (fun entry => entry.1 ≠ 'u' && octalDigit? entry.1.toNat = none &&
      namedEscape? entry.1.toNat = some entry.2.toNat && entry.1.toNat < 0x10000 &&
      entry.2.toNat < 0x10000) = true := by
    decide
  have facts := List.all_eq_true.1 each _ known
  simp only [Bool.and_eq_true, decide_eq_true_eq] at facts
  obtain ⟨⟨⟨⟨unmarked, undigited⟩, named⟩, small⟩, plane⟩ := facts
  refine ⟨_, isTranslated_pair unmarked, ?_, ?_⟩
  · rw [utf16Units_of_lt small, utf16Units_of_lt plane]
    refine isLiteralPart_escape (fun same => valid.backslash (Char.toNat_inj.1 same)) fun rest => ?_
    simp [readEscape?, undigited, named]
  · simpa using fun same => valid.backslash (Char.toNat_inj.1 same)

/-- An octal digit is read back, and starts no other escape. -/
theorem octalDigit_facts {value : Nat} (small : value < 8) :
    octalDigit? (octalDigit value).toNat = some value ∧ (octalDigit value).toNat < 0x10000 ∧
      octalDigit value ≠ 'u' ∧ octalDigit value ≠ '\\' := by
  have each : ∀ digit < 8, octalDigit? (octalDigit digit).toNat = some digit ∧
      (octalDigit digit).toNat < 0x10000 ∧ octalDigit digit ≠ 'u' ∧ octalDigit digit ≠ '\\' := by
    decide
  exact each value small

/-- Three octal digits of which the first is small are read together, whatever follows them. -/
theorem stands_octalEscape {quote character : Char} (valid : IsQuote quote)
    (small : character.toNat < 256) :
    Stands quote (octalEscape character.toNat) (utf16Units character) := by
  obtain ⟨first, firstPlane, unmarked, -⟩ :=
    octalDigit_facts (Nat.mod_lt (character.toNat / 64) (by decide : 0 < 8))
  obtain ⟨second, secondPlane, -, secondOther⟩ :=
    octalDigit_facts (Nat.mod_lt (character.toNat / 8) (by decide : 0 < 8))
  obtain ⟨third, thirdPlane, -, thirdOther⟩ :=
    octalDigit_facts (Nat.mod_lt character.toNat (by decide : 0 < 8))
  have leading : character.toNat / 64 % 8 ≤ 3 := by omega
  have sum : 8 * (8 * (character.toNat / 64 % 8) + character.toNat / 8 % 8) +
      character.toNat % 8 = character.toNat := by omega
  refine ⟨_, ((isTranslated_pair unmarked).append (isTranslated_character secondOther)).append
    (isTranslated_character thirdOther), ?_, ?_⟩
  · rw [utf16Units_of_lt firstPlane, utf16Units_of_lt secondPlane, utf16Units_of_lt thirdPlane,
      utf16Units_of_lt (by omega : character.toNat < 0x10000)]
    refine isLiteralPart_escape (fun same => valid.backslash (Char.toNat_inj.1 same)) fun rest => ?_
    simp [readEscape?, readOctal, first, second, third, leading, sum]
  · simpa using fun same => valid.backslash (Char.toNat_inj.1 same)

/-- A character beyond ASCII stands escaped, unit by unit. -/
theorem stands_unicodeEscapes {quote character : Char} (valid : IsQuote quote)
    (beyond : 0x80 ≤ character.toNat) :
    Stands quote ((utf16Units character).flatMap unicodeEscape) (utf16Units character) := by
  have high : ∀ unit ∈ utf16Units character, 0x80 ≤ unit := by
    intro unit member
    rcases (mem_utf16Units member).2 with rfl | high <;> omega
  have translated : IsTranslated ((utf16Units character).flatMap unicodeEscape)
      ((utf16Units character).flatMap fun unit => [unit]) :=
    isTranslated_flatMap fun unit member => isTranslated_unicodeEscape (mem_utf16Units member).1
  rw [List.flatMap_singleton'] at translated
  have small := valid.small
  refine ⟨_, translated, isLiteralPart_units fun unit member => ?_, fun first => ?_⟩
  · have bound := high unit member
    exact ⟨by omega, by simp; omega, by simp; omega, by simp; omega⟩
  · have bound := high _ (List.mem_of_head? first)
    omega

/-- Each character stands for its own units once it is escaped. -/
theorem stands_escapeCharacter {quote : Char} (known : quote = '"' ∨ quote = '\'')
    (character : Char) : Stands quote (escapeCharacter quote character) (utf16Units character) := by
  have valid := isQuote_of_known known
  unfold escapeCharacter
  split_ifs with backslash lineFeed carriageReturn tab backspace formFeed closing control ascii
  · rw [backslash]
    exact stands_namedEscape valid (by decide)
  · rw [lineFeed]
    exact stands_namedEscape valid (by decide)
  · rw [carriageReturn]
    exact stands_namedEscape valid (by decide)
  · rw [tab]
    exact stands_namedEscape valid (by decide)
  · rw [backspace]
    exact stands_namedEscape valid (by decide)
  · rw [formFeed]
    exact stands_namedEscape valid (by decide)
  · subst closing
    rcases known with rfl | rfl <;> exact stands_namedEscape valid (by decide)
  · have small : character.toNat < 256 := by
      simp only [Bool.or_eq_true, decide_eq_true_eq] at control
      omega
    exact stands_octalEscape valid small
  · exact stands_character valid closing backslash lineFeed carriageReturn
  · exact stands_unicodeEscapes valid (by omega)

/-- An escaped text stands for the UTF-16 units of its characters. -/
theorem stands_escape {quote : Char} (known : quote = '"' ∨ quote = '\'') (text : List Char) :
    Stands quote (escape quote text) (text.flatMap utf16Units) := by
  induction text with
  | nil => exact .nil
  | cons character rest ih => exact (stands_escapeCharacter known character).append ih

/-- The rule of Java in its own words: a backslash may start a Unicode escape where it follows an
even number of backslashes. -/
def translateAfter (backslashes : Nat) : List Char → Option (List Nat)
  | [] => some []
  | '\\' :: rest =>
      if backslashes % 2 = 0 ∧ rest.head? = some 'u' then
        match _marked : rest.dropWhile (· = 'u') with
        | first :: second :: third :: fourth :: after =>
            (Json.unit? first second third fourth).bind fun unit =>
              (translateAfter 0 after).map (unit :: ·)
        | _ => none
      else (translateAfter (backslashes + 1) rest).map ('\\'.toNat :: ·)
  | character :: rest => (translateAfter 0 rest).map (utf16Units character ++ ·)
termination_by source => source.length
decreasing_by
  · have shorter := (List.dropWhile_suffix (· = 'u') (l := rest)).length_le
    rw [_marked] at shorter
    simp only [List.length_cons] at shorter ⊢
    omega
  · exact Nat.lt_succ_self _
  · exact Nat.lt_succ_self _

/-- Only the parity of the backslashes counts. -/
theorem translateAfter_of_parity {backslashes others : Nat}
    (parity : backslashes % 2 = others % 2) (source : List Char) :
    translateAfter backslashes source = translateAfter others source := by
  induction source generalizing backslashes others with
  | nil => rw [translateAfter, translateAfter]
  | cons character rest ih =>
      by_cases backslash : character = '\\'
      · subst backslash
        have following : (backslashes + 1) % 2 = (others + 1) % 2 := by omega
        rw [translateAfter, translateAfter, parity, ih following]
      · rw [translateAfter, translateAfter] <;> exact backslash

/-- A character that follows an odd number of backslashes is no part of a Unicode escape. -/
theorem translateAfter_odd {backslashes : Nat} (odd : backslashes % 2 = 1) (character : Char)
    (rest : List Char) : translateAfter backslashes (character :: rest) =
      (translateAfter 0 rest).map (utf16Units character ++ ·) := by
  by_cases backslash : character = '\\'
  · subst backslash
    have even : (backslashes + 1) % 2 = 0 % 2 := by omega
    rw [translateAfter, if_neg (by omega), translateAfter_of_parity even]
    rfl
  · rw [translateAfter]
    exact backslash

/-- Reading backslashes in pairs comes to the same as counting them. -/
theorem translate_eq_translateAfter (source : List Char) :
    translate source = translateAfter 0 source := by
  have marker (rest : List Char) :
      ('u' :: rest).dropWhile (· = 'u') = rest.dropWhile (· = 'u') :=
    List.dropWhile_cons_of_pos (by decide)
  fun_induction translate source with
  | case1 => rw [translateAfter]
  | case2 rest first second third fourth after marked ih =>
      rw [translateAfter, if_pos ⟨rfl, rfl⟩]
      split
      case h_1 found =>
        cases found.symm.trans ((marker rest).trans marked)
        rw [ih]
      case h_2 unread => exact absurd ((marker rest).trans marked) (unread _ _ _ _ _)
  | case3 rest unmarked =>
      rw [translateAfter, if_pos ⟨rfl, rfl⟩]
      split
      case h_1 found => exact absurd ((marker rest).symm.trans found) (unmarked _ _ _ _ _)
      case h_2 => rfl
  | case4 next rest unmarked ih =>
      have plain : ¬(0 % 2 = 0 ∧ (next :: rest).head? = some 'u') := by
        simpa using unmarked
      rw [translateAfter, if_neg plain, translateAfter_odd rfl, ← ih, Option.map_map]
      rfl
  | case5 character rest unmarked unpaired ih =>
      by_cases backslash : character = '\\'
      · subst backslash
        cases rest with
        | nil =>
            rw [translateAfter, if_neg (by simp), translateAfter, translate]
            rfl
        | cons next rest => exact absurd rfl (unpaired next rest rfl)
      · rw [translateAfter, ih]
        exact backslash

/-- The value of a literal from what stands inside of it. The quote that is put at its end has to
be the first one that ends the literal. -/
def literalValue? (quote : Char) (inside : List Char) : Option (List Nat) :=
  (translateAfter 0 inside).bind fun units =>
    match readLiteral quote.toNat (units ++ [quote.toNat]) with
    | some (value, []) => some value
    | _ => none

/-- What the source stands for is the value of the literal. -/
theorem Stands.literalValue? {quote : Char} {source : List Char} {value : List Nat}
    (stands : Stands quote source value) : literalValue? quote source = some value := by
  obtain ⟨units, translated, part, -⟩ := stands
  have translation := translated []
  rw [List.append_nil, translate, translate_eq_translateAfter] at translation
  rw [Java.literalValue?, translation, Option.map_some, List.append_nil, Option.bind_some,
    part.readLiteral]

/-- The characters that a text is escaped to. -/
def isPrintableAscii (character : Char) : Bool :=
  ' ' ≤ character && character ≤ '~'

/-- Printable characters are those from the blank to the tilde. -/
theorem isPrintableAscii_iff {character : Char} :
    isPrintableAscii character = true ↔ 32 ≤ character.toNat ∧ character.toNat < 127 := by
  rw [isPrintableAscii, Bool.and_eq_true, decide_eq_true_eq, decide_eq_true_eq]
  exact and_congr Iff.rfl Nat.lt_succ_iff.symm

/-- Hexadecimal digits are printable. -/
theorem isPrintableAscii_hexDigit {value : Nat} (small : value < 16) :
    isPrintableAscii (hexDigit value) = true := by
  have each : ∀ digit < 16, isPrintableAscii (hexDigit digit) = true := by decide
  exact each value small

/-- Octal digits are printable. -/
theorem isPrintableAscii_octalDigit {value : Nat} (small : value < 8) :
    isPrintableAscii (octalDigit value) = true := by
  have each : ∀ digit < 8, isPrintableAscii (octalDigit digit) = true := by decide
  exact each value small

/-- A Unicode escape is printable. -/
theorem isPrintableAscii_unicodeEscape (unit : Nat) :
    (unicodeEscape unit).all isPrintableAscii = true := by
  have digit (value : Nat) : isPrintableAscii (hexDigit (value % 16)) = true :=
    isPrintableAscii_hexDigit (Nat.mod_lt _ (by decide))
  have marks : isPrintableAscii '\\' = true ∧ isPrintableAscii 'u' = true := by decide
  simp [unicodeEscape, digit, marks]

/-- An octal escape is printable. -/
theorem isPrintableAscii_octalEscape (point : Nat) :
    (octalEscape point).all isPrintableAscii = true := by
  have digit (value : Nat) : isPrintableAscii (octalDigit (value % 8)) = true :=
    isPrintableAscii_octalDigit (Nat.mod_lt _ (by decide))
  have mark : isPrintableAscii '\\' = true := by decide
  simp [octalEscape, digit, mark]

/-- Each character is printable once it is escaped. -/
theorem isPrintableAscii_escapeCharacter {quote : Char} (printable : isPrintableAscii quote = true)
    (character : Char) : (escapeCharacter quote character).all isPrintableAscii = true := by
  unfold escapeCharacter
  split_ifs with backslash lineFeed carriageReturn tab backspace formFeed closing control ascii
  · decide
  · decide
  · decide
  · decide
  · decide
  · decide
  · have mark : isPrintableAscii '\\' = true := by decide
    simp [mark, printable]
  · exact isPrintableAscii_octalEscape _
  · have shown : isPrintableAscii character = true := by
      simp only [Bool.or_eq_true, decide_eq_true_eq] at control
      exact isPrintableAscii_iff.2 (by omega)
    simp [shown]
  · rw [List.all_flatMap]
    exact List.all_eq_true.2 fun unit _ => isPrintableAscii_unicodeEscape unit

/-- An escaped text is printable, whatever it says. -/
theorem isPrintableAscii_escape {quote : Char} (printable : isPrintableAscii quote = true)
    (text : List Char) : (escape quote text).all isPrintableAscii = true := by
  rw [escape, List.all_flatMap]
  exact List.all_eq_true.2 fun character _ => isPrintableAscii_escapeCharacter printable character

/-- The backslashes directly before a place. -/
def backslashesBefore (before : List Char) : Nat :=
  (before.reverse.takeWhile (· = '\\')).length

/-- Each quote follows an odd number of backslashes, so that it is escaped itself. -/
def EscapesQuotes (quote : Char) (source : List Char) : Prop :=
  ∀ before after, source = before ++ quote :: after → backslashesBefore before % 2 = 1

/-- An even number of backslashes changes nothing for what follows them. -/
theorem backslashesBefore_append {first : List Char} (even : backslashesBefore first % 2 = 0)
    (second : List Char) :
    backslashesBefore (first ++ second) % 2 = backslashesBefore second % 2 := by
  simp only [backslashesBefore] at even ⊢
  rw [List.reverse_append, List.takeWhile_append]
  split
  case isTrue all => rw [List.length_append, ← all, Nat.add_mod, even]; simp
  case isFalse => rfl

/-- The source can stand before anything else that escapes its quotes. -/
structure IsSealed (quote : Char) (source : List Char) : Prop where
  quotes : EscapesQuotes quote source
  ending : backslashesBefore source % 2 = 0

namespace IsSealed

variable {quote : Char} {first second : List Char}

/-- Empty source leaves no backslash open. -/
theorem nil : IsSealed quote [] where
  quotes := by
    intro before after same
    simp at same
  ending := rfl

/-- Sealed source may be followed by sealed source. -/
theorem append (opening : IsSealed quote first) (closing : IsSealed quote second) :
    IsSealed quote (first ++ second) where
  quotes := by
    intro before after same
    rcases List.append_eq_append_iff.1 same with ⟨inner, rfl, rest⟩ | ⟨inner, rfl, rest⟩
    · rw [backslashesBefore_append opening.ending]
      exact closing.quotes inner after rest
    · cases inner with
      | nil =>
          rw [List.append_nil] at opening
          have direct := closing.quotes [] after rest.symm
          contradiction
      | cons head inner =>
          obtain ⟨rfl, -⟩ := List.cons.inj rest
          exact opening.quotes before inner rfl
  ending := (backslashesBefore_append opening.ending second).trans closing.ending

/-- Source is sealed when each piece is. -/
theorem flatMap {α : Type} {items : List α} {source : α → List Char}
    (sealed : ∀ item ∈ items, IsSealed quote (source item)) :
    IsSealed quote (items.flatMap source) := by
  induction items with
  | nil => exact .nil
  | cons head rest ih =>
      obtain ⟨first, others⟩ := List.forall_mem_cons.1 sealed
      exact first.append (ih others)

/-- A character that is neither the quote nor a backslash seals itself. -/
theorem character {character : Char} (inside : character ≠ quote) (plain : character ≠ '\\') :
    IsSealed quote [character] where
  quotes := by
    intro before after same
    have member : quote ∈ [character] := by simp [same]
    exact absurd (List.mem_singleton.1 member).symm inside
  ending := by simp [backslashesBefore, plain]

/-- A backslash takes the character behind it, be it a quote or a backslash. -/
theorem pair (valid : IsQuote quote) (mark : Char) : IsSealed quote ['\\', mark] where
  quotes := by
    intro before after same
    rcases before with _ | ⟨head, _ | ⟨next, before⟩⟩
    · exact absurd (List.cons.inj same).1 valid.backslash
    · obtain rfl := (List.cons.inj same).1
      rfl
    · simp at same
  ending := by
    by_cases backslash : mark = '\\'
    · subst backslash
      rfl
    · simp [backslashesBefore, backslash]

end IsSealed

/-- Digits are no quotes and no backslashes. -/
theorem digits_apart {quote : Char} (known : quote = '"' ∨ quote = '\'') :
    (∀ value < 16, hexDigit value ≠ quote ∧ hexDigit value ≠ '\\') ∧
      ∀ value < 8, octalDigit value ≠ quote ∧ octalDigit value ≠ '\\' := by
  rcases known with rfl | rfl <;> decide

/-- An escaped character leaves no backslash open. -/
theorem isSealed_escapeCharacter {quote : Char} (known : quote = '"' ∨ quote = '\'')
    (character : Char) : IsSealed quote (escapeCharacter quote character) := by
  have pair (mark : Char) : IsSealed quote ['\\', mark] := .pair (isQuote_of_known known) mark
  obtain ⟨hexApart, octalApart⟩ := digits_apart known
  have hex {value : Nat} : IsSealed quote [hexDigit (value % 16)] := by
    obtain ⟨inside, plain⟩ := hexApart (value % 16) (Nat.mod_lt _ (by decide))
    exact .character inside plain
  have octal {value : Nat} : IsSealed quote [octalDigit (value % 8)] := by
    obtain ⟨inside, plain⟩ := octalApart (value % 8) (Nat.mod_lt _ (by decide))
    exact .character inside plain
  unfold escapeCharacter
  split_ifs with backslash lineFeed carriageReturn tab backspace formFeed closing control ascii
  · exact pair _
  · exact pair _
  · exact pair _
  · exact pair _
  · exact pair _
  · exact pair _
  · exact pair _
  · exact ((pair _).append octal).append octal
  · exact .character closing backslash
  · refine .flatMap fun unit _ => ?_
    exact ((((pair _).append hex).append hex).append hex).append hex

/-- No quote in an escaped text ends the literal. -/
theorem escapesQuotes_escape {quote : Char} (known : quote = '"' ∨ quote = '\'')
    (text : List Char) : EscapesQuotes quote (escape quote text) :=
  (IsSealed.flatMap fun character _ => isSealed_escapeCharacter known character).quotes

/-- The units of a character are joined to it again, whatever follows them. -/
theorem joinUnits?_utf16Units (character : Char) (following : List Json.TextUnit) :
    Json.joinUnits? ((utf16Units character).map .unit ++ following) =
      (Json.joinUnits? following).map (character :: ·) := by
  have valid := toNat_lt_of_valid character
  by_cases plane : character.toNat < 0x10000
  · rw [utf16Units_of_lt plane]
    exact Json.standsFor_unit character following
  · have high : 0xD800 + (character.toNat - 0x10000) / 0x400 < 0xDC00 := by omega
    have low : 0xDC00 + (character.toNat - 0x10000) % 0x400 < 0xE000 := by omega
    have joined : 0x10000 + (character.toNat - 0x10000) / 0x400 * 0x400 +
        (character.toNat - 0x10000) % 0x400 = character.toNat := by omega
    rw [utf16Units, if_neg plane]
    simp only [List.map_cons, List.map_nil, List.cons_append, List.nil_append, Json.joinUnits?]
    simp [high, low, joined]

/-- The units of a text are its UTF-16 form: they are joined to the text again. -/
theorem joinUnits?_flatMap_utf16Units (text : List Char) :
    Json.joinUnits? ((text.flatMap utf16Units).map .unit) = some text := by
  induction text with
  | nil => rfl
  | cons character rest ih =>
      rw [List.flatMap_cons, List.map_append, joinUnits?_utf16Units, ih]
      rfl

/--
Escaped text is printable ASCII in which every quote is escaped. Inside of a literal, once Unicode
escapes are translated, it has the UTF-16 form of the text as its value, and none of it is left.
-/
theorem escapeText_decodes (text : String) :
    (escapeText text).toList.all isPrintableAscii = true ∧
      EscapesQuotes '"' (escapeText text).toList ∧
      literalValue? '"' (escapeText text).toList = some (text.toList.flatMap utf16Units) ∧
      Json.joinUnits? ((text.toList.flatMap utf16Units).map .unit) = some text.toList := by
  rw [escapeText, String.toList_ofList]
  exact ⟨isPrintableAscii_escape (by decide) _, escapesQuotes_escape (.inl rfl) _,
    (stands_escape (.inl rfl) _).literalValue?, joinUnits?_flatMap_utf16Units _⟩

end BusBridge.Java
