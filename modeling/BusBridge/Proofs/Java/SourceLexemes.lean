/-
This file proves that the literals of a written tree are read back from its source, and that no
quote and no backslash stands anywhere else in it.
-/

import BusBridge.Proofs.Java.Escape
import BusBridge.Proofs.Java.TreeLiterals

namespace BusBridge.Java

/-- A unit that is neither a quote nor a backslash, and that starts no comment. -/
def IsCodeUnit (unit : Nat) : Prop :=
  ∀ mark ∈ lexicalMarks, unit ≠ mark.toNat

/-- The units of a plain character are code. -/
theorem isCodeUnit_of_isPlain {character : Char} (plain : isPlain character = true) :
    ∀ unit ∈ utf16Units character, IsCodeUnit unit := by
  intro unit member mark known same
  have small : lexicalMarks.all (fun mark => mark.toNat < 0x80) = true := by decide
  have bound : mark.toNat < 0x80 := by simpa using List.all_eq_true.1 small mark known
  rcases (mem_utf16Units member).2 with rfl | high
  · obtain rfl := Char.toNat_inj.1 same
    rw [isPlain, List.contains_iff_mem.2 known] at plain
    cases plain
  · omega

/-- A plain text is translated into its own units. -/
theorem isTranslated_plain {text : List Char} (plain : IsPlain text) :
    IsTranslated text (text.flatMap utf16Units) := by
  have whole : IsTranslated (text.flatMap fun character => [character])
      (text.flatMap utf16Units) := by
    refine isTranslated_flatMap fun character member => isTranslated_character ?_
    rintro rfl
    exact absurd (plain _ member) (by decide)
  simpa using whole

/-- The units of a plain text are code. -/
theorem isCodeUnit_plain {text : List Char} (plain : IsPlain text) :
    ∀ unit ∈ text.flatMap utf16Units, IsCodeUnit unit := by
  intro unit member
  obtain ⟨character, inside, taken⟩ := List.mem_flatMap.1 member
  exact isCodeUnit_of_isPlain (plain character inside) unit taken

/-- Units of code are lexemes of their own. -/
theorem lexemes_units {units : List Nat} (code : ∀ unit ∈ units, IsCodeUnit unit)
    (rest : List Nat) :
    lexemes (units ++ rest) = (lexemes rest).map (units.map Lexeme.code ++ ·) := by
  induction units with
  | nil => simp
  | cons unit units ih =>
      obtain ⟨first, others⟩ := List.forall_mem_cons.1 code
      have slash : unit ≠ '/'.toNat := first '/' (by decide)
      rw [List.cons_append, lexemes, if_neg (first '"' (by decide)),
        if_neg (first '\'' (by decide)), decide_eq_false slash, Bool.false_and,
        if_neg Bool.false_ne_true, ih others, Option.map_map]
      rfl

/-- Quotes around a literal stand for themselves. -/
theorem isTranslated_quoted {quote : Char} (valid : IsQuote quote) {source : List Char}
    {inner : List Nat} (translated : IsTranslated source inner) :
    IsTranslated (quote :: source ++ [quote]) (quote.toNat :: inner ++ [quote.toNat]) := by
  have small := valid.small
  have marked := isTranslated_character valid.backslash.symm
  rw [utf16Units_of_lt (by omega)] at marked
  exact (marked.append translated).append marked

/-- A literal with quotes around it is no text block when no further quote touches them. -/
theorem take_two_ne {units rest : List Nat} (inside : units.head? ≠ some '"'.toNat)
    (apart : rest.head? ≠ some '"'.toNat) :
    (units ++ '"'.toNat :: rest).take 2 ≠ ['"'.toNat, '"'.toNat] := by
  cases units with
  | nil => cases rest <;> simp_all
  | cons unit units => simp_all

/-- A text literal is one lexeme. -/
theorem lexemes_text {units value rest : List Nat} (part : IsLiteralPart '"'.toNat units value)
    (inside : units.head? ≠ some '"'.toNat) (apart : rest.head? ≠ some '"'.toNat) :
    lexemes ('"'.toNat :: (units ++ '"'.toNat :: rest)) =
      (lexemes rest).map (.text value :: ·) := by
  have closed := part.readLiteral rest
  rw [lexemes, if_pos rfl, if_neg (take_two_ne inside apart)]
  split
  case h_1 found after known =>
    rw [closed] at known
    cases known
    rfl
  case h_2 unread =>
    rw [closed] at unread
    cases unread

/-- A character literal is one lexeme. -/
theorem lexemes_character {units rest : List Nat} {value : Nat}
    (part : IsLiteralPart '\''.toNat units [value]) :
    lexemes ('\''.toNat :: (units ++ '\''.toNat :: rest)) =
      (lexemes rest).map (.character value :: ·) := by
  have closed := part.readLiteral rest
  rw [lexemes, if_neg (by decide), if_pos rfl]
  split
  case h_1 found after known =>
    rw [closed] at known
    cases known
    rfl
  case h_2 unread => exact absurd closed (unread _ _)

/-- The UTF-16 form of a text. -/
def utf16 (text : String) : List Nat :=
  text.toList.flatMap utf16Units

/-- The lexeme that a literal is read back as. -/
def Literal.lexeme? : Literal → Option Lexeme
  | .text value => some (.text (utf16 value))
  | .character value => some (.character value.toNat)
  | _ => none

def Lexeme.isQuoted : Lexeme → Bool
  | .text _ | .character _ => true
  | .code _ => false

/-- Java allows one unit between apostrophes. -/
def Literal.IsSingleUnit (value : Literal) : Prop :=
  ∀ character, value = .character character → character.toNat < 0x10000

/-- The literals are read back in their order, and what is outside of them holds no quote and no
backslash. -/
structure ReadsBack (read : List Lexeme) (literals : List Literal) : Prop where
  quoted : read.filter Lexeme.isQuoted = literals.filterMap Literal.lexeme?
  code : ∀ unit, .code unit ∈ read → IsCodeUnit unit

/-- Code before the literals is passed over. -/
theorem ReadsBack.code_append {units : List Nat} {read : List Lexeme} {literals : List Literal}
    (code : ∀ unit ∈ units, IsCodeUnit unit) (back : ReadsBack read literals) :
    ReadsBack (units.map Lexeme.code ++ read) literals where
  quoted := by
    have none : (units.map Lexeme.code).filter Lexeme.isQuoted = [] := by
      simp [List.filter_eq_nil_iff, Lexeme.isQuoted]
    rw [List.filter_append, none, List.nil_append, back.quoted]
  code unit member := by
    rcases List.mem_append.1 member with member | member
    · obtain ⟨other, inside, same⟩ := List.mem_map.1 member
      cases same
      exact code unit inside
    · exact back.code unit member

/-- Literals without quotes are no lexemes of their own. -/
theorem ReadsBack.unquoted_append {read : List Lexeme} {plain literals : List Literal}
    (unquoted : ∀ value ∈ plain, value.isQuoted = false) (back : ReadsBack read literals) :
    ReadsBack read (plain ++ literals) where
  quoted := by
    have none : plain.filterMap Literal.lexeme? = [] := by
      refine List.filterMap_eq_nil_iff.2 fun value member => ?_
      cases value with
      | text | character => cases unquoted _ member
      | boolean | int | long | float | double => rfl
    rw [List.filterMap_append, none, List.nil_append, back.quoted]
  code := back.code

/-- A literal that is read comes before the ones after it. -/
theorem ReadsBack.quoted_cons {lexeme : Lexeme} {literal : Literal} {read : List Lexeme}
    {literals : List Literal} (quoted : lexeme.isQuoted = true)
    (same : literal.lexeme? = some lexeme) (back : ReadsBack read literals) :
    ReadsBack (lexeme :: read) (literal :: literals) where
  quoted := by
    rw [List.filter_cons_of_pos quoted, List.filterMap_cons_some same, back.quoted]
  code unit member := by
    rcases List.mem_cons.1 member with rfl | member
    · cases quoted
    · exact back.code unit member

/-- A fragment that is no quoted literal is written as plain text. -/
theorem Fragment.isPlain_source {fragment : Fragment} (valid : fragment.invalid? = none)
    (plain : fragment.isPlainMark = true)
    (unquoted : ∀ value ∈ fragment.literal?, value.isQuoted = false) (depth : Nat) :
    IsPlain (fragment.source depth) := by
  cases fragment with
  | mark text =>
      simp only [isPlainMark, Bool.and_eq_true, List.all_eq_true] at plain
      exact plain.2
  | enter bracket | leave bracket => cases bracket <;> exact isPlain_cons.2 ⟨by decide, isPlain_nil⟩
  | name text => exact (isWord_of_isIdentifier ((invalid?_name text).1 valid)).isPlain
  | package text => exact (isWord_of_isQualifiedName ((invalid?_package text).1 valid)).isPlain
  | type text => exact isPlain_of_isTypeReference ((invalid?_type text).1 valid)
  | literal value => exact (Literal.isWord_source (unquoted value rfl)).isPlain
  | indent | dedent => exact isPlain_nil
  | lineBreak =>
      refine isPlain_cons.2 ⟨by decide, fun character member => ?_⟩
      rw [List.eq_of_mem_replicate member]
      decide
  | blankLine => exact isPlain_cons.2 ⟨by decide, isPlain_nil⟩

/-- Plain text opens no literal. -/
theorem head?_of_plain {character : Char} {rest : List Char} {units : List Nat}
    (plain : isPlain character = true) (translated : translate (character :: rest) = some units) :
    units.head? ≠ some '"'.toNat := by
  have other : character ≠ '\\' := by
    rintro rfl
    exact absurd plain (by decide)
  rw [← List.singleton_append, isTranslated_character other] at translated
  obtain ⟨following, -, rfl⟩ := Option.map_eq_some_iff.1 translated
  obtain ⟨first, others, split⟩ : ∃ first others, utf16Units character = first :: others := by
    unfold utf16Units
    dsimp only
    split <;> exact ⟨_, _, rfl⟩
  have code : IsCodeUnit first := isCodeUnit_of_isPlain plain first (by rw [split]; simp)
  rw [split, List.cons_append, List.head?_cons]
  exact fun same => code '"' (by decide) (Option.some.inj same)

/-- What keeps a literal apart does not open another one. -/
theorem Layout.head?_translated {layout : Layout} (orderly : layout.IsOrderly)
    (ends : ∀ next ∈ layout.head?, next.isEnding = true) (depth : Nat) {units : List Nat}
    (translated : translate (layout.source depth) = some units) :
    units.head? ≠ some '"'.toNat := by
  induction layout generalizing depth with
  | nil =>
      rw [Layout.source, translate] at translated
      cases translated
      simp
  | cons fragment rest ih =>
      obtain ⟨plain, follows, others⟩ := isOrderly_cons.1 orderly
      have ending : fragment.isEnding = true := ends fragment rfl
      cases fragment with
      | mark text =>
          simp only [Fragment.isPlainMark, Bool.and_eq_true, List.all_eq_true, ne_eq,
            decide_eq_true_eq] at plain
          obtain ⟨first, remaining, split⟩ := List.exists_cons_of_ne_nil
            (fun empty => plain.1 (String.toList_eq_nil_iff.1 empty))
          rw [Layout.source, Fragment.source, split, List.cons_append] at translated
          exact head?_of_plain (plain.2 first (by rw [split]; simp)) translated
      | leave bracket =>
          have closing : Java.isPlain bracket.closing = true := by cases bracket <;> decide
          exact head?_of_plain closing translated
      | lineBreak | blankLine => exact head?_of_plain (by decide) translated
      | dedent =>
          refine ih others (fun next member => ?_) (depth - 1) translated
          simpa [Fragment.mayPrecede, Fragment.isOpen] using follows next member
      | enter | name | package | type | literal | indent => cases ending

/-- What can be said of the units of a source, one fragment after the other from its end. -/
structure Scans (motive : Nat → Layout → List Nat → Prop) : Prop where
  nil : ∀ depth, motive depth [] []
  plain : ∀ {depth fragment rest units},
    (∀ value ∈ fragment.literal?, value.isQuoted = false) →
    (∀ unit ∈ (fragment.source depth).flatMap utf16Units, IsCodeUnit unit) →
    motive (fragment.depthAfter depth) rest units →
    motive depth (fragment :: rest) ((fragment.source depth).flatMap utf16Units ++ units)
  text : ∀ {depth value rest inner units}, IsLiteralPart '"'.toNat inner (utf16 value) →
    inner.head? ≠ some '"'.toNat → units.head? ≠ some '"'.toNat → motive depth rest units →
    motive depth (.literal (.text value) :: rest) ('"'.toNat :: (inner ++ '"'.toNat :: units))
  character : ∀ {depth value rest inner units},
    IsLiteralPart '\''.toNat inner (utf16Units value) → motive depth rest units →
    motive depth (.literal (.character value) :: rest)
      ('\''.toNat :: (inner ++ '\''.toNat :: units))

/-- The source of a layout that keeps its literals apart is its plain text and its literals. -/
theorem Scans.exists_units {motive : Nat → Layout → List Nat → Prop} (scans : Scans motive)
    {layout : Layout} (valid : layout.IsValid) (orderly : layout.IsOrderly) (depth : Nat) :
    ∃ units, translate (layout.source depth) = some units ∧ motive depth layout units := by
  induction layout generalizing depth with
  | nil => exact ⟨[], by simp [Layout.source, translate], scans.nil depth⟩
  | cons fragment rest ih =>
      obtain ⟨accepted, validRest⟩ := Layout.isValid_cons.1 valid
      obtain ⟨plain, follows, orderlyRest⟩ := Layout.isOrderly_cons.1 orderly
      obtain ⟨units, translated, held⟩ := ih validRest orderlyRest (fragment.depthAfter depth)
      rw [Layout.source]
      -- Outside of quotes a fragment is translated as it stands.
      by_cases quoted : ∃ value, fragment = .literal value ∧ value.isQuoted = true
      case neg =>
        have unquoted : ∀ value ∈ fragment.literal?, value.isQuoted = false := by
          intro value member
          cases fragment with
          | literal own =>
              cases member
              exact Bool.eq_false_iff.2 fun held => quoted ⟨_, rfl, held⟩
          | _ => cases member
        have text := Fragment.isPlain_source accepted plain unquoted depth
        exact ⟨_, by rw [isTranslated_plain text, translated]; rfl,
          scans.plain unquoted (isCodeUnit_plain text) held⟩
      case pos =>
        obtain ⟨value, rfl, quoted⟩ := quoted
        have ends : ∀ next ∈ List.head? rest, next.isEnding = true := by
          simpa [Fragment.mayPrecede, Fragment.isOpen] using follows
        cases value with
        | text value =>
            obtain ⟨inner, escaped, part, inside⟩ := stands_escape (.inl rfl) value.toList
            have apart := Layout.head?_translated orderlyRest ends _ translated
            have whole := isTranslated_quoted isQuote_text escaped
            refine ⟨_, ?_, scans.text part inside apart held⟩
            rw [Fragment.source, Literal.source, whole, translated]
            simp
        | character value =>
            obtain ⟨inner, escaped, part, -⟩ := stands_escape (.inr rfl) [value]
            rw [List.flatMap_singleton] at part
            have whole := isTranslated_quoted isQuote_character escaped
            refine ⟨_, ?_, scans.character part held⟩
            rw [Fragment.source, Literal.source, whole, translated]
            simp
        | boolean | int | long | float | double => cases quoted

/-- Whatever the layout, its literals are read back in their order. -/
theorem scans_lexemes : Scans fun _ layout units =>
    (∀ value ∈ layout.literals, value.IsSingleUnit) →
      ∃ read, lexemes units = some read ∧ ReadsBack read layout.literals where
  nil _ _ := ⟨[], by simp [lexemes], rfl, nofun⟩
  plain unquoted code held single := by
    rw [Layout.literals_cons] at single ⊢
    obtain ⟨read, taken, back⟩ := held (List.forall_mem_append.1 single).2
    exact ⟨_, by rw [lexemes_units code, taken]; rfl,
      (back.code_append code).unquoted_append (by simpa using unquoted)⟩
  text part inside apart held single := by
    rw [Layout.literals_cons] at single ⊢
    obtain ⟨read, taken, back⟩ := held (List.forall_mem_append.1 single).2
    exact ⟨_, by rw [lexemes_text part inside apart, taken]; rfl, back.quoted_cons rfl rfl⟩
  character part held single := by
    rw [Layout.literals_cons] at single ⊢
    obtain ⟨own, others⟩ := List.forall_mem_append.1 single
    obtain ⟨read, taken, back⟩ := held others
    rw [utf16Units_of_lt (own _ (List.mem_singleton_self _) _ rfl)] at part
    exact ⟨_, by rw [lexemes_character part, taken]; rfl, back.quoted_cons rfl rfl⟩

/-- What a unit is written as has its literals as lexemes, and no quote and no backslash besides. -/
theorem CompilationUnit.exists_lexemes {unit : CompilationUnit} {owner text : String}
    (written : unit.write owner = .ok text)
    (single : ∀ value ∈ unit.literals, value.IsSingleUnit) :
    ∃ read, readSource text = some read ∧ ReadsBack read unit.literals := by
  obtain ⟨valid, rfl⟩ := Layout.write_eq_ok_iff.1 written
  obtain ⟨shown, orderly⟩ := unit.presents
  rw [← shown] at single ⊢
  obtain ⟨units, translated, reads⟩ := scans_lexemes.exists_units valid orderly 0
  obtain ⟨read, taken, back⟩ := reads single
  exact ⟨read, by rw [readSource, String.toList_ofList, translated]; exact taken, back⟩

def Lexeme.text? : Lexeme → Option (List Nat)
  | .text value => some value
  | _ => none

def Literal.text? : Literal → Option String
  | .text value => some value
  | _ => none

/-- The texts among the lexemes are the texts among the literals. -/
theorem ReadsBack.texts {read : List Lexeme} {literals : List Literal}
    (back : ReadsBack read literals) :
    read.filterMap Lexeme.text? = (literals.filterMap Literal.text?).map utf16 := by
  have outside : ∀ lexeme : Lexeme, (Option.guard Lexeme.isQuoted lexeme).bind Lexeme.text? =
      lexeme.text? := by
    intro lexeme
    cases lexeme <;> rfl
  have inside : ∀ value : Literal, value.lexeme?.bind Lexeme.text? = value.text?.map utf16 := by
    intro value
    cases value <;> rfl
  have quoted := congrArg (List.filterMap Lexeme.text?) back.quoted
  rw [← List.filterMap_eq_filter, List.filterMap_filterMap, List.filterMap_filterMap] at quoted
  simpa only [outside, inside, List.map_filterMap] using quoted

/-- The text literals of the source are those of the tree, in their order, and no quote and no
backslash stands outside of a literal. -/
theorem CompilationUnit.texts_read_back {unit : CompilationUnit} {owner text : String}
    (written : unit.write owner = .ok text)
    (plane : ∀ character, .character character ∈ unit.literals → character.toNat < 0x10000) :
    ∃ read, readSource text = some read ∧
      read.filterMap Lexeme.text? = (unit.literals.filterMap Literal.text?).map utf16 ∧
      ∀ outside, .code outside ∈ read →
        outside ≠ '"'.toNat ∧ outside ≠ '\''.toNat ∧ outside ≠ '\\'.toNat := by
  obtain ⟨read, taken, back⟩ := exists_lexemes written fun value member character same =>
    plane character (same ▸ member)
  refine ⟨read, taken, back.texts, fun outside member => ?_⟩
  have code := back.code outside member
  exact ⟨code '"' (by decide), code '\'' (by decide), code '\\' (by decide)⟩

/-- Its literals hold quotes, backslashes, line breaks and a character beyond the first plane. -/
def quotingUnit : CompilationUnit where
  package := "shop"
  classes := [{
    modifiers := [.isPublic]
    name := "Greeter"
    interfaces := []
    fields := []
    methods := [{
      annotations := []
      modifiers := [.isPublic]
      returnType := "String"
      name := "greet"
      parameters := []
      body := [
        .evaluate (.call (.text "\\u0022;\n\"//") "indexOf" [.literal (.character '"')]),
        .returnValue (.text "\x001😀\\")] }] }]

/-- Quotes, escapes and comment marks inside of literals are read back. -/
theorem quotingUnit_read_back : ∃ text read, quotingUnit.write "shop.Greeter" = .ok text ∧
    (∀ character, .character character ∈ quotingUnit.literals → character.toNat < 0x10000) ∧
    readSource text = some read ∧
    read.filterMap Lexeme.text? = [utf16 "\\u0022;\n\"//", utf16 "\x001😀\\"] := by
  have valid : quotingUnit.layout.IsValid := by
    rw [← Layout.invalid?_eq_none_iff]
    decide +kernel
  obtain ⟨text, written⟩ := (Layout.write_isOk_iff "shop.Greeter" _).2 valid
  have plane : ∀ character, .character character ∈ quotingUnit.literals →
      character.toNat < 0x10000 := by
    intro character member
    have only : quotingUnit.literals = [.text "\\u0022;\n\"//", .character '"',
      .text "\x001😀\\"] := rfl
    obtain rfl : character = '"' := by simpa [only] using member
    decide
  obtain ⟨read, taken, texts, -⟩ := CompilationUnit.texts_read_back written plane
  exact ⟨text, read, written, plane, taken, texts⟩

end BusBridge.Java
