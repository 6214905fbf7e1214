/-
This file proves where the white space of written source comes from, outside of its literals: from
the layout, which takes spaces and line feeds only, and from the types of the tree.
-/

import BusBridge.Proofs.Java.NamePlaces
import BusBridge.Proofs.Java.SourceLexemes

namespace BusBridge.Java

/-- The characters of a mark are printable ASCII. -/
def Fragment.isPrintable : Fragment → Bool
  | .mark text => text.toList.all fun character => ' ' ≤ character && character ≤ '~'
  | _ => true

def Layout.isPrintable (layout : Layout) : Bool :=
  layout.all Fragment.isPrintable

namespace Layout

variable {first second layout : Layout} {fragment : Fragment}

/-- The first fragment is judged apart from the rest. -/
theorem isPrintable_cons :
    isPrintable (fragment :: layout) = (fragment.isPrintable && layout.isPrintable) :=
  List.all_cons

/-- Layouts are judged one after the other. -/
theorem isPrintable_append :
    isPrintable (first ++ second) = (first.isPrintable && second.isPrintable) :=
  List.all_append

/-- Brackets are printable. -/
theorem isPrintable_enclosed {bracket : Bracket} :
    (enclosed bracket layout).isPrintable = layout.isPrintable := by
  rw [enclosed, isPrintable_append, isPrintable_cons]
  exact Bool.and_true _

end Layout

/-- Fragments that open and close nothing are printable. -/
theorem Fragment.isPrintable_of_isLevel {fragment : Fragment} (level : fragment.isLevel = true) :
    fragment.isPrintable = true := by
  cases fragment with
  | mark text =>
      refine List.all_eq_true.2 fun character member => ?_
      have known := List.all_eq_true.1 level character member
      rw [isMarkCharacter, Bool.and_eq_true] at known
      exact known.1
  | _ => rfl

/-- A closed layout is printable. -/
theorem Layout.IsClosed.isPrintable {layout : Layout} (closed : layout.IsClosed) :
    layout.isPrintable = true := by
  induction closed with
  | nil => rfl
  | cons level _ ih =>
      rw [isPrintable_cons, Fragment.isPrintable_of_isLevel level, ih, Bool.and_true]
  | append _ _ ih ihSecond => rw [isPrintable_append, ih, ihSecond, Bool.and_true]
  | enclosed bracket _ ih => rw [isPrintable_enclosed, ih]
  | indented _ ih =>
      rw [Java.indented, isPrintable_enclosed, isPrintable_append, isPrintable_cons, ih]
      rfl

/-- Each unit is laid out in printable marks. -/
theorem CompilationUnit.isPrintable_layout (unit : CompilationUnit) :
    unit.layout.isPrintable = true :=
  unit.isClosed_layout.isPrintable

/-- The units outside of literals. Unlike a lexeme, what stands between apostrophes may take more
than one unit, since a source is judged here for the rest of it. -/
def codeUnits : List Nat → Option (List Nat)
  | [] => some []
  | unit :: rest =>
      if unit = '"'.toNat && rest.take 2 = ['"'.toNat, '"'.toNat] then none
      else if unit = '"'.toNat || unit = '\''.toNat then
        match _literal : readLiteral unit rest with
        | some (_, after) => codeUnits after
        | none => none
      else if unit = '/'.toNat && (rest.head? = some '/'.toNat || rest.head? = some '*'.toNat) then
        none
      else (codeUnits rest).map (unit :: ·)
termination_by units => units.length
decreasing_by
  · have shorter := length_readLiteral_lt _literal
    exact Nat.lt_succ_of_lt shorter
  · exact Nat.lt_succ_self _

/-- The code of Java source. -/
def readCode (source : String) : Option (List Nat) :=
  (translate source.toList).bind codeUnits

def Lexeme.code? : Lexeme → Option Nat
  | .code unit => some unit
  | _ => none

/-- A literal is skipped up to its closing quote. -/
theorem codeUnits_literal {quote : Nat} {units value rest : List Nat}
    (known : quote = '"'.toNat ∨ quote = '\''.toNat)
    (single : quote = '"'.toNat → units.take 2 ≠ ['"'.toNat, '"'.toNat])
    (read : readLiteral quote units = some (value, rest)) :
    codeUnits (quote :: units) = codeUnits rest := by
  have opens : (quote = '"'.toNat || quote = '\''.toNat) = true := by simpa using known
  have inline : (quote = '"'.toNat && units.take 2 = ['"'.toNat, '"'.toNat]) = false := by
    simpa using single
  rw [codeUnits, inline, if_neg Bool.false_ne_true, if_pos opens]
  split
  case h_1 found after taken =>
    rw [read] at taken
    cases taken
    rfl
  case h_2 unread =>
    rw [read] at unread
    cases unread

/-- A unit that starts no literal and no comment is code. -/
theorem codeUnits_cons {unit : Nat} {rest : List Nat} (quote : unit ≠ '"'.toNat)
    (apostrophe : unit ≠ '\''.toNat)
    (comment : ¬(unit = '/'.toNat && (rest.head? = some '/'.toNat ||
      rest.head? = some '*'.toNat)) = true) :
    codeUnits (unit :: rest) = (codeUnits rest).map (unit :: ·) := by
  rw [codeUnits, decide_eq_false quote, decide_eq_false apostrophe, Bool.false_and, Bool.or_false,
    if_neg Bool.false_ne_true, if_neg Bool.false_ne_true, if_neg comment]

/-- Where the source has lexemes, its code is what they leave outside of literals. -/
theorem codeUnits_of_lexemes {units : List Nat} {read : List Lexeme}
    (taken : lexemes units = some read) : codeUnits units = some (read.filterMap Lexeme.code?) := by
  fun_induction lexemes units generalizing read with
  | case1 =>
      cases taken
      rw [codeUnits]
      rfl
  | case2 | case4 | case6 | case7 => cases taken
  | case3 rest single value after literal ih =>
      obtain ⟨others, following, rfl⟩ := Option.map_eq_some_iff.1 taken
      have skipped := ih following
      exact (codeUnits_literal (.inl rfl) (fun _ => single) literal).trans skipped
  | case5 rest _ value after literal ih =>
      obtain ⟨others, following, rfl⟩ := Option.map_eq_some_iff.1 taken
      have skipped := ih following
      exact (codeUnits_literal (.inr rfl) nofun literal).trans skipped
  | case8 unit rest quote apostrophe comment ih =>
      obtain ⟨others, following, rfl⟩ := Option.map_eq_some_iff.1 taken
      rw [codeUnits_cons quote apostrophe comment, ih following]
      rfl

/-- Units of code are kept as they are. -/
theorem codeUnits_units {units : List Nat} (code : ∀ unit ∈ units, IsCodeUnit unit)
    (rest : List Nat) : codeUnits (units ++ rest) = (codeUnits rest).map (units ++ ·) := by
  induction units with
  | nil => simp
  | cons unit units ih =>
      obtain ⟨first, others⟩ := List.forall_mem_cons.1 code
      have slash : unit ≠ '/'.toNat := first '/' (by decide)
      rw [List.cons_append, codeUnits_cons (first '"' (by decide)) (first '\'' (by decide))
        (by rw [decide_eq_false slash, Bool.false_and]; exact Bool.false_ne_true), ih others,
        Option.map_map]
      rfl

/-- The fragment is a literal between quotes. -/
def Fragment.isQuoted (fragment : Fragment) : Bool :=
  fragment.literal?.any Literal.isQuoted

/-- The characters of a layout that are not in its literals. -/
def Layout.code (depth : Nat) : Layout → List Char
  | [] => []
  | fragment :: rest =>
      (if fragment.isQuoted then [] else fragment.source depth) ++
        Layout.code (fragment.depthAfter depth) rest

/-- Whatever the layout, what remains outside of literals is its code. -/
theorem scans_codeUnits : Scans fun depth layout units =>
    codeUnits units = some ((layout.code depth).flatMap utf16Units) where
  nil _ := by simp [codeUnits, Layout.code]
  plain {_ fragment _ _} unquoted code held := by
    have plain : fragment.isQuoted = false := by
      rw [Fragment.isQuoted, ← Bool.not_eq_true, Option.any_eq_true]
      rintro ⟨value, known, quoted⟩
      rw [unquoted value known] at quoted
      cases quoted
    rw [codeUnits_units code, held, Layout.code, plain, if_neg Bool.false_ne_true,
      List.flatMap_append]
    rfl
  text part inside apart held :=
    (codeUnits_literal (.inl rfl) (fun _ => take_two_ne inside apart) (part.readLiteral _)).trans
      held
  character part held :=
    (codeUnits_literal (.inr rfl) nofun (part.readLiteral _)).trans held

/-- The white space of Java: space, tab, form feed and the two characters that end lines. -/
def javaBlanks : List Char := [' ', '\t', '\x0c', '\n', '\r']

/-- No character of a word is white space. -/
theorem IsWord.isBlank_eq_false {text : List Char} (word : IsWord text) :
    ∀ character ∈ text, Character.isBlank character = false := by
  intro character member
  have known := word character member
  rw [isWordCharacter, Bool.or_eq_true, decide_eq_true_eq] at known
  rcases known with continues | rfl
  · exact TypeReference.isBlank_eq_false_of_continuesName continues
  · decide

/-- Space is the one blank in printable ASCII. -/
theorem eq_space_of_isBlank {character : Char}
    (printable : (' ' ≤ character && character ≤ '~') = true)
    (blank : Character.isBlank character = true) : character = ' ' := by
  have each : ∀ code < 127, Character.isBlank (Char.ofNat code) = true → 32 ≤ code → code = 32 := by
    decide
  rw [Bool.and_eq_true, decide_eq_true_eq, decide_eq_true_eq] at printable
  have found := each character.toNat (Nat.lt_succ_of_le printable.2)
  rw [Char.ofNat_toNat] at found
  exact Char.toNat_inj.1 (found blank printable.1)

/-- No bracket is white space. -/
theorem isBlank_bracket (bracket : Bracket) : Character.isBlank bracket.opening = false ∧
    Character.isBlank bracket.closing = false := by
  cases bracket <;> decide

/-- The blanks of a fragment that is no literal between quotes are Java's, unless it is a type. -/
theorem Fragment.mem_javaBlanks_or_type {fragment : Fragment} {depth : Nat} {character : Char}
    (valid : fragment.invalid? = none) (printable : fragment.isPrintable = true)
    (plain : fragment.isQuoted = false) (blank : Character.isBlank character = true)
    (member : character ∈ fragment.source depth) :
    character ∈ javaBlanks ∨
      ∃ type, fragment.mention? = some (.type type) ∧ character ∈ type.toList := by
  have foreign : ∀ {text : List Char}, IsWord text → character ∉ text := by
    intro text word inside
    rw [word.isBlank_eq_false character inside] at blank
    cases blank
  cases fragment with
  | mark text =>
      have space := eq_space_of_isBlank (List.all_eq_true.1 printable character member) blank
      exact .inl (space ▸ by decide)
  | enter bracket =>
      rw [List.mem_singleton.1 member, (isBlank_bracket bracket).1] at blank
      cases blank
  | leave bracket =>
      rw [List.mem_singleton.1 member, (isBlank_bracket bracket).2] at blank
      cases blank
  | name text =>
      exact absurd member (foreign (isWord_of_isIdentifier ((invalid?_name text).1 valid)))
  | package text =>
      exact absurd member (foreign (isWord_of_isQualifiedName ((invalid?_package text).1 valid)))
  | type text => exact .inr ⟨text, rfl, member⟩
  | literal value => exact absurd member (foreign (Literal.isWord_source plain))
  | indent | dedent => cases member
  | lineBreak =>
      rcases List.mem_cons.1 member with rfl | inside
      · exact .inl (by decide)
      · rw [List.eq_of_mem_replicate inside]
        exact .inl (by decide)
  | blankLine =>
      rw [List.mem_singleton.1 member]
      exact .inl (by decide)

namespace Layout

/-- White space in code is that of the language, or stands in a type. -/
theorem mem_javaBlanks_or_type {layout : Layout} {depth : Nat} {character : Char}
    (valid : layout.IsValid) (printable : layout.isPrintable = true)
    (blank : Character.isBlank character = true) (member : character ∈ layout.code depth) :
    character ∈ javaBlanks ∨ ∃ type, .type type ∈ layout.mentions ∧ character ∈ type.toList := by
  induction layout generalizing depth with
  | nil => cases member
  | cons fragment rest ih =>
      obtain ⟨accepted, validRest⟩ := isValid_cons.1 valid
      rw [isPrintable_cons, Bool.and_eq_true] at printable
      rw [mentions_cons]
      rcases List.mem_append.1 member with here | later
      · split at here
        case isTrue => cases here
        case isFalse plain =>
          obtain own | ⟨type, found, inside⟩ := Fragment.mem_javaBlanks_or_type accepted
            printable.1 (Bool.eq_false_iff.2 plain) blank here
          · exact .inl own
          · exact .inr ⟨type, by rw [found]; exact List.mem_cons_self .., inside⟩
      · obtain own | ⟨type, found, inside⟩ := ih validRest printable.2 later
        · exact .inl own
        · exact .inr ⟨type, List.mem_append_right _ found, inside⟩

/-- A type is copied into the code. -/
theorem subset_code_of_type {layout : Layout} {depth : Nat} {type : String}
    (member : .type type ∈ layout.mentions) : type.toList ⊆ layout.code depth := by
  induction layout generalizing depth with
  | nil => cases member
  | cons fragment rest ih =>
      rw [mentions_cons] at member
      rcases List.mem_append.1 member with here | later
      · have found := Option.mem_toList.1 here
        have plain : fragment.isQuoted = false := by
          cases fragment <;> first | rfl | cases found
        rw [code, plain, if_neg Bool.false_ne_true, fragment.source_of_mention? depth found]
        exact List.subset_append_left ..
      · exact fun _ inside => List.mem_append_right _ (ih later inside)

end Layout

/-- A blank takes one unit, which is in no other character. -/
theorem toNat_mem_flatMap_iff {character : Char} {text : List Char}
    (blank : Character.isBlank character = true) :
    character.toNat ∈ text.flatMap utf16Units ↔ character ∈ text := by
  have low : character.toNat < 0xD800 := by
    obtain ⟨range, listed, covered⟩ := List.any_eq_true.1 blank
    have ends : ∀ range ∈ Character.blankRanges, range.2 < 0xD800 := by decide
    rw [Bool.and_eq_true, decide_eq_true_eq, decide_eq_true_eq] at covered
    exact Nat.lt_of_le_of_lt covered.2 (ends range listed)
  constructor
  · intro member
    obtain ⟨other, inside, taken⟩ := List.mem_flatMap.1 member
    rcases (mem_utf16Units taken).2 with same | high
    · rwa [Char.toNat_inj.1 same]
    · omega
  · intro inside
    refine List.mem_flatMap.2 ⟨character, inside, ?_⟩
    rw [utf16Units_of_lt (by omega)]
    exact List.mem_singleton_self _

/-- The code of a written unit is what its layout has outside of literals. -/
theorem CompilationUnit.readCode_of_write {unit : CompilationUnit} {owner text : String}
    (written : unit.write owner = .ok text) :
    readCode text = some ((unit.layout.code 0).flatMap utf16Units) := by
  obtain ⟨valid, rfl⟩ := Layout.write_eq_ok_iff.1 written
  obtain ⟨units, translated, taken⟩ :=
    scans_codeUnits.exists_units valid unit.presents.orderly 0
  rw [readCode, String.toList_ofList, translated]
  exact taken

/-- The white space outside of the literals of a written unit is that of Java exactly when this
holds for the white space in each of its types, which are copied as they are given. -/
theorem CompilationUnit.code_blanks_iff {unit : CompilationUnit} {owner text : String}
    (written : unit.write owner = .ok text) :
    ∃ code, readCode text = some code ∧
      (∀ read, readSource text = some read → code = read.filterMap Lexeme.code?) ∧
      ((∀ character, Character.isBlank character = true → character.toNat ∈ code →
          character ∈ javaBlanks) ↔
        ∀ type, .type type ∈ unit.mentions → ∀ character ∈ type.toList,
          Character.isBlank character = true → character ∈ javaBlanks) := by
  have valid := (Layout.write_eq_ok_iff.1 written).1
  have taken := readCode_of_write written
  refine ⟨_, taken, ?_, ?_⟩
  · intro read known
    obtain ⟨units, translated, lexed⟩ := Option.bind_eq_some_iff.1 known
    rw [readCode, translated, Option.bind_some, codeUnits_of_lexemes lexed] at taken
    exact (Option.some.inj taken).symm
  · rw [← unit.mentions_layout]
    constructor
    · intro known type member character inside blank
      exact known character blank
        ((toNat_mem_flatMap_iff blank).2 (Layout.subset_code_of_type member inside))
    · intro known character blank member
      obtain own | ⟨type, listed, inside⟩ := Layout.mem_javaBlanks_or_type valid
        unit.isPrintable_layout blank ((toNat_mem_flatMap_iff blank).1 member)
      · exact own
      · exact known type listed character inside blank

/-- A class with one field. Its method looks for a character beyond the first plane in a text that
has a no-break space. -/
def fieldUnit (type : String) : CompilationUnit where
  package := "shop"
  classes := [{
    modifiers := [.isPublic]
    name := "Index"
    interfaces := []
    fields := [⟨[.isPrivate], type, "entries"⟩]
    methods := [{
      annotations := []
      modifiers := [.isPublic]
      returnType := "int"
      name := "find"
      parameters := []
      body := [.returnValue (.call (.text "a\xa0b") "indexOf" [.literal (.character '😀')])] }] }]

/-- A type may bring its own tabs and blanks into the code. -/
theorem fieldUnit_blanks : ∃ text code,
    (fieldUnit "java.util.Map<String,\tInteger >").write "shop.Index" = .ok text ∧
    readCode text = some code ∧
    ∀ character, Character.isBlank character = true → character.toNat ∈ code →
      character ∈ javaBlanks := by
  have valid : (fieldUnit "java.util.Map<String,\tInteger >").layout.IsValid := by
    rw [← Layout.invalid?_eq_none_iff]
    decide +kernel
  obtain ⟨text, written⟩ := (Layout.write_isOk_iff "shop.Index" _).2 valid
  obtain ⟨code, taken, -, judged⟩ := CompilationUnit.code_blanks_iff written
  have each : ((fieldUnit "java.util.Map<String,\tInteger >").mentions.all fun mention =>
      mention.text.toList.all fun character =>
        !Character.isBlank character || javaBlanks.contains character) = true := by
    decide +kernel
  refine ⟨text, code, written, taken, judged.2 fun type member character inside blank => ?_⟩
  have known := List.all_eq_true.1 (List.all_eq_true.1 each _ member) character inside
  rwa [blank, Bool.not_true, Bool.false_or, List.contains_iff_mem] at known

/-- A no-break space in a type argument is written, although Java does not know it. -/
theorem fieldUnit_no_break_space : ∃ text code,
    (fieldUnit "java.util.List<\xa0String>").write "shop.Index" = .ok text ∧
    readCode text = some code ∧ Character.isBlank '\xa0' = true ∧ '\xa0'.toNat ∈ code ∧
    '\xa0' ∉ javaBlanks := by
  have valid : (fieldUnit "java.util.List<\xa0String>").layout.IsValid := by
    rw [← Layout.invalid?_eq_none_iff]
    decide +kernel
  obtain ⟨text, written⟩ := (Layout.write_isOk_iff "shop.Index" _).2 valid
  have inside : '\xa0' ∈ (fieldUnit "java.util.List<\xa0String>").layout.code 0 := by
    decide +kernel
  exact ⟨text, _, written, CompilationUnit.readCode_of_write written, by decide,
    (toNat_mem_flatMap_iff (by decide)).2 inside, by decide⟩

end BusBridge.Java
