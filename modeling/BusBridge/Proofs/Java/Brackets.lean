/-
This file proves that the brackets of written source are nested, outside of its literals, and that
each part of a tree leaves the depth of the lines as it was before the part.
-/

import BusBridge.Proofs.Java.WhiteSpace

namespace BusBridge.Java

/-- One of the two characters of a pair of brackets. -/
inductive BracketMark where
  | opens (bracket : Bracket)
  | closes (bracket : Bracket)
  deriving DecidableEq, Repr

namespace BracketMark

def character : BracketMark → Char
  | .opens bracket => bracket.opening
  | .closes bracket => bracket.closing

def all : List BracketMark :=
  [.opens .round, .closes .round, .opens .square, .closes .square, .opens .curly, .closes .curly]

def ofUnit? (unit : Nat) : Option BracketMark :=
  all.find? fun mark => mark.character.toNat = unit

/-- No unit beyond ASCII is a bracket. -/
theorem ofUnit?_eq_none {unit : Nat} (high : 0x80 ≤ unit) : ofUnit? unit = none := by
  have small : ∀ mark ∈ all, mark.character.toNat < 0x80 := by decide
  refine List.find?_eq_none.2 fun mark member => ?_
  have below := small mark member
  simp only [decide_eq_true_eq]
  omega

/-- A character that is no bracket has no bracket mark. -/
theorem ofUnit?_toNat_eq_none {character : Char}
    (other : ∀ mark ∈ all, mark.character ≠ character) : ofUnit? character.toNat = none := by
  refine List.find?_eq_none.2 fun mark member same => other mark member ?_
  exact Char.toNat_inj.1 (of_decide_eq_true same)

end BracketMark

/-- Each bracket that opens is closed by one of its kind, once all brackets between the two are. -/
inductive IsNested : List BracketMark → Prop where
  | nil : IsNested []
  | pair (bracket : Bracket) {inner rest : List BracketMark} (held : IsNested inner)
      (followed : IsNested rest) : IsNested (.opens bracket :: inner ++ .closes bracket :: rest)

/-- Nested brackets may follow nested brackets. -/
theorem IsNested.append {first second : List BracketMark} (nested : IsNested first)
    (followed : IsNested second) : IsNested (first ++ second) := by
  induction nested with
  | nil => exact followed
  | pair bracket held _ _ ih =>
      rw [List.append_assoc, List.cons_append]
      exact .pair bracket held ih

/-- The brackets of a text in their order. -/
def bracketMarks (text : List Char) : List BracketMark :=
  text.filterMap fun character => BracketMark.ofUnit? character.toNat

section Texts

variable {first second text : List Char} {character : Char}

@[simp] theorem bracketMarks_nil : bracketMarks [] = [] := rfl

/-- The brackets of two texts come one after the other. -/
@[simp] theorem bracketMarks_append :
    bracketMarks (first ++ second) = bracketMarks first ++ bracketMarks second :=
  List.filterMap_append

/-- The first character is looked at apart from the rest. -/
theorem bracketMarks_cons :
    bracketMarks (character :: text) = bracketMarks [character] ++ bracketMarks text := by
  rw [← bracketMarks_append, List.singleton_append]

/-- It is enough that the brackets are left out. -/
theorem bracketMarks_eq_nil {allowed : Char → Bool}
    (excluded : BracketMark.all.all (fun mark => !allowed mark.character) = true)
    (held : ∀ character ∈ text, allowed character = true) : bracketMarks text = [] := by
  refine List.filterMap_eq_nil_iff.2 fun character member => ?_
  refine BracketMark.ofUnit?_toNat_eq_none fun mark listed same => ?_
  have refused := List.all_eq_true.1 excluded mark listed
  rw [same, held character member] at refused
  cases refused

/-- A text without brackets is nested. -/
theorem isNested_of_forall {allowed : Char → Bool}
    (excluded : BracketMark.all.all (fun mark => !allowed mark.character) = true)
    (held : ∀ character ∈ text, allowed character = true) : IsNested (bracketMarks text) := by
  rw [bracketMarks_eq_nil excluded held]
  exact .nil

/-- A line break and its indentation hold no bracket. -/
theorem bracketMarks_lineBreak (depth : Nat) : bracketMarks ('\n' :: indentation depth) = [] := by
  have blank : ∀ character ∈ '\n' :: indentation depth, Character.isBlank character = true := by
    rw [List.forall_mem_cons]
    refine ⟨by decide, fun character member => ?_⟩
    rw [List.eq_of_mem_replicate member]
    decide
  exact bracketMarks_eq_nil (by decide) blank

/-- A bracket takes one unit, which is in no other character. -/
theorem filterMap_ofUnit?_utf16Units :
    (text.flatMap utf16Units).filterMap BracketMark.ofUnit? = bracketMarks text := by
  induction text with
  | nil => rfl
  | cons head rest ih =>
      rw [List.flatMap_cons, List.filterMap_append, ih, bracketMarks_cons]
      congr 1
      by_cases plane : head.toNat < 0x10000
      · rw [utf16Units_of_lt plane]
        rfl
      · have free : bracketMarks [head] = [] :=
          List.filterMap_cons_none (BracketMark.ofUnit?_eq_none (by omega))
        rw [free, List.filterMap_eq_nil_iff]
        intro unit member
        obtain ⟨below, same | surrogate⟩ := mem_utf16Units member
        · omega
        · exact BracketMark.ofUnit?_eq_none (by omega)

end Texts

namespace TypeReference

def Token.bracketMarks : Token → List BracketMark
  | .name _ => []
  | .symbol character => Java.bracketMarks [character]

/-- A type has the brackets of its symbols only. -/
theorem Spells.bracketMarks_eq {cut : List Token} {text : List Char} (spelled : Spells cut text) :
    Java.bracketMarks text = cut.flatMap Token.bracketMarks := by
  induction spelled with
  | nothing => rfl
  | @blank character _ _ blank _ ih =>
      have free : Java.bracketMarks [character] = [] :=
        Java.bracketMarks_eq_nil (by decide) (List.forall_mem_singleton.2 blank)
      rw [bracketMarks_cons, free, ih, List.nil_append]
  | symbol _ _ ih => rw [bracketMarks_cons, ih, List.flatMap_cons, Token.bracketMarks]
  | name _ continues _ _ ih =>
      have free := Java.bracketMarks_eq_nil (by decide) continues
      rw [bracketMarks_append, free, ih, List.flatMap_cons, Token.bracketMarks]

/-- The brackets of an array type come in pairs. -/
theorem isNested_brackets (count : Nat) :
    IsNested ((brackets count).flatMap Token.bracketMarks) := by
  induction count with
  | zero => exact .nil
  | succ count ih => exact .pair .square .nil ih

/-- Each part of a reference closes the brackets that it opens. -/
theorem Derives.isNested {part : Part} {tokens : List Token} (derived : Derives part tokens) :
    IsNested (tokens.flatMap Token.bracketMarks) := by
  induction derived with
  | primitive _ count => exact isNested_brackets count
  | named _ count => exact isNested_brackets count
  | generic _ _ count ih =>
      simp only [List.flatMap_cons, List.flatMap_append]
      exact ih.append (isNested_brackets count)
  | wildcard => exact .nil
  | plainArgument _ _ ih | bounded _ _ ih | plain _ ih | last _ ih => exact ih
  | more _ _ ih ihOthers =>
      rw [List.flatMap_append]
      exact ih.append ihOthers

/-- The tokens of a type reference close what they open. -/
theorem IsReferenceTokens.isNested {tokens : List Token} (read : IsReferenceTokens tokens) :
    IsNested (tokens.flatMap Token.bracketMarks) := by
  obtain rfl | ⟨reference, derived⟩ := read
  · exact .nil
  · exact derived.isNested

end TypeReference

/-- A type reference closes what it opens. -/
theorem isNested_of_isTypeReference {type : String} (accepted : isTypeReference type = true) :
    IsNested (bracketMarks type.toList) := by
  obtain ⟨cut, read, derived⟩ := (TypeReference.isTypeReference_iff type).1 accepted
  rw [((TypeReference.tokens_eq_ok_iff type cut).1 read).bracketMarks_eq]
  exact derived.isNested

/-- A fragment that opens and closes nothing keeps the depth. -/
theorem Fragment.depthAfter_of_isLevel {fragment : Fragment} (level : fragment.isLevel = true)
    (depth : Nat) : fragment.depthAfter depth = depth := by
  cases fragment <;> first | rfl | cases level

/-- Of the fragments that are level only types may have brackets. -/
theorem Fragment.isNested_code {fragment : Fragment} (level : fragment.isLevel = true)
    (valid : fragment.invalid? = none) (depth : Nat) :
    IsNested (bracketMarks (if fragment.isQuoted then [] else fragment.source depth)) := by
  split
  case isTrue => exact .nil
  case isFalse unquoted =>
    cases fragment with
    | mark text => exact isNested_of_forall (by decide) (List.all_eq_true.1 level)
    | enter | leave | indent | dedent => cases level
    | name text =>
        exact isNested_of_forall (by decide)
          (isWord_of_isIdentifier ((invalid?_name text).1 valid))
    | package text =>
        exact isNested_of_forall (by decide)
          (isWord_of_isQualifiedName ((invalid?_package text).1 valid))
    | type text => exact isNested_of_isTypeReference ((invalid?_type text).1 valid)
    | literal value =>
        exact isNested_of_forall (by decide)
          (Literal.isWord_source (Bool.eq_false_iff.2 unquoted))
    | lineBreak =>
        rw [source, bracketMarks_lineBreak]
        exact .nil
    | blankLine => exact .nil

namespace Layout

variable {layout : Layout}

/-- The second layout starts at the depth that the first one leaves. -/
theorem depthAfter_append (first second : Layout) (depth : Nat) :
    (first ++ second).depthAfter depth = second.depthAfter (first.depthAfter depth) :=
  List.foldl_append

/-- The second layout is written at the depth that the first one leaves. -/
theorem code_append (first second : Layout) (depth : Nat) :
    (first ++ second).code depth =
      first.code depth ++ second.code (first.depthAfter depth) := by
  induction first generalizing depth with
  | nil => rfl
  | cons fragment rest ih =>
      rw [List.cons_append, code, ih, code, List.append_assoc]
      rfl

/-- Brackets are written around what they enclose. -/
theorem code_enclosed (bracket : Bracket) (inner : Layout) (depth : Nat) :
    (enclosed bracket inner).code depth =
      bracket.opening :: inner.code depth ++ [bracket.closing] := by
  rw [enclosed, code_append]
  rfl

/-- The brackets around a layout are its first and its last one. -/
theorem bracketMarks_code_enclosed (bracket : Bracket) (inner : Layout) (depth : Nat) :
    bracketMarks ((enclosed bracket inner).code depth) =
      .opens bracket :: bracketMarks (inner.code depth) ++ [.closes bracket] := by
  rw [code_enclosed, bracketMarks_append, bracketMarks_cons]
  cases bracket <;> rfl

/-- Brackets that close again keep the depth. -/
theorem depthAfter_enclosed (bracket : Bracket) (inner : Layout) (depth : Nat) :
    (enclosed bracket inner).depthAfter depth = inner.depthAfter depth := by
  rw [enclosed, depthAfter_append]
  rfl

/-- A closed layout ends at the depth where it started. -/
theorem IsClosed.depthAfter_eq (closed : layout.IsClosed) (depth : Nat) :
    layout.depthAfter depth = depth := by
  induction closed generalizing depth with
  | nil => rfl
  | cons level _ ih =>
      rw [depthAfter, List.foldl_cons, Fragment.depthAfter_of_isLevel level]
      exact ih depth
  | append _ _ ih ihSecond => rw [depthAfter_append, ih, ihSecond]
  | enclosed bracket _ ih => rw [depthAfter_enclosed, ih]
  | @indented inner _ ih =>
      -- Inside, the depth is one more, so that lowering it gives the depth before.
      have deeper : depthAfter depth (.indent :: inner) = depth + 1 := ih (depth + 1)
      rw [Java.indented, depthAfter_enclosed, depthAfter_append, deeper]
      rfl

/-- The code of a closed layout is nested, if its names and types are valid. -/
theorem IsClosed.isNested_code (closed : layout.IsClosed) (valid : layout.IsValid) (depth : Nat) :
    IsNested (bracketMarks (layout.code depth)) := by
  induction closed generalizing depth with
  | nil => exact .nil
  | cons level _ ih =>
      obtain ⟨accepted, validRest⟩ := isValid_cons.1 valid
      rw [code, bracketMarks_append]
      exact (Fragment.isNested_code level accepted depth).append (ih validRest _)
  | append _ _ ih ihSecond =>
      obtain ⟨validFirst, validSecond⟩ := isValid_append.1 valid
      rw [code_append, bracketMarks_append]
      exact (ih validFirst _).append (ihSecond validSecond _)
  | enclosed bracket _ ih =>
      rw [bracketMarks_code_enclosed]
      exact .pair bracket (ih (isValid_enclosed.1 valid) depth) .nil
  | @indented inner _ ih =>
      have last : ∀ deeper, bracketMarks (code deeper [.dedent, .lineBreak]) = [] := by
        intro deeper
        change bracketMarks (('\n' :: indentation (deeper - 1)) ++ []) = []
        rw [List.append_nil, bracketMarks_lineBreak]
      rw [Java.indented, bracketMarks_code_enclosed, code_append, bracketMarks_append, last,
        List.append_nil]
      exact .pair .curly (ih (isValid_indented.1 valid) (depth + 1)) .nil

end Layout

/-- The parts of a tree that are laid out by functions of their own. -/
inductive TreePart where
  | unit (unit : CompilationUnit)
  | declaration (declaration : Class)
  | methods (methods : List Method) (separateFirst : Bool)
  | method (method : Method)
  | block (body : List Statement)
  | statement (statement : Statement)
  | arguments (arguments : List Expression)
  | receiver (target : Expression)
  | operand (outer : Operator) (inner : Expression)
  | expression (expression : Expression)

def TreePart.layout : TreePart → Layout
  | .unit tree => tree.layout
  | .declaration tree => tree.layout
  | .methods trees separateFirst =>
      (if !separateFirst || trees.isEmpty then [] else [.blankLine]) ++
        spaced (Method.layouts trees)
  | .method tree => tree.layout
  | .block trees => indented (Statement.lines trees)
  | .statement tree => tree.layout
  | .arguments trees => enclosed .round (separated ", " (Expression.layouts trees))
  | .receiver tree => parenthesized tree.isLoose tree.layout
  | .operand outer tree => parenthesized (tree.mixesWith outer) tree.layout
  | .expression tree => tree.layout

/-- Each part of a tree closes what it opens. -/
theorem TreePart.isClosed_layout : ∀ part : TreePart, part.layout.IsClosed
  | .unit tree => tree.isClosed_layout
  | .declaration tree => tree.isClosed_layout
  | .methods trees _ => (isClosed_blankLine _).append (.spaced (Method.isClosed_layouts trees))
  | .method tree => tree.isClosed_layout
  | .block trees => .indented (Statement.isClosed_lines trees)
  | .statement tree => tree.isClosed_layout
  | .arguments trees => .enclosed .round (.separated (Expression.isClosed_layouts trees))
  | .receiver tree => tree.isClosed_layout.parenthesized _
  | .operand _ tree => tree.isClosed_layout.parenthesized _
  | .expression tree => tree.isClosed_layout

/-- Outside of its literals, the brackets of a written unit are nested, and each part of a tree
leaves the depth as it is before the part. -/
theorem CompilationUnit.code_nested {unit : CompilationUnit} {owner text : String}
    (written : unit.write owner = .ok text) :
    (∃ code, readCode text = some code ∧ IsNested (code.filterMap BracketMark.ofUnit?)) ∧
      ∀ (part : TreePart) (depth : Nat), part.layout.depthAfter depth = depth := by
  refine ⟨⟨_, readCode_of_write written, ?_⟩, fun part => part.isClosed_layout.depthAfter_eq⟩
  rw [filterMap_ofUnit?_utf16Units]
  exact unit.isClosed_layout.isNested_code (Layout.write_eq_ok_iff.1 written).1 0

/-- A text and a character of the class hold brackets that nothing closes. -/
def unclosedUnit : CompilationUnit where
  package := "shop"
  classes := [{
    modifiers := [.isPublic]
    name := "Index"
    interfaces := ["java.util.function.IntFunction<int[][]>"]
    fields := [⟨[.isPrivate], "java.util.Map<String[], int[] []>", "rows"⟩]
    methods := [{
      annotations := ["Override"]
      modifiers := [.isPublic]
      returnType := "int[][]"
      name := "apply"
      parameters := [.final "int" "at"]
      body := [
        .conditional (.binary .equals (.variable "at")
            (.call (.text "([") "indexOf" [.literal (.character '\x7b')]))
          [.returnValue (.createArray "int[]" [])],
        .returnValue (.cast "int[][]" .null)] }] }]

/-- Brackets in literals are not counted. -/
theorem unclosedUnit_nested : ∃ text code, unclosedUnit.write "shop.Index" = .ok text ∧
    readCode text = some code ∧ IsNested (code.filterMap BracketMark.ofUnit?) ∧
    unclosedUnit.layout.depthAfter 1 = 1 := by
  have valid : unclosedUnit.layout.IsValid := by
    rw [← Layout.invalid?_eq_none_iff]
    decide +kernel
  obtain ⟨text, written⟩ := (Layout.write_isOk_iff "shop.Index" _).2 valid
  obtain ⟨⟨code, taken, nested⟩, kept⟩ := CompilationUnit.code_nested written
  exact ⟨text, code, written, taken, nested, kept (.unit unclosedUnit) 1⟩

end BusBridge.Java
