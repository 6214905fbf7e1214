/-
This file proves that a layout shows the literals of its tree in the order of the tree, and that
a mark, a bracket or a line break comes after each of them.
-/

import BusBridge.Proofs.Java.Layout
import BusBridge.Proofs.Java.PlainText
import Mathlib.Data.List.Chain

namespace BusBridge.Java

mutual

/-- The literals of a tree in the order of the source. -/
def Expression.literals : Expression → List Literal
  | .null | .self | .variable _ | .staticField .. | .classLiteral _ => []
  | .literal value => [value]
  | .field target _ => target.literals
  | .call target _ arguments => target.literals ++ Expression.allLiterals arguments
  | .staticCall _ _ arguments | .create _ arguments => Expression.allLiterals arguments
  | .createAnonymous _ methods => Method.allLiterals methods
  | .createArray _ items => Expression.allLiterals items
  | .cast _ value => value.literals
  | .binary _ left right => left.literals ++ right.literals

def Expression.allLiterals : List Expression → List Literal
  | [] => []
  | expression :: rest => expression.literals ++ Expression.allLiterals rest

def Statement.literals : Statement → List Literal
  | .evaluate value | .declare _ _ _ value | .returnValue value => value.literals
  | .assign target value => target.literals ++ value.literals
  | .conditional condition body => condition.literals ++ Statement.allLiterals body
  | .returnNothing => []
  | .declareClass declaration => declaration.literals

def Statement.allLiterals : List Statement → List Literal
  | [] => []
  | statement :: rest => statement.literals ++ Statement.allLiterals rest

def Method.literals : Method → List Literal
  | ⟨_, _, _, _, _, body⟩ => Statement.allLiterals body

def Method.allLiterals : List Method → List Literal
  | [] => []
  | method :: rest => method.literals ++ Method.allLiterals rest

def Class.literals : Class → List Literal
  | ⟨_, _, _, _, methods⟩ => Method.allLiterals methods

end

def CompilationUnit.literals (unit : CompilationUnit) : List Literal :=
  unit.classes.flatMap Class.literals

def Fragment.literal? : Fragment → Option Literal
  | .literal value => some value
  | _ => none

def Layout.literals (layout : Layout) : List Literal :=
  layout.filterMap Fragment.literal?

/-- A mark writes something, and nothing in it starts a literal. -/
def Fragment.isPlainMark : Fragment → Bool
  | .mark text => text ≠ "" && text.toList.all isPlain
  | _ => true

/-- A literal has to be kept apart from what comes after it, and less depth writes nothing. -/
def Fragment.isOpen : Fragment → Bool
  | .literal _ | .dedent => true
  | _ => false

/-- What comes after a literal that is kept apart. -/
def Fragment.isEnding : Fragment → Bool
  | .mark _ | .leave _ | .dedent | .lineBreak | .blankLine => true
  | _ => false

def Fragment.mayPrecede (first second : Fragment) : Bool :=
  !first.isOpen || second.isEnding

/-- No literal of the layout touches another one. -/
structure Layout.IsOrderly (layout : Layout) : Prop where
  plain : ∀ fragment ∈ layout, fragment.isPlainMark = true
  apart : layout.IsChain fun first second => first.mayPrecede second = true

namespace Layout

variable {first second layout : Layout} {layouts : List Layout} {fragment : Fragment}

@[simp] theorem literals_nil : literals [] = [] := rfl

/-- The literal of the first fragment, if it is one, comes first. -/
@[simp] theorem literals_cons :
    literals (fragment :: layout) = fragment.literal?.toList ++ layout.literals := by
  unfold literals
  cases found : fragment.literal? <;> simp [found]

/-- The literals of two layouts come one after the other. -/
@[simp] theorem literals_append :
    (first ++ second).literals = first.literals ++ second.literals :=
  List.filterMap_append

@[simp] theorem isOrderly_nil : IsOrderly [] :=
  ⟨nofun, .nil⟩

/-- The first fragment has to fit the one after it. -/
@[simp] theorem isOrderly_cons : IsOrderly (fragment :: layout) ↔
    fragment.isPlainMark = true ∧ (∀ next ∈ layout.head?, fragment.mayPrecede next = true) ∧
      layout.IsOrderly := by
  constructor
  · rintro ⟨plain, apart⟩
    obtain ⟨here, others⟩ := List.forall_mem_cons.1 plain
    obtain ⟨next, rest⟩ := List.isChain_cons.1 apart
    exact ⟨here, next, others, rest⟩
  · rintro ⟨here, next, others, rest⟩
    exact ⟨List.forall_mem_cons.2 ⟨here, others⟩, List.isChain_cons.2 ⟨next, rest⟩⟩

/-- Two orderly layouts may meet only where their ends fit. -/
@[simp] theorem isOrderly_append : IsOrderly (first ++ second) ↔
    first.IsOrderly ∧ second.IsOrderly ∧
      ∀ last ∈ first.getLast?, ∀ next ∈ second.head?, last.mayPrecede next = true := by
  constructor
  · rintro ⟨plain, apart⟩
    obtain ⟨front, back⟩ := List.forall_mem_append.1 plain
    obtain ⟨left, right, between⟩ := List.isChain_append.1 apart
    exact ⟨⟨front, left⟩, ⟨back, right⟩, between⟩
  · rintro ⟨⟨front, left⟩, ⟨back, right⟩, between⟩
    exact ⟨List.forall_mem_append.2 ⟨front, back⟩, List.isChain_append.2 ⟨left, right, between⟩⟩

end Layout

attribute [local simp] Fragment.literal? Fragment.isPlainMark Fragment.isOpen Fragment.isEnding
  Fragment.mayPrecede isPlain lexicalMarks

namespace Layout

variable {first second layout : Layout} {layouts : List Layout} {fragment : Fragment}

/-- Brackets hold no literal. -/
@[simp] theorem literals_enclosed {bracket : Bracket} :
    (enclosed bracket layout).literals = layout.literals := by
  simp [enclosed]

/-- Brackets fit whatever they enclose. -/
@[simp] theorem isOrderly_enclosed {bracket : Bracket} :
    IsOrderly (enclosed bracket layout) ↔ layout.IsOrderly := by
  simp [enclosed]

/-- Indentation holds no literal. -/
@[simp] theorem literals_indented : (indented layout).literals = layout.literals := by
  simp [indented]

/-- Indentation fits whatever it moves. -/
@[simp] theorem isOrderly_indented : IsOrderly (indented layout) ↔ layout.IsOrderly := by
  simp [indented]

/-- Parentheses that may be needed hold no literal. -/
@[simp] theorem literals_parenthesized {needed : Bool} :
    (parenthesized needed layout).literals = layout.literals := by
  unfold parenthesized
  split
  · exact literals_enclosed
  · rfl

/-- Parentheses that may be needed fit whatever they enclose. -/
@[simp] theorem isOrderly_parenthesized {needed : Bool} :
    IsOrderly (parenthesized needed layout) ↔ layout.IsOrderly := by
  unfold parenthesized
  split
  · exact isOrderly_enclosed
  · rfl

/-- Separators hold no literal. -/
@[simp] theorem literals_separated {separator : String} :
    (separated separator layouts).literals = layouts.flatMap literals := by
  fun_induction separated separator layouts with
  | case1 => rfl
  | case2 layout => simp
  | case3 head rest _ ih => simp [ih]

/-- A separator that is a plain mark fits between all parts. -/
theorem isOrderly_separated {separator : String}
    (plain : (Fragment.mark separator).isPlainMark = true) :
    IsOrderly (separated separator layouts) ↔ ∀ layout ∈ layouts, layout.IsOrderly := by
  fun_induction separated separator layouts with
  | case1 => simp
  | case2 layout => simp
  | case3 head rest _ ih => simp_all

/-- Empty lines hold no literal. -/
@[simp] theorem literals_spaced : (spaced layouts).literals = layouts.flatMap literals := by
  fun_induction spaced layouts with
  | case1 => rfl
  | case2 layout => simp
  | case3 head rest _ ih => simp [ih]

/-- Empty lines fit between all members. -/
@[simp] theorem isOrderly_spaced :
    IsOrderly (spaced layouts) ↔ ∀ layout ∈ layouts, layout.IsOrderly := by
  fun_induction spaced layouts with
  | case1 => simp
  | case2 layout => simp
  | case3 head rest _ ih => simp [ih]

/-- A comma fits between all arguments. -/
@[simp] theorem isOrderly_list : IsOrderly (separated ", " layouts) ↔
    ∀ layout ∈ layouts, layout.IsOrderly :=
  isOrderly_separated (by decide)

/-- The blanks around the items of an array hold no literal. -/
@[simp] theorem literals_itemLayout : (itemLayout layouts).literals = layouts.flatMap literals := by
  cases layouts <;> simp [itemLayout]

/-- The blanks around the items of an array fit them. -/
@[simp] theorem isOrderly_itemLayout :
    IsOrderly (itemLayout layouts) ↔ ∀ layout ∈ layouts, layout.IsOrderly := by
  cases layouts <;> simp [itemLayout]

/-- The layout shows the literals, and keeps them apart. -/
structure Presents (layout : Layout) (literals : List Literal) : Prop where
  shown : layout.literals = literals
  orderly : layout.IsOrderly

end Layout

/-- Modifiers hold no literal. -/
@[simp] theorem literals_modifierLayout (modifiers : List Modifier) :
    Layout.literals (modifierLayout modifiers) = [] := by
  induction modifiers with
  | nil => rfl
  | cons modifier rest ih => exact ih

/-- Each modifier is followed by a blank. -/
@[simp] theorem isOrderly_modifierLayout (modifiers : List Modifier) :
    Layout.IsOrderly (modifierLayout modifiers) := by
  induction modifiers with
  | nil => exact Layout.isOrderly_nil
  | cons modifier rest ih =>
      have plain : ∀ modifier : Modifier, (Fragment.mark modifier.keyword).isPlainMark = true := by
        intro modifier
        cases modifier <;> decide
      have first : modifierLayout (modifier :: rest) =
          .mark modifier.keyword :: .mark " " :: modifierLayout rest := rfl
      rw [first, Layout.isOrderly_cons]
      exact ⟨plain modifier, by simp, by simp [ih]⟩

/-- Modifiers end with a blank, after which anything may come. -/
theorem isOpen_modifierLayout {modifiers : List Modifier} {last : Fragment}
    (member : last ∈ (modifierLayout modifiers).getLast?) : last.isOpen = false := by
  obtain ⟨modifier, -, inside⟩ := List.mem_flatMap.1 (List.mem_of_getLast? member)
  simp only [List.mem_cons, List.not_mem_nil, or_false] at inside
  rcases inside with rfl | rfl <;> rfl

/-- Layouts that start on lines of their own and show no literals do so together. -/
theorem Layout.presents_flatMap {α : Type} {items : List α} {lay : α → Layout}
    (presents : ∀ item, (lay item).Presents [])
    (starts : ∀ item, (lay item).head? = some .lineBreak) :
    Layout.Presents (items.flatMap lay) [] := by
  induction items with
  | nil => exact ⟨rfl, isOrderly_nil⟩
  | cons item rest ih =>
      obtain ⟨shown, orderly⟩ := presents item
      have broken : ∀ next ∈ (rest.flatMap lay).head?, next = .lineBreak := by
        cases rest <;> simp [List.head?_append, starts]
      refine ⟨by simp [shown, ih.shown], ?_⟩
      rw [List.flatMap_cons, isOrderly_append]
      refine ⟨orderly, ih.orderly, fun last _ next member => ?_⟩
      rw [broken next member]
      simp

/-- Annotations on a method hold no literal. -/
theorem presents_annotations (annotations : List String) :
    Layout.Presents (annotations.flatMap annotationLayout) [] :=
  Layout.presents_flatMap (fun name => ⟨rfl, by simp [annotationLayout]⟩) fun _ => rfl

/-- Fields have no initial values, so they hold no literal. -/
theorem presents_fields (fields : List Field) :
    Layout.Presents (fields.flatMap Field.layout) [] :=
  Layout.presents_flatMap (fun field => ⟨by simp [Field.layout], by
    simpa [Field.layout] using fun _ => isOpen_modifierLayout⟩) fun _ => rfl

/-- Parameters hold no literal. -/
theorem Parameter.presents (parameter : Parameter) : parameter.layout.Presents [] := by
  unfold Parameter.layout
  split <;> exact ⟨by simp, by simp⟩

/-- Implemented interfaces hold no literal. -/
theorem presents_interfaces (types : List String) : (interfaceLayout types).Presents [] := by
  cases types with
  | nil => exact ⟨rfl, Layout.isOrderly_nil⟩
  | cons type rest => exact ⟨by simp [interfaceLayout], by simp [interfaceLayout]⟩

/-- A method starts on a line of its own. -/
theorem Method.head?_layout (method : Method) : method.layout.head? = some .lineBreak := by
  obtain ⟨annotations, modifiers, returnType, name, parameters, body⟩ := method
  cases annotations <;> simp [Method.layout, annotationLayout]

/-- Several methods start on a line of their own too. -/
theorem Method.head?_spaced (methods : List Method) :
    ∀ next ∈ (spaced (Method.layouts methods)).head?, next = .lineBreak := by
  intro next member
  match methods with
  | [] => cases member
  | [method] =>
      rw [Method.layouts, Method.layouts, spaced, method.head?_layout] at member
      exact (Option.some.inj member).symm
  | method :: second :: rest =>
      have first : (spaced (Method.layouts (method :: second :: rest))).head? =
          some .lineBreak := by
        simp [Method.layouts, spaced, List.head?_append, method.head?_layout]
      rw [first] at member
      exact (Option.some.inj member).symm

attribute [local simp] Expression.layout Expression.literals Statement.layout Statement.literals
  Method.layout Method.literals Class.layout Class.literals

mutual

/-- The layout of an expression shows its literals in their order. -/
theorem Expression.presents : ∀ expression : Expression,
    expression.layout.Presents expression.literals
  | .null | .self | .variable _ | .staticField .. | .classLiteral _ | .literal _ =>
      ⟨by simp, by simp⟩
  | .field target name => by
      obtain ⟨shown, orderly⟩ := target.presents
      exact ⟨by simp [shown], by simp [orderly]⟩
  | .call target method arguments => by
      obtain ⟨shown, orderly⟩ := target.presents
      obtain ⟨given, ordered⟩ := Expression.allPresent arguments
      exact ⟨by simp [shown, given], by simpa [orderly] using ordered⟩
  | .staticCall type method arguments => by
      obtain ⟨given, ordered⟩ := Expression.allPresent arguments
      exact ⟨by simp [given], by simpa using ordered⟩
  | .create type arguments => by
      obtain ⟨given, ordered⟩ := Expression.allPresent arguments
      exact ⟨by simp [given], by simpa using ordered⟩
  | .createAnonymous type methods => by
      obtain ⟨given, ordered⟩ := Method.allPresent methods
      exact ⟨by simp [given], by simpa using ordered⟩
  | .createArray element items => by
      obtain ⟨given, ordered⟩ := Expression.allPresent items
      exact ⟨by simp [given], by simpa using ordered⟩
  | .cast type value => by
      obtain ⟨shown, orderly⟩ := value.presents
      exact ⟨by simp [shown], by simp [orderly]⟩
  | .binary operator left right => by
      obtain ⟨shown, orderly⟩ := left.presents
      obtain ⟨alsoShown, alsoOrderly⟩ := right.presents
      have plain : (Fragment.mark operator.symbol).isPlainMark = true := by
        cases operator <;> decide
      exact ⟨by simp [shown, alsoShown], by simpa [orderly, alsoOrderly] using plain⟩

/-- The layouts of several expressions show their literals in their order. -/
theorem Expression.allPresent : ∀ expressions : List Expression,
    (Expression.layouts expressions).flatMap Layout.literals =
        Expression.allLiterals expressions ∧
      ∀ layout ∈ Expression.layouts expressions, layout.IsOrderly
  | [] => ⟨rfl, nofun⟩
  | expression :: rest => by
      obtain ⟨shown, orderly⟩ := expression.presents
      obtain ⟨others, ordered⟩ := Expression.allPresent rest
      exact ⟨by simp [Expression.layouts, Expression.allLiterals, shown, others],
        List.forall_mem_cons.2 ⟨orderly, ordered⟩⟩

/-- The layout of a statement shows its literals in their order. -/
theorem Statement.presents : ∀ statement : Statement,
    statement.layout.Presents statement.literals
  | .evaluate value => by
      obtain ⟨shown, orderly⟩ := value.presents
      exact ⟨by simp [shown], by simp [orderly]⟩
  | .declare isFinal type name initial => by
      obtain ⟨shown, orderly⟩ := initial.presents
      cases isFinal <;> exact ⟨by simp [shown], by simp [orderly]⟩
  | .assign target value => by
      obtain ⟨shown, orderly⟩ := target.presents
      obtain ⟨alsoShown, alsoOrderly⟩ := value.presents
      exact ⟨by simp [shown, alsoShown], by simp [orderly, alsoOrderly]⟩
  | .conditional condition body => by
      obtain ⟨shown, orderly⟩ := condition.presents
      obtain ⟨given, ordered⟩ := Statement.allPresent body
      exact ⟨by simp [shown, given], by simp [orderly, ordered]⟩
  | .returnNothing => ⟨by simp, by simp⟩
  | .returnValue value => by
      obtain ⟨shown, orderly⟩ := value.presents
      exact ⟨by simp [shown], by simp [orderly]⟩
  | .declareClass declaration => declaration.presents

/-- The lines of a body show its literals in their order. -/
theorem Statement.allPresent : ∀ statements : List Statement,
    (Statement.lines statements).Presents (Statement.allLiterals statements)
  | [] => ⟨rfl, Layout.isOrderly_nil⟩
  | statement :: rest => by
      obtain ⟨shown, orderly⟩ := statement.presents
      obtain ⟨others, ordered⟩ := Statement.allPresent rest
      have broken : ∀ next ∈ (Statement.lines rest).head?, next = .lineBreak := by
        cases rest <;> simp [Statement.lines]
      refine ⟨by simp [Statement.lines, Statement.allLiterals, shown, others], ?_⟩
      simp only [Statement.lines, List.cons_append, Layout.isOrderly_cons,
        Layout.isOrderly_append]
      refine ⟨rfl, fun _ _ => rfl, orderly, ordered, fun last _ next member => ?_⟩
      rw [broken next member]
      simp

/-- The layout of a method shows the literals of its body. -/
theorem Method.presents : ∀ method : Method, method.layout.Presents method.literals
  | ⟨annotations, modifiers, returnType, name, parameters, body⟩ => by
      obtain ⟨given, ordered⟩ := Statement.allPresent body
      obtain ⟨annotated, annotatedOrderly⟩ := presents_annotations annotations
      exact ⟨by simp [given, annotated, Parameter.presents _ |>.shown],
        by simpa [ordered, annotatedOrderly, Parameter.presents _ |>.orderly] using
          fun _ => isOpen_modifierLayout⟩

/-- The layouts of several methods show the literals of their bodies. -/
theorem Method.allPresent : ∀ methods : List Method,
    (Method.layouts methods).flatMap Layout.literals = Method.allLiterals methods ∧
      ∀ layout ∈ Method.layouts methods, layout.IsOrderly
  | [] => ⟨rfl, nofun⟩
  | method :: rest => by
      obtain ⟨shown, orderly⟩ := method.presents
      obtain ⟨others, ordered⟩ := Method.allPresent rest
      exact ⟨by simp [Method.layouts, Method.allLiterals, shown, others],
        List.forall_mem_cons.2 ⟨orderly, ordered⟩⟩

/-- The layout of a class shows the literals of its methods. -/
theorem Class.presents : ∀ declaration : Class,
    declaration.layout.Presents declaration.literals
  | ⟨modifiers, name, interfaces, fields, methods⟩ => by
      obtain ⟨given, ordered⟩ := Method.allPresent methods
      obtain ⟨implemented, implementedOrderly⟩ := presents_interfaces interfaces
      obtain ⟨held, heldOrderly⟩ := presents_fields fields
      have between : Layout.Presents
          (if fields.isEmpty || methods.isEmpty then [] else [.blankLine]) [] := by
        split <;> exact ⟨rfl, by simp⟩
      have inner : Layout.IsOrderly (fields.flatMap Field.layout ++
          (if fields.isEmpty || methods.isEmpty then [] else [.blankLine]) ++
            spaced (Method.layouts methods)) := by
        rw [Layout.isOrderly_append, Layout.isOrderly_append]
        refine ⟨⟨heldOrderly, between.orderly, fun last _ next member => ?_⟩,
          Layout.isOrderly_spaced.2 ordered, fun last _ next member => ?_⟩
        · split at member <;> cases member
          simp
        · rw [Method.head?_spaced methods next member]
          simp
      constructor
      case shown =>
        simp only [Class.layout, Layout.literals_append, Layout.literals_cons,
          Layout.literals_indented, between.shown]
        simp [given, implemented, held]
      case orderly =>
        rw [Class.layout]
        generalize fields.flatMap Field.layout ++
          (if fields.isEmpty || methods.isEmpty then [] else [.blankLine]) ++
            spaced (Method.layouts methods) = members at inner
        simp [inner, implementedOrderly]

end

/-- The layout of a unit shows the literals of its classes, and keeps them apart. -/
theorem CompilationUnit.presents (unit : CompilationUnit) :
    unit.layout.Presents unit.literals := by
  have package : (packageLayout unit.package).Presents [] := by
    unfold packageLayout
    split <;> exact ⟨by simp, by simp⟩
  have between : ∀ last ∈ (packageLayout unit.package).getLast?, ∀ next,
      last.mayPrecede next = true := by
    unfold packageLayout
    split <;> simp
  have classes : ∀ declaration : Class,
      Layout.Presents (declaration.layout ++ [.lineBreak]) declaration.literals := by
    intro declaration
    obtain ⟨shown, orderly⟩ := declaration.presents
    exact ⟨by simp [shown], by simp [orderly]⟩
  constructor
  case shown =>
    rw [layout, Layout.literals_append, package.shown, Layout.literals_spaced, List.flatMap_map]
    simp only [(classes _).shown, literals, List.nil_append]
  case orderly =>
    rw [layout, Layout.isOrderly_append, Layout.isOrderly_spaced, List.forall_mem_map]
    exact ⟨package.orderly, fun declaration _ => (classes declaration).orderly,
      fun last member next _ => between last member next⟩

end BusBridge.Java
