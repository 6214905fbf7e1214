/-
This file proves which syntax trees are written: those whose names and types are well formed
wherever they stand in the tree. It also proves how the source of a public class starts, and that
each tree is laid out by what opens and closes in pairs.
-/

import BusBridge.Java.Layout

namespace BusBridge.Java

/-- No fragment holds a text that is no name or type where one is expected. -/
def Layout.IsValid (layout : Layout) : Prop :=
  ∀ fragment ∈ layout, fragment.invalid? = none

/-- No offending text is found exactly in a valid layout. -/
theorem Layout.invalid?_eq_none_iff (layout : Layout) :
    layout.invalid? = none ↔ layout.IsValid :=
  List.findSome?_eq_none_iff

/-- What is written is the source of the layout, and nothing else is checked. -/
theorem Layout.write_eq_ok_iff {owner text : String} {layout : Layout} :
    layout.write owner = .ok text ↔ layout.IsValid ∧ text = String.ofList (layout.source 0) := by
  rw [← layout.invalid?_eq_none_iff, Layout.write]
  split
  case h_1 identifier invalid => simp [invalid]
  case h_2 valid => simp [valid, eq_comm]

/-- A layout is written exactly when it is valid. -/
theorem Layout.write_isOk_iff (owner : String) (layout : Layout) :
    (∃ text, layout.write owner = .ok text) ↔ layout.IsValid := by
  simp [write_eq_ok_iff]

attribute [local simp] Fragment.invalid?

namespace Layout

variable {first second layout : Layout} {layouts : List Layout}

/-- An empty layout holds no text to judge. -/
@[simp] theorem isValid_nil : IsValid [] := by
  simp [IsValid]

/-- Layouts are judged one after the other. -/
@[simp] theorem isValid_append : IsValid (first ++ second) ↔ first.IsValid ∧ second.IsValid := by
  simp [IsValid, or_imp, forall_and]

/-- The first fragment is judged apart from the rest. -/
@[simp] theorem isValid_cons {fragment : Fragment} :
    IsValid (fragment :: layout) ↔ fragment.invalid? = none ∧ layout.IsValid := by
  simp [IsValid]

/-- Brackets are no names. -/
@[simp] theorem isValid_enclosed {bracket : Bracket} :
    IsValid (enclosed bracket layout) ↔ layout.IsValid := by
  simp [enclosed]

/-- Indentation is no name. -/
@[simp] theorem isValid_indented : IsValid (indented layout) ↔ layout.IsValid := by
  simp [indented]

/-- Parentheses that may be needed are no names. -/
@[simp] theorem isValid_parenthesized {needed : Bool} :
    IsValid (parenthesized needed layout) ↔ layout.IsValid := by
  unfold parenthesized
  split
  · exact isValid_enclosed
  · exact Iff.rfl

/-- Separators are no names, so only the parts count. -/
@[simp] theorem isValid_separated {separator : String} :
    IsValid (separated separator layouts) ↔ ∀ layout ∈ layouts, layout.IsValid := by
  fun_induction separated separator layouts with
  | case1 => simp
  | case2 => simp
  | case3 head rest _ ih => simp [ih]

/-- Empty lines between members are no names. -/
@[simp] theorem isValid_spaced :
    IsValid (spaced layouts) ↔ ∀ layout ∈ layouts, layout.IsValid := by
  fun_induction spaced layouts with
  | case1 => simp
  | case2 => simp
  | case3 head rest _ ih => simp [ih]

/-- The blanks around the items of an array are no names. -/
@[simp] theorem isValid_itemLayout :
    IsValid (itemLayout layouts) ↔ ∀ layout ∈ layouts, layout.IsValid := by
  cases layouts <;> simp [itemLayout]

/-- Layouts of many items are valid when each one is. -/
@[simp] theorem isValid_flatMap {α : Type} {items : List α} {lay : α → Layout} :
    IsValid (items.flatMap lay) ↔ ∀ item ∈ items, (lay item).IsValid := by
  induction items with
  | nil => simp
  | cons head rest ih => simp [ih]

end Layout

/-- A name has to be an identifier. -/
@[simp] theorem Fragment.invalid?_name (text : String) :
    (Fragment.name text).invalid? = none ↔ isIdentifier text = true := by
  simp

/-- A package has to be a qualified name. -/
@[simp] theorem Fragment.invalid?_package (text : String) :
    (Fragment.package text).invalid? = none ↔ isQualifiedName text = true := by
  simp

/-- A type has to be a type reference. -/
@[simp] theorem Fragment.invalid?_type (text : String) :
    (Fragment.type text).invalid? = none ↔ isTypeReference text = true := by
  simp

/-- Modifiers are keywords, which are not judged. -/
@[simp] theorem isValid_modifierLayout (modifiers : List Modifier) :
    (modifierLayout modifiers).IsValid := by
  simp [modifierLayout]

/-- A parameter shows its type and its name. -/
@[simp] theorem Parameter.isValid_layout (parameter : Parameter) :
    parameter.layout.IsValid ↔
      isTypeReference parameter.type = true ∧ isIdentifier parameter.name = true := by
  unfold Parameter.layout
  split <;> simp

/-- A field shows its type and its name. -/
@[simp] theorem Field.isValid_layout (field : Field) :
    field.layout.IsValid ↔
      isTypeReference field.type = true ∧ isIdentifier field.name = true := by
  simp [Field.layout]

/-- Each implemented interface is shown as a type. -/
theorem isValid_interfaceLayout (types : List String) :
    (interfaceLayout types).IsValid ↔ ∀ type ∈ types, isTypeReference type = true := by
  cases types <;> simp [interfaceLayout]

/-- The mutual recursion over expressions is a map. -/
theorem Expression.layouts_eq_map (expressions : List Expression) :
    Expression.layouts expressions = expressions.map Expression.layout := by
  induction expressions with
  | nil => rfl
  | cons head rest ih => rw [Expression.layouts, ih]; rfl

/-- The mutual recursion over methods is a map. -/
theorem Method.layouts_eq_map (methods : List Method) :
    Method.layouts methods = methods.map Method.layout := by
  induction methods with
  | nil => rfl
  | cons head rest ih => rw [Method.layouts, ih]; rfl

/-- A body is valid when each of its statements is. -/
@[simp] theorem Statement.isValid_lines (statements : List Statement) :
    (Statement.lines statements).IsValid ↔
      ∀ statement ∈ statements, statement.layout.IsValid := by
  induction statements with
  | nil => simp [Statement.lines]
  | cons head rest ih => simp [Statement.lines, ih]

attribute [local simp] Expression.layout Statement.layout Method.layout Class.layout

namespace Expression

/-- A literal shows no name. -/
@[simp] theorem isValid_literal (value : Literal) : (literal value).layout.IsValid := by
  simp

/-- A text shows no name, whatever it says. -/
@[simp] theorem isValid_text (value : String) : (text value).layout.IsValid :=
  isValid_literal _

/-- The null literal shows no name. -/
@[simp] theorem isValid_null : null.layout.IsValid := by
  simp

/-- The receiver is a keyword. -/
@[simp] theorem isValid_self : self.layout.IsValid := by
  simp

/-- A variable has to be an identifier. -/
@[simp] theorem isValid_variable (name : String) :
    (Expression.variable name).layout.IsValid ↔ isIdentifier name = true := by
  simp

/-- A field access judges its target before its name. -/
@[simp] theorem isValid_field (target : Expression) (name : String) :
    (field target name).layout.IsValid ↔
      target.layout.IsValid ∧ isIdentifier name = true := by
  simp

/-- A call judges its target, its method and its arguments. -/
@[simp] theorem isValid_call (target : Expression) (method : String)
    (arguments : List Expression) :
    (call target method arguments).layout.IsValid ↔
      target.layout.IsValid ∧ isIdentifier method = true ∧
        ∀ argument ∈ arguments, argument.layout.IsValid := by
  simp [layouts_eq_map]

/-- A static call judges a type in place of a target. -/
@[simp] theorem isValid_staticCall (type method : String) (arguments : List Expression) :
    (staticCall type method arguments).layout.IsValid ↔
      isTypeReference type = true ∧ isIdentifier method = true ∧
        ∀ argument ∈ arguments, argument.layout.IsValid := by
  simp [layouts_eq_map]

/-- A creation judges its type and its arguments. -/
@[simp] theorem isValid_create (type : String) (arguments : List Expression) :
    (create type arguments).layout.IsValid ↔
      isTypeReference type = true ∧ ∀ argument ∈ arguments, argument.layout.IsValid := by
  simp [layouts_eq_map]

/-- An anonymous class judges its type and its methods. -/
@[simp] theorem isValid_createAnonymous (type : String) (methods : List Method) :
    (createAnonymous type methods).layout.IsValid ↔
      isTypeReference type = true ∧ ∀ method ∈ methods, method.layout.IsValid := by
  simp [Method.layouts_eq_map]

/-- A class literal has to name a type. -/
@[simp] theorem isValid_classLiteral (type : String) :
    (classLiteral type).layout.IsValid ↔ isTypeReference type = true := by
  simp

/-- An array judges its element type and its items. -/
@[simp] theorem isValid_createArray (element : String) (items : List Expression) :
    (createArray element items).layout.IsValid ↔
      isTypeReference element = true ∧ ∀ item ∈ items, item.layout.IsValid := by
  simp [layouts_eq_map]

/-- A cast judges its type and its value. -/
@[simp] theorem isValid_cast (type : String) (value : Expression) :
    (cast type value).layout.IsValid ↔ isTypeReference type = true ∧ value.layout.IsValid := by
  simp

end Expression

namespace Statement

/-- A call statement is judged as its call. -/
@[simp] theorem isValid_evaluate (value : Expression) :
    (evaluate value).layout.IsValid ↔ value.layout.IsValid := by
  simp

/-- Both sides of an assignment are judged. -/
@[simp] theorem isValid_assign (target value : Expression) :
    (assign target value).layout.IsValid ↔ target.layout.IsValid ∧ value.layout.IsValid := by
  simp

/-- A returned value is judged as it stands. -/
@[simp] theorem isValid_returnValue (value : Expression) :
    (returnValue value).layout.IsValid ↔ value.layout.IsValid := by
  simp

/-- A local class is judged like any other class. -/
@[simp] theorem isValid_declareClass (declaration : Class) :
    (declareClass declaration).layout.IsValid ↔ declaration.layout.IsValid := by
  simp

end Statement

/-- A method is valid when its annotations, types, names and statements are. -/
theorem Method.isValid_layout (method : Method) :
    method.layout.IsValid ↔
      (∀ annotation ∈ method.annotations, isIdentifier annotation = true) ∧
      isTypeReference method.returnType = true ∧ isIdentifier method.name = true ∧
      (∀ parameter ∈ method.parameters,
        isTypeReference parameter.type = true ∧ isIdentifier parameter.name = true) ∧
      ∀ statement ∈ method.body, statement.layout.IsValid := by
  cases method
  simp [annotationLayout]

/-- A class is valid when its name, interfaces, fields and methods are. -/
theorem Class.isValid_layout (declaration : Class) :
    declaration.layout.IsValid ↔
      isIdentifier declaration.name = true ∧
      (∀ type ∈ declaration.interfaces, isTypeReference type = true) ∧
      (∀ field ∈ declaration.fields,
        isTypeReference field.type = true ∧ isIdentifier field.name = true) ∧
      ∀ method ∈ declaration.methods, method.layout.IsValid := by
  obtain ⟨modifiers, name, interfaces, fields, methods⟩ := declaration
  have between : Layout.IsValid
      (if fields = [] ∨ methods = [] then [] else [.blankLine]) := by
    split <;> simp
  simp [isValid_interfaceLayout, Method.layouts_eq_map, between]

/-- A unit is valid when its package, if any, and its classes are. -/
theorem CompilationUnit.isValid_layout (unit : CompilationUnit) :
    unit.layout.IsValid ↔
      (unit.package = "" ∨ isQualifiedName unit.package = true) ∧
      ∀ declaration ∈ unit.classes, declaration.layout.IsValid := by
  have package : Layout.IsValid (packageLayout unit.package) ↔
      unit.package = "" ∨ isQualifiedName unit.package = true := by
    unfold packageLayout
    split
    case isTrue default => simp [default]
    case isFalse named => simp [named]
  simp [CompilationUnit.layout, package]

/-- The source of a public class starts with its package or with its first modifier. -/
theorem CompilationUnit.exists_source_eq_cons {package : String} {declaration : Class}
    {modifiers : List Modifier} (visible : declaration.modifiers = .isPublic :: modifiers) :
    ∃ others, Layout.source 0 (CompilationUnit.mk package [declaration]).layout =
      'p' :: others := by
  obtain ⟨_, name, interfaces, fields, methods⟩ := declaration
  cases visible
  rw [CompilationUnit.layout, packageLayout]
  split
  case isTrue => exact ⟨_, rfl⟩
  case isFalse => exact ⟨_, rfl⟩

/-- Marks are printable ASCII without brackets. -/
def isMarkCharacter (character : Char) : Bool :=
  ' ' ≤ character && character ≤ '~' && [Bracket.round, .square, .curly].all fun bracket =>
    character != bracket.opening && character != bracket.closing

/-- The fragment neither opens nor closes anything, and keeps the depth. -/
def Fragment.isLevel : Fragment → Bool
  | .mark text => text.toList.all isMarkCharacter
  | .enter _ | .leave _ | .indent | .dedent => false
  | _ => true

/-- The layouts that open and close brackets and depths in pairs. -/
inductive Layout.IsClosed : Layout → Prop where
  | nil : IsClosed []
  | cons {fragment : Fragment} {rest : Layout} (level : fragment.isLevel = true)
      (closed : IsClosed rest) : IsClosed (fragment :: rest)
  | append {first second : Layout} (closed : IsClosed first) (followed : IsClosed second) :
      IsClosed (first ++ second)
  | enclosed (bracket : Bracket) {inner : Layout} (held : IsClosed inner) :
      IsClosed (enclosed bracket inner)
  | indented {inner : Layout} (held : IsClosed inner) : IsClosed (indented inner)

namespace Layout

variable {inner layout : Layout} {layouts : List Layout}

/-- Fragments that open and close nothing keep a layout closed. -/
theorem IsClosed.level (level : layout.all Fragment.isLevel = true) : layout.IsClosed := by
  induction layout with
  | nil => exact .nil
  | cons fragment rest ih =>
      rw [List.all_cons, Bool.and_eq_true] at level
      exact .cons level.1 (ih level.2)

/-- Parentheses come in pairs or not at all. -/
theorem IsClosed.parenthesized (held : inner.IsClosed) (needed : Bool) :
    (parenthesized needed inner).IsClosed := by
  unfold Java.parenthesized
  split
  · exact .enclosed .round held
  · exact held

/-- Closed parts stay closed in a list. -/
theorem IsClosed.separated (closed : ∀ layout ∈ layouts, layout.IsClosed) :
    (separated ", " layouts).IsClosed := by
  fun_induction Java.separated ", " layouts with
  | case1 => exact .nil
  | case2 layout => exact closed layout (List.mem_singleton_self layout)
  | case3 head rest _ ih =>
      obtain ⟨first, others⟩ := List.forall_mem_cons.1 closed
      exact first.append (.cons rfl (ih others))

/-- Closed members stay closed with empty lines between them. -/
theorem IsClosed.spaced (closed : ∀ layout ∈ layouts, layout.IsClosed) :
    (spaced layouts).IsClosed := by
  fun_induction Java.spaced layouts with
  | case1 => exact .nil
  | case2 layout => exact closed layout (List.mem_singleton_self layout)
  | case3 head rest _ ih =>
      obtain ⟨first, others⟩ := List.forall_mem_cons.1 closed
      exact first.append (.cons rfl (ih others))

/-- Closed items stay closed with blanks around them. -/
theorem IsClosed.itemLayout (closed : ∀ layout ∈ layouts, layout.IsClosed) :
    (itemLayout layouts).IsClosed := by
  cases layouts with
  | nil => exact .nil
  | cons head rest => exact .append (.cons rfl (.separated closed)) (.level rfl)

/-- Closed layouts stay closed one after the other. -/
theorem IsClosed.flatMap {α : Type} {items : List α} {lay : α → Layout}
    (closed : ∀ item ∈ items, (lay item).IsClosed) : IsClosed (items.flatMap lay) := by
  induction items with
  | nil => exact .nil
  | cons head rest ih =>
      obtain ⟨first, others⟩ := List.forall_mem_cons.1 closed
      exact first.append (ih others)

end Layout

section Trees

open Layout (IsClosed)

/-- Modifiers open nothing. -/
theorem isClosed_modifierLayout (modifiers : List Modifier) :
    IsClosed (modifierLayout modifiers) :=
  .flatMap fun modifier _ => .level (by cases modifier <;> rfl)

/-- An empty line that may be absent opens nothing. -/
theorem isClosed_blankLine (absent : Bool) :
    IsClosed (if absent then [] else [.blankLine]) := by
  cases absent <;> exact .level rfl

/-- A parameter opens nothing. -/
theorem Parameter.isClosed_layout (parameter : Parameter) : parameter.layout.IsClosed := by
  unfold Parameter.layout
  split
  · exact .append (.level rfl) (.level rfl)
  · exact .level rfl

/-- A field opens nothing. -/
theorem Field.isClosed_layout (field : Field) : field.layout.IsClosed :=
  .append (.cons rfl (isClosed_modifierLayout _)) (.level rfl)

/-- The list of interfaces opens nothing. -/
theorem isClosed_interfaceLayout (types : List String) : (interfaceLayout types).IsClosed := by
  cases types with
  | nil => exact .nil
  | cons type rest =>
      exact .cons rfl (.separated (List.forall_mem_map.2 fun _ _ => .level rfl))

mutual

/-- An expression closes what it opens. -/
theorem Expression.isClosed_layout : ∀ expression : Expression, expression.layout.IsClosed
  | .null | .self | .literal _ | .variable _ | .staticField .. | .classLiteral _ => .level rfl
  | .field target _ => (target.isClosed_layout.parenthesized _).append (.level rfl)
  | .call target _ arguments =>
      ((target.isClosed_layout.parenthesized _).append (.level rfl)).append
        (.enclosed .round (.separated (Expression.isClosed_layouts arguments)))
  | .staticCall _ _ arguments =>
      .append (.level rfl) (.enclosed .round (.separated (Expression.isClosed_layouts arguments)))
  | .create _ arguments =>
      .append (.level rfl) (.enclosed .round (.separated (Expression.isClosed_layouts arguments)))
  | .createAnonymous _ methods =>
      .append (.append (.append (.level rfl) (.enclosed .round .nil)) (.level rfl))
        (.indented (.spaced (Method.isClosed_layouts methods)))
  | .createArray _ items =>
      .append (.append (.append (.level rfl) (.enclosed .square .nil)) (.level rfl))
        (.enclosed .curly (.itemLayout (Expression.isClosed_layouts items)))
  | .cast _ value =>
      .append (.append (.enclosed .round (.level rfl)) (.level rfl))
        (value.isClosed_layout.parenthesized _)
  | .binary operator left right =>
      .append (.append (left.isClosed_layout.parenthesized _)
        (.level (by cases operator <;> rfl))) (right.isClosed_layout.parenthesized _)

/-- Each of several expressions closes what it opens. -/
theorem Expression.isClosed_layouts : ∀ expressions : List Expression,
    ∀ layout ∈ Expression.layouts expressions, layout.IsClosed
  | [] => List.forall_mem_nil _
  | expression :: rest =>
      List.forall_mem_cons.2 ⟨expression.isClosed_layout, Expression.isClosed_layouts rest⟩

/-- A statement closes what it opens. -/
theorem Statement.isClosed_layout : ∀ statement : Statement, statement.layout.IsClosed
  | .evaluate value => .append value.isClosed_layout (.level rfl)
  | .declare isFinal _ _ initial =>
      .append (.append (.append (by cases isFinal <;> exact .level rfl) (.level rfl))
        initial.isClosed_layout) (.level rfl)
  | .assign target value =>
      .append (.append (.append target.isClosed_layout (.level rfl)) value.isClosed_layout)
        (.level rfl)
  | .conditional condition body =>
      .append (.append (.cons rfl (.enclosed .round condition.isClosed_layout)) (.level rfl))
        (.indented (Statement.isClosed_lines body))
  | .returnNothing => .level rfl
  | .returnValue value => .append (.cons rfl value.isClosed_layout) (.level rfl)
  | .declareClass declaration => declaration.isClosed_layout

/-- A body closes what it opens. -/
theorem Statement.isClosed_lines : ∀ statements : List Statement,
    (Statement.lines statements).IsClosed
  | [] => .nil
  | statement :: rest =>
      .append (.cons rfl statement.isClosed_layout) (Statement.isClosed_lines rest)

/-- A method closes what it opens. -/
theorem Method.isClosed_layout : ∀ method : Method, method.layout.IsClosed
  | ⟨annotations, modifiers, _, _, parameters, body⟩ => by
      have annotated : IsClosed (annotations.flatMap annotationLayout) :=
        .flatMap fun _ _ => .level rfl
      have modified : IsClosed (.lineBreak :: modifierLayout modifiers) :=
        .cons rfl (isClosed_modifierLayout modifiers)
      have given : IsClosed (separated ", " (parameters.map Parameter.layout)) :=
        .separated (List.forall_mem_map.2 fun parameter _ => parameter.isClosed_layout)
      exact .append (.append (.append (.append (annotated.append modified) (.level rfl))
        (.enclosed .round given)) (.level rfl)) (.indented (Statement.isClosed_lines body))

/-- Each of several methods closes what it opens. -/
theorem Method.isClosed_layouts : ∀ methods : List Method,
    ∀ layout ∈ Method.layouts methods, layout.IsClosed
  | [] => List.forall_mem_nil _
  | method :: rest =>
      List.forall_mem_cons.2 ⟨method.isClosed_layout, Method.isClosed_layouts rest⟩

/-- A class closes what it opens. -/
theorem Class.isClosed_layout : ∀ declaration : Class, declaration.layout.IsClosed
  | ⟨modifiers, _, interfaces, fields, methods⟩ => by
      have listed : IsClosed (fields.flatMap Field.layout) :=
        .flatMap fun field _ => field.isClosed_layout
      have between := isClosed_blankLine (fields.isEmpty || methods.isEmpty)
      have members := (listed.append between).append (.spaced (Method.isClosed_layouts methods))
      exact .append (.append (.append (.append (isClosed_modifierLayout modifiers) (.level rfl))
        (isClosed_interfaceLayout interfaces)) (.level rfl)) (.indented members)

end

/-- A compilation unit closes what it opens. -/
theorem CompilationUnit.isClosed_layout (unit : CompilationUnit) : unit.layout.IsClosed := by
  have package : (packageLayout unit.package).IsClosed := by
    unfold packageLayout
    split
    · exact .nil
    · exact .level rfl
  refine package.append (.spaced (List.forall_mem_map.2 fun declaration _ => ?_))
  exact declaration.isClosed_layout.append (.level rfl)

end Trees

end BusBridge.Java
