/-
This file lays out syntax trees and writes them as Java source. The layout of a tree is total: names
and types are judged afterwards, in the order of the source. A tree whose names and types are all
well formed is written, and any other tree is refused for the first text that is not.
-/

import BusBridge.Failure
import BusBridge.Java.Fragment

namespace BusBridge.Java

def modifierLayout (modifiers : List Modifier) : Layout :=
  modifiers.flatMap fun modifier => [.mark modifier.keyword, .mark " "]

def Parameter.layout (parameter : Parameter) : Layout :=
  (if parameter.isFinal then [.mark "final "] else []) ++
    [.type parameter.type, .mark " ", .name parameter.name]

def Field.layout (field : Field) : Layout :=
  .lineBreak :: modifierLayout field.modifiers ++
    [.type field.type, .mark " ", .name field.name, .mark ";"]

def annotationLayout (name : String) : Layout :=
  [.lineBreak, .mark "@", .name name]

def interfaceLayout : List String → Layout
  | [] => []
  | types => .mark " implements " :: separated ", " (types.map fun type => [.type type])

/-- A member access binds tighter than these expressions. -/
def Expression.isLoose : Expression → Bool
  | .cast .. | .binary .. | .create .. | .createAnonymous .. => true
  | _ => false

/-- Equality binds tighter than the other operators, and those two are never mixed bare. -/
def Expression.mixesWith (outer : Operator) : Expression → Bool
  | .binary inner .. => inner != outer && inner != .equals
  | _ => false

/-- An empty line stands between members. -/
def spaced : List Layout → Layout
  | [] => []
  | [layout] => layout
  | layout :: rest => layout ++ .blankLine :: spaced rest

def itemLayout : List Layout → Layout
  | [] => []
  | items => .mark " " :: separated ", " items ++ [.mark " "]

mutual

def Expression.layout : Expression → Layout
  | .null => [.mark "null"]
  | .self => [.mark "this"]
  | .literal value => [.literal value]
  | .variable name => [.name name]
  | .field target name =>
      parenthesized target.isLoose target.layout ++ [.mark ".", .name name]
  | .staticField type name => [.type type, .mark ".", .name name]
  | .call target method arguments =>
      parenthesized target.isLoose target.layout ++ [.mark ".", .name method] ++
        enclosed .round (separated ", " (Expression.layouts arguments))
  | .staticCall type method arguments =>
      [.type type, .mark ".", .name method] ++
        enclosed .round (separated ", " (Expression.layouts arguments))
  | .create type arguments =>
      [.mark "new ", .type type] ++
        enclosed .round (separated ", " (Expression.layouts arguments))
  | .createAnonymous type methods =>
      [.mark "new ", .type type] ++ enclosed .round [] ++ [.mark " "] ++
        indented (spaced (Method.layouts methods))
  | .classLiteral type => [.type type, .mark ".class"]
  | .createArray element items =>
      [.mark "new ", .type element] ++ enclosed .square [] ++ [.mark " "] ++
        enclosed .curly (itemLayout (Expression.layouts items))
  | .cast type value =>
      enclosed .round [.type type] ++ [.mark " "] ++
        parenthesized value.isLoose value.layout
  | .binary operator left right =>
      parenthesized (left.mixesWith operator) left.layout ++
        [.mark " ", .mark operator.symbol, .mark " "] ++
        parenthesized (right.mixesWith operator) right.layout

def Expression.layouts : List Expression → List Layout
  | [] => []
  | expression :: rest => expression.layout :: Expression.layouts rest

def Statement.layout : Statement → Layout
  | .evaluate value => value.layout ++ [.mark ";"]
  | .declare isFinal type name initial =>
      (if isFinal then [.mark "final "] else []) ++
        [.type type, .mark " ", .name name, .mark " = "] ++ initial.layout ++ [.mark ";"]
  | .assign target value => target.layout ++ [.mark " = "] ++ value.layout ++ [.mark ";"]
  | .conditional condition body =>
      .mark "if " :: enclosed .round condition.layout ++ [.mark " "] ++
        indented (Statement.lines body)
  | .returnNothing => [.mark "return;"]
  | .returnValue value => .mark "return " :: value.layout ++ [.mark ";"]
  | .declareClass declaration => declaration.layout

def Statement.lines : List Statement → Layout
  | [] => []
  | statement :: rest => .lineBreak :: statement.layout ++ Statement.lines rest

def Method.layout : Method → Layout
  | ⟨annotations, modifiers, returnType, name, parameters, body⟩ =>
      annotations.flatMap annotationLayout ++ .lineBreak :: modifierLayout modifiers ++
        [.type returnType, .mark " ", .name name] ++
        enclosed .round (separated ", " (parameters.map Parameter.layout)) ++ [.mark " "] ++
        indented (Statement.lines body)

def Method.layouts : List Method → List Layout
  | [] => []
  | method :: rest => method.layout :: Method.layouts rest

def Class.layout : Class → Layout
  | ⟨modifiers, name, interfaces, fields, methods⟩ =>
      modifierLayout modifiers ++ [.mark "class ", .name name] ++ interfaceLayout interfaces ++
        [.mark " "] ++
        indented (fields.flatMap Field.layout ++
          (if fields.isEmpty || methods.isEmpty then [] else [.blankLine]) ++
          spaced (Method.layouts methods))

end

def packageLayout (package : String) : Layout :=
  if package = "" then []
  else [.mark "package ", .package package, .mark ";", .blankLine, .blankLine]

def CompilationUnit.layout (unit : CompilationUnit) : Layout :=
  packageLayout unit.package ++
    spaced (unit.classes.map fun declaration => declaration.layout ++ [.lineBreak])


/-- The owner is the type that the tree was made from. -/
def Layout.write (owner : String) (layout : Layout) : Except SynthesisFailure String :=
  match layout.invalid? with
  | some identifier => .error (.invalidIdentifier owner identifier)
  | none => .ok (String.ofList (layout.source 0))

def CompilationUnit.write (owner : String) (unit : CompilationUnit) :
    Except SynthesisFailure String :=
  unit.layout.write owner

def Statement.write (owner : String) (statement : Statement) : Except SynthesisFailure String :=
  statement.layout.write owner

end BusBridge.Java
