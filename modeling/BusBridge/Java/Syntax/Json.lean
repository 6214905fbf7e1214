/-
This file reads syntax trees from JSON values. The letter `k` of a value tells which construct
it holds.
-/

import BusBridge.Java.Syntax
import BusBridge.Json.Basic

namespace BusBridge.Java

def Modifier.ofWord? : String → Option Modifier
  | "public" => some .isPublic
  | "private" => some .isPrivate
  | "static" => some .isStatic
  | "final" => some .isFinal
  | _ => none

def Operator.ofSymbol? (symbol : String) : Option Operator :=
  [.equals, .both, .either].find? fun operator => operator.symbol == symbol

def modifiersOf (value : Json) : List Modifier :=
  (value.textsOf "modifiers").filterMap Modifier.ofWord?

def Field.ofJson? (value : Json) : Option Field := do
  return ⟨modifiersOf value, ← value.textMember? "type", ← value.textMember? "name"⟩

def Parameter.ofJson? (value : Json) : Option Parameter := do
  return ⟨value.flagOf "final", ← value.textMember? "type", ← value.textMember? "name"⟩

/-- Numbers are written as decimal texts, and floating-point numbers as their bits. -/
def Literal.ofJson? (value : Json) : Option Literal := do
  match ← value.textMember? "k" with
  | "str" => return .text (← value.textMember? "v")
  | "char" => return .character (← (← value.textMember? "v").toList.head?)
  | "bool" => return .boolean (value.flagOf "v")
  | "int" => return .int (.ofInt (← (← value.textMember? "v").toInt?))
  | "long" => return .long (.ofInt (← (← value.textMember? "v").toInt?))
  | "float" => return .float (.ofNat (← (← value.textMember? "bits").toNat?))
  | "double" => return .double (.ofNat (← (← value.textMember? "bits").toNat?))
  | _ => none

mutual

/-- The fuel bounds the nesting of the tree. -/
def readExpression : Nat → Json → Option Expression
  | 0, _ => none
  | fuel + 1, value => do
      let text (key : String) := value.textMember? key
      let part (key : String) := (value.member? key).bind (readExpression fuel)
      let parts (key : String) := (value.itemsOf key).mapM (readExpression fuel)
      match ← text "k" with
      | "null" => return .null
      | "this" => return .self
      | "var" => return .variable (← text "name")
      | "field" => return .field (← part "target") (← text "name")
      | "static_field" => return .staticField (← text "class") (← text "name")
      | "call" => return .call (← part "target") (← text "method") (← parts "args")
      | "static_call" => return .staticCall (← text "class") (← text "method") (← parts "args")
      | "new" => return .create (← text "type") (← parts "args")
      | "anon" =>
          let methods ← (value.itemsOf "methods").mapM (readMethod fuel)
          return .createAnonymous (← text "type") methods
      | "class_lit" => return .classLiteral (← text "type")
      | "array" => return .createArray (← text "element") (← parts "items")
      | "cast" => return .cast (← text "type") (← part "e")
      | "binary" =>
          return .binary (← Operator.ofSymbol? (← text "op")) (← part "lhs") (← part "rhs")
      | _ => return .literal (← Literal.ofJson? value)

def readStatement : Nat → Json → Option Statement
  | 0, _ => none
  | fuel + 1, value => do
      let text (key : String) := value.textMember? key
      let part (key : String) := (value.member? key).bind (readExpression fuel)
      match ← text "k" with
      | "expr" => return .evaluate (← part "e")
      | "local" =>
          return .declare (value.flagOf "final") (← text "type") (← text "name") (← part "init")
      | "assign" => return .assign (← part "target") (← part "value")
      | "if" =>
          let body ← (value.itemsOf "then").mapM (readStatement fuel)
          return .conditional (← part "cond") body
      | "return" =>
          match value.member? "value" with
          | none | some .null => return .returnNothing
          | some result => return .returnValue (← readExpression fuel result)
      | "class" => return .declareClass (← (value.member? "class").bind (readClass fuel))
      | _ => none

def readMethod : Nat → Json → Option Method
  | 0, _ => none
  | fuel + 1, value => do
      let body ← (value.itemsOf "body").mapM (readStatement fuel)
      return {
        annotations := value.textsOf "annotations"
        modifiers := modifiersOf value
        returnType := (value.textMember? "return_type").getD "void"
        name := ← value.textMember? "name"
        parameters := ← (value.itemsOf "params").mapM Parameter.ofJson?
        body }

def readClass : Nat → Json → Option Class
  | 0, _ => none
  | fuel + 1, value => do
      let methods ← (value.itemsOf "methods").mapM (readMethod fuel)
      return {
        modifiers := modifiersOf value
        name := ← value.textMember? "name"
        interfaces := value.textsOf "implements"
        fields := ← (value.itemsOf "fields").mapM Field.ofJson?
        methods }

end

def Expression.ofJson? (value : Json) : Option Expression :=
  readExpression value.depth value

def Statement.ofJson? (value : Json) : Option Statement :=
  readStatement value.depth value

def CompilationUnit.ofJson? (value : Json) : Option CompilationUnit := do
  return {
    package := ← value.textMember? "package"
    classes := ← (value.itemsOf "types").mapM (readClass value.depth) }

end BusBridge.Java
