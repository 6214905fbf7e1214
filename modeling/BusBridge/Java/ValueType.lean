/-
This file maps declared types to the classes that stand for them in class literals, and to the
values that a method returns before it has an answer.
-/

import BusBridge.Java.DeclaredType
import BusBridge.Java.Syntax

namespace BusBridge.Java

/-- The boxed name is erased, because a class literal has no type arguments. -/
structure ValueType where
  declared : String
  boxed : String
  isPrimitive : Bool
  deriving DecidableEq, Repr, Inhabited

/-- Each primitive type, and `void`, has a wrapper class. -/
def wrapperClass? : String → Option String
  | "void" => some "java.lang.Void"
  | "boolean" => some "java.lang.Boolean"
  | "byte" => some "java.lang.Byte"
  | "short" => some "java.lang.Short"
  | "char" => some "java.lang.Character"
  | "int" => some "java.lang.Integer"
  | "long" => some "java.lang.Long"
  | "float" => some "java.lang.Float"
  | "double" => some "java.lang.Double"
  | _ => none

namespace ValueType

def ofDeclared (type : DeclaredType) : ValueType :=
  match wrapperClass? type.name with
  | some wrapper => ⟨type.name, wrapper, true⟩
  | none => ⟨type.sourceName, type.sourceErasure, false⟩

/-- No literal has type `byte` or `short`, so an integer is narrowed to them. -/
def initial? (type : ValueType) : Option Expression :=
  match type.declared with
  | "void" => none
  | "boolean" => some (.literal (.boolean false))
  | "char" => some (.literal (.character '\x00'))
  | "int" => some (.literal (.int 0))
  | "long" => some (.literal (.long 0))
  | "float" => some (.literal (.float 0))
  | "double" => some (.literal (.double 0))
  | "byte" => some (.cast "byte" (.literal (.int 0)))
  | "short" => some (.cast "short" (.literal (.int 0)))
  | _ => some .null

end ValueType

end BusBridge.Java
