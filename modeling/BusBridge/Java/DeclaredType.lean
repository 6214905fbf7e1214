/-
This file holds a type as a declaration writes it, with its erasure and its source form.
-/

import BusBridge.Java.TypeReference.Basic

namespace BusBridge.Java

/-- The text of a declared type has no white space at its ends. -/
structure DeclaredType where
  name : String
  deriving DecidableEq, Repr, Inhabited

namespace DeclaredType

def ofText (text : String) : DeclaredType :=
  ⟨Text.trim text⟩

def isVoid (type : DeclaredType) : Bool :=
  type.name == "void"

def isPrimitive (type : DeclaredType) : Bool :=
  isPrimitiveName type.name

/-- The depth counts the argument lists that are open, and a stray close leaves it at zero. -/
def eraseArguments (depth : Nat) : List Char → List Char
  | [] => []
  | '<' :: rest => eraseArguments (depth + 1) rest
  | '>' :: rest => eraseArguments (depth - 1) rest
  | character :: rest =>
      if depth = 0 && !Character.isBlank character then
        character :: eraseArguments depth rest
      else eraseArguments depth rest

/-- The erasure has neither type arguments nor white space, as a class literal needs. -/
def erasure (type : DeclaredType) : String :=
  String.ofList (eraseArguments 0 type.name.toList)

/-- The brackets are met in reverse. -/
def dropBrackets : List Char → List Char
  | ']' :: '[' :: rest => dropBrackets rest
  | characters => characters

def elementName (type : DeclaredType) : String :=
  String.ofList (dropBrackets type.erasure.toList.reverse).reverse

def sourceName (type : DeclaredType) : String :=
  sourceForm type.name

def sourceErasure (type : DeclaredType) : String :=
  sourceForm type.erasure

def problem? (type : DeclaredType) : Option TypeReference.Problem :=
  TypeReference.problem? type.name

end DeclaredType

end BusBridge.Java
