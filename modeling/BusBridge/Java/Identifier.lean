/-
This file decides which texts name something in Java: identifiers, dotted names and package
prefixes.
-/

import BusBridge.Character.Number
import BusBridge.Text.Basic

namespace BusBridge.Java

/-- Reserved words and literals never name anything. -/
def reservedWords : List String := [
  "abstract", "assert", "boolean", "break", "byte", "case", "catch", "char", "class", "const",
  "continue", "default", "do", "double", "else", "enum", "extends", "final", "finally",
  "float", "for", "goto", "if", "implements", "import", "instanceof", "int", "interface",
  "long", "native", "new", "package", "private", "protected", "public", "return", "short",
  "static", "strictfp", "super", "switch", "synchronized", "this", "throw", "throws",
  "transient", "try", "void", "volatile", "while", "true", "false", "null", "_"]

def isReserved (name : String) : Bool :=
  reservedWords.contains name

def startsIdentifier (character : Char) : Bool :=
  Character.isLetter character || character = '_' || character = '$'

def continuesIdentifier (character : Char) : Bool :=
  Character.isAlphanumeric character || character = '_' || character = '$'

def isIdentifier (name : String) : Bool :=
  match name.toList with
  | [] => false
  | first :: rest =>
      startsIdentifier first && rest.all continuesIdentifier && !isReserved name

/-- A qualified name is a dotted sequence of identifiers. -/
def isQualifiedName (name : String) : Bool :=
  (Text.split '.' name).all isIdentifier

/-- A binary name writes a nested type after a dollar sign, a source name after a dot. -/
def sourceForm (binaryName : String) : String :=
  Text.replace '$' '.' binaryName

/-- A package prefix fails for the first of these reasons that applies. -/
inductive PrefixProblem where
  | empty
  | outerDot
  | emptySegment
  | invalidSegment (segment : String)
  deriving DecidableEq, Repr

def PrefixProblem.message : PrefixProblem → String
  | .empty => "prefix is empty"
  | .outerDot => "prefix starts or ends with '.'"
  | .emptySegment => "prefix contains an empty segment"
  | .invalidSegment segment => s!"'{segment}' is not a valid package segment"

def segmentProblem? (segment : String) : Option PrefixProblem :=
  if segment = "" then some .emptySegment
  else if isIdentifier segment then none
  else some (.invalidSegment segment)

def prefixProblem? (packagePrefix : String) : Option PrefixProblem :=
  if packagePrefix = "" then some .empty
  else if packagePrefix.toList.head? = some '.' || packagePrefix.toList.getLast? = some '.' then
    some .outerDot
  else (Text.split '.' packagePrefix).findSome? segmentProblem?

end BusBridge.Java
