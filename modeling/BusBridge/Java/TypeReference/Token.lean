/-
This file cuts a type reference into names and symbols.
-/

import BusBridge.Java.Identifier

namespace BusBridge.Java.TypeReference

inductive Token where
  | name (text : String)
  | symbol (character : Char)
  deriving DecidableEq, Repr

/-- A text is no type reference for the first of these reasons that a reader meets. -/
inductive Problem where
  | unexpectedCharacter (character : Char)
  | unexpected (token : Token)
  | unexpectedEnd
  | invalidName (name : String)
  | unclosed
  | primitiveArgument
  deriving DecidableEq, Repr

def Problem.message : Problem → String
  | .unexpectedCharacter character => s!"unexpected character '{character}'"
  | .unexpected (.name name) => s!"unexpected name '{name}'"
  | .unexpected (.symbol character) => s!"unexpected '{character}'"
  | .unexpectedEnd => "unexpected end of type"
  | .invalidName name => s!"'{name}' is not a valid type name"
  | .unclosed => "unclosed '<'"
  | .primitiveArgument => "primitive types cannot be type arguments"

def continuesName (character : Char) : Bool :=
  continuesIdentifier character || character = '.'

def symbols : List Char := ['<', '>', ',', '[', ']', '?']

/-- The pending characters of a name are held in reverse. -/
def closeName (pending : List Char) (tokens : List Token) : List Token :=
  if pending.isEmpty then tokens else .name (String.ofList pending.reverse) :: tokens

/-- A name is a longest run of name characters, and white space only separates. -/
def tokenize (pending : List Char) : List Char → Except Problem (List Token)
  | [] => .ok (closeName pending [])
  | character :: rest =>
      if continuesName character then tokenize (character :: pending) rest
      else if symbols.contains character then
        (tokenize [] rest).map fun tokens => closeName pending (.symbol character :: tokens)
      else if Character.isBlank character then
        (tokenize [] rest).map (closeName pending)
      else .error (.unexpectedCharacter character)

def tokens (text : String) : Except Problem (List Token) :=
  tokenize [] text.toList

end BusBridge.Java.TypeReference
