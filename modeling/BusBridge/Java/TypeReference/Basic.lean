/-
This file reads type references: a name, its type arguments and its array brackets.
-/

import BusBridge.Java.TypeReference.Token

namespace BusBridge.Java

def primitiveNames : List String := [
  "boolean", "byte", "short", "int", "long", "char", "float", "double"]

def isPrimitiveName (name : String) : Bool :=
  primitiveNames.contains name

inductive Bound where
  | upper
  | lower
  deriving DecidableEq, Repr

def Bound.keyword : Bound → String
  | .upper => "extends"
  | .lower => "super"

mutual

structure Reference where
  name : String
  arguments : List TypeArgument
  dimensions : Nat

inductive TypeArgument where
  | wildcard
  | bounded (bound : Bound) (reference : Reference)
  | plain (reference : Reference)

end

/-- The word `void` stands alone, without arguments and brackets. -/
inductive TypeReference where
  | void
  | value (reference : Reference)

/-- A primitive becomes a reference type only inside an array. -/
def Reference.isBarePrimitive (reference : Reference) : Bool :=
  isPrimitiveName reference.name && reference.dimensions == 0

namespace TypeReference

def unexpected : List Token → Problem
  | [] => .unexpectedEnd
  | token :: _ => .unexpected token

/-- Each pair of brackets adds one dimension. -/
def readDimensions : List Token → Except Problem (Nat × List Token)
  | .symbol '[' :: .symbol ']' :: rest =>
      (readDimensions rest).map fun (count, remaining) => (count + 1, remaining)
  | .symbol '[' :: rest => .error (unexpected rest)
  | rest => .ok (0, rest)

mutual

/-- The fuel bounds the nesting, and the number of tokens is always enough. -/
def readReference : Nat → List Token → Except Problem (Reference × List Token)
  | fuel + 1, .name name :: rest => do
      if isPrimitiveName name then
        let (dimensions, remaining) ← readDimensions rest
        return (⟨name, [], dimensions⟩, remaining)
      if !isQualifiedName name then
        throw (.invalidName name)
      match rest with
      | .symbol '<' :: inner =>
          let (arguments, afterArguments) ← readArguments fuel inner
          let (dimensions, remaining) ← readDimensions afterArguments
          return (⟨name, arguments, dimensions⟩, remaining)
      | _ =>
          let (dimensions, remaining) ← readDimensions rest
          return (⟨name, [], dimensions⟩, remaining)
  | _, tokens => .error (unexpected tokens)

def readPlainArgument : Nat → List Token → Except Problem (Reference × List Token)
  | 0, tokens => .error (unexpected tokens)
  | fuel + 1, tokens => do
      let (reference, remaining) ← readReference fuel tokens
      if reference.isBarePrimitive then
        throw .primitiveArgument
      return (reference, remaining)

def readArgument : Nat → List Token → Except Problem (TypeArgument × List Token)
  | fuel + 1, .symbol '?' :: .name "extends" :: rest => do
      let (reference, remaining) ← readPlainArgument fuel rest
      return (.bounded .upper reference, remaining)
  | fuel + 1, .symbol '?' :: .name "super" :: rest => do
      let (reference, remaining) ← readPlainArgument fuel rest
      return (.bounded .lower reference, remaining)
  | _ + 1, .symbol '?' :: rest => .ok (.wildcard, rest)
  | fuel + 1, tokens => do
      let (reference, remaining) ← readPlainArgument fuel tokens
      return (.plain reference, remaining)
  | 0, tokens => .error (unexpected tokens)

def readArguments : Nat → List Token → Except Problem (List TypeArgument × List Token)
  | 0, tokens => .error (unexpected tokens)
  | fuel + 1, tokens => do
      let (argument, afterArgument) ← readArgument fuel tokens
      match afterArgument with
      | .symbol '>' :: rest => return ([argument], rest)
      | .symbol ',' :: rest =>
          let (arguments, remaining) ← readArguments fuel rest
          return (argument :: arguments, remaining)
      | [] => throw .unclosed
      | token :: _ => throw (.unexpected token)

end

def ofTokens (tokens : List Token) : Except Problem TypeReference :=
  if tokens = [.name "void"] then .ok .void
  else do
    match ← readReference (3 * tokens.length) tokens with
    | (reference, []) => return .value reference
    | (_, token :: _) => throw (.unexpected token)

def parse (text : String) : Except Problem TypeReference := do
  ofTokens (← tokens text)

def problem? (text : String) : Option Problem :=
  match parse text with
  | .ok _ => none
  | .error problem => some problem

end TypeReference

/-- Well-formed text names a type, with nothing left over. -/
def isTypeReference (text : String) : Bool :=
  (TypeReference.problem? text).isNone

end BusBridge.Java
