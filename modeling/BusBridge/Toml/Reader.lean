/-
This file reads TOML documents.
-/

import BusBridge.Toml.Scalar
import BusBridge.Toml.Table
import BusBridge.Toml.Text

namespace BusBridge.Toml

def skipGap (characters : List Char) : List Char :=
  characters.dropWhile isGap

def skipComment (characters : List Char) : List Char :=
  match characters with
  | '#' :: rest => rest.dropWhile isAllowed
  | rest => rest

/-- Nothing but a comment follows on the line. -/
def endLine? (characters : List Char) : Option (List Char) :=
  match skipComment (skipGap characters) with
  | [] => some []
  | '\n' :: rest => some rest
  | '\r' :: '\n' :: rest => some rest
  | _ => none

/-- Gaps, line ends and comments stand for nothing. A comment goes on to the end of its line. -/
def skipBlank (isComment : Bool) : List Char → List Char
  | [] => []
  | '\n' :: rest => skipBlank false rest
  | '\r' :: '\n' :: rest => skipBlank false rest
  | character :: rest =>
      if isComment && isAllowed character then skipBlank true rest
      else if !isComment && isGap character then skipBlank false rest
      else if !isComment && character = '#' then skipBlank true rest
      else character :: rest

def skipLines (characters : List Char) : List Char :=
  skipBlank false characters

def isBareKey (character : Char) : Bool :=
  character.isAlphanum || character = '_' || character = '-'

def readKey? (characters : List Char) : Option (String × List Char) :=
  match characters with
  | '"' :: rest => (readBasic (rest.length + 1) rest).map fun read => (String.ofList read.1, read.2)
  | '\'' :: rest => (readLiteral rest).map fun read => (String.ofList read.1, read.2)
  | _ =>
      match characters.takeWhile isBareKey with
      | [] => none
      | key => some (String.ofList key, characters.dropWhile isBareKey)

/-- Neither paths nor nested values are longer than this. -/
def maximalDepth : Nat := 80

def readKeys? : Nat → List Char → Option (List String × List Char)
  | 0, _ => none
  | count + 1, characters => do
      let (key, afterKey) ← readKey? (skipGap characters)
      match skipGap afterKey with
      | '.' :: rest =>
          let (path, remaining) ← readKeys? count rest
          return (key :: path, remaining)
      | rest => return ([key], rest)

/-- Dots separate the keys of a path. -/
def readPath? (characters : List Char) : Option (List String × List Char) :=
  readKeys? maximalDepth characters

def continuesScalar (character : Char) : Bool :=
  isBareKey character || character = '+' || character = '.' || character = ':'

/-- A date and a time may be separated by one space. -/
def scalarText (characters : List Char) : List Char × List Char :=
  let first := characters.takeWhile continuesScalar
  match characters.dropWhile continuesScalar with
  | ' ' :: digit :: rest =>
      if first.length = 10 && (readDate? first).isSome && digit.isDigit then
        (first ++ ' ' :: (digit :: rest).takeWhile continuesScalar,
          (digit :: rest).dropWhile continuesScalar)
      else (first, ' ' :: digit :: rest)
  | rest => (first, rest)

mutual

/--
No more than two calls go by for a character, so twice the length of the text is enough fuel.
The levels are those that may still be opened.
-/
def readValue : Nat → Nat → List Char → Option (Json × List Char)
  | 0, _, _ => none
  | fuel + 1, levels, characters =>
      match levels, characters with
      | 0, '[' :: _ => none
      | 0, '\x7b' :: _ => none
      | inner + 1, '[' :: rest => do
          let (items, remaining) ← readItems fuel inner rest
          return (.array items, remaining)
      | inner + 1, '\x7b' :: rest => do
          let (table, remaining) ← readInline fuel inner [] rest
          return (Table.toJson table, remaining)
      | _, _ =>
          match readText? fuel characters with
          | some read => read.map fun (text, rest) => (.text (String.ofList text), rest)
          | none =>
              let (text, rest) := scalarText characters
              (scalar? text).map fun value => (value, rest)

/-- A comma may follow the last item. -/
def readItems : Nat → Nat → List Char → Option (List Json × List Char)
  | 0, _, _ => none
  | fuel + 1, levels, characters =>
      match skipLines characters with
      | ']' :: rest => some ([], rest)
      | inner => do
          let (item, afterItem) ← readValue fuel levels inner
          match skipLines afterItem with
          | ',' :: rest =>
              let (items, remaining) ← readItems fuel levels rest
              return (item :: items, remaining)
          | ']' :: rest => return ([item], rest)
          | _ => none

/-- Lines may end everywhere but inside a path. -/
def readInline : Nat → Nat → Table → List Char → Option (Table × List Char)
  | 0, _, _, _ => none
  | fuel + 1, levels, table, characters =>
      match skipLines characters with
      | '\x7d' :: rest => some (table, rest)
      | inner => do
          let (path, afterPath) ← readPath? inner
          match skipLines afterPath with
          | '=' :: afterEquals =>
              let (value, afterValue) ← readValue fuel levels (skipLines afterEquals)
              let extended ← table.assign value path
              match skipLines afterValue with
              | ',' :: rest => readInline fuel levels extended rest
              | '\x7d' :: rest => return (extended, rest)
              | _ => none
          | _ => none

end

/-- The path of the last header is where the following lines assign. -/
structure Document where
  root : Table
  header : List String

def readHeader? (document : Document) (characters : List Char) : Option (Document × List Char) := do
  match characters with
  | '[' :: rest =>
      let (path, afterPath) ← readPath? rest
      match afterPath with
      | ']' :: ']' :: afterHeader =>
          return (⟨← document.root.append path, path⟩, ← endLine? afterHeader)
      | _ => none
  | rest =>
      let (path, afterPath) ← readPath? rest
      match afterPath with
      | ']' :: afterHeader =>
          return (⟨← document.root.open path, path⟩, ← endLine? afterHeader)
      | _ => none

def readAssignment? (fuel : Nat) (document : Document) (characters : List Char) :
    Option (Document × List Char) := do
  let (path, afterPath) ← readPath? characters
  match afterPath with
  | '=' :: afterEquals =>
      let (value, afterValue) ← readValue fuel maximalDepth (skipGap afterEquals)
      let root ← document.root.modifyAt (·.assign value path) document.header
      return (⟨root, document.header⟩, ← endLine? afterValue)
  | _ => none

def readDocument : Nat → Document → List Char → Option Table
  | 0, _, _ => none
  | fuel + 1, document, characters => do
      match skipLines characters with
      | [] => return document.root
      | '[' :: rest =>
          let (extended, remaining) ← readHeader? document rest
          readDocument fuel extended remaining
      | rest =>
          let (extended, remaining) ← readAssignment? fuel document rest
          readDocument fuel extended remaining

/-- A byte order mark may stand first. -/
def withoutMark : List Char → List Char
  | '\uFEFF' :: rest => rest
  | rest => rest

def parse? (text : String) : Option Json :=
  let characters := withoutMark text.toList
  (readDocument (2 * characters.length + 2) ⟨[], []⟩ characters).map Table.toJson

end BusBridge.Toml
