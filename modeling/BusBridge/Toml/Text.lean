/-
This file reads the texts of TOML: basic and literal, on one line and on several.
-/

import BusBridge.Json.Reader

namespace BusBridge.Toml

/-- Control characters other than the tab never stand in a document. -/
def isAllowed (character : Char) : Bool :=
  character = '\t' || (32 ≤ character.toNat && character.toNat != 127)

def scalarValue? (point : Nat) : Option Char :=
  if point < 0xD800 || (0xE000 ≤ point && point < 0x110000) then some (Char.ofNat point)
  else none

def hexDigits? (count : Nat) (characters : List Char) : Option (Char × List Char) := do
  let digits := characters.take count
  if digits.length < count then none
  else
    let point ← digits.foldlM
      (fun value digit => (Json.hexValue? digit).map (value * 16 + ·)) 0
    let character ← scalarValue? point
    return (character, characters.drop count)

def readEscape? : List Char → Option (Char × List Char)
  | '"' :: rest => some ('"', rest)
  | '\\' :: rest => some ('\\', rest)
  | 'b' :: rest => some ('\x08', rest)
  | 'e' :: rest => some ('\x1b', rest)
  | 'f' :: rest => some ('\x0c', rest)
  | 'n' :: rest => some ('\n', rest)
  | 'r' :: rest => some ('\r', rest)
  | 't' :: rest => some ('\t', rest)
  | 'x' :: rest => hexDigits? 2 rest
  | 'u' :: rest => hexDigits? 4 rest
  | 'U' :: rest => hexDigits? 8 rest
  | _ => none

def prepend (character : Char) (read : List Char × List Char) : List Char × List Char :=
  (character :: read.1, read.2)

/-- Every call takes a character, so the length of the text is enough fuel. -/
def readBasic : Nat → List Char → Option (List Char × List Char)
  | 0, _ => none
  | _, [] => none
  | _, '"' :: rest => some ([], rest)
  | fuel + 1, '\\' :: rest => do
      let (character, remaining) ← readEscape? rest
      (readBasic fuel remaining).map (prepend character)
  | fuel + 1, character :: rest =>
      if isAllowed character then (readBasic fuel rest).map (prepend character) else none

def readLiteral : List Char → Option (List Char × List Char)
  | [] => none
  | '\'' :: rest => some ([], rest)
  | character :: rest =>
      if isAllowed character then (readLiteral rest).map (prepend character) else none

def skipNewline : List Char → List Char
  | '\n' :: rest => rest
  | '\r' :: '\n' :: rest => rest
  | rest => rest

def isGap (character : Char) : Bool :=
  character = ' ' || character = '\t'

def isLineEnd : List Char → Bool
  | '\n' :: _ => true
  | '\r' :: '\n' :: _ => true
  | _ => false

/-- Line ends and gaps after a backslash at the end of a line are dropped. -/
def skipLineEnds : List Char → List Char
  | [] => []
  | ' ' :: rest => skipLineEnds rest
  | '\t' :: rest => skipLineEnds rest
  | '\n' :: rest => skipLineEnds rest
  | '\r' :: '\n' :: rest => skipLineEnds rest
  | rest => rest

/-- Up to two quotes may stand directly before the three that close. -/
def closing? (quote : Char) : List Char → Option (List Char × List Char)
  | first :: second :: third :: rest =>
      if first = quote && second = quote && third = quote then
        match rest with
        | fourth :: fifth :: remaining =>
            if fourth = quote && fifth = quote then some ([quote, quote], remaining)
            else if fourth = quote then some ([quote], fifth :: remaining)
            else some ([], rest)
        | [fourth] => if fourth = quote then some ([quote], []) else some ([], rest)
        | [] => some ([], [])
      else none
  | _ => none

def readLongBasic : Nat → List Char → Option (List Char × List Char)
  | 0, _ => none
  | fuel + 1, characters =>
      match closing? '"' characters with
      | some result => some result
      | none =>
          match characters with
          | [] => none
          | '\\' :: rest =>
              if isLineEnd (rest.dropWhile isGap) then
                readLongBasic fuel (skipLineEnds rest)
              else do
                let (character, remaining) ← readEscape? rest
                (readLongBasic fuel remaining).map (prepend character)
          | '\r' :: '\n' :: rest =>
              (readLongBasic fuel rest).map (prepend '\r' ∘ prepend '\n')
          | character :: rest =>
              if character = '\n' || isAllowed character then
                (readLongBasic fuel rest).map (prepend character)
              else none

def readLongLiteral : Nat → List Char → Option (List Char × List Char)
  | 0, _ => none
  | fuel + 1, characters =>
      match closing? '\'' characters with
      | some result => some result
      | none =>
          match characters with
          | [] => none
          | '\r' :: '\n' :: rest =>
              (readLongLiteral fuel rest).map (prepend '\r' ∘ prepend '\n')
          | character :: rest =>
              if character = '\n' || isAllowed character then
                (readLongLiteral fuel rest).map (prepend character)
              else none

/-- The outer option is empty when no text starts here. -/
def readText? (fuel : Nat) (characters : List Char) :
    Option (Option (List Char × List Char)) :=
  match characters with
  | '"' :: '"' :: '"' :: rest => some (readLongBasic fuel (skipNewline rest))
  | '\'' :: '\'' :: '\'' :: rest => some (readLongLiteral fuel (skipNewline rest))
  | '"' :: rest => some (readBasic fuel rest)
  | '\'' :: rest => some (readLiteral rest)
  | _ => none

end BusBridge.Toml
