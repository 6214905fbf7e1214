/-
This file prints JSON values, each member and each item on a line of its own.
-/

import BusBridge.Java.Escape
import BusBridge.Json.Basic
import BusBridge.Decimal.Layout

namespace BusBridge.Json

def escapeCharacter (character : Char) : List Char :=
  if character = '"' then ['\\', '"']
  else if character = '\\' then ['\\', '\\']
  else if character = '\x08' then ['\\', 'b']
  else if character = '\x0c' then ['\\', 'f']
  else if character = '\n' then ['\\', 'n']
  else if character = '\r' then ['\\', 'r']
  else if character = '\t' then ['\\', 't']
  else if character.toNat < 32 then Java.unicodeEscape character.toNat
  else [character]

def textSource (text : String) : List Char :=
  '"' :: (text.toList.flatMap escapeCharacter ++ ['"'])

def Number.source : Number → List Char
  | .integer value => Decimal.integerText value
  | .decimal negative significand exponent =>
      Decimal.signed negative (Nat.toDigits 10 significand) ++ 'e' :: Decimal.integerText exponent

def lineAt (depth : Nat) : List Char :=
  '\n' :: List.replicate (2 * depth) ' '

def bracketed (opening closing : Char) (depth : Nat) : List (List Char) → List Char
  | [] => [opening, closing]
  | parts =>
      opening :: List.intercalate [','] (parts.map (lineAt (depth + 1) ++ ·)) ++
        lineAt depth ++ [closing]

mutual

def source (depth : Nat) : Json → List Char
  | .null => ['n', 'u', 'l', 'l']
  | .boolean true => ['t', 'r', 'u', 'e']
  | .boolean false => ['f', 'a', 'l', 's', 'e']
  | .number value => value.source
  | .text value => textSource value
  | .unpaired => ['n', 'u', 'l', 'l']
  | .array items => bracketed '[' ']' depth (itemSources (depth + 1) items)
  | .object members => bracketed '\x7b' '\x7d' depth (memberSources (depth + 1) members)

def itemSources (depth : Nat) : List Json → List (List Char)
  | [] => []
  | item :: rest => source depth item :: itemSources depth rest

def memberSources (depth : Nat) : List (String × Json) → List (List Char)
  | [] => []
  | (key, value) :: rest =>
      (textSource key ++ [':', ' '] ++ source depth value) :: memberSources depth rest

end

def print (value : Json) : String :=
  String.ofList (source 0 value)

end BusBridge.Json
