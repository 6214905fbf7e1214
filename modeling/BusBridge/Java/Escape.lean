/-
This file escapes text for Java literals. The escaped text is printable ASCII.
-/

namespace BusBridge.Java

def hexDigit (value : Nat) : Char :=
  if value < 10 then Char.ofNat (48 + value) else Char.ofNat (87 + value)

def octalDigit (value : Nat) : Char :=
  Char.ofNat (48 + value)

/-- A character beyond the first plane takes a high and a low surrogate. -/
def utf16Units (character : Char) : List Nat :=
  let point := character.toNat
  if point < 0x10000 then [point]
  else [0xD800 + (point - 0x10000) / 0x400, 0xDC00 + (point - 0x10000) % 0x400]

def unicodeEscape (unit : Nat) : List Char :=
  ['\\', 'u', hexDigit (unit / 4096 % 16), hexDigit (unit / 256 % 16),
    hexDigit (unit / 16 % 16), hexDigit (unit % 16)]

def octalEscape (point : Nat) : List Char :=
  ['\\', octalDigit (point / 64 % 8), octalDigit (point / 8 % 8), octalDigit (point % 8)]

/--
A control character is never written as a Unicode escape, which Java reads before it looks
for the end of a literal.
-/
def escapeCharacter (quote character : Char) : List Char :=
  if character = '\\' then ['\\', '\\']
  else if character = '\n' then ['\\', 'n']
  else if character = '\r' then ['\\', 'r']
  else if character = '\t' then ['\\', 't']
  else if character = '\x08' then ['\\', 'b']
  else if character = '\x0c' then ['\\', 'f']
  else if character = quote then ['\\', quote]
  else if character.toNat < 32 || character.toNat = 127 then octalEscape character.toNat
  else if character.toNat < 128 then [character]
  else (utf16Units character).flatMap unicodeEscape

def escape (quote : Char) (text : List Char) : List Char :=
  text.flatMap (escapeCharacter quote)

/-- The text stands between double quotes. -/
def escapeText (text : String) : String :=
  String.ofList (escape '"' text.toList)

/-- The character stands between apostrophes. -/
def escapeLiteral (character : Char) : String :=
  String.ofList (escape '\'' [character])

end BusBridge.Java
