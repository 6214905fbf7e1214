/-
This file reads JSON text. A byte that is part of no character may only stand between quotes.
-/

import BusBridge.Json.Basic
import BusBridge.Text.Decoded

namespace BusBridge.Json

/-- A stray byte is no character. -/
abbrev Symbols := List (Option Char)

def isSpace (symbol : Option Char) : Bool :=
  symbol = some ' ' || symbol = some '\n' || symbol = some '\r' || symbol = some '\t'

def skipSpace (symbols : Symbols) : Symbols :=
  symbols.dropWhile isSpace

def hexValue? (character : Char) : Option Nat :=
  let point := character.toNat
  if 48 ≤ point && point ≤ 57 then some (point - 48)
  else if 97 ≤ point && point ≤ 102 then some (point - 87)
  else if 65 ≤ point && point ≤ 70 then some (point - 55)
  else none

def unit? (first second third fourth : Char) : Option Nat := do
  return (← hexValue? first) * 4096 + (← hexValue? second) * 256 + (← hexValue? third) * 16 +
    (← hexValue? fourth)

/-- A text is read as UTF-16 units where it is escaped and as characters elsewhere. -/
inductive TextUnit where
  | character (value : Char)
  | unit (value : Nat)
  | stray

def namedEscape? : Char → Option Char
  | '"' => some '"'
  | '\\' => some '\\'
  | '/' => some '/'
  | 'b' => some '\x08'
  | 'f' => some '\x0c'
  | 'n' => some '\n'
  | 'r' => some '\r'
  | 't' => some '\t'
  | _ => none

/-- The symbols after the opening quote are read up to the closing one. -/
def readUnits : Symbols → Option (List TextUnit × Symbols)
  | some '"' :: rest => some ([], rest)
  | some '\\' :: some 'u' :: some first :: some second :: some third :: some fourth :: rest => do
      let unit ← unit? first second third fourth
      let (units, remaining) ← readUnits rest
      return (.unit unit :: units, remaining)
  | some '\\' :: some name :: rest => do
      let character ← namedEscape? name
      let (units, remaining) ← readUnits rest
      return (.character character :: units, remaining)
  | some '\\' :: _ => none
  | some character :: rest =>
      if character.toNat < 32 then none
      else do
        let (units, remaining) ← readUnits rest
        return (.character character :: units, remaining)
  | none :: rest => do
      let (units, remaining) ← readUnits rest
      return (.stray :: units, remaining)
  | [] => none

/-- A high surrogate needs a low one directly after it. -/
def joinUnits? : List TextUnit → Option (List Char)
  | [] => some []
  | .character value :: rest => (joinUnits? rest).map (value :: ·)
  | .unit high :: .unit low :: rest =>
      if 0xD800 ≤ high && high < 0xDC00 then
        if 0xDC00 ≤ low && low < 0xE000 then
          (joinUnits? rest).map
            (Char.ofNat (0x10000 + (high - 0xD800) * 0x400 + (low - 0xDC00)) :: ·)
        else none
      else if 0xDC00 ≤ high && high < 0xE000 then none
      else (joinUnits? (.unit low :: rest)).map (Char.ofNat high :: ·)
  | .unit value :: rest =>
      if 0xD800 ≤ value && value < 0xE000 then none
      else (joinUnits? rest).map (Char.ofNat value :: ·)
  | .stray :: _ => none

/-- The inner option is empty when the text has no value. -/
def readText (symbols : Symbols) : Option (Option String × Symbols) :=
  (readUnits symbols).map fun (units, rest) => ((joinUnits? units).map String.ofList, rest)

def digits (characters : List Char) : List Char × List Char :=
  (characters.takeWhile Char.isDigit, characters.dropWhile Char.isDigit)

def numeral (characters : List Char) : Nat :=
  characters.foldl (fun value character => value * 10 + (character.toNat - 48)) 0

/-- A leading zero stands alone. -/
def readWhole (characters : List Char) : Option (List Char × List Char) :=
  match digits characters with
  | ([], _) => none
  | (['0'], rest) => some (['0'], rest)
  | ('0' :: _, _) => none
  | result => some result

def readFraction : List Char → Option (List Char × List Char)
  | '.' :: rest =>
      match digits rest with
      | ([], _) => none
      | result => some result
  | rest => some ([], rest)

def readSign : List Char → Bool × List Char
  | '-' :: rest => (true, rest)
  | '+' :: rest => (false, rest)
  | rest => (false, rest)

def readExponent : List Char → Option (Option Int × List Char)
  | 'e' :: rest | 'E' :: rest =>
      let (negative, unsigned) := readSign rest
      match digits unsigned with
      | ([], _) => none
      | (read, remaining) =>
          some (some (if negative then -(numeral read : Int) else numeral read), remaining)
  | rest => some (none, rest)

/-- A negative zero is no integer. -/
def numberOf (negative : Bool) (whole fraction : List Char) (exponent : Option Int) : Number :=
  let significand := numeral (whole ++ fraction)
  match fraction, exponent, negative, significand with
  | [], none, true, 0 => .decimal true 0 0
  | [], none, true, value => .integer (-value)
  | [], none, false, value => .integer value
  | _, _, _, _ => .decimal negative significand (exponent.getD 0 - fraction.length)

def readUnsigned (negative : Bool) (characters : List Char) : Option (Number × List Char) := do
  let (whole, afterWhole) ← readWhole characters
  let (fraction, afterFraction) ← readFraction afterWhole
  let (exponent, rest) ← readExponent afterFraction
  return (numberOf negative whole fraction exponent, rest)

def readNumber : List Char → Option (Number × List Char)
  | '-' :: rest => readUnsigned true rest
  | characters => readUnsigned false characters

def isNumeric : Option Char → Bool
  | some character => character.isDigit || ['-', '+', '.', 'e', 'E'].contains character
  | none => false

/-- A number lies within a run of the characters that numbers are made of. -/
def readNumberAhead (symbols : Symbols) : Option (Number × Symbols) := do
  let (read, rest) ← readNumber ((symbols.takeWhile isNumeric).filterMap id)
  return (read, rest.map some ++ symbols.dropWhile isNumeric)

def keyed (key : Option String) (value : Json) : Json → Json
  | .object members =>
      match key with
      | some key => .object ((key, value) :: members)
      | none => .unpaired
  | other => other

mutual

/-- Every call takes a character before it calls again, so the length of the text is enough fuel. -/
def readValue : Nat → Symbols → Option (Json × Symbols)
  | 0, _ => none
  | fuel + 1, symbols =>
      match skipSpace symbols with
      | some 'n' :: some 'u' :: some 'l' :: some 'l' :: rest => some (.null, rest)
      | some 't' :: some 'r' :: some 'u' :: some 'e' :: rest => some (.boolean true, rest)
      | some 'f' :: some 'a' :: some 'l' :: some 's' :: some 'e' :: rest =>
          some (.boolean false, rest)
      | some '"' :: rest => do
          let (read, remaining) ← readText rest
          return (read.elim .unpaired .text, remaining)
      | some '[' :: rest =>
          match skipSpace rest with
          | some ']' :: remaining => some (.array [], remaining)
          | inner => do
              let (items, remaining) ← readItems fuel inner
              return (.array items, remaining)
      | some '\x7b' :: rest =>
          match skipSpace rest with
          | some '\x7d' :: remaining => some (.object [], remaining)
          | inner => readMembers fuel inner
      | rest => do
          let (read, remaining) ← readNumberAhead rest
          return (.number read, remaining)

def readItems : Nat → Symbols → Option (List Json × Symbols)
  | 0, _ => none
  | fuel + 1, symbols => do
      let (item, afterItem) ← readValue fuel symbols
      match skipSpace afterItem with
      | some ']' :: rest => return ([item], rest)
      | some ',' :: rest =>
          let (items, remaining) ← readItems fuel rest
          return (item :: items, remaining)
      | _ => none

def readMembers : Nat → Symbols → Option (Json × Symbols)
  | 0, _ => none
  | fuel + 1, symbols =>
      match skipSpace symbols with
      | some '"' :: afterQuote => do
          let (key, afterKey) ← readText afterQuote
          match skipSpace afterKey with
          | some ':' :: afterColon =>
              let (value, afterValue) ← readValue fuel afterColon
              match skipSpace afterValue with
              | some '\x7d' :: rest => return (keyed key value (.object []), rest)
              | some ',' :: rest =>
                  let (others, remaining) ← readMembers fuel rest
                  return (keyed key value others, remaining)
              | _ => none
          | _ => none
      | _ => none

end

/-- Nothing but white space may follow the value. -/
def parseSymbols? (symbols : Symbols) : Option Json := do
  let (value, rest) ← readValue (2 * symbols.length + 2) symbols
  if (skipSpace rest).isEmpty then return value else none

def parse? (text : String) : Option Json :=
  parseSymbols? (text.toList.map some)

def parseBytes? (content : ByteArray) : Option Json :=
  parseSymbols? (Text.decode content)

end BusBridge.Json
