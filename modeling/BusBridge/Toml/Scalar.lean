/-
This file reads the numbers, dates and times of TOML.
-/

import BusBridge.Json.Reader

namespace BusBridge.Toml

def digitValue? (base : Nat) (character : Char) : Option Nat :=
  (Json.hexValue? character).bind fun value => if value < base then some value else none

/-- An underscore stands between two digits. -/
def ungroup? : List Char → Option (List Char)
  | [] => none
  | [digit] => if digit = '_' then none else some [digit]
  | digit :: '_' :: rest =>
      if digit = '_' || rest.head? = some '_' then none
      else (ungroup? rest).map (digit :: ·)
  | digit :: rest => if digit = '_' then none else (ungroup? rest).map (digit :: ·)

def numeral? (base : Nat) (characters : List Char) : Option Nat := do
  let digits ← ungroup? characters
  digits.foldlM (fun value digit => (digitValue? base digit).map (value * base + ·)) 0

def decimal? (characters : List Char) : Option Nat :=
  match characters with
  | '0' :: _ :: _ => none
  | _ => numeral? 10 characters

def integer? : List Char → Option Int
  | '0' :: 'x' :: digits => (numeral? 16 digits).map Int.ofNat
  | '0' :: 'o' :: digits => (numeral? 8 digits).map Int.ofNat
  | '0' :: 'b' :: digits => (numeral? 2 digits).map Int.ofNat
  | '+' :: digits => (decimal? digits).map Int.ofNat
  | '-' :: digits => (decimal? digits).map fun value => -(value : Int)
  | digits => (decimal? digits).map Int.ofNat

def isExponentMark (character : Char) : Bool :=
  character = 'e' || character = 'E'

def digits? (characters : List Char) : Option (List Char) := do
  let digits ← ungroup? characters
  if digits.all Char.isDigit then return digits else none

/-- A leading zero stands alone. -/
def whole? (characters : List Char) : Option (List Char) :=
  match characters with
  | '0' :: _ :: _ => none
  | _ => digits? characters

def fraction? : List Char → Option (List Char)
  | [] => some []
  | _ :: digits => digits? digits

def exponent? : List Char → Option Int
  | [] => some 0
  | _ :: characters => do
      let (negative, unsigned) := Json.readSign characters
      let value := Json.numeral (← digits? unsigned)
      return if negative then -value else value

/-- A number without a bound and no number at all stand for zero: no record reads a float. -/
def float? (characters : List Char) : Option Json.Number :=
  let (negative, body) := Json.readSign characters
  if body = ['i', 'n', 'f'] || body = ['n', 'a', 'n'] then some (.decimal negative 0 0)
  else
    let significand := body.takeWhile fun character => !isExponentMark character
    let exponent := body.dropWhile fun character => !isExponentMark character
    let whole := significand.takeWhile (· != '.')
    let fraction := significand.dropWhile (· != '.')
    if fraction.isEmpty && exponent.isEmpty then none
    else do
      return Json.numberOf negative (← whole? whole) (← fraction? fraction)
        (some (← exponent? exponent))

def twoDigits? : List Char → Option (Nat × List Char)
  | first :: second :: rest => do
      return ((← digitValue? 10 first) * 10 + (← digitValue? 10 second), rest)
  | _ => none

def isLeapYear (year : Nat) : Bool :=
  year % 4 == 0 && (year % 100 != 0 || year % 400 == 0)

def daysIn (year month : Nat) : Nat :=
  if month = 2 then (if isLeapYear year then 29 else 28)
  else if month = 4 || month = 6 || month = 9 || month = 11 then 30
  else 31

def skip? (expected : Char) : List Char → Option (List Char)
  | character :: rest => if character = expected then some rest else none
  | [] => none

def readDate? (characters : List Char) : Option (List Char) := do
  let (century, afterCentury) ← twoDigits? characters
  let (year, afterYear) ← twoDigits? afterCentury
  let (month, afterMonth) ← twoDigits? (← skip? '-' afterYear)
  let (day, rest) ← twoDigits? (← skip? '-' afterMonth)
  if 1 ≤ month && month ≤ 12 && 1 ≤ day && day ≤ daysIn (century * 100 + year) month then
    return rest
  else none

def readSecondFraction? : List Char → Option (List Char)
  | '.' :: rest => if (Json.digits rest).1.isEmpty then none else some (Json.digits rest).2
  | rest => some rest

def readSeconds? : List Char → Option (List Char)
  | ':' :: rest => do
      let (second, afterSecond) ← twoDigits? rest
      if second ≤ 60 then readSecondFraction? afterSecond else none
  | rest => some rest

def readMinutes? (characters : List Char) : Option (List Char) := do
  let (hour, afterHour) ← twoDigits? characters
  let (minute, rest) ← twoDigits? (← skip? ':' afterHour)
  if hour ≤ 23 && minute ≤ 59 then return rest else none

def readTime? (characters : List Char) : Option (List Char) := do
  readSeconds? (← readMinutes? characters)

def readOffset? : List Char → Option (List Char)
  | 'Z' :: rest | 'z' :: rest => some rest
  | '+' :: rest | '-' :: rest => readMinutes? rest
  | rest => some rest

def afterDate? : List Char → Option (List Char)
  | 'T' :: rest | 't' :: rest | ' ' :: rest => do readOffset? (← readTime? rest)
  | rest => some rest

/-- A date, a time, or both with an optional offset. -/
def isDateTime (characters : List Char) : Bool :=
  match (readDate? characters).bind afterDate? with
  | some rest => rest.isEmpty
  | none =>
      match readTime? characters with
      | some rest => rest.isEmpty
      | none => false

/-- A date is an object with one member that no record knows. -/
def dateTimeValue (characters : List Char) : Json :=
  .object [("$datetime", .text (String.ofList characters))]

def scalar? (characters : List Char) : Option Json :=
  if characters = ['t', 'r', 'u', 'e'] then some (.boolean true)
  else if characters = ['f', 'a', 'l', 's', 'e'] then some (.boolean false)
  else if isDateTime characters then some (dateTimeValue characters)
  else
    match float? characters with
    | some value => some (.number value)
    | none => (integer? characters).map fun value => .number (.integer value)

end BusBridge.Toml
