/-
This file holds the cuts and replacements of text that names and paths are made with.
-/

import BusBridge.Character.Basic

namespace BusBridge.Text

/-- Empty parts are kept, so joining the parts with the separator gives the text back. -/
def split (separator : Char) (text : String) : List String :=
  (text.toList.splitOn separator).map String.ofList

/-- A text without the separator has no last part. -/
def splitLast? (separator : Char) (text : String) : Option (String × String) :=
  let reversed := text.toList.reverse
  match reversed.dropWhile (· != separator) with
  | [] => none
  | _ :: before =>
      some (String.ofList before.reverse,
        String.ofList (reversed.takeWhile (· != separator)).reverse)

def replace (old new : Char) (text : String) : String :=
  String.ofList (text.toList.map fun character => if character = old then new else character)

def trimStart (text : String) : String :=
  String.ofList (text.toList.dropWhile Character.isBlank)

def trim (text : String) : String :=
  String.ofList
    ((text.toList.dropWhile Character.isBlank).reverse.dropWhile Character.isBlank).reverse

/-- A text without the start is kept as it is. -/
def withoutStart (start text : String) : String :=
  if start.toList.isPrefixOf text.toList then String.ofList (text.toList.drop start.toList.length)
  else text

def startsWith (start text : String) : Bool :=
  start.toList.isPrefixOf text.toList

def lowerAscii (text : String) : String :=
  String.ofList (text.toList.map Char.toLower)

/-- Only ASCII letters have two cases here. -/
def sameAsciiLetters (first second : String) : Bool :=
  lowerAscii first == lowerAscii second

end BusBridge.Text
