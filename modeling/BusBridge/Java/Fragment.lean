/-
This file lays out Java source as a list of fragments: fixed marks, brackets, names and
literals, and line breaks at a depth that fragments raise and lower.
-/

import BusBridge.Decimal.Layout
import BusBridge.Java.Escape
import BusBridge.Java.Syntax
import BusBridge.Java.TypeReference.Basic

namespace BusBridge.Java

inductive Bracket where
  | round
  | square
  | curly
  deriving DecidableEq, Repr

def Bracket.opening : Bracket → Char
  | .round => '('
  | .square => '['
  | .curly => '\x7b'

def Bracket.closing : Bracket → Char
  | .round => ')'
  | .square => ']'
  | .curly => '\x7d'

/-- A mark holds keywords, spaces and punctuation other than brackets. -/
inductive Fragment where
  | mark (text : String)
  | enter (bracket : Bracket)
  | leave (bracket : Bracket)
  | name (text : String)
  | package (text : String)
  | type (text : String)
  | literal (value : Literal)
  | indent
  | dedent
  | lineBreak
  | blankLine
  deriving DecidableEq

abbrev Layout := List Fragment

/-- The text of a fragment that stands where Java expects a name or a type, if it is neither. -/
def Fragment.invalid? : Fragment → Option String
  | .name text => if isIdentifier text then none else some text
  | .package text => if isQualifiedName text then none else some text
  | .type text => if isTypeReference text then none else some text
  | _ => none

def floatText (format : Decimal.BinaryFormat) (bits : Nat) : List Char :=
  (format.decode bits).text Decimal.moderate

def Literal.source : Literal → List Char
  | .text value => '"' :: escape '"' value.toList ++ ['"']
  | .character value => '\'' :: escape '\'' [value] ++ ['\'']
  | .boolean true => ['t', 'r', 'u', 'e']
  | .boolean false => ['f', 'a', 'l', 's', 'e']
  | .int value => Decimal.integerText value.toInt
  | .long value => Decimal.integerText value.toInt ++ ['L']
  | .float bits => floatText Decimal.single bits.toNat ++ ['f']
  | .double bits => floatText Decimal.double bits.toNat ++ ['d']

def indentation (depth : Nat) : List Char :=
  List.replicate (4 * depth) ' '

/-- The depth after a fragment. -/
def Fragment.depthAfter (depth : Nat) : Fragment → Nat
  | .indent => depth + 1
  | .dedent => depth - 1
  | _ => depth

def Fragment.source (depth : Nat) : Fragment → List Char
  | .mark text => text.toList
  | .enter bracket => [bracket.opening]
  | .leave bracket => [bracket.closing]
  | .name text => text.toList
  | .package text => text.toList
  | .type text => text.toList
  | .literal value => value.source
  | .indent => []
  | .dedent => []
  | .lineBreak => '\n' :: indentation depth
  | .blankLine => ['\n']

def Layout.source (depth : Nat) : Layout → List Char
  | [] => []
  | fragment :: rest => fragment.source depth ++ Layout.source (fragment.depthAfter depth) rest

def Layout.depthAfter (depth : Nat) (layout : Layout) : Nat :=
  layout.foldl Fragment.depthAfter depth

/-- The first offending text in the order of the source. -/
def Layout.invalid? (layout : Layout) : Option String :=
  layout.findSome? Fragment.invalid?

def enclosed (bracket : Bracket) (inner : Layout) : Layout :=
  .enter bracket :: inner ++ [.leave bracket]

/-- The inner lines stand one level deeper than the brackets. -/
def indented (inner : Layout) : Layout :=
  enclosed .curly (.indent :: inner ++ [.dedent, .lineBreak])

def separated (separator : String) : List Layout → Layout
  | [] => []
  | [layout] => layout
  | layout :: rest => layout ++ .mark separator :: separated separator rest

def parenthesized (needed : Bool) (inner : Layout) : Layout :=
  if needed then enclosed .round inner else inner

end BusBridge.Java
