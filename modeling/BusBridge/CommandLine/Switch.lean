/-
This file holds the switches of the command line and the ways to write one.
-/

namespace BusBridge

inductive Switch where
  | configuration
  | logLevel
  | types
  | output
  | cache
  | reuse
  | marker
  | help
  | version
  deriving DecidableEq, Repr

/-- A path has at least one character, and a text may be empty. -/
inductive SwitchValue where
  | none
  | text
  | path
  deriving DecidableEq, Repr

namespace Switch

def word : Switch → String
  | .configuration => "config"
  | .logLevel => "log-level"
  | .types => "universe"
  | .output => "output"
  | .cache => "cache-dir"
  | .reuse => "reuse-cache"
  | .marker => "annotation"
  | .help => "help"
  | .version => "version"

def letter? : Switch → Option Char
  | .configuration => some 'c'
  | .types => some 'u'
  | .output => some 'o'
  | .marker => some 'a'
  | .help => some 'h'
  | .version => some 'V'
  | .logLevel | .cache | .reuse => none

def value : Switch → SwitchValue
  | .configuration | .types | .output | .cache => .path
  | .logLevel | .marker => .text
  | .reuse | .help | .version => .none

end Switch

/-- A value is attached to its switch, or is the argument after it. -/
inductive ArgumentToken where
  | switch (switch : Switch) (attached : Option String)
  | word
  | separator
  | unknown
  deriving DecidableEq, Repr

namespace ArgumentToken

/-- The value after an equals sign. -/
def afterEquals? : List Char → Option String
  | '=' :: rest => some (String.ofList rest)
  | _ => none

/-- A value follows the letter of its switch, with or without an equals sign. -/
def afterLetter? (switch : Switch) (rest : List Char) : Option String :=
  if switch.value = .none || rest = [] then none
  else some ((afterEquals? rest).getD (String.ofList rest))

def ofWord (accepted : List Switch) (text : List Char) : ArgumentToken :=
  let word := String.ofList (text.takeWhile (· != '='))
  match accepted.find? fun switch => switch.word == word with
  | some found => .switch found (afterEquals? (text.dropWhile (· != '=')))
  | none => .unknown

def ofLetter (accepted : List Switch) (letter : Char) (rest : List Char) : ArgumentToken :=
  match accepted.find? fun switch => switch.letter? == some letter with
  | some found => .switch found (afterLetter? found rest)
  | none => .unknown

/-- A single dash is a word. -/
def read (accepted : List Switch) (argument : String) : ArgumentToken :=
  match argument.toList with
  | ['-', '-'] => .separator
  | '-' :: '-' :: text => ofWord accepted text
  | '-' :: letter :: rest => ofLetter accepted letter rest
  | _ => .word

end ArgumentToken

end BusBridge
