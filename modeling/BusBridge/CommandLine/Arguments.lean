/-
This file reads the arguments of the command line. Arguments are read from left to right, and
the first one that is out of place ends the reading.
-/

import BusBridge.CommandLine.Switch

namespace BusBridge

inductive Misuse where
  | unexpected (argument : String)
  | surplusValue (switch : Switch)
  | missingValue (switch : Switch)
  | emptyPath (switch : Switch)
  | repeated (switch : Switch)
  | missingSwitch (switch : Switch)
  | missingCommand
  deriving DecidableEq, Repr

def Misuse.message : Misuse → String
  | .unexpected argument => s!"unexpected argument '{argument}'"
  | .surplusValue switch => s!"--{switch.word} takes no value"
  | .missingValue switch => s!"--{switch.word} needs a value"
  | .emptyPath switch => s!"--{switch.word} needs a path"
  | .repeated switch => s!"--{switch.word} cannot be used twice"
  | .missingSwitch switch => s!"--{switch.word} is required"
  | .missingCommand => "a command is required"

/-- Help and version are answered as soon as they are asked for. -/
inductive ReadingStop where
  | help
  | version
  | misuse (cause : Misuse)
  deriving DecidableEq, Repr

/-- A switch without a value is set to the empty text. -/
abbrev Setting := Switch × String

def Setting.check (given : List Setting) (setting : Setting) : Except ReadingStop (List Setting) :=
  if (given.lookup setting.1).isSome then .error (.misuse (.repeated setting.1))
  else if setting.1.value = .path && setting.2 = "" then
    .error (.misuse (.emptyPath setting.1))
  else .ok (given ++ [setting])

/--
One level of a command line ends before its first word. The last setting is pending when its
value is an argument of its own.
-/
structure ArgumentLevel where
  given : List Setting := []
  pending : Option Setting := none
  rest : List String
  deriving DecidableEq, Repr

namespace ArgumentLevel

/-- A pending setting is checked once the next switch is read, and else at the end. -/
def settings (level : ArgumentLevel) : Except ReadingStop (List Setting) :=
  match level.pending with
  | none => .ok level.given
  | some setting => Setting.check level.given setting

/-- No argument may follow a separator. -/
def afterSeparator (level : ArgumentLevel) : List String → Except ReadingStop ArgumentLevel
  | [] => .ok level
  | argument :: _ => .error (.misuse (.unexpected argument))

def isWord (accepted : List Switch) (argument : String) : Bool :=
  ArgumentToken.read accepted argument = .word

def readFrom (accepted : List Switch) (given : List Setting) (pending : Option Setting) :
    List String → Except ReadingStop ArgumentLevel
  | [] => .ok ⟨given, pending, []⟩
  | argument :: rest =>
      let settled := settings ⟨given, pending, []⟩
      match ArgumentToken.read accepted argument with
      | .word => .ok ⟨given, pending, argument :: rest⟩
      | .separator => afterSeparator ⟨given, pending, []⟩ rest
      | .unknown => .error (.misuse (.unexpected argument))
      | .switch switch (some value) =>
          if switch.value = .none then .error (.misuse (.surplusValue switch))
          else do readFrom accepted (← Setting.check (← settled) (switch, value)) none rest
      | .switch .help none => do throw (← settled.map fun _ => .help)
      | .switch .version none => do throw (← settled.map fun _ => .version)
      | .switch switch none =>
          if switch.value = .none then do
            readFrom accepted (← Setting.check (← settled) (switch, "")) none rest
          else
            match rest with
            | [] => .error (.misuse (.missingValue switch))
            | value :: rest =>
                if isWord accepted value then do
                  readFrom accepted (← settled) (some (switch, value)) rest
                else .error (.misuse (.missingValue switch))

def read (accepted : List Switch) (arguments : List String) : Except ReadingStop ArgumentLevel :=
  readFrom accepted [] none arguments

end ArgumentLevel

/-- Values of the command line take the place of configured ones. -/
structure Overrides where
  outputDirectory : Option String := none
  cacheDirectory : Option String := none
  reuseCachedArtifacts : Bool := false
  deriving DecidableEq, Repr

inductive Command where
  | generate (types : String) (overrides : Overrides)
  | scan (types : String) (marker : Option String)
  | check
  deriving DecidableEq, Repr

inductive CommandName where
  | generate
  | scan
  | check
  deriving DecidableEq, Repr

namespace CommandName

def all : List CommandName := [.generate, .scan, .check]

def word : CommandName → String
  | .generate => "generate"
  | .scan => "scan"
  | .check => "check"

def ofWord? (text : String) : Option CommandName :=
  all.find? fun name => name.word == text

/-- These switches stand before or after the name of the command. -/
def commonSwitches : List Switch := [.configuration, .logLevel, .help]

def switches : CommandName → List Switch
  | .generate => commonSwitches ++ [.types, .output, .cache, .reuse]
  | .scan => commonSwitches ++ [.types, .marker]
  | .check => commonSwitches

def requiredValue (settings : List Setting) (switch : Switch) : Except ReadingStop String :=
  match settings.lookup switch with
  | some value => .ok value
  | none => .error (.misuse (.missingSwitch switch))

def build (settings : List Setting) : CommandName → Except ReadingStop Command
  | .generate => do
      return .generate (← requiredValue settings .types) {
        outputDirectory := settings.lookup .output
        cacheDirectory := settings.lookup .cache
        reuseCachedArtifacts := (settings.lookup .reuse).isSome }
  | .scan => do return .scan (← requiredValue settings .types) (settings.lookup .marker)
  | .check => .ok .check

end CommandName

/-- A command with the values that all commands share. -/
structure Invocation where
  configurationPath : Option String := none
  logLevel : Option String := none
  command : Command
  deriving DecidableEq, Repr

namespace Invocation

/-- Help is given for the program, for a command and for help itself. -/
def readHelp : List String → ReadingStop
  | [] => .help
  | [topic] =>
      if topic = "help" || (CommandName.ofWord? topic).isSome then .help
      else .misuse (.unexpected topic)
  | topic :: other :: _ =>
      if topic = "help" || (CommandName.ofWord? topic).isSome then .misuse (.unexpected other)
      else .misuse (.unexpected topic)

/-- A switch after the command's name wins over the same switch before it. -/
def ofSettings (before after : List Setting) (command : Command) : Invocation :=
  let shared (switch : Switch) := after.lookup switch <|> before.lookup switch
  {
    configurationPath := shared .configuration
    logLevel := shared .logLevel
    command }

def readCommand (before : ArgumentLevel) (name : CommandName) (arguments : List String) :
    Except ReadingStop Invocation := do
  let level ← ArgumentLevel.read name.switches arguments
  match level.rest with
  | argument :: _ => throw (.misuse (.unexpected argument))
  | [] =>
      let settings ← level.settings
      let command ← name.build settings
      return ofSettings (← before.settings) settings command

/-- What pends before a command is checked after the command is read. -/
def read (arguments : List String) : Except ReadingStop Invocation := do
  let level ← ArgumentLevel.read (CommandName.commonSwitches ++ [.version]) arguments
  match level.rest with
  | [] => throw (.misuse .missingCommand)
  | "help" :: rest => throw (readHelp rest)
  | word :: rest =>
      match CommandName.ofWord? word with
      | some name => readCommand level name rest
      | none => throw (.misuse (.unexpected word))

end Invocation

end BusBridge
