/-
This file orders the levels of log records.
-/

import BusBridge.Failure

namespace BusBridge

/-- No record has the level `off`, which silences a log. -/
inductive LogLevel where
  | trace
  | debug
  | info
  | warn
  | error
  | off
  deriving DecidableEq, Repr, Inhabited

namespace LogLevel

def number : LogLevel → Nat
  | .trace => 0
  | .debug => 1
  | .info => 2
  | .warn => 3
  | .error => 4
  | .off => 5

def ofNumber : Nat → LogLevel
  | 0 => .trace
  | 1 => .debug
  | 2 => .info
  | 3 => .warn
  | 4 => .error
  | _ => .off

def name : LogLevel → String
  | .trace => "TRACE"
  | .debug => "DEBUG"
  | .info => "INFO"
  | .warn => "WARN"
  | .error => "ERROR"
  | .off => "OFF"

/-- Words are read in any mixture of ASCII cases. -/
def ofWord? (word : String) : Option LogLevel :=
  match Text.lowerAscii word with
  | "trace" => some .trace
  | "debug" => some .debug
  | "info" => some .info
  | "warn" | "warning" => some .warn
  | "error" => some .error
  | "off" => some .off
  | _ => none

def parse (word : String) : Except Failure LogLevel :=
  match ofWord? word with
  | some level => .ok level
  | none => .error (.config s!"unknown log level '{Text.lowerAscii word}'")

/-- A threshold lets its own level and those above it through. -/
def passes (threshold level : LogLevel) : Bool :=
  level != .off && threshold.number ≤ level.number

end LogLevel

end BusBridge
