/-
This file holds log records and the text of an event with fields.
-/

import BusBridge.Log.Level

namespace BusBridge

structure LogRecord where
  level : LogLevel
  origin : String
  message : String
  deriving DecidableEq, Repr, Inhabited

/-- The parts of the program that write to the log. -/
inductive Origin where
  | configuration
  | builder
  | scanner
  | proxy
  | observer
  | cache
  | sink
  | scheduler
  | pool
  | context
  | engine
  | generator
  | report
  deriving DecidableEq, Repr

def Origin.path : Origin → String
  | .configuration => "busgen_core::config"
  | .builder => "busgen_core::builder"
  | .scanner => "busgen_core::scanner"
  | .proxy => "busgen_codegen::proxy"
  | .observer => "busgen_codegen::observes"
  | .cache => "busgen_cache::cache"
  | .sink => "busgen_cache::sink"
  | .scheduler => "busgen_runtime::scheduler"
  | .pool => "busgen_runtime::pool"
  | .context => "busgen_runtime::context"
  | .engine => "busgen::engine"
  | .generator => "busgen::generator"
  | .report => "busgen::report"

/-- Fields keep the order in which they are given. -/
structure LogEvent where
  message : String
  fields : List (String × String)

namespace LogEvent

def fieldText (fields : List (String × String)) : String :=
  String.join (fields.map fun field => " " ++ field.1 ++ "=" ++ field.2)

/-- The fields follow the message, or stand alone without one. -/
def text (event : LogEvent) : String :=
  if event.message = "" then Text.trimStart (fieldText event.fields)
  else event.message ++ fieldText event.fields

end LogEvent

def Origin.record (origin : Origin) (level : LogLevel) (message : String)
    (fields : List (String × String)) : LogRecord :=
  ⟨level, origin.path, LogEvent.text ⟨message, fields⟩⟩

/-- A line on the error stream. -/
def LogRecord.line (record : LogRecord) : String :=
  record.level.name ++ " " ++ record.origin ++ ": " ++ record.message

end BusBridge
