/-
This file decides whether a generation can work with a configuration.
-/

import BusBridge.Configuration.Basic
import BusBridge.Java.Identifier
import BusBridge.Log.Record
import BusBridge.Text.Quoted

namespace BusBridge.Configuration

/-- Each dotted name of a configuration with the field that holds it, in the order of checking. -/
def qualifiedNames (configuration : Configuration) : List (String × String) :=
  [("annotations.remote", configuration.annotations.remote),
    ("annotations.observes", configuration.annotations.observes),
    ("annotations.local", configuration.annotations.localOnly),
    ("loader_contract", configuration.loaderContract)] ++
    configuration.bus.classes.map fun (field, name) => ("bus." ++ field, name)

def isUsable (packagePrefix : String) : Bool :=
  (Java.prefixProblem? packagePrefix).isNone

/-- A configuration is refused for the first of these reasons that applies. -/
def validate (configuration : Configuration) : Except Failure Unit := do
  if configuration.packages.isEmpty then
    throw (.config "at least one package prefix is required")
  if !configuration.packages.any isUsable then
    throw (.config s!"no usable package prefix in {Text.quoteList configuration.packages}")
  if configuration.workerThreads = 0 then
    throw (.config "worker_threads must be at least 1")
  if configuration.maxPendingJobs = 0 then
    throw (.config "max_pending_jobs must be at least 1")
  match configuration.qualifiedNames.find? fun entry => !Java.isQualifiedName entry.2 with
  | some (field, name) => throw (.config s!"{field} is not a qualified name: '{name}'")
  | none => discard (LogLevel.parse configuration.logLevel)

/-- A malformed package prefix is reported and otherwise passed over. -/
def warnings (configuration : Configuration) : List LogRecord :=
  configuration.packages.filterMap fun packagePrefix =>
    (Java.prefixProblem? packagePrefix).map fun problem =>
      Origin.configuration.record .warn
        s!"Ignoring malformed package prefix: {problem.message}" [("prefix", packagePrefix)]

end BusBridge.Configuration
