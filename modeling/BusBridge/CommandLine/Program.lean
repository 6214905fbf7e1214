/-
This file holds the program: from its arguments and the files it sees to what it prints, its
exit code and the files it leaves.
-/

import BusBridge.CommandLine.Command
import BusBridge.Configuration.Json

namespace BusBridge

/-- Results go to the output, and the log and errors go to the error stream. -/
structure ProgramReport where
  exitCode : Nat := 0
  output : String := ""
  errors : String := ""
  deriving DecidableEq, Repr

namespace Program

def version : String := "0.3.0"

/-- This file is read when no other is named, provided it is there. -/
def defaultConfigurationPath : String := "busgen.toml"

def usage : String :=
  "Usage: busgen [--config PATH] [--log-level LEVEL] COMMAND\n" ++
  "\n" ++
  "Commands:\n" ++
  "  generate --universe PATH [--output PATH] [--cache-dir PATH] [--reuse-cache]\n" ++
  "  scan --universe PATH [--annotation NAME]\n" ++
  "  check\n" ++
  "  help [COMMAND]\n"

def unlines (lines : List String) : String :=
  String.join (lines.map (· ++ "\n"))

def configurationPath? (files : Files) (invocation : Invocation) : Option String :=
  match invocation.configurationPath with
  | some path => some path
  | none => if files.isFile defaultConfigurationPath then some defaultConfigurationPath else none

def loadConfiguration (files : Files) (invocation : Invocation) :
    Except CommandFailure Configuration :=
  match configurationPath? files invocation with
  | none => .ok {}
  | some path =>
      (Configuration.load files path).mapError fun failure =>
        { context := some s!"Failed to load configuration from {path}", failure }

/-- The level of the command line takes the place of the configured one. -/
def logLevel (configuration : Configuration) (invocation : Invocation) :
    Except CommandFailure LogLevel :=
  (LogLevel.parse (invocation.logLevel.getD configuration.logLevel)).mapError fun failure =>
    { failure }

def prepare (files : Files) (invocation : Invocation) :
    Except CommandFailure (Configuration × LogLevel) := do
  let configuration ← loadConfiguration files invocation
  return (configuration, ← logLevel configuration invocation)

def logLines (level : LogLevel) (records : List LogRecord) : List String :=
  (records.filter fun record => level.passes record.level).map LogRecord.line

def conclude (level : LogLevel) (run : CommandRun) : ProgramReport where
  exitCode := run.ending.exitCode
  output := unlines run.lines
  errors := unlines (logLines level run.records ++ run.ending.errorLine?.toList)

def perform (invocation : Invocation) (files : Files) : ProgramReport × Files :=
  match prepare files invocation with
  | .error cause => (conclude .off { ending := .failed cause, files }, files)
  | .ok (configuration, level) =>
      let run := invocation.command.run configuration files
      (conclude level run, run.files)

def stop : ReadingStop → ProgramReport
  | .help => { output := "Annotation-driven Java code generation\n\n" ++ usage }
  | .version => { output := s!"busgen {version}\n" }
  | .misuse cause => { exitCode := 2, errors := s!"error: {cause.message}\n\n{usage}" }

/-- No file is read before the arguments are understood. -/
def run (arguments : List String) (files : Files) : ProgramReport × Files :=
  match Invocation.read arguments with
  | .error cause => (stop cause, files)
  | .ok invocation => perform invocation files

/-- The files and directories that a run looks at, as far as the files so far tell. -/
def paths (arguments : List String) (files : Files) : List String :=
  match Invocation.read arguments with
  | .error _ => []
  | .ok invocation =>
      let named := invocation.configurationPath.getD defaultConfigurationPath
      match loadConfiguration files invocation with
      | .error _ => [named]
      | .ok configuration => named :: invocation.command.directories configuration

end Program

end BusBridge
