/-
This file runs commands. A command prints lines, writes to the log and may change files.
-/

import BusBridge.CommandLine.Arguments
import BusBridge.Configuration.Validation
import BusBridge.Engine.Pass

namespace BusBridge

/-- A failure may tell what was about to be done. -/
structure CommandFailure where
  context : Option String := none
  failure : Failure
  deriving DecidableEq, Repr

/-- The cause of a wrapped failure is repeated at the end. -/
def CommandFailure.message (failed : CommandFailure) : String :=
  ": ".intercalate
    (failed.context.toList ++ [failed.failure.message] ++ failed.failure.causeMessage?.toList)

/-- A command is aborted where the jobs of its configuration exceed a limit. -/
inductive CommandEnd where
  | success
  | failed (cause : CommandFailure)
  | aborted (limit : Nat)
  deriving DecidableEq, Repr

namespace CommandEnd

def exitCode : CommandEnd → Nat
  | .success => 0
  | .failed cause => cause.failure.exitCode
  | .aborted _ => 101

def errorLine? : CommandEnd → Option String
  | .success => none
  | .failed cause => some s!"error: {cause.message}"
  | .aborted limit => some s!"error: no more than {limit} jobs can be pending"

end CommandEnd

structure CommandRun where
  lines : List String := []
  records : List LogRecord := []
  ending : CommandEnd := .success
  files : Files

namespace Configuration

def summary (configuration : Configuration) : List String := [
  "Packages: " ++ ", ".intercalate configuration.packages,
  "Remote annotation: " ++ configuration.annotations.remote,
  "Observes annotation: " ++ configuration.annotations.observes,
  "Loader contract: " ++ configuration.loaderContract,
  s!"Workers: {configuration.workerThreads} (max {configuration.maxPendingJobs} pending jobs)",
  "Output: " ++ configuration.outputDirectory,
  "Cache: " ++ configuration.cacheDirectory]

/-- Cached artifacts are reused where the command line or the configuration says so. -/
def override (configuration : Configuration) (overrides : Overrides) : Configuration :=
  { configuration with
    outputDirectory := overrides.outputDirectory.getD configuration.outputDirectory
    cacheDirectory := overrides.cacheDirectory.getD configuration.cacheDirectory
    reuseCachedArtifacts :=
      configuration.reuseCachedArtifacts || overrides.reuseCachedArtifacts }

end Configuration

namespace Command

def done (text : String) : String := "✓ " ++ text

def skipped (warning : String) : String := "⚠ skipped: " ++ warning

def runCheck (configuration : Configuration) (files : Files) : CommandRun :=
  let records := configuration.warnings
  match configuration.validate with
  | .error failure => { records, ending := .failed { failure }, files }
  | .ok () =>
      { lines := configuration.summary.map done ++ ["", "Configuration is valid!"], records, files }

def scanLines (marker : String) (outcome : ScanOutcome) : List String :=
  s!"Types annotated @{marker}:" ::
    outcome.typeNames.map ("  " ++ ·) ++
    outcome.warnings.map (fun warning => skipped warning.message) ++
    ["", s!"{outcome.types.length} type(s) found"]

/-- Without a marker the scan looks for remote interfaces. -/
def runScan (configuration : Configuration) (types : String) (marker : Option String)
    (files : Files) : CommandRun :=
  match configuration.validate with
  | .error failure => { records := configuration.warnings, ending := .failed { failure }, files }
  | .ok () =>
      let request : ScanRequest :=
        ⟨marker.getD configuration.annotations.remote, configuration.packages⟩
      let visible := (DirectoryUniverse.mk types).toUniverse files
      let scanner : Scanner := {}
      {
        lines := scanLines request.marker (scanner.scan visible request).1
        records := configuration.warnings ++ scanner.scanRecords visible request
        files }

def outcomeLine : Target × Except Failure String → String
  | (_, .ok className) => done className
  | (target, .error failure) => s!"✗ {target.display}: {failure.message}"

def reportLines (report : GenerationReport) : List String :=
  report.scanWarnings.map skipped ++ report.outcomes.map outcomeLine

/-- The first failure of a pass is the failure of the command. -/
def generationEnd (report : GenerationReport) : CommandEnd :=
  match report.firstFailure? with
  | some failure => .failed { context := some "Generation failed", failure }
  | none => .success

def closingLines (configuration : Configuration) (report : GenerationReport) : List String :=
  if report.isSuccess then ["", s!"Sources written to {configuration.outputDirectory}"] else []

def startFailure : EngineFault → CommandEnd
  | .refused failure =>
      .failed { context := some "Failed to start generation engine", failure }
  | .unrepresentable => .aborted Scheduler.maximalPermits

def runGenerate (configuration : Configuration) (types : String) (files : Files) : CommandRun :=
  let opening := s!"Generating from universe: {types}"
  let source : UniverseSource := .directory ⟨types⟩
  let records := Engine.startRecords configuration
  match Engine.start configuration source files (.files configuration.outputDirectory) with
  | .error fault => { lines := [opening], records, ending := startFailure fault, files }
  | .ok engine =>
      match engine.generateAll with
      | (.error _, stopped) => {
          lines := [opening]
          records := records ++ stopped.run.log
          ending := .aborted GenerationPass.maximalWindow
          files := stopped.files }
      | (.ok report, generated) =>
          let closed := generated.shutDown
          {
            lines := opening :: reportLines report ++ closingLines configuration report
            records := records ++ closed.run.log
            ending := generationEnd report
            files := closed.files }

def run (configuration : Configuration) (files : Files) : Command → CommandRun
  | .generate types overrides => runGenerate (configuration.override overrides) types files
  | .scan types marker => runScan configuration types marker files
  | .check => runCheck configuration files

/-- The directories that a command looks into. -/
def directories (configuration : Configuration) : Command → List String
  | .generate types overrides =>
      let effective := configuration.override overrides
      [types, effective.outputDirectory, effective.cacheDirectory]
  | .scan types _ => [types]
  | .check => []

end Command

end BusBridge
