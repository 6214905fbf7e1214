/-
This file writes what an engine produces as JSON values.
-/

import BusBridge.Engine.Pass
import BusBridge.Failure.Json

namespace BusBridge

def Artifact.toJson (artifact : Artifact) : Json :=
  .object [("class", .text artifact.className.qualified), ("source", .text artifact.source)]

def LogRecord.toJson (record : LogRecord) : Json :=
  .array [.text record.level.name, .text record.origin, .text record.message]

/-- A result is its value, or its failure in the place of the value. -/
def resultToJson {Cause Result : Type} (failed : Cause → Json) (succeeded : Result → Json) :
    Except Cause Result → Json
  | .ok value => succeeded value
  | .error cause => failed cause

def JobOutcome.toJson : JobOutcome → Json :=
  resultToJson Failure.toJson Artifact.toJson

def Job.toJson (job : Job) : Json :=
  .object [
    ("state", .text job.state.display),
    ("finished", .boolean job.isFinished),
    ("outcome", job.outcome.elim .null JobOutcome.toJson)]

def ScanOutcome.toJson (outcome : ScanOutcome) : Json :=
  .object [
    ("types", .ofTexts outcome.typeNames),
    ("partial", .boolean outcome.isPartial),
    ("warnings", .array (outcome.warnings.map ScanFailure.toJson))]

namespace GenerationReport

def outcomeToJson : Target × Except Failure String → Json
  | (target, result) => .array [.text target.display, resultToJson Failure.toJson .text result]

def toJson (report : GenerationReport) : Json :=
  .object [
    ("outcomes", .array (report.outcomes.map outcomeToJson)),
    ("warnings", .ofTexts report.scanWarnings),
    ("success", .boolean report.isSuccess),
    ("generated", .natural report.generated.length),
    ("failures", .natural report.failures.length),
    ("first_error", report.firstFailure?.elim .null Failure.toJson)]

end GenerationReport

end BusBridge
