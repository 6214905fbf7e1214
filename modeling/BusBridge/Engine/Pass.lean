/-
This file holds the generation pass: the loader first, and then every observer bean.
-/

import BusBridge.Engine.Basic

namespace BusBridge

/-- The outcomes are in the order of generation. -/
structure GenerationReport where
  outcomes : List (Target × Except Failure String) := []
  scanWarnings : List String := []
  deriving Inhabited

namespace GenerationReport

def add (report : GenerationReport) (target : Target) (result : Except Failure String) :
    GenerationReport :=
  { report with outcomes := report.outcomes ++ [(target, result)] }

def generated (report : GenerationReport) : List String :=
  report.outcomes.filterMap fun outcome => outcome.2.toOption

def failures (report : GenerationReport) : List (Target × Failure) :=
  report.outcomes.filterMap fun (target, result) =>
    match result with
    | .ok _ => none
    | .error failure => some (target, failure)

def isSuccess (report : GenerationReport) : Bool :=
  report.failures.isEmpty

def firstFailure? (report : GenerationReport) : Option Failure :=
  report.failures.head?.map Prod.snd

def record (report : GenerationReport) : LogRecord :=
  let generated := ("generated", toString report.generated.length)
  if report.isSuccess then
    Origin.report.record .info "Generation pass finished" [generated]
  else
    Origin.report.record .error "Generation pass finished with failures"
      [generated, ("failed", toString report.failures.length)]

end GenerationReport

/-- Beans that are started and not yet finished wait in the order of their start. -/
structure GenerationPass where
  engine : Engine
  report : GenerationReport := {}
  inFlight : List PendingTarget := []

namespace GenerationPass

/-- So many beans may be in flight. -/
def window (pass : GenerationPass) : Nat :=
  max pass.engine.configuration.maxPendingJobs 1

/-- A text takes three words wherever its characters are, and the strategy takes one. -/
def targetBytes : Nat := 32

/-- A place of the window takes a target, the target as it was started, and what it waits for. -/
def placeBytes : Nat := targetBytes + targetBytes + 16

/-- Places are reserved together, and no reservation takes more than half of the addresses. -/
def maximalWindow : Nat := (Nat.pow 2 63 - 1) / placeBytes

def finishOldest (pass : GenerationPass) : GenerationPass :=
  match pass.inFlight with
  | [] => pass
  | oldest :: rest =>
      let (result, engine) := pass.engine.finishTarget oldest {}
      ⟨engine, pass.report.add oldest.target result, rest⟩

def startBean (pass : GenerationPass) (bean : TypeDeclaration) : GenerationPass :=
  let (pending, engine) := pass.engine.startTarget (.observer bean.name)
  { pass with engine, inFlight := pass.inFlight ++ [pending] }

/-- A bean is started when the window has room for it. -/
def addBean (window : Nat) (pass : GenerationPass) (bean : TypeDeclaration) : GenerationPass :=
  (if pass.inFlight.length = window then pass.finishOldest else pass).startBean bean

def finishAll : Nat → GenerationPass → GenerationPass
  | 0, pass => pass
  | count + 1, pass => finishAll count pass.finishOldest

def generateLoader (engine : Engine) : GenerationPass :=
  let target := Target.loader engine.configuration.loaderContract
  let (result, generated) := engine.generate target
  { engine := generated, report := ({} : GenerationReport).add target result }

def generateBeans (pass : GenerationPass) (beans : List TypeDeclaration) : GenerationPass :=
  let started := beans.foldl (addBean pass.window) pass
  finishAll started.inFlight.length started

end GenerationPass

namespace Engine

/-- A target that fails is reported, and the pass goes on. The window is reserved after the scan,
and it may be greater than there can be. -/
def generateAll (engine : Engine) : Except EngineFault GenerationReport × Engine :=
  let pass := GenerationPass.generateLoader engine
  let (outcome, scanned) := pass.engine.scan engine.configuration.annotations.observes
  let warned := { pass.report with scanWarnings := outcome.warnings.map ScanFailure.message }
  let ready := { pass with engine := scanned, report := warned }
  if GenerationPass.maximalWindow < ready.window then (.error .unrepresentable, scanned)
  else
    let finished := ready.generateBeans outcome.types
    (.ok finished.report, finished.engine.report [finished.report.record])

end Engine

end BusBridge
