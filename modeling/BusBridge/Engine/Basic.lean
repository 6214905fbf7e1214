/-
This file holds the engine: a session that generates targets over one universe, with one
scheduler, one cache and one sink.
-/

import BusBridge.Configuration.Validation
import BusBridge.Engine.Commit
import BusBridge.Engine.Pipeline
import BusBridge.Store.Sink
import BusBridge.Universe.Directory
import BusBridge.Universe.Memory

namespace BusBridge

/-- An engine may be given any universe, and what that one shows may depend on the files. -/
inductive UniverseSource where
  | memory (types : MemoryUniverse)
  | directory (types : DirectoryUniverse)
  | other (types : Files → Universe)
  deriving Inhabited

def UniverseSource.at (files : Files) : UniverseSource → Universe
  | .memory types => types.toUniverse
  | .directory types => types.toUniverse files
  | .other types => types files

structure Engine where
  configuration : Configuration
  source : UniverseSource
  files : Files
  cache : ArtifactCache
  sink : Sink
  run : SchedulerRun Scanner
  commits : CommitGates := {}

/-- An engine is refused with a failure, or a size cannot be represented, then or in a pass. -/
inductive EngineFault where
  | refused (failure : Failure)
  | unrepresentable
  deriving DecidableEq, Repr

/-- A started target waits for its artifact, unless there is nothing to wait for. -/
inductive PendingState where
  | alreadyGenerated
  | cached (artifact : Artifact)
  | running (job : JobId)
  deriving Inhabited

structure PendingTarget where
  target : Target
  state : PendingState
  deriving Inhabited

/-- The places of a publication where the device may fail. -/
structure PublishFaults where
  sink : Option Files.ReplaceFault := none
  cache : ArtifactCache.WriteFaults := {}

namespace Engine

def start (configuration : Configuration) (source : UniverseSource) (files : Files)
    (sink : Sink) : Except EngineFault Engine := do
  configuration.validate.mapError .refused
  let size := PoolSize.ofConfiguration configuration
  if Scheduler.maximalPermits < size.maxPendingJobs then
    throw .unrepresentable
  let scheduler ← (Scheduler.create size).mapError fun failure => .refused (.scheduler failure)
  return {
    configuration, source, files, sink
    cache := ⟨configuration.cacheDirectory⟩
    run := { scheduler, world := {} } }

def readyRecord (configuration : Configuration) : LogRecord :=
  Origin.engine.record .info "Generation engine ready" [
    ("packages", Text.quoteList configuration.packages),
    ("workers", toString configuration.workerThreads),
    ("cache_dir", configuration.cacheDirectory)]

/-- The records of a start, whether or not it is refused. -/
def startRecords (configuration : Configuration) : List LogRecord :=
  let size := PoolSize.ofConfiguration configuration
  configuration.warnings ++
    match configuration.validate with
    | .error _ => []
    | .ok () =>
        WorkerPool.startRecord size ::
          if Scheduler.maximalPermits < size.maxPendingJobs then [] else [readyRecord configuration]

def types (engine : Engine) : Universe :=
  engine.source.at engine.files

def report (engine : Engine) (records : List LogRecord) : Engine :=
  { engine with run := { engine.run with log := engine.run.log ++ records } }

def isInitialized (engine : Engine) : Bool :=
  engine.run.scheduler.isInitialized

/-- The configured packages are scanned for a marker. -/
def scan (engine : Engine) (marker : String) : ScanOutcome × Engine :=
  let request : ScanRequest := ⟨marker, engine.configuration.packages⟩
  let scanner := engine.run.world
  let records := scanner.scanRecords engine.types request
  let (outcome, scanned) := scanner.scan engine.types request
  (outcome, { engine with run := { engine.run with world := scanned } }.report records)

/-- The cached artifact of a target, where it may be used again. -/
def reusable? (engine : Engine) (target : Target) : Option Artifact :=
  if engine.configuration.reuseCachedArtifacts then engine.cache.read engine.files target
  else none

def reuseRecords (engine : Engine) (target : Target) : List LogRecord :=
  if engine.configuration.reuseCachedArtifacts then
    engine.cache.readRecords engine.files target ++
      match engine.reusable? target with
      | some _ =>
          [Origin.engine.record .info "Reusing cached artifact" [("target", target.display)]]
      | none => []
  else []

/-- A class that the sink has reserved is not generated again. A job that is submitted does not
move yet. -/
def handIn (engine : Engine) (target : Target) : PendingTarget × Engine :=
  let className := target.className
  if !engine.sink.shouldGenerate className then
    (⟨target, .alreadyGenerated⟩,
      engine.report [Origin.engine.record .debug "Already generated"
        [("target", target.display), ("class", className.qualified)]])
  else
    let reported := engine.report (engine.reuseRecords target)
    match engine.reusable? target with
    | some artifact => (⟨target, .cached artifact⟩, reported)
    | none =>
        let work := Pipeline.work engine.configuration engine.types target
        let (job, run) := reported.run.handIn target work
        (⟨target, .running job⟩, { reported with run })

/-- A job that is submitted is run until it is finished or waits. -/
def startTarget (engine : Engine) (target : Target) : PendingTarget × Engine :=
  match engine.handIn target with
  | (⟨_, .running job⟩, handed) =>
      (⟨target, .running job⟩, { handed with run := handed.run.settle })
  | started => started

/-- The cache follows the sink, and what it cannot take is only reported. -/
def updateCache (engine : Engine) (target : Target) (artifact : Artifact)
    (faults : ArtifactCache.WriteFaults) : Engine :=
  let (written, files) := engine.cache.write engine.files target artifact faults
  let records :=
    match written with
    | .ok _ => ArtifactCache.writeRecords target written
    | .error failure =>
        [Origin.engine.record .warn s!"Could not update artifact cache: {failure.message}"
          [("target", target.display)]]
  { engine with files }.report records

/-- A class that is reserved by someone else is left to them. -/
def commit (engine : Engine) (target : Target) (artifact : Artifact) (faults : PublishFaults) :
    Except Failure Unit × Engine :=
  let reported := engine.report (engine.sink.createRecords artifact.className)
  match engine.sink.tryCreate artifact.className with
  | (none, _) => (.ok (), reported)
  | (some handle, reserved) =>
      let (result, sink, files) :=
        reserved.commit engine.files handle artifact.source faults.sink
      let committed :=
        { reported with sink, files }.report (reserved.commitRecords handle result)
      match result with
      | .error failure => (.error failure.toFailure, committed)
      | .ok _ => (.ok (), committed.updateCache target artifact faults.cache)

/-- The caller that opens the gate of a class commits it, and every other gets the same result. -/
def publish (engine : Engine) (target : Target) (artifact : Artifact) (faults : PublishFaults) :
    Except Failure Unit × Engine :=
  let qualified := artifact.className.qualified
  let (gate, commits) := engine.commits.gateFor qualified
  match commits.open? gate with
  | none => ((commits.result? gate).getD (.ok ()), { engine with commits })
  | some opened =>
      let (result, committed) := { engine with commits := opened }.commit target artifact faults
      let settled := committed.commits.settle gate result
      match result with
      | .ok () => (.ok (), { committed with commits := settled })
      | .error failure =>
          (.error failure, { committed with commits := settled.retire qualified gate })

/-- The artifact of a started target, or why there is none. -/
def artifactOf (engine : Engine) : PendingState → Except Failure Artifact
  | .cached artifact => .ok artifact
  | .running job => (engine.run.outcome? job).getD (.error (.scheduler .shutDown))
  | .alreadyGenerated => .error (.scheduler .shutDown)

def publishPending (engine : Engine) (pending : PendingTarget) (faults : PublishFaults) :
    Except Failure String × Engine :=
  match engine.artifactOf pending.state with
  | .error failure => (.error failure, engine)
  | .ok artifact =>
      let (result, published) := engine.publish pending.target artifact faults
      (result.map fun _ => pending.target.className.qualified, published)

def failureRecord (target : Target) (failure : Failure) : LogRecord :=
  Origin.engine.record .error s!"Generation failed: {failure.message}"
    [("target", target.display), ("strategy", target.strategy.name)]

/-- The name of the generated class, once its source is in the sink. -/
def finishTarget (engine : Engine) (pending : PendingTarget) (faults : PublishFaults) :
    Except Failure String × Engine :=
  let qualified := pending.target.className.qualified
  match pending.state with
  | .alreadyGenerated => ((engine.commits.committed qualified).map fun _ => qualified, engine)
  | _ =>
      match engine.publishPending pending faults with
      | (.ok name, published) => (.ok name, published)
      | (.error failure, published) =>
          (.error failure, published.report [failureRecord pending.target failure])

def generate (engine : Engine) (target : Target) : Except Failure String × Engine :=
  let (pending, started) := engine.startTarget target
  started.finishTarget pending {}

def shutDown (engine : Engine) : Engine :=
  { engine with run := engine.run.shutDown Scheduler.shutdownTimeout }

end Engine

end BusBridge
