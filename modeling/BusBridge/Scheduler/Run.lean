/-
This file runs jobs to the point where each of them is finished or waits for something outside
the scheduler. The workers advance the oldest task that can move.
-/

import BusBridge.Scheduler.Records

namespace BusBridge

/-- An effect changes the world that all jobs share and writes to the log. -/
structure Effect (World Result : Type) where
  result : Result
  world : World
  records : List LogRecord := []

/-- A setup may panic, and a pipeline may wait for the world to become ready. -/
structure Work (World : Type) where
  setup : Option (World → Effect World (Except Panic Unit)) := none
  enter : World → World := id
  isReady : World → Bool := fun _ => true
  pipeline : World → Effect World PipelineEnd

/-- The work of each job is kept until the job ends. -/
structure SchedulerRun (World : Type) where
  scheduler : Scheduler
  works : List (JobId × Work World) := []
  entered : List JobId := []
  world : World
  log : List LogRecord := []

namespace SchedulerRun

variable {World Result : Type}

/-- An action that is not possible changes nothing. -/
def perform (run : SchedulerRun World) (action : Action) : SchedulerRun World :=
  match run.scheduler.step? action with
  | none => run
  | some scheduler =>
      { run with scheduler, log := run.log ++ run.scheduler.records action }

def take (run : SchedulerRun World) (effect : Effect World Result) : SchedulerRun World :=
  { run with world := effect.world, log := run.log ++ effect.records }

def setUp (run : SchedulerRun World) (id : JobId) (work : Work World) : SchedulerRun World :=
  match work.setup with
  | none => run.perform (.finishSetup id)
  | some setup =>
      let effect := setup run.world
      let changed := run.take effect
      match effect.result with
      | .error panic => changed.perform (.panicSetup id panic)
      | .ok () => changed.perform (.finishSetup id)

/-- A pipeline is entered once, and left when the world is ready for it. -/
def generate (run : SchedulerRun World) (id : JobId) (work : Work World) :
    Option (SchedulerRun World) :=
  if !run.entered.contains id then
    some { run with world := work.enter run.world, entered := id :: run.entered }
  else if work.isReady run.world then
    let effect := work.pipeline run.world
    some ((run.take effect).perform (.finishPipeline id effect.result))
  else none

/-- One step of a task, if it can move. -/
def moveTask? (run : SchedulerRun World) (task : Task) : Option (SchedulerRun World) :=
  let possible (action : Action) : Option (SchedulerRun World) :=
    (run.scheduler.step? action).map fun _ => run.perform action
  match task.stage with
  | .admitted => possible (.checkFlag task.job)
  | .unpermitted => possible (.acquirePermit task.job)
  | .permitted => possible (.enqueue task.job)
  | .queued => possible (.take task.job)
  | .taken => possible (.start task.job)
  | .started => possible (.prepare task.job)
  | .awaitingContext => possible (.enterContext task.job)
  | .settingUp => (run.works.lookup task.job).map (run.setUp task.job)
  | .generating => (run.works.lookup task.job).bind (run.generate task.job)
  | .ended _ | .dropped => possible (.recordOutcome task.job)
  | .recorded => possible (.removeEntry task.job)
  | .unlisted => possible (.releasePermit task.job)

def advance : Nat → SchedulerRun World → SchedulerRun World
  | 0, run => run
  | fuel + 1, run =>
      match run.scheduler.tasks.findSome? run.moveTask? with
      | none => run
      | some moved => moved.advance fuel

/-- A task has fewer moves than this before it. -/
def movesPerTask : Nat := 16

/-- Every task moves as far as it can. -/
def settle (run : SchedulerRun World) : SchedulerRun World :=
  run.advance (movesPerTask * run.scheduler.tasks.length)

/-- The work of a submission that joins another job is dropped. No task moves yet. -/
def handIn (run : SchedulerRun World) (target : Target) (work : Work World) :
    JobId × SchedulerRun World :=
  let hasSetup := work.setup.isSome
  let (id, _) := run.scheduler.submit target hasSetup
  let works :=
    if (run.scheduler.inFlight? target).isSome then run.works else run.works ++ [(id, work)]
  (id, { run with works }.perform (.submit target hasSetup))

def submit (run : SchedulerRun World) (target : Target) (work : Work World) :
    JobId × SchedulerRun World :=
  let (id, handed) := run.handIn target work
  (id, handed.settle)

def shutDown (run : SchedulerRun World) (milliseconds : Nat) : SchedulerRun World :=
  let reported := { run with log := run.log ++ run.scheduler.pool.shutDownRecords milliseconds }
  ((reported.perform .raiseFlag).perform .closePool).settle

/-- The context is set up unless it already is. The result tells whether it was. -/
def runOnce (run : SchedulerRun World) (setup : World → World) : Bool × SchedulerRun World :=
  match run.scheduler.context with
  | .vacant =>
      let initialized := { run.scheduler with context := .ready }
      let record := Origin.context.record .debug "Shared context initialized" []
      (true, { run with
        scheduler := initialized, world := setup run.world, log := run.log ++ [record] })
  | .occupied | .ready => (false, run)

def outcome? (run : SchedulerRun World) (id : JobId) : Option JobOutcome :=
  (run.scheduler.job? id).bind Job.outcome

end SchedulerRun

end BusBridge
