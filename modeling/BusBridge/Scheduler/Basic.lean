/-
This file holds the state of a scheduler. A target has at most one job in flight, and a job in
flight has one task that is bound to finish it.
-/

import BusBridge.Scheduler.Job
import BusBridge.Scheduler.Pool

namespace BusBridge

/-- A job is known by its position among all jobs ever created. -/
abbrev JobId := Nat

/-- A panic may carry a text that tells its reason. -/
structure Panic where
  text : Option String
  deriving DecidableEq, Repr, Inhabited

def Panic.reason (panic : Panic) : String :=
  panic.text.getD "pipeline panicked"

/-- A pipeline may return an artifact, fail or panic. -/
inductive PipelineEnd where
  | returned (artifact : Artifact)
  | failed (failure : Failure)
  | panicked (panic : Panic)
  deriving Inhabited

/-- The stages that a task passes, from the submission of its job to its end. -/
inductive Stage where
  | admitted
  | unpermitted
  | permitted
  | queued
  | taken
  | started
  | awaitingContext
  | settingUp
  | generating
  | ended (outcome : JobOutcome)
  | dropped
  | recorded
  | unlisted
  deriving Inhabited

/-- A task finishes its job, removes it from the table and gives its permit back. The worker that
takes it is busy with it until then. -/
structure Task where
  job : JobId
  hasSetup : Bool
  stage : Stage := .admitted
  holdsPermit : Bool := false
  hasWorker : Bool := false
  deriving Inhabited

/-- The context that jobs share is set up at most once. -/
inductive ContextState where
  | vacant
  | occupied
  | ready
  deriving DecidableEq, Repr, Inhabited

/-- The pool queues the tasks that it is given, and serves them in that order. -/
structure Scheduler where
  pool : WorkerPool
  context : ContextState := .vacant
  jobs : List Job := []
  table : List (Target × JobId) := []
  tasks : List Task := []
  queue : List JobId := []
  startedTargets : List Target := []
  permits : Nat
  deriving Inhabited

namespace Scheduler

/-- A count of permits beyond this one cannot be represented. -/
def maximalPermits : Nat := Nat.pow 2 61 - 1

/-- Running jobs have this many milliseconds to end after a shutdown. -/
def shutdownTimeout : Nat := 5000

def create (size : PoolSize) : Except SchedulerFailure Scheduler := do
  return { pool := ← WorkerPool.start size, permits := size.maxPendingJobs }

def limit (scheduler : Scheduler) : Nat :=
  scheduler.pool.size.maxPendingJobs

def isShutDown (scheduler : Scheduler) : Bool :=
  scheduler.pool.flag.isRaised

def isInitialized (scheduler : Scheduler) : Bool :=
  scheduler.context == .ready

def pendingJobs (scheduler : Scheduler) : Nat :=
  scheduler.table.length

def job? (scheduler : Scheduler) (id : JobId) : Option Job :=
  scheduler.jobs[id]?

def task? (scheduler : Scheduler) (id : JobId) : Option Task :=
  scheduler.tasks.find? fun task => task.job == id

/-- The job of a target, while it is in flight. -/
def inFlight? (scheduler : Scheduler) (target : Target) : Option JobId := do
  let id ← scheduler.table.lookup target
  let job ← scheduler.job? id
  if job.state.isInFlight then some id else none

def modifyJob (scheduler : Scheduler) (id : JobId) (change : Job → Job) : Scheduler :=
  { scheduler with jobs := scheduler.jobs.modify id change }

def modifyTask (scheduler : Scheduler) (id : JobId) (change : Task → Task) : Scheduler :=
  { scheduler with
    tasks := scheduler.tasks.map fun task => if task.job = id then change task else task }

def setStage (scheduler : Scheduler) (id : JobId) (stage : Stage) : Scheduler :=
  scheduler.modifyTask id fun task => { task with stage }

def list (scheduler : Scheduler) (target : Target) (id : JobId) : Scheduler :=
  { scheduler with
    table := scheduler.table.filter (fun entry => entry.1 != target) ++ [(target, id)] }

/-- Only the entry of this very job is removed. -/
def unlist (scheduler : Scheduler) (id : JobId) : Scheduler :=
  { scheduler with table := scheduler.table.filter fun entry => entry.2 != id }

/-- A new job takes the place of a finished one that is still listed. -/
def addJob (scheduler : Scheduler) (target : Target) (hasSetup : Bool) : Scheduler :=
  let id := scheduler.jobs.length
  let listed := scheduler.list target id
  { listed with
    jobs := scheduler.jobs ++ [{ target }]
    tasks := scheduler.tasks ++ [{ job := id, hasSetup }] }

/-- A submission joins the job in flight, or adds one. -/
def submit (scheduler : Scheduler) (target : Target) (hasSetup : Bool) : JobId × Scheduler :=
  match scheduler.inFlight? target with
  | some id => (id, scheduler)
  | none => (scheduler.jobs.length, scheduler.addJob target hasSetup)

end Scheduler

end BusBridge
