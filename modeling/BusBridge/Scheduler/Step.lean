/-
This file holds the steps of a scheduler: those of the callers that submit jobs, those of the
workers that run them, and those of a shutdown. Steps of different tasks interleave freely.
-/

import BusBridge.Scheduler.Basic

namespace BusBridge

inductive Action where
  | submit (target : Target) (hasSetup : Bool)
  | checkFlag (job : JobId)
  | acquirePermit (job : JobId)
  | enqueue (job : JobId)
  | take (job : JobId)
  | start (job : JobId)
  | prepare (job : JobId)
  | enterContext (job : JobId)
  | finishSetup (job : JobId)
  | panicSetup (job : JobId) (panic : Panic)
  | finishPipeline (job : JobId) (ending : PipelineEnd)
  | recordOutcome (job : JobId)
  | removeEntry (job : JobId)
  | releasePermit (job : JobId)
  | discard (job : JobId)
  | raiseFlag
  | closePool

namespace Scheduler

def busyWorkers (scheduler : Scheduler) : Nat :=
  (scheduler.tasks.filter Task.hasWorker).length

def targetOf (scheduler : Scheduler) (id : JobId) : Target :=
  ((scheduler.job? id).map Job.target).getD default

def interruption (scheduler : Scheduler) (id : JobId) (reason : String) : Failure :=
  .scheduler (.interrupted (scheduler.targetOf id).display reason)

def exhaustion (scheduler : Scheduler) : SchedulerFailure :=
  .poolExhausted scheduler.limit scheduler.limit

/-- The failure of a job whose task is dropped before its end. -/
def droppedFailure (scheduler : Scheduler) (id : JobId) : Failure :=
  if scheduler.isShutDown then .scheduler .shutDown
  else scheduler.interruption id "job was dropped before completing"

def outcomeOf (scheduler : Scheduler) (id : JobId) : PipelineEnd → JobOutcome
  | .returned artifact => .ok artifact
  | .failed failure => .error failure
  | .panicked panic => .error (scheduler.interruption id panic.reason)

def checkFlag (scheduler : Scheduler) (id : JobId) : Scheduler :=
  scheduler.setStage id
    (if scheduler.isShutDown then .ended (.error (.scheduler .shutDown)) else .unpermitted)

def acquirePermit (scheduler : Scheduler) (id : JobId) : Scheduler :=
  if scheduler.permits = 0 then
    scheduler.setStage id (.ended (.error (.scheduler scheduler.exhaustion)))
  else
    let holding := scheduler.modifyTask id fun task =>
      { task with stage := .permitted, holdsPermit := true }
    { holding with permits := scheduler.permits - 1 }

/-- A pool that is shut down drops what it is given. -/
def enqueue (scheduler : Scheduler) (id : JobId) : Scheduler :=
  match scheduler.pool.execute with
  | .ok _ => { scheduler.setStage id .queued with queue := scheduler.queue ++ [id] }
  | .error _ => scheduler.setStage id .dropped

/-- An idle worker takes the first task of the queue. -/
def take? (scheduler : Scheduler) (id : JobId) : Option Scheduler :=
  match scheduler.queue with
  | [] => none
  | first :: rest =>
      if first = id && scheduler.busyWorkers < scheduler.pool.size.workerThreads then
        let taken := scheduler.modifyTask id fun task =>
          { task with stage := .taken, hasWorker := true }
        some { taken with queue := rest }
      else none

/-- A closed pool drops what is left in its queue. -/
def discard (scheduler : Scheduler) (id : JobId) : Scheduler :=
  { scheduler.setStage id .dropped with queue := scheduler.queue.filter (· != id) }

/-- A worker does not start a job after the flag was raised. -/
def start (scheduler : Scheduler) (id : JobId) : Scheduler :=
  if scheduler.isShutDown then
    scheduler.setStage id (.ended (.error (.scheduler .shutDown)))
  else if ((scheduler.job? id).map fun job => job.start.1) = some true then
    (scheduler.modifyJob id fun job => job.start.2).setStage id .started
  else scheduler.setStage id .dropped

/-- A setup belongs to the first start of a target that brings one. -/
def prepare (scheduler : Scheduler) (task : Task) : Scheduler :=
  let target := scheduler.targetOf task.job
  if task.hasSetup && !scheduler.startedTargets.contains target then
    let marked := { scheduler with startedTargets := target :: scheduler.startedTargets }
    marked.setStage task.job .awaitingContext
  else scheduler.setStage task.job .generating

/-- While another setup runs, a task waits for the context. -/
def enterContext? (scheduler : Scheduler) (id : JobId) : Option Scheduler :=
  match scheduler.context with
  | .ready => some (scheduler.setStage id .generating)
  | .vacant => some ({ scheduler with context := .occupied }.setStage id .settingUp)
  | .occupied => none

def recordOutcome (scheduler : Scheduler) (id : JobId) (outcome : JobOutcome) (next : Stage) :
    Scheduler :=
  (scheduler.modifyJob id fun job => (job.finish outcome).2).setStage id next

def releasePermit (scheduler : Scheduler) (task : Task) : Scheduler :=
  { scheduler with
    tasks := scheduler.tasks.filter fun other => other.job != task.job
    permits := if task.holdsPermit then scheduler.permits + 1 else scheduler.permits }

/-- A step of a task is possible at one stage only. A task that recorded an outcome is dropped
as any other, but its job keeps the first one. -/
def taskStep? (scheduler : Scheduler) (task : Task) : Action → Option Scheduler
  | .checkFlag id =>
      match task.stage with
      | .admitted => some (scheduler.checkFlag id)
      | _ => none
  | .acquirePermit id =>
      match task.stage with
      | .unpermitted => some (scheduler.acquirePermit id)
      | _ => none
  | .enqueue id =>
      match task.stage with
      | .permitted => some (scheduler.enqueue id)
      | _ => none
  | .take id =>
      match task.stage with
      | .queued => scheduler.take? id
      | _ => none
  | .start id =>
      match task.stage with
      | .taken => some (scheduler.start id)
      | _ => none
  | .prepare _ =>
      match task.stage with
      | .started => some (scheduler.prepare task)
      | _ => none
  | .enterContext id =>
      match task.stage with
      | .awaitingContext => scheduler.enterContext? id
      | _ => none
  | .finishSetup id =>
      match task.stage with
      | .settingUp => some ({ scheduler with context := .ready }.setStage id .generating)
      | _ => none
  | .panicSetup id panic =>
      match task.stage with
      | .settingUp =>
          some ({ scheduler with context := .vacant }.setStage id
            (.ended (.error (scheduler.interruption id panic.reason))))
      | _ => none
  | .finishPipeline id ending =>
      match task.stage with
      | .generating => some (scheduler.setStage id (.ended (scheduler.outcomeOf id ending)))
      | _ => none
  | .recordOutcome id =>
      match task.stage with
      | .ended outcome => some (scheduler.recordOutcome id outcome .dropped)
      | .dropped =>
          some (scheduler.recordOutcome id (.error (scheduler.droppedFailure id)) .recorded)
      | _ => none
  | .removeEntry id =>
      match task.stage with
      | .recorded => some ((scheduler.unlist id).setStage id .unlisted)
      | _ => none
  | .releasePermit _ =>
      match task.stage with
      | .unlisted => some (scheduler.releasePermit task)
      | _ => none
  | .discard id =>
      match task.stage with
      | .queued => if scheduler.pool.isClosed then some (scheduler.discard id) else none
      | _ => none
  | .submit .. | .raiseFlag | .closePool => none

def Action.job? : Action → Option JobId
  | .checkFlag id | .acquirePermit id | .enqueue id | .take id | .start id | .prepare id
  | .enterContext id | .finishSetup id | .panicSetup id _ | .finishPipeline id _
  | .recordOutcome id | .removeEntry id | .releasePermit id | .discard id => some id
  | .submit .. | .raiseFlag | .closePool => none

def raiseFlag (scheduler : Scheduler) : Scheduler :=
  { scheduler with pool := { scheduler.pool with flag := scheduler.pool.flag.raise.2 } }

/-- A pool is closed after its flag was raised. -/
def closePool? (scheduler : Scheduler) : Option Scheduler :=
  if scheduler.isShutDown then
    some { scheduler with pool := { scheduler.pool with isClosed := true } }
  else none

/-- A step that is not possible has no result. -/
def step? (scheduler : Scheduler) : Action → Option Scheduler
  | .submit target hasSetup => some (scheduler.submit target hasSetup).2
  | .raiseFlag => some scheduler.raiseFlag
  | .closePool => scheduler.closePool?
  | action => do
      let task ← scheduler.task? (← Action.job? action)
      scheduler.taskStep? task action

/-- A run is a sequence of possible steps. -/
def run? (scheduler : Scheduler) : List Action → Option Scheduler
  | [] => some scheduler
  | action :: rest => do
      let next ← scheduler.step? action
      next.run? rest

end Scheduler

end BusBridge
