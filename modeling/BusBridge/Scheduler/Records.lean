/-
This file holds what a scheduler writes to the log at each step.
-/

import BusBridge.Scheduler.Step

namespace BusBridge.Scheduler

def jobRecord (scheduler : Scheduler) (level : LogLevel) (message : String) (id : JobId)
    (fields : List (String × String)) : LogRecord :=
  Origin.scheduler.record level message
    (("target", (scheduler.targetOf id).display) :: fields)

def endRecord (scheduler : Scheduler) (id : JobId) : PipelineEnd → LogRecord
  | .returned artifact =>
      scheduler.jobRecord .debug "Job done" id [("class", artifact.className.qualified)]
  | .failed failure => scheduler.jobRecord .debug s!"Job failed: {failure.message}" id []
  | .panicked panic => scheduler.jobRecord .warn s!"Job panicked: {panic.reason}" id []

def enqueueRecords (scheduler : Scheduler) (id : JobId) : List LogRecord :=
  scheduler.jobRecord .debug "Job queued" id [] ::
    match scheduler.pool.execute with
    | .ok _ => []
    | .error failure => [scheduler.jobRecord .debug s!"Job not queued: {failure.message}" id []]

/-- The records of a step that is possible. -/
def records (scheduler : Scheduler) : Action → List LogRecord
  | .submit target _ =>
      match scheduler.inFlight? target with
      | some id => [scheduler.jobRecord .debug "Joining in-flight job" id []]
      | none => []
  | .acquirePermit id =>
      if scheduler.permits = 0 then
        [scheduler.jobRecord .warn s!"Rejecting job: {scheduler.exhaustion.message}" id []]
      else []
  | .enqueue id => scheduler.enqueueRecords id
  | .start id =>
      if scheduler.isShutDown then [] else [scheduler.jobRecord .debug "Job running" id []]
  | .finishSetup _ => [Origin.context.record .debug "Shared context initialized" []]
  | .panicSetup id panic => [scheduler.endRecord id (.panicked panic)]
  | .finishPipeline id ending => [scheduler.endRecord id ending]
  | _ => []

end BusBridge.Scheduler
