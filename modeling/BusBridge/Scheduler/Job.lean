/-
This file holds jobs, their states and the changes between these. Whoever waits for a job gets the
one outcome that is recorded for it.
-/

import BusBridge.Failure

namespace BusBridge

/-- A job waits for a worker, runs, and ends with an artifact or a failure. -/
inductive JobState where
  | pending
  | running
  | done
  | failed
  deriving DecidableEq, Repr, Inhabited

namespace JobState

def all : List JobState := [.pending, .running, .done, .failed]

/-- A job may fail before a worker takes it. -/
def canBecome : JobState → JobState → Bool
  | .pending, .running | .pending, .failed | .running, .done | .running, .failed => true
  | _, _ => false

/-- A job in flight keeps its target to itself. -/
def isInFlight : JobState → Bool
  | .pending | .running => true
  | .done | .failed => false

def isTerminal : JobState → Bool
  | .done | .failed => true
  | .pending | .running => false

def description : JobState → String
  | .pending => "Job is waiting for a worker"
  | .running => "Job is generating source"
  | .done => "Job produced an artifact"
  | .failed => "Job failed"

def display : JobState → String
  | .pending => "PENDING"
  | .running => "RUNNING"
  | .done => "DONE"
  | .failed => "FAILED"

def word : JobState → String
  | .pending => "pending"
  | .running => "running"
  | .done => "done"
  | .failed => "failed"

def ofWord? (text : String) : Option JobState :=
  all.find? fun state => state.word == text

end JobState

abbrev JobOutcome := Except Failure Artifact

/-- The state in which an outcome leaves a job. -/
def JobState.ofOutcome : JobOutcome → JobState
  | .ok _ => .done
  | .error _ => .failed

structure Job where
  target : Target
  state : JobState := .pending
  outcome : Option JobOutcome := none
  deriving Inhabited

namespace Job

/-- The result tells whether this call started the job. -/
def start (job : Job) : Bool × Job :=
  if job.state.canBecome .running then (true, { job with state := .running })
  else (false, job)

/-- Only the first outcome is recorded. The result tells whether it is this one. -/
def finish (job : Job) (outcome : JobOutcome) : Bool × Job :=
  let next := JobState.ofOutcome outcome
  if job.state.canBecome next then (true, { job with state := next, outcome := some outcome })
  else (false, job)

def isFinished (job : Job) : Bool :=
  job.state.isTerminal

end Job

end BusBridge
