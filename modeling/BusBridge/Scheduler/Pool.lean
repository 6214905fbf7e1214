/-
This file holds worker pools: their sizes, and the flag that shuts them down.
-/

import BusBridge.Configuration.Basic
import BusBridge.Failure
import BusBridge.Log.Record

namespace BusBridge

/-- The pending jobs are those that are queued or running. -/
structure PoolSize where
  workerThreads : Nat := 4
  maxPendingJobs : Nat := 256
  threadName : String := "busgen-worker"
  deriving DecidableEq, Repr, Inhabited

def PoolSize.ofConfiguration (configuration : Configuration) : PoolSize where
  workerThreads := configuration.workerThreads
  maxPendingJobs := configuration.maxPendingJobs

/-- The flag is raised once and stays up. -/
structure ShutdownFlag where
  isRaised : Bool := false
  deriving DecidableEq, Repr, Inhabited

/-- The result tells whether this call raised the flag. -/
def ShutdownFlag.raise (flag : ShutdownFlag) : Bool × ShutdownFlag :=
  (!flag.isRaised, ⟨true⟩)

structure WorkerPool where
  size : PoolSize
  flag : ShutdownFlag := {}
  isClosed : Bool := false
  deriving DecidableEq, Repr, Inhabited

namespace WorkerPool

def start (size : PoolSize) : Except SchedulerFailure WorkerPool :=
  if size.workerThreads = 0 then .error (.poolStart "worker_threads must be at least 1")
  else .ok { size }

def startRecord (size : PoolSize) : LogRecord :=
  Origin.pool.record .debug "Worker pool started"
    [("workers", toString size.workerThreads), ("thread_name", size.threadName)]

/-- Work is queued until the flag is raised. The result is the flag that the work sees. -/
def execute (pool : WorkerPool) : Except SchedulerFailure ShutdownFlag :=
  if pool.flag.isRaised || pool.isClosed then .error .shutDown else .ok pool.flag

/-- From one second on, a time is written in seconds with the digits that it needs. -/
def timeText (milliseconds : Nat) : String :=
  let rest := toString (1000 + milliseconds % 1000)
  let fraction := (rest.toList.drop 1).reverse.dropWhile (· == '0') |>.reverse
  if milliseconds = 0 then "0ns"
  else if milliseconds < 1000 then s!"{milliseconds}ms"
  else if fraction = [] then s!"{milliseconds / 1000}s"
  else s!"{milliseconds / 1000}.{String.ofList fraction}s"

/-- A second shutdown changes nothing. -/
def shutDown (pool : WorkerPool) : WorkerPool :=
  { pool with flag := pool.flag.raise.2, isClosed := true }

def shutDownRecords (pool : WorkerPool) (milliseconds : Nat) : List LogRecord :=
  (if pool.flag.isRaised then []
    else [Origin.pool.record .info
        s!"Shutting down worker pool with timeout {timeText milliseconds}" []]) ++
  (if pool.isClosed then []
    else [Origin.pool.record .info "Worker pool shutdown complete" []])

end WorkerPool

end BusBridge
