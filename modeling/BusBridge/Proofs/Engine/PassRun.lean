/-
This file holds runs of a generation pass in which the thread of the pass and the workers take
their steps in any order. A worker ends a job in three steps, and the last one gives its permit
back.
-/

import BusBridge.Engine.Pass
import BusBridge.Proofs.Engine.Publication

namespace BusBridge

def PendingState.job? : PendingState → Option JobId
  | .running job => some job
  | .alreadyGenerated | .cached _ => none

/-- A job is in the hands of the workers once its task is queued. A job that cannot be queued is
ended by the thread that submits it. -/
def Task.isHandedOver (task : Task) : Bool :=
  task.holdsPermit &&
    match task.stage with
    | .permitted => false
    | _ => true

/-- The jobs that have an outcome while their tasks still hold a permit. -/
def Scheduler.lateJobs (scheduler : Scheduler) : List JobId :=
  (scheduler.tasks.filter fun task =>
    task.holdsPermit && (scheduler.outcome? task.job).isSome).map Task.job

namespace GenerationPass

/-- The jobs that the pass has still to wait for. -/
def jobs (pass : GenerationPass) : List JobId :=
  pass.inFlight.filterMap fun pending => pending.state.job?

def handIn (pass : GenerationPass) (target : Target) : GenerationPass :=
  let (pending, engine) := pass.engine.handIn target
  { pass with engine, inFlight := pass.inFlight ++ [pending] }

def finishOldest? (pass : GenerationPass) : Option GenerationPass :=
  match pass.inFlight with
  | [] => none
  | oldest :: _ => if oldest.state.isReady pass.engine then some pass.finishOldest else none

variable {pass next : GenerationPass}

/-- The oldest target is finished when it is ready. -/
theorem finishOldest?_eq_some (possible : pass.finishOldest? = some next) :
    ∃ oldest rest, pass.inFlight = oldest :: rest ∧ oldest.state.isReady pass.engine = true ∧
      next = ⟨(pass.engine.finishTarget oldest {}).2,
        pass.report.add oldest.target (pass.engine.finishTarget oldest {}).1, rest⟩ := by
  unfold finishOldest? at possible
  split at possible
  case h_1 => cases possible
  case h_2 oldest rest inFlight =>
    split at possible <;> cases possible
    case isTrue ready =>
      refine ⟨oldest, rest, inFlight, ready, ?_⟩
      unfold finishOldest
      rw [inFlight]

/-- The beans are those of the scan for observers. -/
def scan (pass : GenerationPass) : List TypeDeclaration × GenerationPass :=
  let (outcome, scanned) := pass.engine.scan pass.engine.configuration.annotations.observes
  let warned := { pass.report with scanWarnings := outcome.warnings.map ScanFailure.message }
  (outcome.types, { pass with engine := scanned, report := warned })

def close (pass : GenerationPass) : GenerationPass :=
  { pass with engine := pass.engine.report [pass.report.record] }

end GenerationPass

/-- What a pass has still to do. -/
inductive PassStage where
  | begun
  | loading
  | scanning
  | generating (beans : List TypeDeclaration)
  | finished
  | aborted
  deriving DecidableEq

/-- A pass that is over has a report, unless it was aborted. -/
def PassStage.isOver : PassStage → Bool
  | .finished | .aborted => true
  | .begun | .loading | .scanning | .generating _ => false

/-- The places of the window are reserved after the scan. Where there cannot be so many of them, the
pass is aborted, and no bean is started. -/
def PassStage.afterScan (window : Nat) (beans : List TypeDeclaration) : PassStage :=
  if GenerationPass.maximalWindow < window then .aborted else .generating beans

/-- A job asks for a permit when this many are left and these jobs are late to give theirs back. -/
structure PermitRequest where
  job : JobId
  left : Nat
  late : List JobId
  deriving DecidableEq, Repr

/-- A run keeps the requests for permits that were made. -/
structure PassRun where
  pass : GenerationPass
  stage : PassStage := .begun
  requests : List PermitRequest := []

/-- The task of a job moves, or the thread of the pass does. -/
inductive PassAction where
  | task (job : JobId)
  | pass
  deriving DecidableEq, Repr

namespace PassRun

def scheduler (run : PassRun) : Scheduler :=
  run.pass.engine.run.scheduler

def begin (engine : Engine) : PassRun :=
  { pass := { engine } }

def requestsOf (scheduler : Scheduler) (task : Task) : List PermitRequest :=
  match task.stage with
  | .unpermitted => [⟨task.job, scheduler.permits, scheduler.lateJobs⟩]
  | _ => []

def moveTask? (run : PassRun) (task : Task) : Option PassRun :=
  (run.pass.engine.run.moveTask? task).map fun moved =>
    { run with
      pass := { run.pass with engine := { run.pass.engine with run := moved } }
      requests := run.requests ++ requestsOf run.scheduler task }

/-- The thread of the pass finishes the oldest target when its window is full, or when no bean is
left to be started. -/
def movePass? (run : PassRun) : Option PassRun :=
  match run.stage with
  | .begun =>
      let target := Target.loader run.pass.engine.configuration.loaderContract
      some { run with pass := run.pass.handIn target, stage := .loading }
  | .loading => run.pass.finishOldest?.map fun pass => { run with pass, stage := .scanning }
  | .scanning =>
      let (beans, pass) := run.pass.scan
      some { run with pass, stage := .afterScan run.pass.window beans }
  | .generating (bean :: beans) =>
      if run.pass.inFlight.length = run.pass.window then
        run.pass.finishOldest?.map fun pass => { run with pass }
      else
        some { run with
          pass := run.pass.handIn (.observer bean.name), stage := .generating beans }
  | .generating [] =>
      if run.pass.inFlight = [] then some { run with pass := run.pass.close, stage := .finished }
      else run.pass.finishOldest?.map fun pass => { run with pass }
  | .finished | .aborted => none

/-- The thread of the pass goes on when what it submitted is handed over. -/
def step? (run : PassRun) : PassAction → Option PassRun
  | .task job => (run.scheduler.task? job).bind run.moveTask?
  | .pass => if run.scheduler.tasks.all Task.isHandedOver then run.movePass? else none

/-- A run is a sequence of possible steps. -/
def run? (run : PassRun) : List PassAction → Option PassRun
  | [] => some run
  | action :: rest => (run.step? action).bind fun next => next.run? rest

/-- What the thread of a pass does in one step. While beans are left, it finishes a target only
where its window is full. -/
inductive ThreadStep (run : PassRun) : PassRun → Prop where
  | startLoader (stage : run.stage = .begun) :
      ThreadStep run { run with
        pass := run.pass.handIn (.loader run.pass.engine.configuration.loaderContract)
        stage := .loading }
  | finishLoader {pass : GenerationPass} (stage : run.stage = .loading)
      (finishes : run.pass.finishOldest? = some pass) :
      ThreadStep run { run with pass, stage := .scanning }
  | scan (stage : run.stage = .scanning) :
      ThreadStep run { run with
        pass := run.pass.scan.2
        stage := .afterScan run.pass.window run.pass.scan.1 }
  | startBean {bean : TypeDeclaration} {beans : List TypeDeclaration}
      (stage : run.stage = .generating (bean :: beans))
      (room : run.pass.inFlight.length ≠ run.pass.window) :
      ThreadStep run { run with
        pass := run.pass.handIn (.observer bean.name)
        stage := .generating beans }
  | finishBean {pass : GenerationPass} {beans : List TypeDeclaration}
      (stage : run.stage = .generating beans)
      (full : beans ≠ [] → run.pass.inFlight.length = run.pass.window)
      (finishes : run.pass.finishOldest? = some pass) : ThreadStep run { run with pass }
  | close (stage : run.stage = .generating []) (idle : run.pass.inFlight = []) :
      ThreadStep run { run with pass := run.pass.close, stage := .finished }

/-- A step of a pass is one of its tasks or of its thread. -/
inductive Step (run : PassRun) : PassAction → PassRun → Prop where
  | task {task : Task} {next : PassRun} (member : task ∈ run.scheduler.tasks)
      (moves : run.moveTask? task = some next) : Step run (.task task.job) next
  | thread {next : PassRun} (goes : ThreadStep run next) : Step run .pass next

inductive Reachable (engine : Engine) : PassRun → Prop where
  | begin : Reachable engine (begin engine)
  | step {run next : PassRun} {action : PassAction} (reached : Reachable engine run)
      (possible : run.step? action = some next) : Reachable engine next

variable {engine : Engine} {run next : PassRun}

/-- The thread of a pass does one of these things in each of its steps. -/
theorem ThreadStep.of_movePass? (possible : run.movePass? = some next) : ThreadStep run next := by
  simp only [movePass?] at possible
  split at possible
  case h_1 stage =>
    cases possible
    exact .startLoader stage
  case h_2 stage =>
    obtain ⟨pass, finishes, rfl⟩ := Option.map_eq_some_iff.1 possible
    exact .finishLoader stage finishes
  case h_3 stage =>
    cases possible
    exact .scan stage
  case h_4 stage =>
    split at possible
    case isTrue full =>
      obtain ⟨pass, finishes, rfl⟩ := Option.map_eq_some_iff.1 possible
      exact .finishBean stage (fun _ => full) finishes
    case isFalse room =>
      cases possible
      exact .startBean stage room
  case h_5 stage =>
    split at possible
    case isTrue idle =>
      cases possible
      exact .close stage idle
    case isFalse =>
      obtain ⟨pass, finishes, rfl⟩ := Option.map_eq_some_iff.1 possible
      exact .finishBean stage (absurd rfl) finishes
  case h_6 | h_7 => cases possible

/-- A possible step of a pass is one of the two. -/
theorem Step.of_step? {action : PassAction} (possible : run.step? action = some next) :
    Step run action next := by
  cases action with
  | task job =>
      obtain ⟨task, found, moves⟩ := Option.bind_eq_some_iff.1 possible
      obtain ⟨member, rfl⟩ := Scheduler.mem_of_task? found
      exact .task member moves
  | pass =>
      simp only [step?] at possible
      split at possible
      case isTrue => exact .thread (.of_movePass? possible)
      case isFalse => cases possible

theorem Reachable.steps {actions : List PassAction} (reached : Reachable engine run)
    (ran : run.run? actions = some next) : Reachable engine next := by
  induction actions generalizing run with
  | nil => cases ran; exact reached
  | cons action rest ih =>
      obtain ⟨middle, possible, ran⟩ := Option.bind_eq_some_iff.1 ran
      exact ih (reached.step possible) ran

end PassRun

end BusBridge
