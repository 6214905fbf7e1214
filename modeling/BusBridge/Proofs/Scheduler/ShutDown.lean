/-
This file proves how jobs end after the flag was raised: those that are submitted later and those
that wait in the queue never run, and all of them fail with the same failure.
-/

import BusBridge.Proofs.Scheduler.Outcome
import BusBridge.Proofs.Scheduler.Run

namespace BusBridge

/-- A task at such a stage can end its job as a shutdown does, and in no other way. -/
def Stage.yieldsToShutDown : Stage → Bool
  | .admitted | .permitted | .queued | .taken | .dropped | .recorded | .unlisted => true
  | .ended (.error (.scheduler .shutDown)) => true
  | _ => false

namespace Job

def IsWaiting (job : Job) : Prop :=
  job.state = .pending ∧ job.outcome = none

/-- Whoever waits for the job learns that the scheduler was shut down. -/
def IsShutDown (job : Job) : Prop :=
  job.state = .failed ∧ job.outcome = some (.error (.scheduler .shutDown))

variable {job : Job}

/-- A waiting job that fails with the shutdown has shut down. -/
theorem IsWaiting.finish (waiting : job.IsWaiting) :
    (job.finish (.error (.scheduler .shutDown))).2.IsShutDown := by
  simp [Job.finish, JobState.ofOutcome, waiting.1, JobState.canBecome, IsShutDown]

/-- A job that has shut down stays so. -/
theorem IsShutDown.finish (shutDown : job.IsShutDown) (outcome : JobOutcome) :
    (job.finish outcome).2.IsShutDown := by
  have ended : job.state.canBecome (.ofOutcome outcome) = false := by
    rw [shutDown.1]
    cases outcome <;> rfl
  simpa [Job.finish, ended] using shutDown

end Job

namespace Scheduler

/-- What the steps of callers, workers and shutdowns may make of a scheduler, while others may use
the context that it shares with them. -/
inductive Becomes (scheduler : Scheduler) : Scheduler → Prop where
  | stay : Becomes scheduler scheduler
  | lend {later : Scheduler} (becomes : Becomes scheduler later)
      (vacant : later.context = .vacant) : Becomes scheduler { later with context := .occupied }
  | regain {later : Scheduler} (becomes : Becomes scheduler later)
      (occupied : later.context = .occupied)
      (lent : ∀ task ∈ later.tasks, task.stage ≠ .settingUp) (context : ContextState) :
      Becomes scheduler { later with context }
  | step {later next : Scheduler} {action : Action} (becomes : Becomes scheduler later)
      (possible : later.step? action = some next) : Becomes scheduler next

variable {scheduler next later : Scheduler} {task : Task} {action : Action} {size : PoolSize}
  {id : JobId}

/-- What a reachable scheduler becomes is reachable. -/
theorem Reachable.becomes (reached : Reachable size scheduler)
    (becomes : scheduler.Becomes later) : Reachable size later := by
  induction becomes with
  | stay => exact reached
  | lend _ vacant ih => exact ih.lend vacant
  | regain _ occupied lent context ih => exact ih.regain occupied lent context
  | step _ possible ih => exact ih.step possible

/-- The flag is raised, and nothing is left that could run the job or give it another outcome. -/
structure Doomed (scheduler : Scheduler) (id : JobId) : Prop where
  raised : scheduler.isShutDown = true
  yields : ∀ task ∈ scheduler.tasks, task.job = id → task.stage.yieldsToShutDown = true
  known : ∃ job, scheduler.job? id = some job ∧ (job.IsWaiting ∨ job.IsShutDown)

/-- A change of a task keeps a doomed job doomed, if the task still yields. -/
theorem Doomed.modifyTask (doomed : Doomed scheduler id) (valid : Invariant size scheduler)
    (member : task ∈ scheduler.tasks) {change : Task → Task}
    (pool : next.pool = scheduler.pool)
    (tasks : next.tasks = (scheduler.modifyTask task.job change).tasks)
    (owner : (change task).job = task.job)
    (yields : task.job = id → (change task).stage.yieldsToShutDown = true)
    (known : ∃ job, next.job? id = some job ∧ (job.IsWaiting ∨ job.IsShutDown)) :
    Doomed next id := by
  refine ⟨?_, ?_, known⟩
  · rw [isShutDown, pool]
    exact doomed.raised
  · intro other inTasks own
    rw [tasks, valid.mem_modifyTask member] at inTasks
    rcases inTasks with rfl | ⟨before, -⟩
    · exact yields (owner.symm.trans own)
    · exact doomed.yields other before own

/-- A doomed job may be finished as a shutdown does, and other jobs in any way. -/
theorem Doomed.recordOutcome (doomed : Doomed scheduler id) (valid : Invariant size scheduler)
    (member : task ∈ scheduler.tasks) {outcome : JobOutcome} {stage : Stage}
    (own : task.job = id → outcome = .error (.scheduler .shutDown))
    (yields : stage.yieldsToShutDown = true) :
    Doomed (scheduler.recordOutcome task.job outcome stage) id := by
  refine doomed.modifyTask valid member rfl rfl rfl (fun _ => yields) ?_
  obtain ⟨job, known, state⟩ := doomed.known
  refine ⟨_, job?_modifyJob_eq_some_iff.2 ⟨job, known, rfl⟩, ?_⟩
  split
  case isTrue same =>
    rw [own same]
    exact .inr (state.elim Job.IsWaiting.finish fun shutDown => shutDown.finish _)
  case isFalse => exact state

/-- A step of a task keeps a doomed job doomed. -/
theorem Doomed.taskStep (doomed : Doomed scheduler id) (valid : Invariant size scheduler)
    (member : task ∈ scheduler.tasks) (step : TaskStep scheduler task action next) :
    Doomed next id := by
  have raised := doomed.raised
  have yields := doomed.yields task member
  cases step with
  | accept _ down | start _ down | abandon _ down => simp [raised] at down
  | refuse | queue | reject | take | interrupt | discard | unlist =>
      exact doomed.modifyTask valid member rfl rfl rfl (fun _ => rfl) doomed.known
  | exhaust stage | permit stage | prepareSetup stage | skipSetup stage | passContext stage
  | enterContext stage | finishSetup stage | panicSetup stage | finishPipeline stage =>
      refine doomed.modifyTask valid member rfl rfl rfl (fun own => ?_) doomed.known
      have yields := yields own
      rw [stage] at yields
      cases yields
  | complete stage =>
      refine doomed.recordOutcome valid member (fun own => ?_) rfl
      have yields := yields own
      rw [stage] at yields
      unfold Stage.yieldsToShutDown at yields
      split at yields <;> simp_all
  | drop =>
      refine doomed.recordOutcome valid member (fun _ => ?_) rfl
      rw [droppedFailure, if_pos raised]
  | release =>
      exact ⟨raised, fun other inTasks => doomed.yields other (List.mem_filter.1 inTasks).1,
        doomed.known⟩

/-- Each step keeps a doomed job doomed. -/
theorem Doomed.step (doomed : Doomed scheduler id) (valid : Invariant size scheduler)
    (step : Step scheduler action next) : Doomed next id := by
  cases step with
  | join => exact doomed
  | add =>
      obtain ⟨job, known, kept⟩ := doomed.known
      refine ⟨doomed.raised, fun other inTasks own => ?_, job, job?_addJob.2 (.inl known), kept⟩
      rcases List.mem_append.1 inTasks with before | new
      · exact doomed.yields other before own
      · rw [List.mem_singleton.1 new]
        rfl
  | advance member step => exact doomed.taskStep valid member step
  | raise => exact ⟨rfl, doomed.yields, doomed.known⟩
  | close raised => exact ⟨raised, doomed.yields, doomed.known⟩

/-- A doomed job stays doomed. -/
theorem Doomed.becomes (doomed : Doomed scheduler id) (reached : Reachable size scheduler)
    (becomes : scheduler.Becomes later) : Doomed later id := by
  induction becomes with
  | stay => exact doomed
  | lend _ _ ih | regain _ _ _ _ ih => exact ⟨ih.raised, ih.yields, ih.known⟩
  | step before possible ih => exact ih.step (reached.becomes before).invariant (.of_step? possible)

end Scheduler

end BusBridge
