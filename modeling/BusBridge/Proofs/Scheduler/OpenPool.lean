/-
This file proves that a pool that is never shut down drops no job: a task is dropped only when the
outcome of its job is recorded.
-/

import BusBridge.Proofs.Scheduler.Outcome

namespace BusBridge.Scheduler

variable {scheduler next : Scheduler} {task : Task} {action : Action} {size : PoolSize}

/-- The pool takes work, and the job of every dropped task has its outcome. -/
structure IsOpen (scheduler : Scheduler) : Prop where
  lowered : scheduler.isShutDown = false
  unclosed : scheduler.pool.isClosed = false
  dropped : ∀ task ∈ scheduler.tasks, task.stage = .dropped →
    (scheduler.outcome? task.job).isSome = true

theorem IsOpen.create (created : create size = .ok scheduler) : scheduler.IsOpen := by
  obtain rfl := eq_of_create created
  exact ⟨rfl, rfl, fun _ member => absurd member List.not_mem_nil⟩

theorem IsOpen.execute_ne_error (opened : scheduler.IsOpen) (failure : SchedulerFailure) :
    scheduler.pool.execute ≠ .error failure := by
  have lowered : scheduler.pool.flag.isRaised = false := opened.lowered
  simp [WorkerPool.execute, lowered, opened.unclosed]

theorem IsOpen.addJob (opened : scheduler.IsOpen) (target : Target) (hasSetup : Bool) :
    (scheduler.addJob target hasSetup).IsOpen := by
  refine ⟨opened.lowered, opened.unclosed, fun task member stage => ?_⟩
  rw [outcome?_addJob]
  rcases List.mem_append.1 member with before | new
  · exact opened.dropped task before stage
  · rw [List.mem_singleton.1 new] at stage
    cases stage

/-- A submission leaves the pool open. -/
theorem IsOpen.submit (opened : scheduler.IsOpen) (target : Target) (hasSetup : Bool) :
    (scheduler.submit target hasSetup).2.IsOpen := by
  unfold Scheduler.submit
  split
  case h_1 => exact opened
  case h_2 => exact opened.addJob target hasSetup

theorem IsOpen.taskStep (opened : scheduler.IsOpen) (valid : Invariant size scheduler)
    (member : task ∈ scheduler.tasks) (step : TaskStep scheduler task action next) :
    next.IsOpen := by
  have recorded {id : JobId} (before : (scheduler.outcome? id).isSome = true) :
      (next.outcome? id).isSome = true := by
    obtain ⟨outcome, before⟩ := Option.isSome_iff_exists.1 before
    exact Option.isSome_iff_exists.2
      ⟨outcome, Step.outcome?_eq_some valid (.advance member step) before⟩
  have lowered : next.isShutDown = false := by
    rw [isShutDown, step.pool_eq]
    exact opened.lowered
  have unclosed : next.pool.isClosed = false := by
    rw [step.pool_eq]
    exact opened.unclosed
  have moved {change : Task → Task}
      (tasks : next.tasks = (scheduler.modifyTask task.job change).tasks)
      (owner : (change task).job = task.job)
      (own : (change task).stage = .dropped → (next.outcome? task.job).isSome = true) :
      next.IsOpen := by
    refine ⟨lowered, unclosed, fun other inTasks stage => ?_⟩
    rw [tasks, valid.mem_modifyTask member] at inTasks
    rcases inTasks with rfl | ⟨before, -⟩
    · rw [owner]
      exact own stage
    · exact recorded (opened.dropped other before stage)
  cases step with
  | reject _ rejected => exact absurd rejected (opened.execute_ne_error _)
  | discard closed =>
      rw [opened.unclosed] at closed
      cases closed
  | abandon stage _ ended =>
      -- The job of a task that is taken still waits, so it can be started.
      obtain ⟨job, known, waits⟩ := valid.agrees task member
      rw [stage] at waits
      have starts : job.start.1 = true := by
        have waits : job.state = .pending := waits
        simp [Job.start, waits, JobState.canBecome]
      rw [ended job known] at starts
      cases starts
  | @complete outcome stage =>
      refine moved rfl rfl fun _ => ?_
      obtain ⟨job, known, -, finished⟩ := valid.finish_of_ended member stage
      rw [outcome?_recordOutcome, if_pos rfl, known, Option.bind_some, finished]
      rfl
  | release =>
      refine ⟨lowered, unclosed, fun other inTasks stage => ?_⟩
      exact recorded (opened.dropped other (List.mem_filter.1 inTasks).1 stage)
  | refuse | accept | exhaust | permit | queue | take | interrupt | start | prepareSetup
  | skipSetup | passContext | enterContext | finishSetup | panicSetup | finishPipeline | drop
  | unlist =>
      exact moved rfl rfl fun dropped => by cases dropped

/-- While the pool is open and permits are left, a step brings no other outcome than the end of a
setup or of a pipeline. -/
theorem IsOpen.ends_of_brings (opened : scheduler.IsOpen) {outcome : JobOutcome}
    (member : task ∈ scheduler.tasks)
    (permitted : task.stage = .unpermitted → scheduler.permits ≠ 0)
    (brings : Brings scheduler task action outcome) :
    (∃ panic, action = .panicSetup task.job panic) ∨
      ∃ ending, action = .finishPipeline task.job ending ∧
        outcome = scheduler.outcomeOf task.job ending := by
  cases brings with
  | shutDown raised => exact absurd (raised.symm.trans opened.lowered) nofun
  | exhaust stage exhausted => exact absurd exhausted (permitted stage)
  | panic panic => exact .inl ⟨panic, rfl⟩
  | finish ending => exact .inr ⟨ending, rfl, rfl⟩
  | drop stage unrecorded =>
      have recorded := opened.dropped task member stage
      rw [unrecorded] at recorded
      cases recorded

end BusBridge.Scheduler
