/-
This file proves that the invariant holds in every state that a scheduler can reach.
-/

import BusBridge.Proofs.Scheduler.Invariant

namespace BusBridge.Scheduler

variable {scheduler next : Scheduler} {task : Task} {action : Action} {size : PoolSize}

/-- The table finds the job of each of its entries. -/
theorem Invariant.lookup_eq {target : Target} {id : JobId} (valid : Invariant size scheduler)
    (inTable : (target, id) ∈ scheduler.table) : scheduler.table.lookup target = some id := by
  obtain ⟨before, after, split⟩ := List.append_of_mem inTable
  refine List.lookup_eq_some_iff.2 ⟨before, after, split, fun entry earlier => ?_⟩
  have single := valid.single
  rw [split, List.map_append, List.map_cons, List.nodup_middle, List.nodup_cons,
    ← List.map_append] at single
  have found : entry.1 ∈ (before ++ after).map Prod.fst :=
    List.mem_map_of_mem (List.mem_append_left _ earlier)
  rw [bne_iff_ne]
  rintro rfl
  exact single.1 found

theorem Invariant.inFlight?_eq {id : JobId} {job : Job} (valid : Invariant size scheduler)
    (known : scheduler.job? id = some job) (running : job.state.isInFlight = true) :
    scheduler.inFlight? job.target = some id := by
  simp [inFlight?, valid.lookup_eq (valid.listed id job known running), known, running]

theorem job?_addJob {target : Target} {hasSetup : Bool} {id : JobId} {job : Job} :
    (scheduler.addJob target hasSetup).job? id = some job ↔
      scheduler.job? id = some job ∨ id = scheduler.jobs.length ∧ job = { target } := by
  simp only [job?, addJob]
  rcases Nat.lt_trichotomy id scheduler.jobs.length with below | same | above
  · rw [List.getElem?_append_left below]
    simp [Nat.ne_of_lt below]
  · subst same
    simp [eq_comm]
  · rw [List.getElem?_eq_none (by simp; omega), List.getElem?_eq_none (by omega)]
    simp [Nat.ne_of_gt above]

theorem mem_table_addJob {target : Target} {hasSetup : Bool} {entry : Target × JobId} :
    entry ∈ (scheduler.addJob target hasSetup).table ↔
      entry ∈ scheduler.table ∧ entry.1 ≠ target ∨ entry = (target, scheduler.jobs.length) := by
  simp [addJob, list]

/-- A target without a job in flight may get a new one. -/
theorem Invariant.addJob (valid : Invariant size scheduler) {target : Target} {hasSetup : Bool}
    (free : scheduler.inFlight? target = none) :
    Invariant size (scheduler.addJob target hasSetup) := by
  have others : ∀ id job, scheduler.job? id = some job → job.state.isInFlight = true →
      job.target ≠ target := by
    rintro id job known running rfl
    rw [valid.inFlight?_eq known running] at free
    contradiction
  have inTasks : ∀ other, other ∈ (scheduler.addJob target hasSetup).tasks ↔
      other ∈ scheduler.tasks ∨ other = { job := scheduler.jobs.length, hasSetup } := by
    simp [Scheduler.addJob]
  -- The new job is numbered behind all jobs that a task has.
  have fresh : ∀ other ∈ scheduler.tasks, other.job ≠ scheduler.jobs.length := by
    intro other found
    obtain ⟨job, known, -⟩ := valid.agrees other found
    exact Nat.ne_of_lt (List.getElem?_eq_some_iff.1 known).1
  constructor
  case sized => exact valid.sized
  case settled =>
    intro id job found
    rcases job?_addJob.1 found with known | ⟨-, rfl⟩
    · exact valid.settled id job known
    · rfl
  case distinct =>
    have appended : (scheduler.addJob target hasSetup).tasks.map Task.job =
        scheduler.tasks.map Task.job ++ [scheduler.jobs.length] := by
      simp [Scheduler.addJob]
    rw [appended, List.nodup_append]
    refine ⟨valid.distinct, List.nodup_singleton _, ?_⟩
    simpa using fresh
  case agrees =>
    intro other found
    rcases (inTasks other).1 found with old | rfl
    · obtain ⟨job, known, admitted⟩ := valid.agrees other old
      exact ⟨job, job?_addJob.2 (.inl known), admitted⟩
    · exact ⟨{ target }, job?_addJob.2 (.inr ⟨rfl, rfl⟩), rfl⟩
  case unheld =>
    intro other found
    rcases (inTasks other).1 found with old | rfl
    · exact valid.unheld other old
    · exact fun _ => rfl
  case bound =>
    intro id job found running
    rcases job?_addJob.1 found with known | ⟨rfl, -⟩
    · obtain ⟨other, old, same⟩ := valid.bound id job known running
      exact ⟨other, (inTasks other).2 (.inl old), same⟩
    · exact ⟨_, (inTasks _).2 (.inr rfl), rfl⟩
  case listed =>
    intro id job found running
    rcases job?_addJob.1 found with known | ⟨rfl, rfl⟩
    · exact mem_table_addJob.2
        (.inl ⟨valid.listed id job known running, others id job known running⟩)
    · exact mem_table_addJob.2 (.inr rfl)
  case single =>
    simp only [Scheduler.addJob, list, List.map_append, List.map_cons, List.map_nil]
    rw [List.nodup_append]
    refine ⟨valid.single.sublist (List.filter_sublist.map Prod.fst), List.nodup_singleton _, ?_⟩
    intro key found last inLast same
    obtain ⟨entry, left, rfl⟩ := List.mem_map.1 found
    obtain rfl := List.mem_singleton.1 inLast
    simp [same] at left
  case entries =>
    intro entry found
    rcases mem_table_addJob.1 found with ⟨old, -⟩ | rfl
    · obtain ⟨job, known, same⟩ := valid.entries entry old
      exact ⟨job, job?_addJob.2 (.inl known), same⟩
    · exact ⟨{ target }, job?_addJob.2 (.inr ⟨rfl, rfl⟩), rfl⟩
  case kept =>
    intro entry found
    rcases mem_table_addJob.1 found with ⟨old, -⟩ | rfl
    · obtain ⟨other, member, same, before⟩ := valid.kept entry old
      exact ⟨other, (inTasks other).2 (.inl member), same, before⟩
    · exact ⟨_, (inTasks _).2 (.inr rfl), rfl, rfl⟩
  case permits =>
    simpa [Scheduler.addJob, list, List.countP_append] using valid.permits

/-- A scheduler is created around a pool that starts, and has no jobs. -/
theorem eq_of_create (created : create size = .ok scheduler) :
    scheduler = { pool := { size }, permits := size.maxPendingJobs } := by
  simp only [Scheduler.create, WorkerPool.start] at created
  split at created <;> cases created
  rfl

theorem Invariant.create (created : create size = .ok scheduler) : Invariant size scheduler := by
  obtain rfl := eq_of_create created
  constructor <;> simp [job?]

/-- A new scheduler knows no job. -/
theorem job?_of_create (created : create size = .ok scheduler) (id : JobId) :
    scheduler.job? id = none := by
  rw [eq_of_create created]
  rfl

theorem tasks_of_create (created : create size = .ok scheduler) : scheduler.tasks = [] := by
  rw [eq_of_create created]

/-- A step of a task keeps the invariant. -/
theorem Invariant.taskStep (valid : Invariant size scheduler) (member : task ∈ scheduler.tasks)
    (step : TaskStep scheduler task action next) : Invariant size next := by
  cases step with
  | refuse stage | accept stage | exhaust stage | interrupt stage =>
      refine valid.setStage member ?_ (fun _ => rfl) (by simp [stage, Stage.precedesPermit])
      rw [stage]
      rintro _ rfl
      rfl
  | queue stage =>
      have queued : Invariant size (scheduler.setStage task.job .queued) := by
        refine valid.setStage member ?_ (fun _ => rfl) nofun
        rw [stage]
        exact fun _ waiting => waiting
      exact queued.congr rfl rfl rfl rfl rfl
  | take stage => exact (valid.take member stage).congr rfl rfl rfl rfl rfl
  | reject | abandon =>
      exact valid.setStage member (fun _ _ => trivial) (fun _ => rfl) nofun
  | discard =>
      have dropped : Invariant size (scheduler.setStage task.job .dropped) :=
        valid.setStage member (fun _ _ => trivial) (fun _ => rfl) nofun
      exact dropped.congr rfl rfl rfl rfl rfl
  | permit stage available => exact valid.permit member stage available
  | start _ _ found starts => exact valid.start member found starts
  | skipSetup stage | passContext stage =>
      refine valid.setStage member ?_ (fun _ => rfl) nofun
      rw [stage]
      exact fun _ running => running
  | prepareSetup stage | enterContext stage | finishSetup stage =>
      refine Invariant.setStage (valid.congr rfl rfl rfl rfl rfl) member ?_ (fun _ => rfl) nofun
      rw [stage]
      exact fun _ running => running
  | panicSetup stage panic =>
      refine Invariant.setStage (valid.congr rfl rfl rfl rfl rfl) member ?_ (fun _ => rfl) nofun
      rw [stage]
      rintro _ rfl
      rfl
  | finishPipeline stage ending =>
      refine valid.setStage member ?_ (fun _ => rfl) nofun
      rw [stage]
      rintro _ rfl
      cases ending <;> rfl
  | complete => exact valid.recordOutcome member (fun _ _ => trivial) rfl rfl
  | drop =>
      exact valid.recordOutcome member (fun _ _ => Job.finish_error_isTerminal _) rfl rfl
  | unlist stage =>
      refine (valid.unlist member stage).setStage member ?_ ?_ nofun
      · rw [stage]
        exact fun _ ended => ended
      · rintro ⟨entry, left, own⟩
        simp [Scheduler.unlist, own] at left
  | release stage => exact valid.releasePermit member stage

/-- Each step keeps the invariant. -/
theorem Invariant.step (valid : Invariant size scheduler) (step : Step scheduler action next) :
    Invariant size next := by
  cases step with
  | join => exact valid
  | add free => exact valid.addJob free
  | advance member step => exact valid.taskStep member step
  | raise | close => exact valid.congr rfl rfl rfl rfl rfl

theorem Reachable.invariant (reached : Reachable size scheduler) : Invariant size scheduler := by
  induction reached with
  | create created => exact .create created
  | lend _ _ ih => exact ih.congr rfl rfl rfl rfl rfl
  | regain _ _ _ _ ih => exact ih.congr rfl rfl rfl rfl rfl
  | step _ possible ih => exact ih.step (.of_step? possible)

end BusBridge.Scheduler
