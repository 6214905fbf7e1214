/-
This file proves that the queue of a scheduler names just the jobs whose tasks wait for a worker,
each of them once, and that no task has a worker before it is taken from there.
-/

import BusBridge.Proofs.Scheduler.Reachable

namespace BusBridge

/-- No worker has taken a task at such a stage. -/
def Stage.precedesWorker : Stage → Bool
  | .admitted | .unpermitted | .permitted | .queued => true
  | _ => false

namespace Scheduler

variable {scheduler next : Scheduler} {task : Task} {action : Action} {size : PoolSize}
  {id : JobId}

/-- The queue names each task that waits for a worker once, and nothing else. -/
structure HasQueue (scheduler : Scheduler) : Prop where
  once : scheduler.queue.Nodup
  waits : ∀ id, id ∈ scheduler.queue ↔
    ∃ task ∈ scheduler.tasks, task.job = id ∧ task.stage = .queued
  unworked : ∀ task ∈ scheduler.tasks, task.stage.precedesWorker = true → task.hasWorker = false

theorem HasQueue.create (created : create size = .ok scheduler) : scheduler.HasQueue := by
  rw [eq_of_create created]
  constructor <;> simp

theorem HasQueue.congr (has : scheduler.HasQueue) (tasks : next.tasks = scheduler.tasks)
    (queue : next.queue = scheduler.queue) : next.HasQueue := by
  obtain ⟨once, waits, unworked⟩ := has
  constructor <;> simp only [tasks, queue] <;> assumption

/-- A task elsewhere is not in the queue. -/
theorem HasQueue.notMem (has : scheduler.HasQueue) (valid : Invariant size scheduler)
    (member : task ∈ scheduler.tasks) (elsewhere : task.stage ≠ .queued) :
    task.job ∉ scheduler.queue := by
  intro queued
  obtain ⟨other, inTasks, same, stage⟩ := (has.waits task.job).1 queued
  exact elsewhere (valid.unique member inTasks same ▸ stage)

/-- A task that moves comes to the queue or leaves it, and the other tasks stay where they are. -/
theorem HasQueue.modifyTask (has : scheduler.HasQueue) (valid : Invariant size scheduler)
    (member : task ∈ scheduler.tasks) {change : Task → Task}
    (tasks : next.tasks = (scheduler.modifyTask task.job change).tasks)
    (owner : (change task).job = task.job) (once : next.queue.Nodup)
    (queue : ∀ id, id ∈ next.queue ↔
      id = task.job ∧ (change task).stage = .queued ∨ id ∈ scheduler.queue ∧ id ≠ task.job)
    (unworked : (change task).stage.precedesWorker = true → (change task).hasWorker = false) :
    next.HasQueue := by
  have inTasks (other : Task) : other ∈ next.tasks ↔
      other = change task ∨ other ∈ scheduler.tasks ∧ other.job ≠ task.job := by
    rw [tasks, valid.mem_modifyTask member]
  refine ⟨once, fun id => ?_, fun other found => ?_⟩
  · rw [queue, has.waits]
    constructor
    · rintro (⟨rfl, stage⟩ | ⟨⟨other, before, rfl, stage⟩, different⟩)
      · exact ⟨_, (inTasks _).2 (.inl rfl), owner, stage⟩
      · exact ⟨other, (inTasks other).2 (.inr ⟨before, different⟩), rfl, stage⟩
    · rintro ⟨other, found, rfl, stage⟩
      rcases (inTasks other).1 found with rfl | ⟨before, different⟩
      · exact .inl ⟨owner, stage⟩
      · exact .inr ⟨⟨other, before, rfl, stage⟩, different⟩
  · rcases (inTasks other).1 found with rfl | ⟨before, -⟩
    · exact unworked
    · exact has.unworked other before

/-- Each step of a task leaves the queue as it should be. -/
theorem HasQueue.taskStep (has : scheduler.HasQueue) (valid : Invariant size scheduler)
    (member : task ∈ scheduler.tasks) (step : TaskStep scheduler task action next) :
    next.HasQueue := by
  have own := has.unworked task member
  -- A step that neither comes to the queue nor leaves it has nothing to show.
  have apart {change : Task → Task}
      (tasks : next.tasks = (scheduler.modifyTask task.job change).tasks)
      (queue : next.queue = scheduler.queue) (owner : (change task).job = task.job)
      (before : task.stage ≠ .queued) (after : (change task).stage ≠ .queued)
      (unworked : (change task).stage.precedesWorker = true → (change task).hasWorker = false) :
      next.HasQueue := by
    refine has.modifyTask valid member tasks owner (queue ▸ has.once) (fun id => ?_) unworked
    have absent := has.notMem valid member before
    rw [queue, or_iff_right (fun own => after own.2)]
    exact ⟨fun queued => ⟨queued, fun same => absent (same ▸ queued)⟩, And.left⟩
  cases step with
  | refuse stage | exhaust stage | reject stage | interrupt stage | start stage | abandon stage
  | prepareSetup stage | skipSetup stage | passContext stage | enterContext stage
  | finishSetup stage | panicSetup stage | finishPipeline stage | complete stage | drop stage
  | unlist stage =>
      exact apart rfl rfl rfl (by rw [stage]; nofun) nofun nofun
  | accept stage | permit stage =>
      exact apart rfl rfl rfl (by rw [stage]; nofun) nofun fun _ => own (by rw [stage]; rfl)
  | queue stage =>
      have absent := has.notMem valid member (by rw [stage]; nofun)
      refine has.modifyTask valid member rfl rfl ?_ (fun id => ?_) fun _ =>
        own (by rw [stage]; rfl)
      · exact List.nodup_append.2 ⟨has.once, List.nodup_singleton _, fun first queued last same =>
          List.mem_singleton.1 same ▸ fun equal => absent (equal ▸ queued)⟩
      · simp only [List.mem_append, List.mem_singleton, and_true]
        constructor
        · rintro (queued | rfl)
          · exact .inr ⟨queued, fun same => absent (same ▸ queued)⟩
          · exact .inl rfl
        · rintro (rfl | ⟨queued, -⟩)
          · exact .inr rfl
          · exact .inl queued
  | take stage first =>
      have once := has.once
      rw [first, List.nodup_cons] at once
      refine has.modifyTask valid member rfl rfl once.2 (fun id => ?_) nofun
      simp only [first, List.mem_cons, reduceCtorEq, and_false, false_or]
      constructor
      · exact fun later => ⟨.inr later, fun same => once.1 (same ▸ later)⟩
      · rintro ⟨own | later, different⟩
        · exact absurd own different
        · exact later
  | discard _ stage =>
      refine has.modifyTask valid member rfl rfl (has.once.sublist List.filter_sublist)
        (fun id => ?_) nofun
      simp [Scheduler.discard]
  | release stage =>
      have absent := has.notMem valid member (by rw [stage]; nofun)
      have left (other : Task) : other ∈ (scheduler.releasePermit task).tasks ↔
          other ∈ scheduler.tasks ∧ other.job ≠ task.job := by
        simp [Scheduler.releasePermit]
      refine ⟨has.once, fun id => ?_, fun other kept => has.unworked other ((left other).1 kept).1⟩
      rw [show (scheduler.releasePermit task).queue = scheduler.queue from rfl, has.waits]
      constructor
      · rintro ⟨other, before, rfl, queued⟩
        refine ⟨other, (left other).2 ⟨before, fun same => ?_⟩, rfl, queued⟩
        exact absent (same ▸ (has.waits other.job).2 ⟨other, before, rfl, queued⟩)
      · rintro ⟨other, kept, own⟩
        exact ⟨other, ((left other).1 kept).1, own⟩

/-- A new job is not queued yet. -/
theorem HasQueue.addJob (has : scheduler.HasQueue) {target : Target} {hasSetup : Bool} :
    (scheduler.addJob target hasSetup).HasQueue := by
  have inTasks (other : Task) : other ∈ (scheduler.addJob target hasSetup).tasks ↔
      other ∈ scheduler.tasks ∨ other = { job := scheduler.jobs.length, hasSetup } := by
    simp [Scheduler.addJob]
  refine ⟨has.once, fun id => (has.waits id).trans ?_, fun other found => ?_⟩
  · constructor
    · rintro ⟨other, before, own⟩
      exact ⟨other, (inTasks other).2 (.inl before), own⟩
    · rintro ⟨other, found, same, stage⟩
      rcases (inTasks other).1 found with before | rfl
      · exact ⟨other, before, same, stage⟩
      · cases stage
  · rcases (inTasks other).1 found with before | rfl
    · exact has.unworked other before
    · exact fun _ => rfl

theorem HasQueue.step (has : scheduler.HasQueue) (valid : Invariant size scheduler)
    (step : Step scheduler action next) : next.HasQueue := by
  cases step with
  | join => exact has
  | add => exact has.addJob
  | advance member step => exact has.taskStep valid member step
  | raise | close => exact has.congr rfl rfl

/-- In every state that a scheduler can reach, its queue is as it should be. -/
theorem Reachable.hasQueue (reached : Reachable size scheduler) : scheduler.HasQueue := by
  induction reached with
  | create created => exact .create created
  | lend _ _ ih | regain _ _ _ _ ih => exact ih.congr rfl rfl
  | step before possible ih => exact ih.step before.invariant (.of_step? possible)

end Scheduler

end BusBridge
