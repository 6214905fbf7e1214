/-
This file proves that the tasks of a scheduler come to an end. Each move of a task brings it nearer
to its end, and as long as tasks are left, one of them can move.
-/

import BusBridge.Proofs.Scheduler.Queue
import BusBridge.Proofs.Scheduler.Run
import Mathlib.Algebra.GroupWithZero.Nat
import Mathlib.Algebra.Order.BigOperators.Group.List
import Mathlib.Algebra.Order.Group.Nat

namespace BusBridge

/-- A task at a stage is moved to others at most this often before it is gone. -/
def Stage.movesLeft : Stage → Nat
  | .admitted => 13
  | .unpermitted => 12
  | .permitted => 11
  | .queued => 10
  | .taken => 9
  | .started => 8
  | .awaitingContext => 7
  | .settingUp => 6
  | .generating => 5
  | .ended _ => 4
  | .dropped => 3
  | .recorded => 2
  | .unlisted => 1

theorem Stage.movesLeft_pos (stage : Stage) : 0 < stage.movesLeft := by
  cases stage <;> simp [movesLeft]

namespace Scheduler

variable {scheduler next : Scheduler} {task : Task} {action : Action} {size : PoolSize}

/-- A step takes the task out, or leaves it at its place with fewer moves before it. -/
theorem TaskStep.tasks_eq (valid : Invariant size scheduler) (member : task ∈ scheduler.tasks)
    (step : TaskStep scheduler task action next) :
    ∃ before after, scheduler.tasks = before ++ task :: after ∧
      (next.tasks = before ++ after ∨
        ∃ changed, next.tasks = before ++ changed :: after ∧ changed.job = task.job ∧
          changed.stage.movesLeft < task.stage.movesLeft) := by
  have moved {change : Task → Task}
      (tasks : next.tasks = (scheduler.modifyTask task.job change).tasks)
      (owner : (change task).job = task.job)
      (fewer : (change task).stage.movesLeft < task.stage.movesLeft) :
      ∃ before after, scheduler.tasks = before ++ task :: after ∧
        (next.tasks = before ++ after ∨
          ∃ changed, next.tasks = before ++ changed :: after ∧ changed.job = task.job ∧
            changed.stage.movesLeft < task.stage.movesLeft) := by
    obtain ⟨before, after, split, modified⟩ := valid.tasks_modifyTask member change
    exact ⟨before, after, split, .inr ⟨change task, tasks.trans modified, owner, fewer⟩⟩
  cases step with
  | release =>
      obtain ⟨before, after, split, others⟩ := valid.tasks_eq member
      refine ⟨before, after, split, .inl ?_⟩
      have kept : (before ++ after).filter (fun other => other.job != task.job) =
          before ++ after :=
        List.filter_eq_self.2 fun other found => by simpa using others other found
      rw [List.filter_append] at kept
      simp [Scheduler.releasePermit, split, kept]
  | refuse stage | accept stage | exhaust stage | permit stage | queue stage | take stage
  | reject stage | interrupt stage | start stage | abandon stage | prepareSetup stage
  | skipSetup stage | passContext stage | enterContext stage | finishSetup stage | panicSetup stage
  | finishPipeline stage | complete stage | drop stage | unlist stage | discard _ stage =>
      refine moved rfl rfl ?_
      rw [stage]
      simp [Stage.movesLeft]

/-- While the context is occupied by a task of this scheduler, that task sets it up. -/
def IsAttended (scheduler : Scheduler) : Prop :=
  scheduler.context = .occupied → ∃ task ∈ scheduler.tasks, task.stage = .settingUp

theorem IsAttended.taskStep (attended : scheduler.IsAttended) (valid : Invariant size scheduler)
    (member : task ∈ scheduler.tasks) (step : TaskStep scheduler task action next) :
    next.IsAttended := by
  have apart {change : Task → Task} (context : next.context = scheduler.context)
      (tasks : next.tasks = (scheduler.modifyTask task.job change).tasks)
      (stage : task.stage ≠ .settingUp) : next.IsAttended := by
    intro occupied
    obtain ⟨other, before, settingUp⟩ := attended (context.symm.trans occupied)
    refine ⟨other, ?_, settingUp⟩
    rw [tasks, valid.mem_modifyTask member]
    refine .inr ⟨before, fun same => stage ?_⟩
    rw [← valid.unique member before same]
    exact settingUp
  cases step with
  | enterContext =>
      exact fun _ => ⟨_, (valid.mem_modifyTask member).2 (.inl rfl), rfl⟩
  | finishSetup | panicSetup => exact nofun
  | release stage =>
      intro occupied
      obtain ⟨other, before, settingUp⟩ := attended occupied
      refine ⟨other, List.mem_filter.2 ⟨before, bne_iff_ne.2 fun same => ?_⟩, settingUp⟩
      rw [valid.unique member before same, stage] at settingUp
      cases settingUp
  | discard _ stage => exact apart rfl rfl (by rw [stage]; nofun)
  | refuse stage | accept stage | exhaust stage | permit stage | queue stage | take stage
  | reject stage | interrupt stage | start stage | abandon stage | prepareSetup stage
  | skipSetup stage | passContext stage | finishPipeline stage | complete stage | drop stage
  | unlist stage =>
      exact apart rfl rfl (by rw [stage]; nofun)

end Scheduler

namespace SchedulerRun

variable {World : Type} {run moved : SchedulerRun World} {task : Task} {size : PoolSize}
  {target : Target} {work : Work World}

/-- A task enters its pipeline in one more move. -/
def movesOf (run : SchedulerRun World) (task : Task) : Nat :=
  task.stage.movesLeft + if task.job ∈ run.entered then 0 else 1

def movesLeft (run : SchedulerRun World) : Nat :=
  (run.scheduler.tasks.map run.movesOf).sum

theorem Move.movesLeft_lt (valid : Scheduler.Invariant size run.scheduler)
    (member : task ∈ run.scheduler.tasks) (move : Move run task moved) :
    moved.movesLeft < run.movesLeft := by
  cases move with
  | enter _ _ fresh same entered =>
      rw [movesLeft, same]
      apply List.sum_lt_sum
      · intro other _
        simp only [movesOf, entered, List.mem_cons]
        split <;> split <;> simp_all
      · exact ⟨task, member, by simp [movesOf, entered, fresh]⟩
  | step action step entered =>
      have same : moved.movesOf = run.movesOf := by
        funext other
        rw [movesOf, entered, movesOf]
      obtain ⟨before, after, split, gone | ⟨changed, kept, owner, fewer⟩⟩ :=
        step.tasks_eq valid member
      · have positive : 0 < run.movesOf task := Nat.add_pos_left task.stage.movesLeft_pos _
        simp only [movesLeft, same, gone, split, List.map_append, List.map_cons, List.sum_append,
          List.sum_cons]
        omega
      · have less : run.movesOf changed < run.movesOf task := by
          rw [movesOf, movesOf, owner]
          omega
        simp only [movesLeft, same, kept, split, List.map_append, List.map_cons, List.sum_append,
          List.sum_cons]
        omega

/-- Nothing outside of the scheduler holds its tasks back. -/
structure IsUnhindered (size : PoolSize) (run : SchedulerRun World) : Prop where
  scheduler : Scheduler.Invariant size run.scheduler
  workers : 0 < size.workerThreads
  queue : run.scheduler.HasQueue
  attended : run.scheduler.IsAttended
  works : ∀ task ∈ run.scheduler.tasks, (run.works.lookup task.job).isSome = true
  ready : ∀ entry ∈ run.works, ∀ world, entry.2.isReady world = true

theorem IsUnhindered.congr (unhindered : IsUnhindered size run)
    (scheduler : moved.scheduler = run.scheduler) (works : moved.works = run.works) :
    IsUnhindered size moved := by
  constructor
  case workers => exact unhindered.workers
  case scheduler => exact scheduler ▸ unhindered.scheduler
  case queue => exact scheduler ▸ unhindered.queue
  case attended => exact scheduler ▸ unhindered.attended
  case works =>
    rw [scheduler, works]
    exact unhindered.works
  case ready => exact works ▸ unhindered.ready

theorem IsUnhindered.move (unhindered : IsUnhindered size run)
    (member : task ∈ run.scheduler.tasks) (works : moved.works = run.works)
    (move : Move run task moved) : IsUnhindered size moved := by
  have valid := unhindered.scheduler
  cases move with
  | enter _ _ _ same => exact unhindered.congr same works
  | step action step =>
      constructor
      case scheduler => exact valid.taskStep member step
      case queue => exact unhindered.queue.taskStep valid member step
      case workers => exact unhindered.workers
      case attended => exact unhindered.attended.taskStep valid member step
      case works =>
        intro other inTasks
        rw [works]
        obtain ⟨before, after, split, tasks⟩ := step.tasks_eq valid member
        have known := unhindered.works
        rw [split] at known
        rcases tasks with gone | ⟨changed, kept, owner, -⟩
        · rw [gone] at inTasks
          exact known other (by simp at inTasks ⊢; tauto)
        · rw [kept] at inTasks
          rcases List.mem_append.1 inTasks with early | late
          · exact known other (List.mem_append_left _ early)
          · rcases List.mem_cons.1 late with rfl | late
            · rw [owner]
              exact known task (by simp)
            · exact known other (by simp [late])
      case ready =>
        rw [works]
        exact unhindered.ready

/-- A job that is handed in brings its work, and one that is joined has its work already. -/
theorem IsUnhindered.handIn (unhindered : IsUnhindered size run)
    (ready : ∀ world, work.isReady world = true) :
    IsUnhindered size (run.handIn target work).2 := by
  have entries : ∀ entry ∈ (run.handIn target work).2.works, ∀ world,
      entry.2.isReady world = true := by
    intro entry member
    rcases mem_works_handIn member with old | new
    · exact unhindered.ready entry old
    · rw [new]
      exact ready
  have submitted : ((run.handIn target work).1, (run.handIn target work).2.scheduler) =
      run.scheduler.submit target work.setup.isSome := handIn_eq
  have works : (run.handIn target work).2.works = _ := works_handIn
  cases found : run.scheduler.inFlight? target with
  | some id =>
      simp only [Scheduler.submit, found, Prod.mk.injEq] at submitted
      rw [found, if_pos Option.isSome_some] at works
      constructor
      case ready => exact entries
      case workers => exact unhindered.workers
      all_goals rw [submitted.2]
      case scheduler => exact unhindered.scheduler
      case queue => exact unhindered.queue
      case attended => exact unhindered.attended
      case works => exact works ▸ unhindered.works
  | none =>
      simp only [Scheduler.submit, found, Prod.mk.injEq] at submitted
      simp only [found, Option.isSome_none, Bool.false_eq_true, if_false, submitted.1] at works
      constructor
      case ready => exact entries
      case workers => exact unhindered.workers
      all_goals rw [submitted.2]
      case scheduler => exact unhindered.scheduler.addJob found
      case queue => exact unhindered.queue.addJob
      case attended =>
        intro occupied
        obtain ⟨task, member, stage⟩ := unhindered.attended occupied
        exact ⟨task, List.mem_append_left _ member, stage⟩
      case works =>
        intro task member
        rw [works]
        rcases List.mem_append.1 member with old | new
        · obtain ⟨other, known⟩ := Option.isSome_iff_exists.1 (unhindered.works task old)
          rw [List.lookup_append, known]
          rfl
        · rw [List.mem_singleton.1 new, List.lookup_append]
          cases run.works.lookup run.scheduler.jobs.length <;> simp

/-- A task waits for a worker, or for a context that is being set up. -/
theorem IsUnhindered.stage_of_stuck (unhindered : IsUnhindered size run)
    (member : task ∈ run.scheduler.tasks) (stuck : run.moveTask? task = none) :
    task.stage = .queued ∨ task.stage = .awaitingContext ∧ run.scheduler.context = .occupied := by
  have impossible {action : Action} (own : Scheduler.Action.job? action = some task.job)
      (stuck : (run.scheduler.step? action).map (fun _ => run.perform action) = none) :
      run.scheduler.taskStep? task action = none := by
    rw [Option.map_eq_none_iff, unhindered.scheduler.step?_eq member own] at stuck
    exact stuck
  obtain ⟨work, known⟩ := Option.isSome_iff_exists.1 (unhindered.works task member)
  simp only [moveTask?] at stuck
  cases stage : task.stage <;> simp only [stage] at stuck
  case queued => exact .inl rfl
  case awaitingContext =>
    have stuck := impossible rfl stuck
    simp only [Scheduler.taskStep?, stage, Scheduler.enterContext?] at stuck
    split at stuck <;> cases stuck
    case h_3 occupied => exact .inr ⟨rfl, occupied⟩
  case settingUp => simp [known] at stuck
  case generating =>
    obtain ⟨before, after, split, -⟩ := List.lookup_eq_some_iff.1 known
    have ready : work.isReady run.world = true :=
      unhindered.ready (task.job, work) (by simp [split]) run.world
    simp only [known, Option.bind_some, generate, ready, if_true] at stuck
    split at stuck <;> cases stuck
  all_goals
    have stuck := impossible rfl stuck
    simp [Scheduler.taskStep?, stage] at stuck

/-- As long as tasks are left, one of them can move. -/
theorem IsUnhindered.exists_movable (unhindered : IsUnhindered size run)
    (left : run.scheduler.tasks ≠ []) :
    ∃ task ∈ run.scheduler.tasks, (run.moveTask? task).isSome = true := by
  by_contra stuck
  have stuck : ∀ task ∈ run.scheduler.tasks, run.moveTask? task = none := by
    simpa using stuck
  have queued : ∀ task ∈ run.scheduler.tasks, task.stage = .queued := by
    intro task member
    refine (unhindered.stage_of_stuck member (stuck task member)).resolve_right ?_
    rintro ⟨-, occupied⟩
    obtain ⟨other, inTasks, settingUp⟩ := unhindered.attended occupied
    have waits := unhindered.stage_of_stuck inTasks (stuck other inTasks)
    simp [settingUp] at waits
  obtain ⟨waiting, _, tasks⟩ := List.exists_cons_of_ne_nil left
  have inTasks : waiting ∈ run.scheduler.tasks := by simp [tasks]
  have occupied := (unhindered.queue.waits waiting.job).2
    ⟨waiting, inTasks, rfl, queued waiting inTasks⟩
  obtain ⟨id, rest, queue⟩ := List.exists_cons_of_ne_nil (List.ne_nil_of_mem occupied)
  obtain ⟨task, member, rfl, stage⟩ := (unhindered.queue.waits id).1 (by simp [queue])
  have idle : run.scheduler.busyWorkers = 0 := by
    rw [Scheduler.busyWorkers, List.length_eq_zero_iff, List.filter_eq_nil_iff]
    intro other inTasks
    have unworked := unhindered.queue.unworked other inTasks (by rw [queued other inTasks]; rfl)
    simp [unworked]
  have free : run.scheduler.busyWorkers < run.scheduler.pool.size.workerThreads := by
    rw [idle, unhindered.scheduler.sized]
    exact unhindered.workers
  have taken : (run.scheduler.step? (.take task.job)).isSome = true := by
    rw [unhindered.scheduler.step?_eq member rfl]
    simp [Scheduler.taskStep?, stage, Scheduler.take?, queue, free]
  have moves := stuck task member
  simp only [moveTask?, stage, Option.map_eq_none_iff] at moves
  rw [moves] at taken
  cases taken

theorem movesLeft_le (run : SchedulerRun World) :
    run.movesLeft ≤ movesPerTask * run.scheduler.tasks.length := by
  have most : ∀ moves ∈ run.scheduler.tasks.map run.movesOf, moves ≤ movesPerTask := by
    intro moves member
    obtain ⟨task, -, rfl⟩ := List.mem_map.1 member
    rw [movesOf, movesPerTask]
    cases task.stage <;> simp only [Stage.movesLeft] <;> split <;> omega
  have bounded := List.sum_le_card_nsmul _ _ most
  rw [List.length_map] at bounded
  exact bounded.trans_eq (Nat.mul_comm _ _)

/-- With enough moves no task is left. -/
theorem IsUnhindered.tasks_advance_eq_nil (unhindered : IsUnhindered size run) {fuel : Nat}
    (enough : run.movesLeft ≤ fuel) : (run.advance fuel).scheduler.tasks = [] := by
  induction fuel generalizing run with
  | zero =>
      by_contra left
      obtain ⟨task, member, moves⟩ := unhindered.exists_movable left
      obtain ⟨moved, moves⟩ := Option.isSome_iff_exists.1 moves
      obtain ⟨-, move⟩ := Move.of_moveTask? unhindered.scheduler member moves
      exact Nat.not_lt_zero _ ((move.movesLeft_lt unhindered.scheduler member).trans_le enough)
  | succ fuel ih =>
      rw [advance]
      split
      case h_1 stuck =>
        by_contra left
        obtain ⟨task, member, moves⟩ := unhindered.exists_movable left
        rw [List.findSome?_eq_none_iff.1 stuck task member] at moves
        cases moves
      case h_2 moved found =>
        obtain ⟨task, member, moves⟩ := List.exists_of_findSome?_eq_some found
        obtain ⟨works, move⟩ := Move.of_moveTask? unhindered.scheduler member moves
        refine ih (unhindered.move member works move) ?_
        exact Nat.le_of_lt_succ ((move.movesLeft_lt unhindered.scheduler member).trans_le enough)

/-- Every task moves as far as it can, and that is to its end. -/
theorem IsUnhindered.tasks_settle_eq_nil (unhindered : IsUnhindered size run) :
    run.settle.scheduler.tasks = [] :=
  unhindered.tasks_advance_eq_nil run.movesLeft_le

end SchedulerRun

end BusBridge
