/-
This file proves the invariant of a scheduler. It ties the jobs in flight to their tasks, the
table to the jobs that it lists, and the permits to the tasks that hold them.
-/

import BusBridge.Proofs.Scheduler.Job
import BusBridge.Proofs.Scheduler.Transition
import Mathlib.Data.List.Nodup

namespace BusBridge

namespace Stage

/-- The states that the job of a task may have while the task is at a stage. -/
def Admits : Stage → JobState → Prop
  | .admitted, state | .unpermitted, state | .permitted, state | .queued, state
  | .taken, state => state = .pending
  | .started, state | .awaitingContext, state | .settingUp, state
  | .generating, state => state = .running
  | .ended outcome, state => state.canBecome (.ofOutcome outcome) = true
  | .dropped, _ => True
  | .recorded, state | .unlisted, state => state.isTerminal = true

/-- A task asks for a permit at most once. -/
def precedesPermit : Stage → Bool
  | .admitted | .unpermitted => true
  | _ => false

/-- A task that is not past this point may still have an entry in the table. -/
def isListed : Stage → Bool
  | .unlisted => false
  | _ => true

end Stage

namespace Scheduler

/-- What every step of a scheduler keeps. -/
structure Invariant (size : PoolSize) (scheduler : Scheduler) : Prop where
  sized : scheduler.pool.size = size
  settled : ∀ id job, scheduler.job? id = some job → job.IsSettled
  distinct : (scheduler.tasks.map Task.job).Nodup
  agrees : ∀ task ∈ scheduler.tasks,
    ∃ job, scheduler.job? task.job = some job ∧ task.stage.Admits job.state
  unheld : ∀ task ∈ scheduler.tasks, task.stage.precedesPermit = true → task.holdsPermit = false
  bound : ∀ id job, scheduler.job? id = some job → job.state.isInFlight = true →
    ∃ task ∈ scheduler.tasks, task.job = id
  listed : ∀ id job, scheduler.job? id = some job → job.state.isInFlight = true →
    (job.target, id) ∈ scheduler.table
  single : (scheduler.table.map Prod.fst).Nodup
  entries : ∀ entry ∈ scheduler.table,
    ∃ job, scheduler.job? entry.2 = some job ∧ job.target = entry.1
  kept : ∀ entry ∈ scheduler.table,
    ∃ task ∈ scheduler.tasks, task.job = entry.2 ∧ task.stage.isListed = true
  permits : scheduler.permits + scheduler.tasks.countP Task.holdsPermit = size.maxPendingJobs

variable {scheduler next : Scheduler} {task : Task} {size : PoolSize} {stage : Stage}

/-- A job has one task at most. -/
theorem Invariant.unique {other : Task} (valid : Invariant size scheduler)
    (member : task ∈ scheduler.tasks) (found : other ∈ scheduler.tasks)
    (same : other.job = task.job) : other = task :=
  List.inj_on_of_nodup_map valid.distinct found member same

/-- The stage of a task fits the state of its job. -/
theorem Invariant.admits {job : Job} (valid : Invariant size scheduler)
    (member : task ∈ scheduler.tasks) (found : scheduler.job? task.job = some job) :
    task.stage.Admits job.state := by
  obtain ⟨other, known, admitted⟩ := valid.agrees task member
  obtain rfl : job = other := Option.some.inj (found.symm.trans known)
  exact admitted

/-- The invariant does not mention the flag, the queue, the context or the setups. -/
theorem Invariant.congr (valid : Invariant size scheduler)
    (pool : next.pool.size = scheduler.pool.size) (jobs : next.jobs = scheduler.jobs)
    (table : next.table = scheduler.table) (tasks : next.tasks = scheduler.tasks)
    (permits : next.permits = scheduler.permits) : Invariant size next := by
  obtain ⟨sized, settled, distinct, agrees, unheld, bound, listed, single, entries, kept, held⟩ :=
    valid
  constructor <;> simp only [job?, pool, jobs, table, tasks, permits] <;> assumption

/-- A change of a job leaves the others. -/
theorem job?_modifyJob {id other : JobId} {change : Job → Job} :
    (scheduler.modifyJob id change).job? other =
      (scheduler.job? other).map fun job => if id = other then change job else job := by
  simp [job?, modifyJob, List.getElem?_modify]

/-- A job that is found after a change was there before. -/
theorem job?_modifyJob_eq_some_iff {id other : JobId} {change : Job → Job} {job : Job} :
    (scheduler.modifyJob id change).job? other = some job ↔
      ∃ old, scheduler.job? other = some old ∧ (if id = other then change old else old) = job := by
  rw [job?_modifyJob, Option.map_eq_some_iff]

/-- A task stands at one place, among tasks of other jobs. -/
theorem Invariant.tasks_eq (valid : Invariant size scheduler) (member : task ∈ scheduler.tasks) :
    ∃ before after, scheduler.tasks = before ++ task :: after ∧
      ∀ other ∈ before ++ after, other.job ≠ task.job := by
  obtain ⟨before, after, split⟩ := List.append_of_mem member
  refine ⟨before, after, split, fun other found same => ?_⟩
  have distinct := valid.distinct
  rw [split, List.map_append, List.map_cons, List.nodup_middle, List.nodup_cons,
    ← List.map_append] at distinct
  exact distinct.1 (same ▸ List.mem_map_of_mem found)

/-- A change of a task leaves it in its place. -/
theorem Invariant.tasks_modifyTask (valid : Invariant size scheduler)
    (member : task ∈ scheduler.tasks) (change : Task → Task) :
    ∃ before after, scheduler.tasks = before ++ task :: after ∧
      (scheduler.modifyTask task.job change).tasks = before ++ change task :: after := by
  obtain ⟨before, after, split, others⟩ := valid.tasks_eq member
  refine ⟨before, after, split, ?_⟩
  have unchanged : ∀ part : List Task, (∀ other ∈ part, other ∈ before ++ after) →
      part.map (fun other => if other.job = task.job then change other else other) = part := by
    intro part inside
    rw [List.map_congr_left fun other found => if_neg (others other (inside other found))]
    exact List.map_id' part
  rw [modifyTask, split, List.map_append, List.map_cons, if_pos rfl,
    unchanged before fun _ => List.mem_append_left _,
    unchanged after fun _ => List.mem_append_right _]

/-- A change of a task leaves the others. -/
theorem Invariant.mem_modifyTask {other : Task} {change : Task → Task}
    (valid : Invariant size scheduler) (member : task ∈ scheduler.tasks) :
    other ∈ (scheduler.modifyTask task.job change).tasks ↔
      other = change task ∨ other ∈ scheduler.tasks ∧ other.job ≠ task.job := by
  rw [modifyTask, List.mem_map]
  constructor
  · rintro ⟨old, inTasks, rfl⟩
    split
    case isTrue same => exact .inl (congrArg change (valid.unique member inTasks same))
    case isFalse different => exact .inr ⟨inTasks, different⟩
  · rintro (rfl | ⟨inTasks, different⟩)
    · exact ⟨task, member, if_pos rfl⟩
    · exact ⟨other, inTasks, if_neg different⟩

/-- A task may go on together with its job, if what they become agrees. -/
theorem Invariant.update (valid : Invariant size scheduler) (member : task ∈ scheduler.tasks)
    {changeJob : Job → Job} {changeTask : Task → Task} {permits : Nat}
    (target : ∀ job, (changeJob job).target = job.target)
    (settled : ∀ job, job.IsSettled → (changeJob job).IsSettled)
    (flight : ∀ job, (changeJob job).state.isInFlight = true → job.state.isInFlight = true)
    (owner : (changeTask task).job = task.job)
    (admits : ∀ job, scheduler.job? task.job = some job → task.stage.Admits job.state →
      (changeTask task).stage.Admits (changeJob job).state)
    (listed : (∃ entry ∈ scheduler.table, entry.2 = task.job) →
      (changeTask task).stage.isListed = true)
    (unheld : (changeTask task).stage.precedesPermit = true →
      (changeTask task).holdsPermit = false)
    (balanced : permits + (if (changeTask task).holdsPermit then 1 else 0) =
      scheduler.permits + if task.holdsPermit then 1 else 0) :
    Invariant size { (scheduler.modifyJob task.job changeJob).modifyTask task.job changeTask with
      permits } := by
  have targets : ∀ id job, (if task.job = id then changeJob job else job).target =
      job.target := by
    intro id job
    split
    · exact target job
    · rfl
  have flights : ∀ id job, (if task.job = id then changeJob job else job).state.isInFlight =
      true → job.state.isInFlight = true := by
    intro id job
    split
    · exact flight job
    · exact fun running => running
  obtain ⟨before, after, split, moved⟩ := valid.tasks_modifyTask member changeTask
  constructor
  case sized => exact valid.sized
  case settled =>
    intro id job inNext
    obtain ⟨old, known, rfl⟩ := job?_modifyJob_eq_some_iff.1 inNext
    split
    · exact settled old (valid.settled id old known)
    · exact valid.settled id old known
  case distinct =>
    have distinct := valid.distinct
    rw [split] at distinct
    change ((scheduler.modifyTask task.job changeTask).tasks.map Task.job).Nodup
    rw [moved]
    simpa [owner] using distinct
  case agrees =>
    intro other inTasks
    rcases (valid.mem_modifyTask member).1 inTasks with rfl | ⟨inTasks, different⟩
    · obtain ⟨job, known, admitted⟩ := valid.agrees task member
      refine ⟨changeJob job, ?_, admits job known admitted⟩
      rw [owner]
      exact job?_modifyJob_eq_some_iff.2 ⟨job, known, if_pos rfl⟩
    · obtain ⟨job, known, admitted⟩ := valid.agrees other inTasks
      exact ⟨job, job?_modifyJob_eq_some_iff.2 ⟨job, known, if_neg (Ne.symm different)⟩, admitted⟩
  case unheld =>
    intro other inTasks
    rcases (valid.mem_modifyTask member).1 inTasks with rfl | ⟨inTasks, -⟩
    · exact unheld
    · exact valid.unheld other inTasks
  case bound =>
    intro id job inNext running
    obtain ⟨old, known, rfl⟩ := job?_modifyJob_eq_some_iff.1 inNext
    obtain ⟨other, inTasks, same⟩ := valid.bound id old known (flights id old running)
    by_cases own : id = task.job
    · exact ⟨_, (valid.mem_modifyTask member).2 (.inl rfl), owner.trans own.symm⟩
    · exact ⟨other, (valid.mem_modifyTask member).2 (.inr ⟨inTasks, same ▸ own⟩), same⟩
  case listed =>
    intro id job inNext running
    obtain ⟨old, known, rfl⟩ := job?_modifyJob_eq_some_iff.1 inNext
    rw [targets]
    exact valid.listed id old known (flights id old running)
  case single => exact valid.single
  case entries =>
    intro entry inTable
    obtain ⟨job, known, same⟩ := valid.entries entry inTable
    exact ⟨_, job?_modifyJob_eq_some_iff.2 ⟨job, known, rfl⟩, (targets _ _).trans same⟩
  case kept =>
    intro entry inTable
    obtain ⟨other, inTasks, same, before⟩ := valid.kept entry inTable
    by_cases own : entry.2 = task.job
    · exact ⟨_, (valid.mem_modifyTask member).2 (.inl rfl), owner.trans own.symm,
        listed ⟨entry, inTable, own⟩⟩
    · exact ⟨other, (valid.mem_modifyTask member).2 (.inr ⟨inTasks, same ▸ own⟩), same, before⟩
  case permits =>
    have held := valid.permits
    rw [split, List.countP_append, List.countP_cons] at held
    change permits + (scheduler.modifyTask task.job changeTask).tasks.countP _ = _
    rw [moved, List.countP_append, List.countP_cons]
    omega

/-- A task may go to a stage that goes with every state that its job may have. -/
theorem Invariant.setStage (valid : Invariant size scheduler) (member : task ∈ scheduler.tasks)
    (admits : ∀ state, task.stage.Admits state → stage.Admits state)
    (listed : (∃ entry ∈ scheduler.table, entry.2 = task.job) → stage.isListed = true)
    (unheld : stage.precedesPermit = true → task.stage.precedesPermit = true) :
    Invariant size (scheduler.setStage task.job stage) := by
  have moved : Invariant size ((scheduler.modifyJob task.job id).setStage task.job stage) :=
    valid.update member (fun _ => rfl) (fun _ settled => settled) (fun _ running => running) rfl
      (fun job _ => admits job.state) listed
      (fun early => valid.unheld task member (unheld early)) rfl
  simpa [modifyJob] using moved

/-- A recorded outcome keeps the invariant. -/
theorem Invariant.recordOutcome (valid : Invariant size scheduler)
    (member : task ∈ scheduler.tasks) {outcome : JobOutcome}
    (admits : ∀ job : Job, task.stage.Admits job.state →
      stage.Admits (job.finish outcome).2.state)
    (listed : stage.isListed = true) (late : stage.precedesPermit = false) :
    Invariant size (scheduler.recordOutcome task.job outcome stage) :=
  valid.update member (fun _ => Job.finish_target) (fun _ => Job.finish_isSettled)
    (fun _ => Job.finish_inFlight) rfl (fun job _ => admits job) (fun _ => listed)
    (fun early => absurd early (by simp [late])) rfl

/-- A job that starts keeps the invariant. -/
theorem Invariant.start (valid : Invariant size scheduler) (member : task ∈ scheduler.tasks)
    {job : Job} (found : scheduler.job? task.job = some job) (starts : job.start.1 = true) :
    Invariant size ((scheduler.modifyJob task.job fun job => job.start.2).setStage task.job
      .started) := by
  refine valid.update member (fun _ => Job.start_target) (fun _ => Job.start_isSettled)
    (fun _ => Job.start_inFlight) rfl ?_ (fun _ => rfl) nofun rfl
  intro other known _
  obtain rfl : job = other := Option.some.inj (found.symm.trans known)
  exact Job.start_state starts

/-- A permit that is taken keeps the invariant. -/
theorem Invariant.permit (valid : Invariant size scheduler) (member : task ∈ scheduler.tasks)
    (stage : task.stage = .unpermitted) (available : 0 < scheduler.permits) :
    Invariant size { scheduler.modifyTask task.job fun task =>
        { task with stage := .permitted, holdsPermit := true } with
      permits := scheduler.permits - 1 } := by
  have free : task.holdsPermit = false := valid.unheld task member (by rw [stage]; rfl)
  have held : Invariant size { (scheduler.modifyJob task.job id).modifyTask task.job fun task =>
        { task with stage := .permitted, holdsPermit := true } with
      permits := scheduler.permits - 1 } := by
    refine valid.update member (fun _ => rfl) (fun _ settled => settled) (fun _ running => running)
      rfl ?_ (fun _ => rfl) nofun ?_
    · intro job _ admitted
      rwa [stage] at admitted
    · simp only [free, if_true]
      simp only [Bool.false_eq_true, if_false]
      omega
  simpa [modifyJob] using held

/-- A worker takes a task together with its permit. -/
theorem Invariant.take (valid : Invariant size scheduler) (member : task ∈ scheduler.tasks)
    (stage : task.stage = .queued) :
    Invariant size (scheduler.modifyTask task.job fun task =>
      { task with stage := .taken, hasWorker := true }) := by
  have taken : Invariant size { (scheduler.modifyJob task.job id).modifyTask task.job fun task =>
        { task with stage := .taken, hasWorker := true } with
      permits := scheduler.permits } := by
    refine valid.update member (fun _ => rfl) (fun _ settled => settled) (fun _ running => running)
      rfl ?_ (fun _ => rfl) nofun rfl
    intro job _ admitted
    rwa [stage] at admitted
  exact taken.congr rfl (by simp [modifyJob, modifyTask]) rfl rfl rfl

/-- Only jobs that ended are removed from the table. -/
theorem Invariant.unlist (valid : Invariant size scheduler) (member : task ∈ scheduler.tasks)
    (stage : task.stage = .recorded) : Invariant size (scheduler.unlist task.job) := by
  have ended : ∀ job, scheduler.job? task.job = some job → job.state.isInFlight = false := by
    intro job found
    have admitted := valid.admits member found
    rw [stage] at admitted
    exact (JobState.isTerminal_iff _).1 admitted
  have inTable : ∀ entry, entry ∈ (scheduler.unlist task.job).table ↔
      entry ∈ scheduler.table ∧ entry.2 ≠ task.job := by
    simp [Scheduler.unlist]
  constructor
  case listed =>
    intro id job known running
    refine (inTable _).2 ⟨valid.listed id job known running, ?_⟩
    rintro rfl
    rw [ended job known] at running
    contradiction
  case single =>
    exact valid.single.sublist (List.filter_sublist.map Prod.fst)
  case entries => exact fun entry left => valid.entries entry ((inTable entry).1 left).1
  case kept => exact fun entry left => valid.kept entry ((inTable entry).1 left).1
  case sized => exact valid.sized
  case settled => exact valid.settled
  case distinct => exact valid.distinct
  case agrees => exact valid.agrees
  case unheld => exact valid.unheld
  case bound => exact valid.bound
  case permits => exact valid.permits

/-- A permit that is given back keeps the invariant. -/
theorem Invariant.releasePermit (valid : Invariant size scheduler)
    (member : task ∈ scheduler.tasks) (stage : task.stage = .unlisted) :
    Invariant size (scheduler.releasePermit task) := by
  have left : ∀ other, other ∈ (scheduler.releasePermit task).tasks ↔
      other ∈ scheduler.tasks ∧ other.job ≠ task.job := by
    simp [Scheduler.releasePermit]
  constructor
  case distinct => exact valid.distinct.sublist (List.filter_sublist.map Task.job)
  case agrees => exact fun other kept => valid.agrees other ((left other).1 kept).1
  case unheld => exact fun other kept => valid.unheld other ((left other).1 kept).1
  case bound =>
    intro id job known running
    obtain ⟨other, inTasks, same⟩ := valid.bound id job known running
    refine ⟨other, (left other).2 ⟨inTasks, fun own => ?_⟩, same⟩
    have admitted := valid.admits member (own ▸ same ▸ known)
    rw [stage] at admitted
    rw [(JobState.isTerminal_iff _).1 admitted] at running
    contradiction
  case kept =>
    intro entry inTable
    obtain ⟨other, inTasks, same, before⟩ := valid.kept entry inTable
    refine ⟨other, (left other).2 ⟨inTasks, fun own => ?_⟩, same, before⟩
    rw [valid.unique member inTasks own, stage] at before
    contradiction
  case permits =>
    obtain ⟨front, back, split, others⟩ := valid.tasks_eq member
    have rest : (scheduler.releasePermit task).tasks = front ++ back := by
      have kept : (front ++ back).filter (fun other => other.job != task.job) = front ++ back :=
        List.filter_eq_self.2 fun other found => by simpa using others other found
      rw [List.filter_append] at kept
      simp [Scheduler.releasePermit, split, kept]
    have held := valid.permits
    rw [split, List.countP_append, List.countP_cons] at held
    rw [rest, List.countP_append]
    simp only [Scheduler.releasePermit]
    by_cases holds : task.holdsPermit = true
    · rw [if_pos holds] at held ⊢
      omega
    · rw [if_neg holds] at held ⊢
      omega
  case sized => exact valid.sized
  case settled => exact valid.settled
  case listed => exact valid.listed
  case single => exact valid.single
  case entries => exact valid.entries

end Scheduler

end BusBridge
