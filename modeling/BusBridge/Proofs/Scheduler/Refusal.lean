/-
This file proves which jobs are refused: those that ask for a permit while none is left.
-/

import BusBridge.Proofs.Scheduler.Reachable

namespace BusBridge

def Failure.isExhaustion : Failure → Bool
  | .scheduler (.poolExhausted ..) => true
  | _ => false

/-- A job with such an outcome was refused. -/
def JobOutcome.isRefusal : JobOutcome → Bool
  | .ok _ => false
  | .error failure => failure.isExhaustion

/-- A pipeline is no pool, so it should not end as a refused job does. -/
def PipelineEnd.isRefusal : PipelineEnd → Bool
  | .failed failure => failure.isExhaustion
  | _ => false

def Stage.isRefusal : Stage → Bool
  | .ended outcome => JobOutcome.isRefusal outcome
  | _ => false

namespace Scheduler

variable {scheduler next : Scheduler} {task : Task} {action : Action} {size : PoolSize}
  {id : JobId}

def outcome? (scheduler : Scheduler) (id : JobId) : Option JobOutcome :=
  (scheduler.job? id).bind Job.outcome

/-- The refusal is the outcome of the job. -/
def HasRefusal (scheduler : Scheduler) (id : JobId) : Prop :=
  ∃ outcome, scheduler.outcome? id = some outcome ∧ JobOutcome.isRefusal outcome = true

/-- The refusal of the job is recorded, or about to be. -/
def Refuses (scheduler : Scheduler) (id : JobId) : Prop :=
  scheduler.HasRefusal id ∨
    ∃ task ∈ scheduler.tasks, task.job = id ∧ task.stage.isRefusal = true

/-- A task that is not refused goes on, or is refused now. -/
theorem refuses_modifyTask_iff (valid : Invariant size scheduler)
    (member : task ∈ scheduler.tasks) (change : Task → Task)
    (own : (change task).job = task.job) (before : task.stage.isRefusal = false)
    (outcomes : next.HasRefusal id ↔ scheduler.HasRefusal id)
    (tasks : next.tasks = (scheduler.modifyTask task.job change).tasks) :
    next.Refuses id ↔
      scheduler.Refuses id ∨ id = task.job ∧ (change task).stage.isRefusal = true := by
  simp only [Refuses, outcomes, tasks, valid.mem_modifyTask member]
  constructor
  · rintro (recorded | ⟨other, rfl | ⟨inTasks, different⟩, rfl, refused⟩)
    · exact .inl (.inl recorded)
    · exact .inr ⟨own, refused⟩
    · exact .inl (.inr ⟨other, inTasks, rfl, refused⟩)
  · rintro ((recorded | ⟨other, inTasks, rfl, refused⟩) | ⟨rfl, refused⟩)
    · exact .inl recorded
    · refine .inr ⟨other, .inr ⟨inTasks, fun same => ?_⟩, rfl, refused⟩
      rw [valid.unique member inTasks same, before] at refused
      contradiction
    · exact .inr ⟨_, .inl rfl, own, refused⟩

theorem outcome?_modifyJob {other : JobId} {change : Job → Job} :
    (scheduler.modifyJob id change).outcome? other =
      if id = other then ((scheduler.job? other).map change).bind Job.outcome
      else scheduler.outcome? other := by
  rw [outcome?, job?_modifyJob]
  split
  case isTrue => rfl
  case isFalse => simp [outcome?]

theorem outcome?_start {other : JobId} {stage : Stage} :
    ((scheduler.modifyJob id fun job => job.start.2).setStage id stage).outcome? other =
      scheduler.outcome? other := by
  change (scheduler.modifyJob id fun job => job.start.2).outcome? other = _
  rw [outcome?_modifyJob]
  split
  case isTrue =>
    rw [outcome?]
    cases scheduler.job? other with
    | none => rfl
    | some job => exact Job.start_outcome
  case isFalse => rfl

/-- The first outcome of a job is the one that is kept. -/
theorem outcome?_recordOutcome {other : JobId} {outcome : JobOutcome} {stage : Stage} :
    (scheduler.recordOutcome id outcome stage).outcome? other =
      if id = other then (scheduler.job? other).bind fun job => (job.finish outcome).2.outcome
      else scheduler.outcome? other := by
  change (scheduler.modifyJob id fun job => (job.finish outcome).2).outcome? other = _
  rw [outcome?_modifyJob]
  split
  case isTrue => cases scheduler.job? other <;> rfl
  case isFalse => rfl

/-- A task at whose end the outcome is recorded has a job without one. -/
theorem Invariant.finish_of_ended (valid : Invariant size scheduler)
    (member : task ∈ scheduler.tasks) {outcome : JobOutcome} (stage : task.stage = .ended outcome) :
    ∃ job, scheduler.job? task.job = some job ∧ job.outcome = none ∧
      (job.finish outcome).2.outcome = some outcome := by
  obtain ⟨job, known, admitted⟩ := valid.agrees task member
  rw [stage] at admitted
  have possible : job.state.canBecome (.ofOutcome outcome) = true := admitted
  refine ⟨job, known, (valid.settled task.job job known).outcome_eq_none possible, ?_⟩
  simp [Job.finish, possible]

/-- A job that ended keeps its outcome, and one that did not fails for another reason. -/
theorem hasRefusal_drop {failure : Failure} (valid : Invariant size scheduler) {stage : Stage}
    (other : failure.isExhaustion = false) :
    (scheduler.recordOutcome id (.error failure) stage).HasRefusal id ↔
      scheduler.HasRefusal id := by
  rw [HasRefusal, HasRefusal, outcome?_recordOutcome, if_pos rfl, outcome?]
  cases found : scheduler.job? id with
  | none => simp
  | some job =>
      have settled := valid.settled id job found
      simp only [Option.bind_some, Job.finish]
      split
      case isTrue possible =>
        simp [settled.outcome_eq_none possible, JobOutcome.isRefusal, other]
      case isFalse => rfl

/-- Another job is refused as before, whatever the outcome is. -/
theorem hasRefusal_recordOutcome_of_ne {other : JobId} {outcome : JobOutcome} {stage : Stage}
    (different : id ≠ other) :
    (scheduler.recordOutcome id outcome stage).HasRefusal other ↔ scheduler.HasRefusal other := by
  rw [HasRefusal, HasRefusal, outcome?_recordOutcome, if_neg different]

/-- What was about to be recorded is recorded. -/
theorem refuses_complete_iff (valid : Invariant size scheduler) (member : task ∈ scheduler.tasks)
    {outcome : JobOutcome} (stage : task.stage = .ended outcome) :
    (scheduler.recordOutcome task.job outcome .dropped).Refuses id ↔ scheduler.Refuses id := by
  have tasks : (scheduler.recordOutcome task.job outcome .dropped).tasks =
      (scheduler.setStage task.job .dropped).tasks := rfl
  obtain ⟨job, known, unrecorded, recorded⟩ := valid.finish_of_ended member stage
  have after : (scheduler.recordOutcome task.job outcome .dropped).HasRefusal task.job ↔
      JobOutcome.isRefusal outcome = true := by
    rw [HasRefusal, outcome?_recordOutcome, if_pos rfl, known, Option.bind_some, recorded]
    simp
  have before : ¬scheduler.HasRefusal task.job := by
    rw [HasRefusal, outcome?, known, Option.bind_some, unrecorded]
    simp
  rw [Refuses, Refuses, tasks]
  simp only [setStage, valid.mem_modifyTask member]
  by_cases own : id = task.job
  · subst own
    rw [after]
    constructor
    · rintro (refused | ⟨other, rfl | ⟨inTasks, different⟩, same, refused⟩)
      · exact .inr ⟨task, member, rfl, by rw [stage]; exact refused⟩
      · cases refused
      · exact absurd same different
    · rintro (recorded | ⟨other, inTasks, same, refused⟩)
      · exact absurd recorded before
      · rw [valid.unique member inTasks same, stage] at refused
        exact .inl refused
  · rw [hasRefusal_recordOutcome_of_ne (Ne.symm own)]
    constructor
    · rintro (recorded | ⟨other, rfl | ⟨inTasks, -⟩, same, refused⟩)
      · exact .inl recorded
      · exact absurd same.symm own
      · exact .inr ⟨other, inTasks, same, refused⟩
    · rintro (recorded | ⟨other, inTasks, rfl, refused⟩)
      · exact .inl recorded
      · exact .inr ⟨other, .inr ⟨inTasks, own⟩, rfl, refused⟩

/-- A refusal that is about to be recorded has no outcome to take the place of. -/
theorem Invariant.hasRefusal_of_refuses (valid : Invariant size scheduler)
    (refuses : scheduler.Refuses id) (recorded : (scheduler.outcome? id).isSome = true) :
    scheduler.HasRefusal id := by
  rcases refuses with refusal | ⟨task, member, rfl, refused⟩
  · exact refusal
  · cases stage : task.stage <;> rw [stage] at refused <;> try cases refused
    case ended outcome =>
      obtain ⟨job, known, unrecorded, -⟩ := valid.finish_of_ended member stage
      rw [outcome?, known, Option.bind_some, unrecorded] at recorded
      contradiction

theorem droppedFailure_isExhaustion (id : JobId) :
    (scheduler.droppedFailure id).isExhaustion = false := by
  unfold droppedFailure
  split <;> rfl

/-- A step refuses a job exactly when the job asks for a permit while none is left. -/
theorem TaskStep.refuses_iff (valid : Invariant size scheduler) (member : task ∈ scheduler.tasks)
    (step : TaskStep scheduler task action next)
    (honest : ∀ ending, action = .finishPipeline task.job ending → ending.isRefusal = false) :
    next.Refuses id ↔
      scheduler.Refuses id ∨ id = task.job ∧ task.stage = .unpermitted ∧ scheduler.permits = 0 := by
  -- Most steps come from no refusal and lead to none.
  have quiet {changed : Scheduler} {change : Task → Task}
      (tasks : changed.tasks = (scheduler.modifyTask task.job change).tasks)
      (owner : (change task).job = task.job) (before : task.stage.isRefusal = false)
      (later : (change task).stage.isRefusal = false)
      (outcomes : changed.HasRefusal id ↔ scheduler.HasRefusal id)
      (asks : task.stage ≠ .unpermitted) :
      changed.Refuses id ↔ scheduler.Refuses id ∨
        id = task.job ∧ task.stage = .unpermitted ∧ scheduler.permits = 0 := by
    rw [refuses_modifyTask_iff valid member _ owner before outcomes tasks]
    simp [later, asks]
  cases step with
  | refuse stage | accept stage | queue stage | take stage | reject stage | interrupt stage
  | abandon stage | skipSetup stage | passContext stage | prepareSetup stage | enterContext stage
  | finishSetup stage | panicSetup stage | unlist stage | discard _ stage =>
      exact quiet rfl rfl (by rw [stage]; rfl) rfl Iff.rfl (by rw [stage]; nofun)
  | exhaust stage exhausted =>
      let refused := scheduler.setStage task.job (.ended (.error (.scheduler scheduler.exhaustion)))
      have moved : refused.Refuses id ↔ scheduler.Refuses id ∨ id = task.job ∧ _ :=
        refuses_modifyTask_iff valid member _ rfl (by rw [stage]; rfl) Iff.rfl rfl
      have refusal : (Stage.ended (.error (.scheduler scheduler.exhaustion))).isRefusal = true :=
        rfl
      rw [moved]
      simp [refusal, stage, exhausted]
  | permit stage available =>
      let permitted : Scheduler :=
        { scheduler.modifyTask task.job fun task =>
            { task with stage := .permitted, holdsPermit := true } with
          permits := scheduler.permits - 1 }
      have moved : permitted.Refuses id ↔ scheduler.Refuses id ∨ id = task.job ∧ _ :=
        refuses_modifyTask_iff valid member _ rfl (by rw [stage]; rfl) Iff.rfl rfl
      have left : scheduler.permits ≠ 0 := Nat.pos_iff_ne_zero.1 available
      rw [moved]
      simp [Stage.isRefusal, left]
  | start stage =>
      refine quiet rfl rfl (by rw [stage]; rfl) rfl ?_ (by rw [stage]; nofun)
      rw [HasRefusal, HasRefusal, outcome?_start]
  | finishPipeline stage ending =>
      have ended : (Stage.ended (scheduler.outcomeOf task.job ending)).isRefusal = false := by
        have endings := honest ending rfl
        cases ending with
        | returned artifact => rfl
        | failed failure => exact endings
        | panicked panic => rfl
      exact quiet rfl rfl (by rw [stage]; rfl) ended Iff.rfl (by rw [stage]; nofun)
  | complete stage =>
      rw [refuses_complete_iff valid member stage]
      simp [stage]
  | drop stage =>
      refine quiet rfl rfl (by rw [stage]; rfl) rfl ?_ (by rw [stage]; nofun)
      by_cases own : task.job = id
      · subst own
        exact hasRefusal_drop valid (droppedFailure_isExhaustion _)
      · exact hasRefusal_recordOutcome_of_ne own
  | release stage =>
      have left : ∀ other, other ∈ (scheduler.releasePermit task).tasks ↔
          other ∈ scheduler.tasks ∧ other.job ≠ task.job := by
        simp [Scheduler.releasePermit]
      have kept : (∃ other ∈ (scheduler.releasePermit task).tasks,
          other.job = id ∧ other.stage.isRefusal = true) ↔
          ∃ other ∈ scheduler.tasks, other.job = id ∧ other.stage.isRefusal = true := by
        refine exists_congr fun other => ?_
        rw [left]
        refine ⟨fun found => ⟨found.1.1, found.2⟩, fun found => ?_⟩
        refine ⟨⟨found.1, fun same => ?_⟩, found.2⟩
        have refused := found.2.2
        rw [valid.unique member found.1 same, stage] at refused
        cases refused
      rw [Refuses, kept]
      simp only [stage, reduceCtorEq, false_and, and_false, or_false]
      exact Iff.rfl

/-- No step of a task takes an outcome back. -/
theorem TaskStep.unfinished {job : Job} (step : TaskStep scheduler task action next)
    (known : next.job? id = some job) (unfinished : job.outcome = none) :
    ∃ old, scheduler.job? id = some old ∧ old.outcome = none := by
  have finishes {outcome : JobOutcome} {after : Stage}
      (known : (scheduler.recordOutcome task.job outcome after).job? id = some job) :
      ∃ old, scheduler.job? id = some old ∧ old.outcome = none := by
    obtain ⟨old, before, rfl⟩ := job?_modifyJob_eq_some_iff.1 known
    refine ⟨old, before, ?_⟩
    split at unfinished
    case isTrue =>
      simp only [Job.finish] at unfinished
      split at unfinished
      case isTrue => cases unfinished
      case isFalse => exact unfinished
    case isFalse => exact unfinished
  cases step with
  | start =>
      obtain ⟨old, before, rfl⟩ := job?_modifyJob_eq_some_iff.1 known
      refine ⟨old, before, ?_⟩
      split at unfinished
      case isTrue => exact Job.start_outcome.symm.trans unfinished
      case isFalse => exact unfinished
  | complete | drop => exact finishes known
  | _ => exact ⟨job, known, unfinished⟩

theorem outcome?_addJob {target : Target} {hasSetup : Bool} :
    (scheduler.addJob target hasSetup).outcome? id = scheduler.outcome? id := by
  simp only [outcome?, job?, addJob]
  rcases Nat.lt_trichotomy id scheduler.jobs.length with below | rfl | above
  · rw [List.getElem?_append_left below]
  · simp
  · rw [List.getElem?_eq_none (by simp; omega), List.getElem?_eq_none (by omega)]

/-- A submission refuses nothing by itself. -/
theorem refuses_addJob_iff {target : Target} {hasSetup : Bool} :
    (scheduler.addJob target hasSetup).Refuses id ↔ scheduler.Refuses id := by
  have tasks : (scheduler.addJob target hasSetup).tasks =
      scheduler.tasks ++ [{ job := scheduler.jobs.length, hasSetup }] := rfl
  simp only [Refuses, HasRefusal, outcome?_addJob, tasks, List.mem_append, List.mem_singleton,
    or_and_right, exists_or, exists_eq_left]
  simp [Stage.isRefusal]

end Scheduler

end BusBridge
