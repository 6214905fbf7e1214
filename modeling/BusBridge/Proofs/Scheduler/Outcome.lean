/-
This file proves that a job keeps its target and its first outcome, and when the artifacts of all
jobs are of the classes of their targets.
-/

import BusBridge.Proofs.Scheduler.Refusal

namespace BusBridge.Scheduler

variable {scheduler next : Scheduler} {task : Task} {action : Action} {size : PoolSize}
  {id : JobId} {job : Job}

/-- The job went on without losing its target or its outcome. -/
def Keeps (job after : Job) : Prop :=
  after.target = job.target ∧ ∀ outcome, job.outcome = some outcome → after.outcome = some outcome

/-- A step of a task keeps each job in its place. -/
theorem TaskStep.keeps (valid : Invariant size scheduler)
    (step : TaskStep scheduler task action next) (known : scheduler.job? id = some job) :
    ∃ after, next.job? id = some after ∧ Keeps job after := by
  have finished (outcome : JobOutcome) (stage : Stage) :
      ∃ after, (scheduler.recordOutcome task.job outcome stage).job? id = some after ∧
        Keeps job after := by
    refine ⟨_, job?_modifyJob_eq_some_iff.2 ⟨job, known, rfl⟩, ?_⟩
    split
    case isTrue =>
      exact ⟨Job.finish_target, fun _ => Job.finish_outcome (valid.settled id job known)⟩
    case isFalse => exact ⟨rfl, fun _ recorded => recorded⟩
  cases step with
  | start =>
      refine ⟨_, job?_modifyJob_eq_some_iff.2 ⟨job, known, rfl⟩, ?_⟩
      split
      case isTrue => exact ⟨Job.start_target, fun _ => Job.start_outcome.trans⟩
      case isFalse => exact ⟨rfl, fun _ recorded => recorded⟩
  | complete | drop => exact finished _ _
  | _ => exact ⟨job, known, rfl, fun _ recorded => recorded⟩

/-- No step changes the target of a job, or the outcome that is recorded for it. -/
theorem Step.keeps (valid : Invariant size scheduler) (step : Step scheduler action next)
    (known : scheduler.job? id = some job) :
    ∃ after, next.job? id = some after ∧ Keeps job after := by
  have same : Keeps job job := ⟨rfl, fun _ recorded => recorded⟩
  cases step with
  | join => exact ⟨job, known, same⟩
  | add => exact ⟨job, job?_addJob.2 (.inl known), same⟩
  | advance _ step => exact step.keeps valid known
  | raise | close => exact ⟨job, known, same⟩

/-- A submission is a step. -/
theorem Step.of_submit {target : Target} {hasSetup : Bool}
    (submits : scheduler.submit target hasSetup = (id, next)) :
    Step scheduler (.submit target hasSetup) next := by
  refine .of_step? ?_
  rw [step?, submits]

/-- The job that a submission joins or adds is of its target. -/
theorem Invariant.submit_target {target : Target} {hasSetup : Bool}
    (valid : Invariant size scheduler)
    (submits : scheduler.submit target hasSetup = (id, next)) :
    ∃ job, next.job? id = some job ∧ job.target = target := by
  unfold submit at submits
  split at submits <;> cases submits
  case h_1 found =>
    obtain ⟨listed, inTable, found⟩ := Option.bind_eq_some_iff.1 found
    obtain ⟨job, known, found⟩ := Option.bind_eq_some_iff.1 found
    split at found <;> cases found
    case isTrue =>
      obtain ⟨before, after, split, -⟩ := List.lookup_eq_some_iff.1 inTable
      obtain ⟨other, same, target⟩ := valid.entries (target, id) (by simp [split])
      exact ⟨other, same, target⟩
  case h_2 => exact ⟨{ target }, job?_addJob.2 (.inr ⟨rfl, rfl⟩), rfl⟩

/-- A recorded outcome stays. -/
theorem Step.outcome?_eq_some {outcome : JobOutcome} (valid : Invariant size scheduler)
    (step : Step scheduler action next) (recorded : scheduler.outcome? id = some outcome) :
    next.outcome? id = some outcome := by
  obtain ⟨job, known, recorded⟩ := Option.bind_eq_some_iff.1 recorded
  obtain ⟨after, inNext, -, kept⟩ := step.keeps valid known
  exact Option.bind_eq_some_iff.2 ⟨after, inNext, kept outcome recorded⟩

/-- A job that is known has a target. -/
theorem targetOf_eq (known : scheduler.job? id = some job) :
    scheduler.targetOf id = job.target := by
  simp [targetOf, known]

/-- What a step of a task adds to the outcomes, recorded or about to be. -/
inductive Brings (scheduler : Scheduler) (task : Task) : Action → JobOutcome → Prop where
  | shutDown {action : Action} (raised : scheduler.isShutDown = true) :
      Brings scheduler task action (.error (.scheduler .shutDown))
  | exhaust (stage : task.stage = .unpermitted) (exhausted : scheduler.permits = 0) :
      Brings scheduler task (.acquirePermit task.job) (.error (.scheduler scheduler.exhaustion))
  | panic (panic : Panic) :
      Brings scheduler task (.panicSetup task.job panic)
        (.error (scheduler.interruption task.job panic.reason))
  | finish (ending : PipelineEnd) :
      Brings scheduler task (.finishPipeline task.job ending)
        (scheduler.outcomeOf task.job ending)
  | drop (stage : task.stage = .dropped) (unrecorded : scheduler.outcome? task.job = none) :
      Brings scheduler task (.recordOutcome task.job)
        (.error (scheduler.droppedFailure task.job))

/-- Each outcome, recorded or about to be, is one that the target of its job may have. -/
structure HasOutcomes (may : Target → JobOutcome → Prop) (scheduler : Scheduler) : Prop where
  jobs : ∀ id job outcome, scheduler.job? id = some job → job.outcome = some outcome →
    may job.target outcome
  tasks : ∀ task ∈ scheduler.tasks, ∀ outcome, task.stage = .ended outcome →
    may (scheduler.targetOf task.job) outcome

section

variable {may : Target → JobOutcome → Prop}

/-- A new scheduler has no outcome. -/
theorem HasOutcomes.create (created : create size = .ok scheduler) :
    HasOutcomes may scheduler := by
  constructor
  case jobs =>
    intro id job outcome known
    cases (job?_of_create created id).symm.trans known
  case tasks =>
    intro task member
    rw [tasks_of_create created] at member
    cases member

/-- What the task brings to its end is an outcome that its target may have. -/
theorem HasOutcomes.setStage (has : HasOutcomes may scheduler) (valid : Invariant size scheduler)
    (member : task ∈ scheduler.tasks) {change : Task → Task}
    (jobs : next.jobs = scheduler.jobs)
    (tasks : next.tasks = (scheduler.modifyTask task.job change).tasks)
    (same : (change task).job = task.job)
    (own : ∀ outcome, (change task).stage = .ended outcome →
      may (scheduler.targetOf task.job) outcome) : HasOutcomes may next := by
  have job? : ∀ id, next.job? id = scheduler.job? id := fun id => by rw [Scheduler.job?, jobs]; rfl
  have target : ∀ id, next.targetOf id = scheduler.targetOf id := by simp [targetOf, job?]
  constructor
  case jobs =>
    intro id job outcome known
    exact has.jobs id job outcome (job? id ▸ known)
  case tasks =>
    intro other inTasks outcome ends
    rw [target]
    rw [tasks, valid.mem_modifyTask member] at inTasks
    rcases inTasks with rfl | ⟨before, -⟩
    · rw [same]
      exact own outcome ends
    · exact has.tasks other before outcome ends

/-- A job keeps its outcome, or gets one that its target may have. -/
theorem HasOutcomes.modifyJob (has : HasOutcomes may scheduler) (valid : Invariant size scheduler)
    (member : task ∈ scheduler.tasks) {change : Job → Job} {stage : Stage}
    (target : ∀ job, (change job).target = job.target)
    (outcome : ∀ job outcome, scheduler.job? task.job = some job →
      (change job).outcome = some outcome → job.outcome = some outcome ∨ may job.target outcome)
    (running : ∀ outcome, stage ≠ .ended outcome) :
    HasOutcomes may ((scheduler.modifyJob task.job change).setStage task.job stage) := by
  have targets : ∀ id,
      ((scheduler.modifyJob task.job change).setStage task.job stage).targetOf id =
        scheduler.targetOf id := by
    intro id
    change (((scheduler.modifyJob task.job change).job? id).map Job.target).getD default = _
    rw [job?_modifyJob, Option.map_map, targetOf]
    congr 2
    funext job
    simp only [Function.comp_apply]
    split
    · exact target job
    · rfl
  constructor
  case jobs =>
    intro id job result inNext ended
    obtain ⟨old, known, rfl⟩ := job?_modifyJob_eq_some_iff.1 inNext
    split at ended
    case isTrue same =>
      rw [if_pos same, target]
      subst same
      rcases outcome old result known ended with before | brought
      · exact has.jobs task.job old result known before
      · exact brought
    case isFalse other =>
      rw [if_neg other]
      exact has.jobs id old result known ended
  case tasks =>
    intro other inTasks result ends
    rw [targets]
    rcases (valid.mem_modifyTask member).1 inTasks with rfl | ⟨before, -⟩
    · exact absurd ends (running result)
    · exact has.tasks other before result ends

/-- A step of a task records only what it may. -/
theorem HasOutcomes.taskStep (has : HasOutcomes may scheduler) (valid : Invariant size scheduler)
    (member : task ∈ scheduler.tasks) (step : TaskStep scheduler task action next)
    (brings : ∀ outcome, Brings scheduler task action outcome →
      may (scheduler.targetOf task.job) outcome) : HasOutcomes may next := by
  have brought {outcome : JobOutcome} (new : Brings scheduler task action outcome) :
      ∀ other, Stage.ended outcome = .ended other → may (scheduler.targetOf task.job) other := by
    rintro _ ⟨⟩
    exact brings outcome new
  cases step with
  | refuse stage raised | interrupt stage raised =>
      exact has.setStage valid member rfl rfl rfl (brought (.shutDown raised))
  | exhaust stage exhausted =>
      exact has.setStage valid member rfl rfl rfl (brought (.exhaust stage exhausted))
  | panicSetup stage panic =>
      exact has.setStage valid member rfl rfl rfl (brought (.panic panic))
  | finishPipeline stage ending =>
      exact has.setStage valid member rfl rfl rfl (brought (.finish ending))
  | start =>
      exact has.modifyJob valid member (fun _ => Job.start_target)
        (fun _ _ _ recorded => .inl (Job.start_outcome.symm.trans recorded)) (by simp)
  | complete stage =>
      refine has.modifyJob valid member (fun _ => Job.finish_target) ?_ (by simp)
      intro job outcome known recorded
      simp only [Job.finish] at recorded
      split at recorded
      case isTrue =>
        cases recorded
        rw [← targetOf_eq known]
        exact .inr (has.tasks task member _ stage)
      case isFalse => exact .inl recorded
  | drop stage =>
      refine has.modifyJob valid member (fun _ => Job.finish_target) ?_ (by simp)
      intro job outcome known recorded
      simp only [Job.finish] at recorded
      split at recorded
      case isTrue possible =>
        cases recorded
        have unrecorded := (valid.settled task.job job known).outcome_eq_none possible
        rw [← targetOf_eq known]
        refine .inr (brings _ (.drop stage ?_))
        rw [outcome?, known, Option.bind_some, unrecorded]
      case isFalse => exact .inl recorded
  | release =>
      refine ⟨has.jobs, fun other inTasks => has.tasks other ?_⟩
      exact (List.mem_filter.1 inTasks).1
  | accept | permit | queue | reject | take | abandon | prepareSetup | skipSetup | passContext
  | enterContext | finishSetup | unlist | discard =>
      exact has.setStage valid member rfl rfl rfl (by simp)

/-- A new job has no outcome. -/
theorem HasOutcomes.addJob (has : HasOutcomes may scheduler) (valid : Invariant size scheduler)
    {target : Target} {hasSetup : Bool} :
    HasOutcomes may (scheduler.addJob target hasSetup) := by
  constructor
  case jobs =>
    intro id job outcome known recorded
    rcases job?_addJob.1 known with before | ⟨-, rfl⟩
    · exact has.jobs id job outcome before recorded
    · cases recorded
  case tasks =>
    intro task inTasks outcome stage
    rcases List.mem_append.1 inTasks with before | new
    · obtain ⟨job, known, -⟩ := valid.agrees task before
      rw [targetOf_eq (job?_addJob.2 (.inl known)), ← targetOf_eq known]
      exact has.tasks task before outcome stage
    · rw [List.mem_singleton.1 new] at stage
      cases stage

/-- A submission records no outcome. -/
theorem HasOutcomes.submit (has : HasOutcomes may scheduler) (valid : Invariant size scheduler)
    (target : Target) (hasSetup : Bool) :
    HasOutcomes may (scheduler.submit target hasSetup).2 := by
  unfold Scheduler.submit
  split
  case h_1 => exact has
  case h_2 => exact has.addJob valid

end

/-- The artifact of each job, recorded or about to be, is of the class of its target. -/
structure OwnsOutcomes (scheduler : Scheduler) : Prop where
  jobs : ∀ id job artifact, scheduler.job? id = some job → job.outcome = some (.ok artifact) →
    artifact.className = job.target.className
  tasks : ∀ task ∈ scheduler.tasks, ∀ artifact, task.stage = .ended (.ok artifact) →
    artifact.className = (scheduler.targetOf task.job).className

/-- The pipelines return artifacts of the classes of their targets. -/
def OwnEnding (scheduler : Scheduler) (action : Action) : Prop :=
  ∀ id artifact, action = .finishPipeline id (.returned artifact) →
    artifact.className = (scheduler.targetOf id).className

instance : DecidableRel OwnEnding := fun scheduler action =>
  match action with
  | .finishPipeline id (.returned artifact) =>
      decidable_of_iff (artifact.className = (scheduler.targetOf id).className)
        ⟨by rintro own _ _ ⟨⟩; exact own, fun owns => owns id artifact rfl⟩
  | .finishPipeline _ (.failed _) | .finishPipeline _ (.panicked _) | .submit .. | .checkFlag _
  | .acquirePermit _ | .enqueue _ | .take _ | .start _ | .prepare _ | .enterContext _
  | .finishSetup _ | .panicSetup .. | .recordOutcome _ | .removeEntry _ | .releasePermit _
  | .discard _ | .raiseFlag | .closePool => .isTrue nofun

/-- Only artifacts are looked at. -/
theorem ownsOutcomes_iff : OwnsOutcomes scheduler ↔
    HasOutcomes (fun target outcome => ∀ artifact, outcome = .ok artifact →
      artifact.className = target.className) scheduler := by
  constructor
  · intro owns
    constructor
    case jobs =>
      rintro id job _ known recorded artifact rfl
      exact owns.jobs id job artifact known recorded
    case tasks =>
      rintro task member _ stage artifact rfl
      exact owns.tasks task member artifact stage
  · intro has
    exact ⟨fun id job artifact known recorded => has.jobs id job _ known recorded artifact rfl,
      fun task member artifact stage => has.tasks task member _ stage artifact rfl⟩

/-- Each step keeps the outcomes with their own targets. -/
theorem OwnsOutcomes.step (owns : OwnsOutcomes scheduler) (valid : Invariant size scheduler)
    (step : Step scheduler action next) (honest : OwnEnding scheduler action) :
    OwnsOutcomes next := by
  cases step with
  | join => exact owns
  | add => exact ownsOutcomes_iff.2 ((ownsOutcomes_iff.1 owns).addJob valid)
  | advance member step =>
      refine ownsOutcomes_iff.2 ((ownsOutcomes_iff.1 owns).taskStep valid member step ?_)
      rintro _ (_ | _ | _ | ending | _) artifact same
      case finish =>
        cases ending with
        | returned other =>
            cases same
            exact honest _ artifact rfl
        | failed | panicked => cases same
      all_goals cases same
  | raise | close => exact ⟨owns.jobs, owns.tasks⟩

end BusBridge.Scheduler
