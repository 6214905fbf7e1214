/-
This file proves when a generation pass runs out of permits: exactly when it asks for one while a
job that ended has not given its own back.
-/

import BusBridge.Proofs.Configuration
import BusBridge.Proofs.Engine.PassRun
import Mathlib.Data.List.Perm.Subperm

namespace BusBridge

namespace GenerationReport

/-- A target of the report failed for want of a permit. -/
def HasExhaustion (report : GenerationReport) : Prop :=
  ∃ entry ∈ report.failures, entry.2.isExhaustion = true

/-- A result adds an exhaustion when it is one. -/
theorem hasExhaustion_add_iff {report : GenerationReport} {target : Target}
    {result : Except Failure String} :
    (report.add target result).HasExhaustion ↔
      report.HasExhaustion ∨
        ∃ failure, result = .error failure ∧ failure.isExhaustion = true := by
  cases result with
  | ok name =>
      have failures : (report.add target (.ok name)).failures = report.failures := by
        simp [add, GenerationReport.failures, List.filterMap_append]
      simp [HasExhaustion, failures]
  | error failure =>
      have failures : (report.add target (.error failure)).failures =
          report.failures ++ [(target, failure)] := by
        simp [add, GenerationReport.failures, List.filterMap_append]
      simp [HasExhaustion, failures, or_and_right, exists_or]

end GenerationReport

namespace GenerationPass

variable {pass : GenerationPass}

/-- The jobs of a pass are those that its targets in flight wait for. -/
theorem mem_jobs_iff {id : JobId} :
    id ∈ pass.jobs ↔ ∃ pending ∈ pass.inFlight, pending.state = .running id := by
  have runs : ∀ state : PendingState, state.job? = some id ↔ state = .running id := by
    intro state
    cases state <;> simp [PendingState.job?]
  simp [jobs, List.mem_filterMap, runs]

/-- No target waits for more than one job. -/
theorem length_jobs_le : pass.jobs.length ≤ pass.inFlight.length :=
  List.length_filterMap_le ..

end GenerationPass

namespace PassRun

variable {size : PoolSize} {run next : PassRun} {task : Task} {engine : Engine}

/-- A request was refused. -/
def Refused (run : PassRun) (id : JobId) : Prop :=
  ∃ request ∈ run.requests, request.job = id ∧ request.left = 0

/-- What every step of a run keeps. -/
structure Invariant (size : PoolSize) (run : PassRun) : Prop where
  positive : 0 < size.maxPendingJobs
  scheduler : Scheduler.Invariant size run.scheduler
  configured : run.pass.engine.configuration.maxPendingJobs = size.maxPendingJobs
  works : ∀ entry ∈ run.pass.engine.run.works, ∀ scanner,
    (entry.2.pipeline scanner).result.isRefusal = false
  commits : run.pass.engine.commits.IsUnrefused
  window : run.pass.inFlight.length ≤ size.maxPendingJobs
  begun : run.stage = .begun → run.pass.inFlight = []
  finished : run.stage = .finished → run.pass.inFlight = []
  awaited : ∀ id job, run.scheduler.job? id = some job → job.outcome = none →
    id ∈ run.pass.jobs
  refused : ∀ id, run.scheduler.Refuses id ↔ run.Refused id
  late : ∀ request ∈ run.requests, request.left = 0 → request.late ≠ []
  reported : run.pass.report.HasExhaustion → ∃ id, run.Refused id
  covered : ∀ id, run.Refused id → id ∈ run.pass.jobs ∨ run.pass.report.HasExhaustion

/-- A job without an outcome is waited for. -/
theorem Invariant.mem_jobs (valid : Invariant size run) (member : task ∈ run.scheduler.tasks)
    (unfinished : run.scheduler.outcome? task.job = none) : task.job ∈ run.pass.jobs := by
  obtain ⟨job, known, -⟩ := valid.scheduler.agrees task member
  rw [Scheduler.outcome?, known] at unfinished
  exact valid.awaited task.job job known unfinished

/-- A job without a permit has no outcome yet. -/
theorem Invariant.outcome?_of_unpermitted (valid : Invariant size run)
    (member : task ∈ run.scheduler.tasks) (stage : task.stage = .unpermitted) :
    run.scheduler.outcome? task.job = none := by
  obtain ⟨job, known, admitted⟩ := valid.scheduler.agrees task member
  rw [stage] at admitted
  have pending : job.state = .pending := admitted
  rw [Scheduler.outcome?, known]
  exact (valid.scheduler.settled task.job job known).outcome_eq_none
    (show job.state.canBecome .running = true by rw [pending]; rfl)

/-- The jobs of the pass would outnumber its window, if every permit were held by a job without an
outcome while one more asks. -/
theorem Invariant.lateJobs_ne_nil (valid : Invariant size run) (member : task ∈ run.scheduler.tasks)
    (stage : task.stage = .unpermitted) (exhausted : run.scheduler.permits = 0) :
    run.scheduler.lateJobs ≠ [] := by
  intro punctual
  let holders := run.scheduler.tasks.filter Task.holdsPermit
  have apart : ((task :: holders).map Task.job).Nodup := by
    rw [List.map_cons, List.nodup_cons]
    refine ⟨fun found => ?_, valid.scheduler.distinct.sublist (List.filter_sublist.map Task.job)⟩
    obtain ⟨other, inHolders, same⟩ := List.mem_map.1 found
    obtain ⟨inTasks, holds⟩ := List.mem_filter.1 inHolders
    rw [valid.scheduler.unique member inTasks same,
      valid.scheduler.unheld task member (by rw [stage]; rfl)] at holds
    contradiction
  have inside : (task :: holders).map Task.job ⊆ run.pass.jobs := by
    rw [List.map_cons, List.cons_subset]
    refine ⟨valid.mem_jobs member (valid.outcome?_of_unpermitted member stage), fun id found => ?_⟩
    obtain ⟨other, inHolders, rfl⟩ := List.mem_map.1 found
    obtain ⟨inTasks, holds⟩ := List.mem_filter.1 inHolders
    refine valid.mem_jobs inTasks ?_
    have early := List.filter_eq_nil_iff.1 (List.map_eq_nil_iff.1 punctual) other inTasks
    simpa [holds] using early
  have fewer : ((task :: holders).map Task.job).length ≤ run.pass.inFlight.length :=
    Nat.le_trans (apart.subperm inside).length_le GenerationPass.length_jobs_le
  have held := valid.scheduler.permits
  rw [exhausted, List.countP_eq_length_filter] at held
  have window := valid.window
  simp only [List.map_cons, List.length_cons, List.length_map, holders] at fewer
  omega

/-- A task asks for a permit at one stage only. -/
theorem mem_requestsOf_iff {scheduler : Scheduler} {request : PermitRequest} :
    request ∈ requestsOf scheduler task ↔
      task.stage = .unpermitted ∧ request = ⟨task.job, scheduler.permits, scheduler.lateJobs⟩ := by
  cases stage : task.stage <;> simp [requestsOf, stage]

/-- The pipelines of the pass do not refuse a job. -/
theorem Invariant.isRefusal_of_changesWorld {action : Action} {scanner : Scanner}
    (valid : Invariant size run)
    (changes : run.pass.engine.run.ChangesWorld task action scanner) (ending : PipelineEnd)
    (ends : action = .finishPipeline task.job ending) : ending.isRefusal = false := by
  subst ends
  obtain ⟨work, known, rfl⟩ := changes.exists_work
  obtain ⟨before, after, split, -⟩ := List.lookup_eq_some_iff.1 known
  exact valid.works (task.job, work) (by simp [split]) run.pass.engine.run.world

/-- What a move of a task means for the jobs. -/
theorem Invariant.scheduler_moveTask (valid : Invariant size run)
    (member : task ∈ run.scheduler.tasks) {moved : SchedulerRun Scanner}
    (move : SchedulerRun.Move run.pass.engine.run task moved) :
    Scheduler.Invariant size moved.scheduler ∧
    (∀ id job, moved.scheduler.job? id = some job → job.outcome = none →
      ∃ old, run.scheduler.job? id = some old ∧ old.outcome = none) ∧
    ∀ id, moved.scheduler.Refuses id ↔ run.scheduler.Refuses id ∨
      id = task.job ∧ task.stage = .unpermitted ∧ run.scheduler.permits = 0 := by
  cases move with
  | enter stage _ _ same =>
      have same : moved.scheduler = run.scheduler := same
      rw [same]
      refine ⟨valid.scheduler, fun id job known unfinished => ⟨job, known, unfinished⟩, ?_⟩
      simp [stage]
  | step action step _ changes =>
      exact ⟨valid.scheduler.taskStep member step, fun id job => step.unfinished,
        fun id =>
          step.refuses_iff valid.scheduler member (valid.isRefusal_of_changesWorld changes)⟩

/-- A move of a task keeps the invariant. -/
theorem Invariant.moveTask (valid : Invariant size run) (member : task ∈ run.scheduler.tasks)
    (possible : run.moveTask? task = some next) : Invariant size next := by
  obtain ⟨moved, moves, rfl⟩ := Option.map_eq_some_iff.1 possible
  obtain ⟨works, move⟩ := SchedulerRun.Move.of_moveTask? valid.scheduler member moves
  obtain ⟨after, unfinished, refuses⟩ := valid.scheduler_moveTask member move
  have refused : ∀ id, (∃ request ∈ run.requests ++ requestsOf run.scheduler task,
      request.job = id ∧ request.left = 0) ↔
        run.Refused id ∨
          id = task.job ∧ task.stage = .unpermitted ∧ run.scheduler.permits = 0 := by
    intro id
    constructor
    · rintro ⟨request, inRequests, same, exhausted⟩
      rcases List.mem_append.1 inRequests with old | new
      · exact .inl ⟨request, old, same, exhausted⟩
      · obtain ⟨stage, rfl⟩ := mem_requestsOf_iff.1 new
        exact .inr ⟨same.symm, stage, exhausted⟩
    · rintro (⟨request, old, same, exhausted⟩ | ⟨rfl, stage, exhausted⟩)
      · exact ⟨request, List.mem_append_left _ old, same, exhausted⟩
      · exact ⟨_, List.mem_append_right _ (mem_requestsOf_iff.2 ⟨stage, rfl⟩), rfl, exhausted⟩
  constructor
  case scheduler => exact after
  case works => exact fun entry inWorks => valid.works entry (works ▸ inWorks)
  case awaited =>
    intro id job known waiting
    obtain ⟨old, before, waiting⟩ := unfinished id job known waiting
    exact valid.awaited id old before waiting
  case refused => exact fun id => (refuses id).trans ((or_congr_left (valid.refused id)).trans
    (refused id).symm)
  case late =>
    intro request inRequests exhausted
    rcases List.mem_append.1 inRequests with old | new
    · exact valid.late request old exhausted
    · obtain ⟨stage, rfl⟩ := mem_requestsOf_iff.1 new
      exact valid.lateJobs_ne_nil member stage exhausted
  case reported =>
    intro exhaustion
    obtain ⟨id, old⟩ := valid.reported exhaustion
    exact ⟨id, (refused id).2 (.inl old)⟩
  case covered =>
    intro id requested
    rcases (refused id).1 requested with old | ⟨rfl, stage, -⟩
    · exact valid.covered id old
    · exact .inl (valid.mem_jobs member (valid.outcome?_of_unpermitted member stage))
  case positive => exact valid.positive
  case configured => exact valid.configured
  case commits => exact valid.commits
  case window => exact valid.window
  case begun => exact valid.begun
  case finished => exact valid.finished

/-- A submission adds at most the one job that it is about. -/
theorem submit_invariant {scheduler submitted : Scheduler} {target : Target} {hasSetup : Bool}
    {job : JobId} (valid : Scheduler.Invariant size scheduler)
    (submits : (job, submitted) = scheduler.submit target hasSetup) :
    Scheduler.Invariant size submitted ∧
    (∀ id found, submitted.job? id = some found →
      scheduler.job? id = some found ∨ id = job) ∧
    ∀ id, submitted.Refuses id ↔ scheduler.Refuses id := by
  unfold Scheduler.submit at submits
  split at submits <;> cases submits
  case h_1 => exact ⟨valid, fun _ _ known => .inl known, fun _ => Iff.rfl⟩
  case h_2 free =>
    refine ⟨valid.addJob free, fun id found known => ?_, fun _ => Scheduler.refuses_addJob_iff⟩
    exact (Scheduler.job?_addJob.1 known).imp_right And.left

/-- A pass with room in its window may hand in a target. -/
theorem Invariant.handIn (valid : Invariant size run) {target : Target} {stage : PassStage}
    (room : run.pass.inFlight.length < size.maxPendingJobs)
    (busy : stage ≠ .begun ∧ stage ≠ .finished) :
    Invariant size { run with pass := run.pass.handIn target, stage } := by
  obtain ⟨configured, commits, handed⟩ := Engine.handIn_cases run.pass.engine target
  have jobs : ∀ id, id ∈ (run.pass.handIn target).jobs ↔
      id ∈ run.pass.jobs ∨ (run.pass.engine.handIn target).1.state = .running id := by
    intro id
    simp [GenerationPass.mem_jobs_iff, GenerationPass.handIn, or_and_right, exists_or]
  have submitted : Scheduler.Invariant size (run.pass.engine.handIn target).2.run.scheduler ∧
      (∀ id found, (run.pass.engine.handIn target).2.run.scheduler.job? id = some found →
        run.scheduler.job? id = some found ∨
          (run.pass.engine.handIn target).1.state = .running id) ∧
      ∀ id, (run.pass.engine.handIn target).2.run.scheduler.Refuses id ↔
        run.scheduler.Refuses id := by
    rcases handed with ⟨⟨-, same, -⟩, -⟩ | ⟨job, running, submits, -⟩
    · rw [same]
      exact ⟨valid.scheduler, fun _ _ known => .inl known, fun _ => Iff.rfl⟩
    · obtain ⟨after, known, refuses⟩ := submit_invariant valid.scheduler submits
      refine ⟨after, fun id found inNext => ?_, refuses⟩
      rw [running, PendingState.running.injEq]
      exact (known id found inNext).imp_right Eq.symm
  obtain ⟨after, known, refuses⟩ := submitted
  constructor
  case scheduler => exact after
  case configured => exact (congrArg Configuration.maxPendingJobs configured).trans valid.configured
  case works =>
    intro entry inWorks
    rcases handed with ⟨⟨-, -, same⟩, -⟩ | ⟨-, -, -, works⟩
    · exact valid.works entry (same ▸ inWorks)
    · rcases works entry inWorks with old | new
      · exact valid.works entry old
      · rw [new]
        exact Pipeline.work_isRefusal _ _ _
  case commits =>
    change (run.pass.engine.handIn target).2.commits.IsUnrefused
    rw [commits]
    exact valid.commits
  case window =>
    change (run.pass.inFlight ++ [_]).length ≤ _
    rw [List.length_append]
    exact room
  case awaited =>
    intro id job inNext waiting
    rw [jobs]
    exact (known id job inNext).imp_left fun before => valid.awaited id job before waiting
  case refused => exact fun id => (refuses id).trans (valid.refused id)
  case covered =>
    intro id requested
    rw [jobs]
    exact (valid.covered id requested).imp_left .inl
  case begun => exact fun same => absurd same busy.1
  case finished => exact fun same => absurd same busy.2
  case positive => exact valid.positive
  case late => exact valid.late
  case reported => exact valid.reported

/-- A pass may finish its oldest target when the job of that target has an outcome. -/
theorem Invariant.finishOldest (valid : Invariant size run) {pass : GenerationPass}
    {stage : PassStage} (possible : run.pass.finishOldest? = some pass)
    (busy : stage ≠ .begun ∧ stage ≠ .finished) : Invariant size { run with pass, stage } := by
  obtain ⟨oldest, rest, inFlight, ready, rfl⟩ := GenerationPass.finishOldest?_eq_some possible
  obtain ⟨configured, same, works⟩ :
      run.pass.engine.SamePlan (run.pass.engine.finishTarget oldest {}).2 :=
    Engine.samePlan_finishTarget
  have recorded : ∀ job, oldest.state = .running job →
      (run.scheduler.outcome? job).isSome = true := by
    intro job state
    rw [state] at ready
    exact ready
  have exhaustion : (∃ failure, (run.pass.engine.finishTarget oldest {}).1 = .error failure ∧
      failure.isExhaustion = true) ↔
        ∃ job, oldest.state = .running job ∧ run.scheduler.HasRefusal job :=
    Engine.finishTarget_isExhaustion_iff valid.commits recorded
  have jobs : ∀ id, id ∈ run.pass.jobs ↔ oldest.state = .running id ∨
      ∃ pending ∈ rest, pending.state = .running id := by
    simp [GenerationPass.mem_jobs_iff, inFlight]
  constructor
  case scheduler =>
    change Scheduler.Invariant size (run.pass.engine.finishTarget oldest {}).2.run.scheduler
    rw [same]
    exact valid.scheduler
  case configured => exact (congrArg Configuration.maxPendingJobs configured).trans valid.configured
  case works => exact fun entry inWorks => valid.works entry (works ▸ inWorks)
  case commits => exact Engine.finishTarget_isUnrefused valid.commits
  case window =>
    have window := valid.window
    rw [inFlight] at window
    exact Nat.le_of_succ_le window
  case awaited =>
    intro id job known waiting
    have known : run.scheduler.job? id = some job :=
      (congrArg (Scheduler.job? · id) same).symm.trans known
    rw [GenerationPass.mem_jobs_iff]
    rcases (jobs id).1 (valid.awaited id job known waiting) with state | later
    · have ended := recorded id state
      rw [Scheduler.outcome?, known, Option.bind_some, waiting] at ended
      contradiction
    · exact later
  case refused =>
    intro id
    change (run.pass.engine.finishTarget oldest {}).2.run.scheduler.Refuses id ↔ _
    rw [same]
    exact valid.refused id
  case reported =>
    intro reported
    rcases GenerationReport.hasExhaustion_add_iff.1 reported with before | failed
    · exact valid.reported before
    · obtain ⟨job, -, refusal⟩ := exhaustion.1 failed
      exact ⟨job, (valid.refused job).1 (.inl refusal)⟩
  case covered =>
    -- The refusal of the job that is finished goes from its outcome to the report.
    intro id requested
    rw [GenerationPass.mem_jobs_iff]
    rcases valid.covered id requested with waiting | before
    · rcases (jobs id).1 waiting with state | later
      · have refuses := (valid.refused id).2 requested
        have refusal := valid.scheduler.hasRefusal_of_refuses refuses (recorded id state)
        exact .inr (GenerationReport.hasExhaustion_add_iff.2
          (.inr (exhaustion.2 ⟨id, state, refusal⟩)))
      · exact .inl later
    · exact .inr (GenerationReport.hasExhaustion_add_iff.2 (.inl before))
  case begun => exact fun same => absurd same busy.1
  case finished => exact fun same => absurd same busy.2
  case positive => exact valid.positive
  case late => exact valid.late

/-- A scan and the end of the pass have nothing to do with jobs. -/
theorem Invariant.congr (valid : Invariant size run) {pass : GenerationPass} {stage : PassStage}
    (same : run.pass.engine.SamePlan pass.engine)
    (commits : pass.engine.commits = run.pass.engine.commits)
    (report : pass.report.outcomes = run.pass.report.outcomes)
    (inFlight : pass.inFlight = run.pass.inFlight) (later : stage ≠ .begun)
    (idle : stage = .finished → run.pass.inFlight = []) :
    Invariant size { run with pass, stage } := by
  obtain ⟨configured, scheduler, works⟩ := same
  have exhaustion : pass.report.HasExhaustion ↔ run.pass.report.HasExhaustion := by
    simp only [GenerationReport.HasExhaustion, GenerationReport.failures, report]
  have jobs : pass.jobs = run.pass.jobs := by
    rw [GenerationPass.jobs, inFlight, GenerationPass.jobs]
  constructor
  case scheduler =>
    change Scheduler.Invariant size pass.engine.run.scheduler
    rw [scheduler]
    exact valid.scheduler
  case configured => exact (congrArg Configuration.maxPendingJobs configured).trans valid.configured
  case works => exact fun entry inWorks => valid.works entry (works ▸ inWorks)
  case commits => exact commits ▸ valid.commits
  case window => exact inFlight ▸ valid.window
  case begun => exact fun same => absurd same later
  case finished => exact fun same => inFlight.trans (idle same)
  case awaited =>
    intro id job known waiting
    rw [jobs]
    exact valid.awaited id job ((congrArg (Scheduler.job? · id) scheduler).symm.trans known) waiting
  case refused =>
    intro id
    change pass.engine.run.scheduler.Refuses id ↔ _
    rw [scheduler]
    exact valid.refused id
  case reported => exact fun reported => valid.reported (exhaustion.1 reported)
  case covered =>
    intro id requested
    rw [jobs]
    exact (valid.covered id requested).imp_right exhaustion.2
  case positive => exact valid.positive
  case late => exact valid.late

/-- The window is as wide as the limit of pending jobs. -/
theorem Invariant.window_eq (valid : Invariant size run) :
    run.pass.window = size.maxPendingJobs := by
  have positive := valid.positive
  rw [GenerationPass.window, valid.configured]
  omega

/-- A step of the thread of the pass keeps the invariant. -/
theorem Invariant.movePass (valid : Invariant size run) (goes : ThreadStep run next) :
    Invariant size next := by
  cases goes with
  | startLoader begun =>
      refine valid.handIn ?_ ⟨nofun, nofun⟩
      rw [valid.begun begun]
      exact valid.positive
  | finishLoader _ finishes => exact valid.finishOldest finishes ⟨nofun, nofun⟩
  | scan =>
      have later : PassStage.afterScan run.pass.window run.pass.scan.1 ≠ .begun ∧
          PassStage.afterScan run.pass.window run.pass.scan.1 ≠ .finished := by
        unfold PassStage.afterScan
        split <;> exact ⟨nofun, nofun⟩
      exact valid.congr (.refl _) rfl rfl rfl later.1 fun ended => absurd ended later.2
  | startBean _ room =>
      refine valid.handIn ?_ ⟨nofun, nofun⟩
      rw [valid.window_eq] at room
      exact Nat.lt_of_le_of_ne valid.window room
  | finishBean stage _ finishes =>
      exact valid.finishOldest finishes (by rw [stage]; exact ⟨nofun, nofun⟩)
  | close _ idle => exact valid.congr (.refl _) rfl rfl rfl nofun fun _ => idle

/-- Each step keeps the invariant. -/
theorem Invariant.step {action : PassAction} (valid : Invariant size run)
    (possible : run.step? action = some next) : Invariant size next := by
  cases Step.of_step? possible with
  | task member moves => exact valid.moveTask member moves
  | thread goes => exact valid.movePass goes

/-- The invariant holds at the start of a pass. -/
theorem Invariant.begin {configuration : Configuration} {source : UniverseSource} {files : Files}
    {sink : Sink} (started : Engine.start configuration source files sink = .ok engine) :
    Invariant (.ofConfiguration configuration) (begin engine) := by
  obtain ⟨accepted, scheduler, created, rfl⟩ := Engine.start_eq_ok started
  have valid := Scheduler.Invariant.create created
  constructor
  case scheduler => exact valid
  case positive => exact Configuration.maxPendingJobs_pos_of_validate accepted
  case configured => rfl
  case works => simp [PassRun.begin]
  case commits => simp [PassRun.begin, CommitGates.IsUnrefused]
  case window => exact Nat.zero_le _
  case begun => exact fun _ => rfl
  case finished => exact fun _ => rfl
  case awaited =>
    intro id job known
    cases (Scheduler.job?_of_create created id).symm.trans known
  case refused =>
    intro id
    have refuses : ¬scheduler.Refuses id := by
      simp [Scheduler.Refuses, Scheduler.HasRefusal, Scheduler.outcome?,
        Scheduler.job?_of_create created, Scheduler.tasks_of_create created]
    exact ⟨fun refused => absurd refused refuses, by simp [PassRun.begin, Refused]⟩
  case late => simp [PassRun.begin]
  case reported => simp [PassRun.begin, GenerationReport.HasExhaustion, GenerationReport.failures]
  case covered => simp [PassRun.begin, Refused]

/-- The invariant holds in the whole pass. -/
theorem Reachable.invariant {configuration : Configuration} {source : UniverseSource}
    {files : Files} {sink : Sink}
    (started : Engine.start configuration source files sink = .ok engine)
    (reached : Reachable engine run) : Invariant (.ofConfiguration configuration) run := by
  induction reached with
  | begin => exact .begin started
  | step _ possible ih => exact ih.step possible

/-- A pass reports that a target got no permit exactly when one of its requests was refused. A
request is refused only while a job that ended has not given its permit back. -/
theorem exhaustion_iff_refused {configuration : Configuration} {source : UniverseSource}
    {files : Files} {sink : Sink}
    (started : Engine.start configuration source files sink = .ok engine)
    (reached : Reachable engine run) (done : run.stage = .finished) :
    ((∃ entry ∈ run.pass.report.failures, entry.2.isExhaustion = true) ↔
      ∃ request ∈ run.requests, request.left = 0) ∧
    ∀ request ∈ run.requests, request.left = 0 → request.late ≠ [] := by
  have valid := reached.invariant started
  refine ⟨⟨fun reported => ?_, fun ⟨request, inRequests, exhausted⟩ => ?_⟩, valid.late⟩
  · obtain ⟨_, request, inRequests, -, exhausted⟩ := valid.reported reported
    exact ⟨request, inRequests, exhausted⟩
  · rcases valid.covered request.job ⟨request, inRequests, rfl, exhausted⟩ with waiting | reported
    · simp [GenerationPass.jobs, valid.finished done] at waiting
    · exact reported

/-- One job may be pending at a time. -/
def narrow : Configuration :=
  { Configuration.brief with maxPendingJobs := 1 }

def oneBean : UniverseSource :=
  .memory (.ofTypes [⟨"shop.Orders", .classType, [⟨"Observes", .empty, false⟩], []⟩])

/-- The job of the loader has its outcome, but still its permit, while the bean is started. -/
def lateRelease : List PassAction :=
  .pass :: List.replicate 11 (.task 0) ++ [.pass, .pass, .pass] ++ List.replicate 6 (.task 1) ++
    [.pass, .pass]

/-- The pass ends with a bean that was refused for lack of a permit. -/
theorem lateRelease_ends : ∃ engine run,
    Engine.start narrow oneBean {} .memory = .ok engine ∧ Reachable engine run ∧
      run.stage = .finished ∧ run.requests = [⟨0, 1, []⟩, ⟨1, 0, [0]⟩] ∧
      run.pass.report.failures =
        [(.observer "shop.Orders", .scheduler (.poolExhausted 1 1))] := by
  have computed : ((Engine.start narrow oneBean {} .memory).toOption.bind fun engine =>
      (PassRun.begin engine).run? lateRelease).map
        (fun run => (run.stage, run.requests, run.pass.report.failures)) =
      some (.finished, [⟨0, 1, []⟩, ⟨1, 0, [0]⟩],
        [(.observer "shop.Orders", .scheduler (.poolExhausted 1 1))]) := by
    decide +kernel
  obtain ⟨run, found, view⟩ := Option.map_eq_some_iff.1 computed
  obtain ⟨engine, starts, ran⟩ := Option.bind_eq_some_iff.1 found
  obtain ⟨stage, requests, failures⟩ : run.stage = .finished ∧
      run.requests = [⟨0, 1, []⟩, ⟨1, 0, [0]⟩] ∧ run.pass.report.failures =
        [(.observer "shop.Orders", .scheduler (.poolExhausted 1 1))] := by
    simpa using view
  exact ⟨engine, run, toOption_eq_some_iff.1 starts, Reachable.begin.steps ran, stage, requests,
    failures⟩

/-- A refused request and an exhaustion come together. -/
theorem lateRelease_refused : ∃ engine run,
    Engine.start narrow oneBean {} .memory = .ok engine ∧ Reachable engine run ∧
      run.stage = .finished ∧ ∃ entry ∈ run.pass.report.failures, entry.2.isExhaustion = true := by
  obtain ⟨engine, run, started, reached, done, requests, -⟩ := lateRelease_ends
  refine ⟨engine, run, started, reached, done, ?_⟩
  exact (exhaustion_iff_refused started reached done).1.2 ⟨⟨1, 0, [0]⟩, by simp [requests], rfl⟩

/-- A window as wide as the limit does not keep a pass from running out of permits. -/
theorem lateRelease_exhausts : ¬∀ engine run,
    Engine.start narrow oneBean {} .memory = .ok engine → Reachable engine run →
      run.stage = .finished → ∀ entry ∈ run.pass.report.failures, entry.2.isExhaustion = false := by
  obtain ⟨engine, run, started, reached, done, -, failures⟩ := lateRelease_ends
  intro punctual
  have kept := punctual engine run started reached done _ (failures ▸ List.mem_cons_self ..)
  contradiction

end PassRun

end BusBridge
