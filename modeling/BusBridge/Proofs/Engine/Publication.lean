/-
This file proves what handing in and finishing a target change in an engine. The scheduler only
gets the submission, and a publication touches the sink, the files and the gates.
-/

import BusBridge.Engine.Basic
import BusBridge.Proofs.Engine.CommitGates
import BusBridge.Proofs.Outcome
import BusBridge.Proofs.Scheduler.Refusal
import BusBridge.Proofs.Scheduler.Run
import BusBridge.Proofs.Store.CacheEntry

namespace BusBridge

/-- Whoever finishes a target waits for the outcome of its job. -/
def PendingState.isReady (engine : Engine) : PendingState → Bool
  | .running job => (engine.run.outcome? job).isSome
  | .alreadyGenerated | .cached _ => true

/-- A failure of a store is no lack of permits. -/
theorem StoreFailure.toFailure_isExhaustion (failure : StoreFailure) :
    failure.toFailure.isExhaustion = false := by
  cases failure <;> rfl

/-- A pipeline ends in a refusal only if its result is a lack of permits. -/
theorem Pipeline.ending_isRefusal {result : Except Failure Artifact}
    (other : ∀ failure, result = .error failure → failure.isExhaustion = false) :
    (ending result).isRefusal = false := by
  cases result with
  | ok => rfl
  | error failure => exact other failure rfl

/-- No loader fails for lack of permits. -/
theorem Pipeline.loaderArtifact_isExhaustion {configuration : Configuration}
    {className : ClassName} {candidates : List TypeDeclaration} {failure : Failure}
    (failed : loaderArtifact configuration className candidates = .error failure) :
    failure.isExhaustion = false := by
  obtain ⟨_, -, rfl⟩ := mapError_eq_error_iff.1 failed
  rfl

/-- No observer class fails for lack of permits. -/
theorem Pipeline.observerArtifact_isExhaustion {configuration : Configuration} {types : Universe}
    {bean : String} {className : ClassName} {failure : Failure}
    (failed : observerArtifact configuration types bean className = .error failure) :
    failure.isExhaustion = false := by
  rcases bind_eq_error_iff.1 failed with unmodeled | ⟨_, -, unsynthesized⟩
  · obtain ⟨_, -, rfl⟩ := mapError_eq_error_iff.1 unmodeled
    rfl
  · obtain ⟨_, -, rfl⟩ := mapError_eq_error_iff.1 unsynthesized
    rfl

/-- The pipelines of targets fail in modeling and synthesis alone. -/
theorem Pipeline.work_isRefusal (configuration : Configuration) (types : Universe)
    (target : Target) (scanner : Scanner) :
    ((work configuration types target).pipeline scanner).result.isRefusal = false := by
  change (ofTarget configuration types target scanner).result.isRefusal = false
  unfold ofTarget
  cases target.strategy with
  | rpcProxy => exact ending_isRefusal fun _ => loaderArtifact_isExhaustion
  | observerSubscription => exact ending_isRefusal fun _ => observerArtifact_isExhaustion

namespace CommitGates

variable {commits opened : CommitGates} {gate : GateId} {key : String}

/-- No commit behind a gate was refused by a scheduler. -/
def IsUnrefused (commits : CommitGates) : Prop :=
  ∀ failure, .settled (.error failure) ∈ commits.gates → failure.isExhaustion = false

/-- No commit that ended was refused for lack of permits. -/
theorem IsUnrefused.result? (unrefused : commits.IsUnrefused) {failure : Failure}
    (settled : commits.result? gate = some (.error failure)) : failure.isExhaustion = false :=
  unrefused failure (List.mem_of_getElem? (state?_of_result? settled))

/-- A new gate has no result that could be a refusal. -/
theorem IsUnrefused.gateFor (unrefused : commits.IsUnrefused) :
    (commits.gateFor key).2.IsUnrefused := by
  unfold CommitGates.gateFor
  split
  case h_1 => exact unrefused
  case h_2 =>
    intro failure settled
    rcases List.mem_append.1 settled with old | new
    · exact unrefused failure old
    · simp at new

/-- A gate that is opened has no result yet. -/
theorem IsUnrefused.open? (unrefused : commits.IsUnrefused)
    (opens : commits.open? gate = some opened) : opened.IsUnrefused := by
  unfold CommitGates.open? at opens
  split at opens <;> cases opens
  case h_1 =>
    intro failure settled
    rcases List.mem_or_eq_of_mem_set settled with old | new
    · exact unrefused failure old
    · cases new

/-- A gate is settled without a refusal. -/
theorem IsUnrefused.settle (unrefused : commits.IsUnrefused) {result : Except Failure Unit}
    (other : ∀ failure, result = .error failure → failure.isExhaustion = false) :
    (commits.settle gate result).IsUnrefused := by
  intro failure settled
  rcases List.mem_or_eq_of_mem_set settled with old | new
  · exact unrefused failure old
  · exact other failure (GateState.settled.inj new).symm

end CommitGates

namespace Engine

variable {engine next : Engine} {target : Target} {artifact : Artifact} {faults : PublishFaults}
  {pending : PendingTarget}

/-- An engine starts with a new scheduler. -/
theorem start_eq_ok {configuration : Configuration} {source : UniverseSource}
    {files : Files} {sink : Sink}
    (started : start configuration source files sink = .ok engine) :
    configuration.validate = .ok () ∧ ∃ scheduler,
      Scheduler.create (.ofConfiguration configuration) = .ok scheduler ∧
      engine = {
        configuration, source, files, sink
        cache := ⟨configuration.cacheDirectory⟩
        run := { scheduler, world := {} } } := by
  simp only [start, bind_eq_ok_iff, check_eq_ok_iff, mapError_eq_ok_iff] at started
  obtain ⟨_, accepted, -, scheduler, created, same⟩ := started
  cases same
  exact ⟨accepted, scheduler, created, rfl⟩

/-- An artifact is reused when this is wanted and the cache has it. -/
theorem reusable?_eq_some_iff : engine.reusable? target = some artifact ↔
    engine.configuration.reuseCachedArtifacts = true ∧
      engine.cache.lookup engine.files target = .ok artifact := by
  unfold reusable? ArtifactCache.read
  simp [toOption_eq_some_iff]

/-- A reused artifact has the class of its target. -/
theorem className_of_reusable? (found : engine.reusable? target = some artifact) :
    artifact.className = target.className :=
  (ArtifactCache.lookup_eq_ok_iff.1 (reusable?_eq_some_iff.1 found).2).1

/-- The engines differ in their stores and their log alone. -/
def SamePlan (engine next : Engine) : Prop :=
  next.configuration = engine.configuration ∧ next.run.scheduler = engine.run.scheduler ∧
    next.run.works = engine.run.works

/-- An engine has its own plan. -/
theorem SamePlan.refl (engine : Engine) : SamePlan engine engine :=
  ⟨rfl, rfl, rfl⟩

/-- The engines differ in their files, their sink, their gates and their log alone. -/
structure SameRun (engine next : Engine) : Prop where
  configuration : next.configuration = engine.configuration
  source : next.source = engine.source
  cache : next.cache = engine.cache
  scheduler : next.run.scheduler = engine.run.scheduler
  works : next.run.works = engine.run.works
  entered : next.run.entered = engine.run.entered
  world : next.run.world = engine.run.world

/-- An engine has its own run. -/
theorem SameRun.refl (engine : Engine) : SameRun engine engine :=
  ⟨rfl, rfl, rfl, rfl, rfl, rfl, rfl⟩

/-- Engines with the same run have the same plan. -/
theorem SameRun.samePlan (same : SameRun engine next) : SamePlan engine next :=
  ⟨same.configuration, same.scheduler, same.works⟩

/-- What handing in a target can lead to. -/
inductive HandsIn (engine : Engine) (target : Target) : PendingTarget × Engine → Prop where
  | reserved (known : engine.sink.shouldGenerate target.className = false)
      (records : List LogRecord) :
      HandsIn engine target (⟨target, .alreadyGenerated⟩, engine.report records)
  | reuse (free : engine.sink.shouldGenerate target.className = true) {artifact : Artifact}
      (found : engine.reusable? target = some artifact) (records : List LogRecord) :
      HandsIn engine target (⟨target, .cached artifact⟩, engine.report records)
  | submit (free : engine.sink.shouldGenerate target.className = true)
      (absent : engine.reusable? target = none) (records : List LogRecord) :
      HandsIn engine target
        (⟨target, .running ((engine.report records).run.handIn target
            (Pipeline.work engine.configuration engine.types target)).1⟩,
          { engine.report records with
            run := ((engine.report records).run.handIn target
              (Pipeline.work engine.configuration engine.types target)).2 })

/-- Each target is handed in in one of the possible ways. -/
theorem handsIn_handIn (engine : Engine) (target : Target) :
    HandsIn engine target (engine.handIn target) := by
  unfold handIn
  dsimp only
  split
  case isTrue known => exact .reserved (by simpa using known) _
  case isFalse free =>
    have free : engine.sink.shouldGenerate target.className = true := by simpa using free
    split
    case h_1 found => exact .reuse free found _
    case h_2 absent => exact .submit free absent _

/-- A target is handed in to the scheduler, or it needs no job. -/
theorem handIn_cases (engine : Engine) (target : Target) :
    (engine.handIn target).2.configuration = engine.configuration ∧
    (engine.handIn target).2.commits = engine.commits ∧
    (SamePlan engine (engine.handIn target).2 ∧
        (∀ job, (engine.handIn target).1.state ≠ .running job) ∨
      ∃ job, (engine.handIn target).1.state = .running job ∧
        (job, (engine.handIn target).2.run.scheduler) = engine.run.scheduler.submit target true ∧
        ∀ entry ∈ (engine.handIn target).2.run.works,
          entry ∈ engine.run.works ∨
            entry.2 = Pipeline.work engine.configuration engine.types target) := by
  have handed := handsIn_handIn engine target
  revert handed
  generalize engine.handIn target = pair
  rintro (⟨-, records⟩ | ⟨-, -, records⟩ | ⟨-, -, records⟩)
  · exact ⟨rfl, rfl, .inl ⟨.refl engine, nofun⟩⟩
  · exact ⟨rfl, rfl, .inl ⟨.refl engine, nofun⟩⟩
  · exact ⟨rfl, rfl, .inr ⟨_, rfl, SchedulerRun.handIn_eq, fun entry member =>
      (SchedulerRun.mem_works_handIn member).imp_right (congrArg Prod.snd)⟩⟩

/-- An update of the cache does not touch the scheduler. -/
theorem SameRun.updateCache (same : SameRun engine next)
    (cacheFaults : ArtifactCache.WriteFaults) :
    SameRun engine (next.updateCache target artifact cacheFaults) := by
  unfold Engine.updateCache
  exact ⟨same.1, same.2, same.3, same.4, same.5, same.6, same.7⟩

/-- A commit touches neither the scheduler nor the gates. -/
theorem sameRun_commit : SameRun engine (engine.commit target artifact faults).2 ∧
    (engine.commit target artifact faults).2.commits = engine.commits := by
  unfold commit
  dsimp only
  split
  case h_1 => exact ⟨by constructor <;> rfl, rfl⟩
  case h_2 =>
    split
    case h_1 => exact ⟨by constructor <;> rfl, rfl⟩
    case h_2 => exact ⟨SameRun.updateCache (by constructor <;> rfl) faults.cache, rfl⟩

/-- A commit fails for what the sink says. -/
theorem commit_isExhaustion {failure : Failure}
    (failed : (engine.commit target artifact faults).1 = .error failure) :
    failure.isExhaustion = false := by
  unfold commit at failed
  dsimp only at failed
  split at failed
  case h_1 => cases failed
  case h_2 =>
    split at failed <;> cases failed
    case h_1 cause _ => exact cause.toFailure_isExhaustion

/-- A publication does not touch the scheduler. -/
theorem sameRun_publish : SameRun engine (engine.publish target artifact faults).2 := by
  unfold publish
  dsimp only
  split
  case h_1 => constructor <;> rfl
  case h_2 opened _ =>
    obtain ⟨configuration, source, cache, scheduler, works, entered, world⟩ :
        SameRun { engine with commits := opened }
          ({ engine with commits := opened }.commit target artifact faults).2 := sameRun_commit.1
    split
    case h_1 => constructor <;> assumption
    case h_2 => constructor <;> assumption

/-- A publication never fails for lack of permits. -/
theorem publish_isUnrefused (unrefused : engine.commits.IsUnrefused) :
    (engine.publish target artifact faults).2.commits.IsUnrefused ∧
      ∀ failure, (engine.publish target artifact faults).1 = .error failure →
        failure.isExhaustion = false := by
  have gated : (engine.commits.gateFor artifact.className.qualified).2.IsUnrefused :=
    unrefused.gateFor
  unfold publish
  dsimp only
  split
  case h_1 =>
    refine ⟨gated, fun failure failed => ?_⟩
    revert failed
    cases settled : (engine.commits.gateFor artifact.className.qualified).2.result?
        (engine.commits.gateFor artifact.className.qualified).1 with
    | none => nofun
    | some result => rintro rfl; exact gated.result? settled
  case h_2 opened opens =>
    have commits : ({ engine with commits := opened }.commit target artifact faults).2.commits =
        opened := sameRun_commit.2
    rw [commits]
    split
    case h_1 => exact ⟨(gated.open? opens).settle fun _ => commit_isExhaustion, nofun⟩
    case h_2 failed =>
      refine ⟨(gated.open? opens).settle fun _ => commit_isExhaustion, ?_⟩
      rintro _ ⟨⟩
      exact commit_isExhaustion failed

/-- A target that is finished leaves the scheduler as it is. -/
theorem sameRun_finishTarget : SameRun engine (engine.finishTarget pending faults).2 := by
  have same : SameRun engine (engine.publishPending pending faults).2 := by
    unfold publishPending
    split
    case h_1 => exact .refl engine
    case h_2 => exact sameRun_publish
  unfold finishTarget
  dsimp only
  split
  case h_1 => exact .refl engine
  case h_2 =>
    generalize engine.publishPending pending faults = published at same ⊢
    obtain ⟨result, next⟩ := published
    cases result with
    | ok => exact same
    | error => exact ⟨same.1, same.2, same.3, same.4, same.5, same.6, same.7⟩

/-- A target that is finished leaves the plan of the engine. -/
theorem samePlan_finishTarget : SamePlan engine (engine.finishTarget pending faults).2 :=
  sameRun_finishTarget.samePlan

/-- A target that is finished leaves no refused commit. -/
theorem finishTarget_isUnrefused (unrefused : engine.commits.IsUnrefused) :
    (engine.finishTarget pending faults).2.commits.IsUnrefused := by
  have kept : (engine.publishPending pending faults).2.commits.IsUnrefused := by
    unfold publishPending
    split
    case h_1 => exact unrefused
    case h_2 => exact (publish_isUnrefused unrefused).1
  unfold finishTarget
  dsimp only
  split
  case h_1 => exact unrefused
  case h_2 =>
    generalize engine.publishPending pending faults = published at kept ⊢
    obtain ⟨result, next⟩ := published
    cases result <;> exact kept

/-- No caller is told of a refused commit. -/
theorem committed_isExhaustion {qualified : String} {failure : Failure}
    (unrefused : engine.commits.IsUnrefused)
    (failed : engine.commits.committed qualified = .error failure) :
    failure.isExhaustion = false := by
  unfold CommitGates.committed at failed
  cases found : (engine.commits.current? qualified).bind engine.commits.result? with
  | none => rw [found] at failed; cases failed
  | some result =>
      obtain ⟨gate, -, settled⟩ := Option.bind_eq_some_iff.1 found
      rw [found] at failed
      cases failed
      exact unrefused.result? settled

/-- With an artifact at hand, a target fails as its publication does. -/
theorem publishPending_isExhaustion {failure : Failure} (unrefused : engine.commits.IsUnrefused)
    (ready : engine.artifactOf pending.state = .ok artifact)
    (failed : (engine.publishPending pending faults).1 = .error failure) :
    failure.isExhaustion = false := by
  unfold publishPending at failed
  rw [ready] at failed
  exact (publish_isUnrefused unrefused).2 failure (map_eq_error_iff.1 failed)

/-- A target that waited for an artifact gets the result of its publication. -/
theorem finishTarget_fst (waits : pending.state ≠ .alreadyGenerated) :
    (engine.finishTarget pending faults).1 = (engine.publishPending pending faults).1 := by
  unfold finishTarget
  dsimp only
  split
  case h_1 state => exact absurd state waits
  case h_2 =>
    generalize engine.publishPending pending faults = published
    obtain ⟨result, next⟩ := published
    cases result <;> rfl

/-- A target whose job has an outcome fails for want of a permit exactly when its job was
refused. -/
theorem finishTarget_isExhaustion_iff (unrefused : engine.commits.IsUnrefused)
    (ready : ∀ job, pending.state = .running job → (engine.run.outcome? job).isSome = true) :
    (∃ failure, (engine.finishTarget pending faults).1 = .error failure ∧
        failure.isExhaustion = true) ↔
      ∃ job, pending.state = .running job ∧ engine.run.scheduler.HasRefusal job := by
  cases state : pending.state with
  | alreadyGenerated =>
      have result : (engine.finishTarget pending faults).1 =
          (engine.commits.committed pending.target.className.qualified).map
            fun _ => pending.target.className.qualified := by
        unfold finishTarget
        rw [state]
      simp only [reduceCtorEq, false_and, exists_const, iff_false, not_exists, not_and]
      intro failure failed
      rw [result] at failed
      simp [committed_isExhaustion unrefused (map_eq_error_iff.1 failed)]
  | cached artifact =>
      simp only [reduceCtorEq, false_and, exists_const, iff_false, not_exists, not_and]
      intro failure failed
      rw [finishTarget_fst (by rw [state]; nofun)] at failed
      have ready : engine.artifactOf pending.state = .ok artifact := by rw [state]; rfl
      simp [publishPending_isExhaustion unrefused ready failed]
  | running job =>
      obtain ⟨outcome, recorded⟩ := Option.isSome_iff_exists.1 (ready job state)
      have artifactOf : engine.artifactOf pending.state = outcome := by
        rw [state]
        simp [Engine.artifactOf, recorded]
      have known : engine.run.scheduler.outcome? job = some outcome := recorded
      rw [finishTarget_fst (by rw [state]; nofun)]
      simp only [PendingState.running.injEq, exists_eq_left', Scheduler.HasRefusal, known,
        Option.some.injEq]
      cases outcome with
      | error failure =>
          simp [publishPending, artifactOf, JobOutcome.isRefusal]
      | ok artifact =>
          have other : ∀ failure, (engine.publishPending pending faults).1 = .error failure →
              failure.isExhaustion = false :=
            fun failure => publishPending_isExhaustion unrefused artifactOf
          simp only [JobOutcome.isRefusal, Bool.false_eq_true, iff_false, not_exists, not_and]
          intro failure failed
          simp [other failure failed]

end Engine

end BusBridge
