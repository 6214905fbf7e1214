/-
This file proves when a second pass on the same engine repeats the first one: exactly when no target
that failed has a usable entry in the cache afterwards.
-/

import BusBridge.Proofs.Engine.PassIsolation
import BusBridge.Proofs.Engine.PassPatience
import BusBridge.Proofs.Engine.PassSteps

namespace BusBridge

/-- The failures of a report are the results that failed. -/
theorem GenerationReport.mem_failures {report : GenerationReport} {target : Target}
    {failure : Failure} :
    (target, failure) ∈ report.failures ↔ (target, .error failure) ∈ report.outcomes := by
  rw [failures, List.mem_filterMap]
  constructor
  · rintro ⟨⟨other, result⟩, reported, same⟩
    cases result <;> cases same
    exact reported
  · exact fun reported => ⟨_, reported, rfl⟩

/-- The result of a target whose class may stand already. -/
def Engine.resultOf (types : Universe) (engine : Engine) (target : Target) :
    Except Failure String :=
  if engine.sink.isCreated target.className then .ok target.className.qualified
  else (Pipeline.made engine.configuration types target).map fun _ => target.className.qualified

namespace PassRun

variable {types : Universe} {engine : Engine} {run next again : PassRun}
  {history after : PassHistory}

/-- A finished pass over a universe that stays as it is, in which no permit was missing and nothing
failed to be stored. -/
structure Ends (types : Universe) (engine : Engine) (run : PassRun) : Prop where
  still : Still types engine
  reached : Reachable engine run
  finished : run.stage = .finished
  permitted : ∀ request ∈ run.requests, request.left ≠ 0
  unfailing : ∀ outcome ∈ run.pass.report.outcomes, Engine.Unfailing engine.sink outcome.2

/-- A run that ends has a history without a disturbance. -/
theorem Ends.exists_smooth (ends : Ends types engine run) (prepared : engine.Prepared types) :
    ∃ history, Smooth types engine history run := by
  obtain ⟨history, remembered⟩ := ends.reached.exists_remembered
  have order := (remembered.order prepared.serves).1
  refine ⟨history, prepared, ends.still, remembered, ends.permitted, fun entry finished => ?_⟩
  refine ends.unfailing (entry.1.target, entry.2) ?_
  rw [order.reported]
  exact List.mem_map.2 ⟨entry, finished, rfl⟩

/-- The places of the window of a pass that came to its end could be reserved. -/
theorem Ends.fits (ends : Ends types engine run) (serves : engine.Serves) :
    engine.configuration.maxPendingJobs ≤ GenerationPass.maximalWindow := by
  have judges := ends.reached.judgesWindow serves
  rwa [ends.finished] at judges

/-- A pass that stores in memory has such an end. -/
theorem exists_ends (serves : engine.Serves)
    (fits : engine.configuration.maxPendingJobs ≤ GenerationPass.maximalWindow)
    (few : engine.run.scheduler.tasks.length ≤ 1)
    (still : Still types engine) (memory : engine.sink.inMemory = true) :
    ∃ run, Ends types engine run := by
  obtain ⟨run, reached, finished, patient⟩ := exists_permitted_end serves fits few
  exact ⟨run, still, reached, finished, patient.permitted, fun _ _ => .inl memory⟩

/-- An undisturbed run ends. -/
theorem Undisturbed.ends {configuration : Configuration} {inserted : MemoryUniverse}
    (undisturbed : Undisturbed configuration (.memory inserted) engine run) :
    Ends inserted.toUniverse engine run := by
  obtain ⟨files, sink, started⟩ := undisturbed.started
  obtain ⟨-, scheduler, -, same⟩ := Engine.start_eq_ok started
  constructor
  case still => exact .of_source fun files => by rw [same]; rfl
  case reached => exact undisturbed.reached
  case finished => exact undisturbed.finished
  case permitted => exact undisturbed.permitted
  case unfailing => exact undisturbed.unfailing

/-- The report of a pass whose results are known. -/
theorem Smooth.report_eq (smooth : Smooth types engine history run)
    (finished : run.stage = .finished) {result : Target → Except Failure String}
    (results : ∀ entry ∈ history.finished, entry.2 = result entry.1.target) :
    run.pass.report = {
      outcomes := (plannedTargets engine.configuration types).map fun target =>
        (target, result target)
      scanWarnings := plannedWarnings engine.configuration types } := by
  have outcomes : run.pass.report.outcomes = (plannedTargets engine.configuration types).map
      fun target => (target, result target) := by
    rw [smooth.order.reported, ← smooth.done_eq finished, PassHistory.done, List.map_map]
    exact List.map_congr_left fun entry member =>
      congrArg (entry.1.target, ·) (results entry member)
  have warnings : run.pass.report.scanWarnings = plannedWarnings engine.configuration types := by
    rw [smooth.steady.warned, finished, smooth.order.configuration]
    rfl
  rw [← outcomes, ← warnings]

/-- In a sink that was fresh, the created classes are those of the targets that succeeded, and the
others failed in their pipelines. -/
structure Settles (types : Universe) (engine : Engine) (history : PassHistory) (run : PassRun) :
    Prop where
  created : ∀ className, run.pass.engine.sink.isCreated className = true ↔
    ∃ entry ∈ history.finished, entry.1.target.className = className ∧
      entry.2 = .ok className.qualified
  failed : ∀ entry ∈ history.finished, entry.2 = .ok entry.1.target.className.qualified ∨
    ∃ failure, entry.2 = .error failure ∧
      Pipeline.made engine.configuration types entry.1.target = .error failure

/-- A failure that is received is what was made. -/
theorem made_of_failed {oldest : PendingTarget} {failure : Failure}
    (made : ∀ job, oldest.state = .running job → run.pass.engine.artifactOf oldest.state =
      Pipeline.made run.pass.engine.configuration types oldest.target)
    (waits : oldest.state ≠ .alreadyGenerated)
    (received : run.pass.engine.artifactOf oldest.state = .error failure) :
    Pipeline.made run.pass.engine.configuration types oldest.target = .error failure := by
  cases state : oldest.state with
  | alreadyGenerated => exact absurd state waits
  | cached artifact =>
      rw [state] at received
      cases received
  | running job => exact (made job state).symm.trans received

/-- Each advance settles the class of the target that it finishes, if any. -/
theorem Settles.advance (settles : Settles types engine history run)
    (order : Order engine history run) (advance : Advance types history run after next) :
    Settles types engine after next := by
  cases advance with
  | quiet _ stores | start _ _ _ stores => exact ⟨stores.sink ▸ settles.created, settles.failed⟩
  | @finish _ oldest _ _ made finishes =>
      have also {className : ClassName} {result : Except Failure String} :
          (∃ entry ∈ history.finished ++ [(oldest, result)],
            entry.1.target.className = className ∧ entry.2 = .ok className.qualified) ↔
          (∃ entry ∈ history.finished,
            entry.1.target.className = className ∧ entry.2 = .ok className.qualified) ∨
          oldest.target.className = className ∧ result = .ok className.qualified := by
        simp only [List.mem_append, List.mem_singleton, or_and_right, exists_or, exists_eq_left]
      have last {result : Except Failure String}
          (own : result = .ok oldest.target.className.qualified ∨
            ∃ failure, result = .error failure ∧
              Pipeline.made engine.configuration types oldest.target = .error failure) :
          ∀ entry ∈ history.finished ++ [(oldest, result)],
            entry.2 = .ok entry.1.target.className.qualified ∨
              ∃ failure, entry.2 = .error failure ∧
                Pipeline.made engine.configuration types entry.1.target = .error failure := by
        intro entry member
        rcases List.mem_append.1 member with old | new
        · exact settles.failed entry old
        · rw [List.mem_singleton.1 new]
          exact own
      cases finishes with
      | standing created _ agrees =>
          refine ⟨fun className => ?_, last (.inl rfl)⟩
          rw [also, ← settles.created, ← agrees.sink, or_iff_left_of_imp]
          rintro ⟨rfl, -⟩
          exact created
      | failed waits received agrees =>
          refine ⟨fun className => ?_, last (.inr ⟨_, rfl, ?_⟩)⟩
          · rw [also, ← settles.created, ← agrees.sink]
            simp
          · exact order.configuration ▸ made_of_failed made waits received
      | stored waits received own free same takes =>
          refine ⟨fun className => ?_, last (.inl rfl)⟩
          rw [also, ← settles.created, takes.isCreated_iff, or_comm, own]
          refine or_congr_right ⟨?_, fun known => known.1.symm⟩
          rintro rfl
          exact ⟨rfl, rfl⟩

/-- In a smooth run from a fresh sink the created classes are those of the targets that
succeeded. -/
theorem Smooth.settles (smooth : Smooth types engine history run)
    (fresh : engine.sink.reservations = {}) : Settles types engine history run := by
  refine smooth.induction (motive := Settles types engine) ⟨?_, List.forall_mem_nil _⟩ ?_
  · simp [begin, Sink.isCreated, Reservations.isReserved, fresh]
  · exact fun before _ advance settles => settles.advance before.order advance

/-- When no two targets share a class, a target fails exactly when its class is not created. -/
theorem Settles.result_eq (settles : Settles types engine history run)
    (smooth : Smooth types engine history run)
    (separate : ∀ first ∈ plannedTargets engine.configuration types,
      ∀ second ∈ plannedTargets engine.configuration types,
        first.className = second.className → first = second) :
    ∀ entry ∈ history.finished,
      entry.2 = run.pass.engine.resultOf types entry.1.target := by
  have once := smooth.nodup
  rw [smooth.order.started, List.map_append, List.map_map] at once
  have once : (history.finished.map fun entry => entry.1.target).Nodup :=
    (List.nodup_append.1 once).1
  have planned {entry : PendingTarget × Except Failure String}
      (finished : entry ∈ history.finished) :=
    smooth.planned (smooth.order.started_of_finished finished)
  intro entry member
  rw [Engine.resultOf, smooth.order.configuration]
  by_cases created : run.pass.engine.sink.isCreated entry.1.target.className = true
  case pos =>
    obtain ⟨other, finished, same, succeeded⟩ := (settles.created _).1 created
    have target := separate _ (planned finished) _ (planned member) same
    rw [if_pos created, ← List.inj_on_of_nodup_map once finished member target, succeeded, target]
  case neg =>
    rw [if_neg created]
    rcases settles.failed entry member with succeeded | ⟨failure, failed, made⟩
    · exact absurd ((settles.created _).2 ⟨entry, member, rfl, succeeded⟩) created
    · rw [failed, made]
      rfl

/-- So far the pass repeats what the engine did before: the stores are as they were, and no artifact
of the cache was used. -/
structure Repeats (types : Universe) (engine : Engine) (history : PassHistory) (run : PassRun) :
    Prop where
  stores : engine.SameStores run.pass.engine
  begins : ∀ pending ∈ history.started, engine.Begins pending.target pending.state
  uncached : ∀ entry ∈ history.finished, ∀ artifact, entry.1.state ≠ .cached artifact
  results : ∀ entry ∈ history.finished, entry.2 = engine.resultOf types entry.1.target

/-- A planned target that had no class got one from the cache. -/
structure Departs (types : Universe) (engine : Engine) (run : PassRun) : Prop where
  usable : ∃ target ∈ plannedTargets engine.configuration types,
    engine.sink.isCreated target.className = false ∧ (engine.reusable? target).isSome = true
  changed : ∃ className, run.pass.engine.sink.isCreated className = true ∧
    engine.sink.isCreated className = false

/-- A run that departed from a pass without a cache does not come back to it. -/
theorem Departs.advance (departs : Departs types engine run)
    (advance : Advance types history run after next) : Departs types engine next := by
  obtain ⟨className, created, free⟩ := departs.changed
  refine ⟨departs.usable, className, ?_, free⟩
  cases advance with
  | quiet _ stores | start _ _ _ stores => exact stores.sink ▸ created
  | finish _ _ finishes => exact finishes.isCreated created

/-- Where every planned target without a class fails, a step goes on repeating, or it takes an
artifact from the cache. -/
theorem Repeats.advance (repeats : Repeats types engine history run)
    (smooth : Smooth types engine history run)
    (failing : ∀ target ∈ plannedTargets engine.configuration types,
      engine.sink.isCreated target.className = false →
        ∃ failure, Pipeline.made engine.configuration types target = .error failure)
    (advance : Advance types history run after next) :
    Departs types engine next ∨ Repeats types engine after next := by
  have stores := repeats.stores
  cases advance with
  | quiet _ same =>
      exact .inr ⟨stores.trans same, repeats.begins, repeats.uncached, repeats.results⟩
  | start pending _ begins same =>
      refine .inr ⟨stores.trans same, fun started member => ?_, repeats.uncached, repeats.results⟩
      rcases List.mem_append.1 member with old | new
      · exact repeats.begins started old
      · rw [List.mem_singleton.1 new]
        exact begins.congr stores
  | @finish _ oldest result inFlight made finishes =>
      have started : oldest ∈ history.started :=
        smooth.order.started_of_inFlight (by simp [inFlight])
      have begins := repeats.begins oldest started
      have goesOn (same : run.pass.engine.SameStores next.pass.engine)
          (uncached : ∀ artifact, oldest.state ≠ .cached artifact)
          (own : result = engine.resultOf types oldest.target) :
          Repeats types engine
            { history with finished := history.finished ++ [(oldest, result)] } next := by
        refine ⟨stores.trans same, repeats.begins, fun entry member => ?_, fun entry member => ?_⟩
        all_goals rcases List.mem_append.1 member with old | new
        · exact repeats.uncached entry old
        · rw [List.mem_singleton.1 new]
          exact uncached
        · exact repeats.results entry old
        · rw [List.mem_singleton.1 new]
          exact own
      cases finishes with
      | standing created held agrees =>
          rw [stores.sink] at created
          refine .inr (goesOn agrees.sameStores (fun artifact cached => ?_) ?_)
          · rw [cached] at begins
            cases begins with
            | cached free => rw [free] at created; cases created
          · rw [Engine.resultOf, if_pos created]
      | failed waits received agrees =>
          have failed := made_of_failed made waits received
          rw [stores.configuration] at failed
          refine .inr (goesOn agrees.sameStores (fun artifact cached => ?_) ?_)
          · rw [cached] at received
            cases received
          · rw [Engine.resultOf, begins.isCreated_eq_false waits, failed]
            rfl
      | stored waits received own free same takes =>
          -- A target without a class fails, so only an artifact of the cache can be stored.
          rw [stores.sink, own] at free
          cases state : oldest.state <;> rw [state] at begins received
          case alreadyGenerated => exact absurd state waits
          case running job =>
            obtain ⟨failure, failed⟩ := failing oldest.target (smooth.planned started) free
            rw [← state, made job state, stores.configuration, failed] at received
            cases received
          case cached =>
            cases begins with
            | cached _ found =>
                refine .inl ⟨⟨oldest.target, smooth.planned started, free, by rw [found]; rfl⟩,
                  oldest.target.className, ?_, free⟩
                exact takes.isCreated_iff.2 (.inl own.symm)

/-- A second pass takes an artifact from the cache, or it repeats the first one. -/
theorem Smooth.departs_or_repeats (smooth : Smooth types engine history run)
    (failing : ∀ target ∈ plannedTargets engine.configuration types,
      engine.sink.isCreated target.className = false →
        ∃ failure, Pipeline.made engine.configuration types target = .error failure) :
    Departs types engine run ∨ Repeats types engine history run := by
  refine smooth.induction
    (motive := fun history run => Departs types engine run ∨ Repeats types engine history run)
    (.inr ⟨.refl engine, List.forall_mem_nil _, List.forall_mem_nil _, List.forall_mem_nil _⟩) ?_
  intro history after run next before _ advance
  rintro (departs | repeats)
  · exact .inl (departs.advance advance)
  · exact repeats.advance before failing advance

/-- In a pass that found nothing cached for its targets, the sidecars are those of finished targets
that have an artifact, and no target uses one. -/
structure SavesOwn (types : Universe) (engine : Engine) (history : PassHistory) (run : PassRun) :
    Prop where
  sidecars : ∀ target ∈ plannedTargets engine.configuration types, ∀ sidecar,
    run.pass.engine.sidecar? target = some sidecar → sidecar.target = target →
      target ∈ history.done ∧
        ∃ artifact, Pipeline.made engine.configuration types target = .ok artifact
  uncached : ∀ pending ∈ history.started, ∀ artifact, pending.state ≠ .cached artifact

/-- A step that leaves the stores keeps what is saved. -/
theorem SavesOwn.quiet (saves : SavesOwn types engine history run)
    (stores : run.pass.engine.SameStores next.pass.engine) :
    SavesOwn types engine history next :=
  ⟨fun target planned sidecar found =>
    saves.sidecars target planned sidecar (stores.sidecar?_eq ▸ found), saves.uncached⟩

/-- A target is started once, so it has no sidecar when it is. -/
theorem SavesOwn.start (saves : SavesOwn types engine history run)
    (order : Order engine history run) {pending : PendingTarget}
    (smooth : Smooth types engine { history with started := history.started ++ [pending] } next)
    (begins : run.pass.engine.Begins pending.target pending.state)
    (stores : run.pass.engine.SameStores next.pass.engine) :
    SavesOwn types engine { history with started := history.started ++ [pending] } next := by
  refine ⟨(saves.quiet stores).sidecars, fun started member artifact cached => ?_⟩
  rcases List.mem_append.1 member with old | new
  · exact saves.uncached started old artifact cached
  · rw [List.mem_singleton.1 new] at cached
    rw [cached] at begins
    cases begins with
    | cached _ found =>
        obtain ⟨sidecar, -, known, own, -⟩ := Engine.exists_sidecar_of_reusable? found
        obtain ⟨finished, -⟩ := saves.sidecars _ (smooth.planned (by simp)) sidecar known own
        obtain ⟨entry, earlier, target⟩ := List.mem_map.1 finished
        have once := smooth.nodup
        rw [List.map_append, List.nodup_append] at once
        exact once.2.2 _ (List.mem_map_of_mem (order.started_of_finished earlier)) _
          (List.mem_singleton_self _) target

/-- The sidecar of a class that is stored is that of its target. -/
theorem SavesOwn.finish (saves : SavesOwn types engine history run)
    (order : Order engine history run) {oldest : PendingTarget}
    {result : Except Failure String} (started : oldest ∈ history.started)
    (made : ∀ job, oldest.state = .running job → run.pass.engine.artifactOf oldest.state =
      Pipeline.made run.pass.engine.configuration types oldest.target)
    (finishes : Engine.Finishes oldest run.pass.engine next.pass.engine result) :
    SavesOwn types engine
      { history with finished := history.finished ++ [(oldest, result)] } next := by
  have done : PassHistory.done { history with finished := history.finished ++ [(oldest, result)] } =
      history.done ++ [oldest.target] := by
    simp [PassHistory.done]
  refine ⟨fun target planned sidecar found own => ?_, saves.uncached⟩
  rw [done]
  cases finishes with
  | standing _ _ agrees | failed _ _ agrees =>
      rw [agrees.sameStores.sidecar?_eq] at found
      exact (saves.sidecars target planned sidecar found own).imp_left
        (List.mem_append_left _)
  | @stored artifact waits received _ _ same takes =>
      have returned : Pipeline.made engine.configuration types oldest.target = .ok artifact := by
        cases state : oldest.state with
        | alreadyGenerated => exact absurd state waits
        | cached => exact absurd state (saves.uncached oldest started _)
        | running job =>
            rw [← order.configuration, ← made job state]
            exact received
      rcases takes.sidecar?_cases same.cache (Pipeline.isDeclared_of_made returned).2 found
        with old | rfl
      · exact (saves.sidecars target planned sidecar old own).imp_left (List.mem_append_left _)
      · obtain rfl : oldest.target = target := own
        exact ⟨by simp, _, returned⟩

/-- A smooth run saves its own artifacts where nothing was cached. -/
theorem Smooth.savesOwn (smooth : Smooth types engine history run)
    (uncached : ∀ target ∈ plannedTargets engine.configuration types,
      engine.sidecar? target = none) : SavesOwn types engine history run := by
  refine smooth.induction (motive := SavesOwn types engine) ⟨?_, List.forall_mem_nil _⟩ ?_
  · intro target planned sidecar found
    cases (uncached target planned).symm.trans found
  · intro history after run next before smooth advance saves
    cases advance with
    | quiet _ stores => exact saves.quiet stores
    | start pending _ begins stores => exact saves.start before.order smooth begins stores
    | finish inFlight made finishes =>
        have started := before.order.started_of_inFlight (by rw [inFlight]; exact .head _)
        exact saves.finish before.order started made finishes

/-- A target that is not created at the end of a first pass failed in its pipeline. -/
theorem Settles.exists_failure (settles : Settles types engine history run)
    (smooth : Smooth types engine history run) (finished : run.stage = .finished)
    {target : Target} (planned : target ∈ plannedTargets engine.configuration types)
    (free : run.pass.engine.sink.isCreated target.className = false) :
    ∃ failure, Pipeline.made engine.configuration types target = .error failure := by
  rw [← smooth.done_eq finished] at planned
  obtain ⟨entry, member, rfl⟩ := List.mem_map.1 planned
  rcases settles.failed entry member with succeeded | ⟨failure, -, made⟩
  · rw [(settles.created _).2 ⟨entry, member, rfl, succeeded⟩] at free
    cases free
  · exact ⟨failure, made⟩

/-- When no two targets share a class, those that failed are the planned ones without a class. -/
theorem Settles.exists_failures_iff (settles : Settles types engine history run)
    (smooth : Smooth types engine history run) (finished : run.stage = .finished)
    (separate : ∀ first ∈ plannedTargets engine.configuration types,
      ∀ second ∈ plannedTargets engine.configuration types,
        first.className = second.className → first = second) {target : Target} :
    (∃ failure, (target, failure) ∈ run.pass.report.failures) ↔
      target ∈ plannedTargets engine.configuration types ∧
        run.pass.engine.sink.isCreated target.className = false := by
  simp only [GenerationReport.mem_failures,
    smooth.report_eq finished (settles.result_eq smooth separate), List.mem_map, Prod.mk.injEq]
  constructor
  · rintro ⟨failure, _, planned, rfl, failed⟩
    refine ⟨planned, Bool.eq_false_iff.2 fun created => ?_⟩
    rw [Engine.resultOf, if_pos created] at failed
    cases failed
  · rintro ⟨planned, free⟩
    obtain ⟨failure, made⟩ := settles.exists_failure smooth finished planned free
    refine ⟨failure, target, planned, rfl, ?_⟩
    rw [Engine.resultOf, free, smooth.order.configuration, made]
    rfl

/-- A target that nothing is made for has no usable entry when cached artifacts are not used, or
when nothing was cached for the targets before. -/
theorem Smooth.reusable?_eq_none (smooth : Smooth types engine history run)
    (unsaved : engine.configuration.reuseCachedArtifacts = false ∨
      ∀ target ∈ plannedTargets engine.configuration types, engine.sidecar? target = none)
    {target : Target} {failure : Failure}
    (planned : target ∈ plannedTargets engine.configuration types)
    (failed : Pipeline.made engine.configuration types target = .error failure) :
    run.pass.engine.reusable? target = none := by
  rw [Option.eq_none_iff_forall_ne_some]
  intro artifact found
  rcases unsaved with unused | uncached
  · have used := (Engine.reusable?_eq_some_iff.1 found).1
    rw [smooth.order.configuration, unused] at used
    cases used
  · obtain ⟨sidecar, -, known, own, -⟩ := Engine.exists_sidecar_of_reusable? found
    obtain ⟨-, other, made⟩ := (smooth.savesOwn uncached).sidecars target planned sidecar known own
    cases failed.symm.trans made

/-- At the end of a pass that repeats another one, a target without a class has no usable entry. -/
theorem Repeats.reusable?_eq_none (repeats : Repeats types engine history run)
    (smooth : Smooth types engine history run) (finished : run.stage = .finished)
    {target : Target} (planned : target ∈ plannedTargets engine.configuration types)
    (free : engine.sink.isCreated target.className = false) :
    engine.reusable? target = none := by
  rw [← smooth.done_eq finished] at planned
  obtain ⟨entry, member, rfl⟩ := List.mem_map.1 planned
  have begins := repeats.begins entry.1 (smooth.order.started_of_finished member)
  cases state : entry.1.state <;> rw [state] at begins
  case cached artifact => exact absurd state (repeats.uncached entry member artifact)
  case alreadyGenerated =>
    cases begins with
    | standing created => rw [free] at created; cases created
  case running =>
    cases begins with
    | running _ _ absent => exact absent

/-- A second pass on the same engine comes to its end. It has the report of the first one, and
leaves the sink and the files as they are, exactly when no target that failed has a usable entry in
the cache. There is none when cached artifacts are not used, or when nothing was cached for the
targets before. -/
theorem pass_repeats_iff {configuration : Configuration} {source : UniverseSource} {files : Files}
    {sink : Sink} (started : Engine.start configuration source files sink = .ok engine)
    (fresh : sink.reservations = {})
    (distinct : ((types.survey
      ⟨configuration.annotations.observes, configuration.packages⟩).types.map
        fun bean => (Target.observer bean.name).className).Nodup)
    (first : Ends types engine run) :
    (∀ again, Reachable run.pass.engine again →
      ∃ actions last, again.run? actions = some last ∧ last.stage = .finished) ∧
    (∀ again, Ends types run.pass.engine again →
      ((again.pass.report = run.pass.report ∧
          again.pass.engine.sink = run.pass.engine.sink ∧
          again.pass.engine.files = run.pass.engine.files) ↔
        ∀ failed ∈ run.pass.report.failures, run.pass.engine.reusable? failed.1 = none)) ∧
    (configuration.reuseCachedArtifacts = false ∨
        (∀ target ∈ plannedTargets configuration types, engine.sidecar? target = none) →
      ∀ failed ∈ run.pass.report.failures, run.pass.engine.reusable? failed.1 = none) := by
  have prepared : engine.Prepared types := .start started fresh
  obtain ⟨-, scheduler, -, same⟩ := Engine.start_eq_ok started
  obtain rfl : engine.configuration = configuration := by rw [same]
  have reservations : engine.sink.reservations = {} := by rw [same]; exact fresh
  have separate : ∀ first ∈ plannedTargets engine.configuration types,
      ∀ second ∈ plannedTargets engine.configuration types,
        first.className = second.className → first = second :=
    fun _ inPlan _ alsoInPlan => eq_of_className_eq distinct inPlan alsoInPlan
  obtain ⟨history, smooth⟩ := first.exists_smooth prepared
  have preparedAgain := smooth.steady.prepared
  have configuration := smooth.order.configuration
  have settles := smooth.settles reservations
  have report := smooth.report_eq first.finished (settles.result_eq smooth separate)
  have failing {target : Target} (planned : target ∈ plannedTargets engine.configuration types)
      (free : run.pass.engine.sink.isCreated target.className = false) :=
    settles.exists_failure smooth first.finished planned free
  have failures {target : Target} : (∃ failure, (target, failure) ∈ run.pass.report.failures) ↔
      target ∈ plannedTargets engine.configuration types ∧
        run.pass.engine.sink.isCreated target.className = false :=
    settles.exists_failures_iff smooth first.finished separate
  have fits : run.pass.engine.configuration.maxPendingJobs ≤ GenerationPass.maximalWindow :=
    configuration ▸ first.fits prepared.serves
  refine ⟨fun again reached => reached.exists_finished preparedAgain.serves fits,
    fun again second => ?_, ?_⟩
  · obtain ⟨later, smoothAgain⟩ := second.exists_smooth preparedAgain
    have outcome := smoothAgain.departs_or_repeats
    rw [configuration] at outcome
    constructor
    · rintro ⟨-, unchanged, -⟩ ⟨target, failure⟩ failed
      obtain ⟨planned, free⟩ := failures.1 ⟨failure, failed⟩
      rcases outcome fun _ => failing with departs | repeats
      -- A pass that departs creates a class, and then the sink does not stay.
      · obtain ⟨className, created, absent⟩ := departs.changed
        rw [unchanged, absent] at created
        cases created
      · exact repeats.reusable?_eq_none smoothAgain second.finished (configuration ▸ planned) free
    · intro unusable
      rcases outcome fun _ => failing with departs | repeats
      -- A pass that departs takes a usable entry of a target that failed before.
      · obtain ⟨target, planned, free, usable⟩ := departs.usable
        obtain ⟨failure, failed⟩ := failures.2 ⟨configuration ▸ planned, free⟩
        rw [unusable _ failed] at usable
        cases usable
      · refine ⟨?_, repeats.stores.sink, repeats.stores.files⟩
        rw [report, smoothAgain.report_eq second.finished repeats.results, configuration]
  · rintro unsaved ⟨target, failure⟩ failed
    obtain ⟨planned, free⟩ := failures.1 ⟨failure, failed⟩
    obtain ⟨cause, made⟩ := failing planned free
    exact smooth.reusable?_eq_none unsaved planned made

/-- Artifacts are used again, one target at a time. -/
def reusing : Configuration :=
  { narrow with reuseCachedArtifacts := true, cacheDirectory := "cache" }

/-- The crowded method. -/
def crowdedFailure : Target × Failure :=
  (.observer "shop.Orders", .synthesis .observerSubscription (.invalidObserver "shop.Orders"
    "placed" "observer methods take exactly one parameter, found 2"))

/-- The bean that failed gets another job, which fails as the first one did. -/
theorem crowded_repeats : ∃ engine run again,
    Engine.start reusing (.memory (.ofTypes (twoBeans [crowded]))) {} .memory = .ok engine ∧
      Ends (MemoryUniverse.ofTypes (twoBeans [crowded])).toUniverse engine run ∧
      Ends (MemoryUniverse.ofTypes (twoBeans [crowded])).toUniverse run.pass.engine again ∧
      run.pass.report.failures = [crowdedFailure] ∧
      again.pass.report = run.pass.report ∧
      again.pass.engine.sink = run.pass.engine.sink ∧
      again.pass.engine.files = run.pass.engine.files := by
  obtain ⟨engine, starts⟩ := Option.isSome_iff_exists.1 (show (Engine.start reusing
    (.memory (.ofTypes (twoBeans [crowded]))) {} .memory).toOption.isSome = true by decide +kernel)
  have started := toOption_eq_some_iff.1 starts
  obtain ⟨-, scheduler, -, same⟩ := Engine.start_eq_ok started
  obtain ⟨run, undisturbed, patient⟩ := exists_undisturbed started (by decide)
  have first := undisturbed.ends
  have distinct : (((MemoryUniverse.ofTypes (twoBeans [crowded])).toUniverse.survey
      ⟨reusing.annotations.observes, reusing.packages⟩).types.map
        fun found => (Target.observer found.name).className).Nodup := by
    decide +kernel
  have fails : plannedFailures reusing (MemoryUniverse.ofTypes (twoBeans [crowded])).toUniverse =
      [crowdedFailure] := by
    decide +kernel
  have source := first.reached.source_and_cache_eq.1
  have kept := first.reached.configuration_eq (.start started)
  obtain ⟨again, second⟩ := exists_ends (first.reached.serves (.start started))
    (kept ▸ first.fits (.start started)) patient.single
    (.of_source fun files => by rw [source, same]; rfl)
    (first.reached.inMemory_eq.trans (by rw [same]; rfl))
  obtain ⟨-, repeats, unsaved⟩ := pass_repeats_iff started rfl distinct first
  have nothing (target : Target) : engine.sidecar? target = none := by
    rw [same, Engine.sidecar?, Engine.cached?, ArtifactCache.part?, Files.content?_empty]
    rfl
  exact ⟨engine, run, again, started, first, second, (undisturbed.failures_eq distinct).trans fails,
    (repeats again second).2 (unsaved (.inr fun target _ => nothing target))⟩

/-- How far a run is, the permits that its requests found, and the failures that it reports. -/
structure View where
  stage : PassStage
  left : List Nat
  failures : List (Target × Failure)

-- A derived instance casts along its equations, which the kernel cannot evaluate fast.
instance : DecidableEq View := fun ⟨stage, left, failures⟩ ⟨otherStage, otherLeft, others⟩ =>
  decidable_of_iff (stage = otherStage ∧ left = otherLeft ∧ failures = others)
    (by rw [View.mk.injEq])

def view (run : PassRun) : View :=
  ⟨run.stage, run.requests.map PermitRequest.left, run.pass.report.failures⟩

/-- A computed run ends when its view says so. -/
theorem Ends.of_view {actions : List PassAction} {left : List Nat}
    {failures : List (Target × Failure)} (still : Still types engine)
    (ran : (begin engine).run? actions = some run) (viewed : run.view = ⟨.finished, left, failures⟩)
    (permitted : 0 ∉ left) (stored : ∀ failed ∈ failures, failed.2.isOfStore = false) :
    Ends types engine run := by
  obtain ⟨finished, requests, failed⟩ : run.stage = .finished ∧
      run.requests.map PermitRequest.left = left ∧ run.pass.report.failures = failures := by
    simpa [view] using viewed
  constructor
  case still => exact still
  case reached => exact Reachable.begin.steps ran
  case finished => exact finished
  case permitted =>
    intro request member exhausted
    exact permitted (requests ▸ List.mem_map.2 ⟨request, member, exhausted⟩)
  case unfailing =>
    rintro ⟨target, result⟩ reported
    refine .inr fun failure unstored => stored (target, failure) ?_
    rw [← failed, GenerationReport.mem_failures]
    exact unstored ▸ reported

/-- The run of a pass that an engine starts with. -/
def firstRun (configuration : Configuration) (source : UniverseSource) (files : Files)
    (sink : Sink) (actions : List PassAction) : Option PassRun :=
  (Engine.start configuration source files sink).toOption.bind fun engine =>
    (begin engine).run? actions

/-- A run over types in memory that can be computed leads to the end of a pass. -/
theorem exists_ends_of_view {configuration : Configuration} {inserted : MemoryUniverse}
    {files : Files} {sink : Sink} {actions : List PassAction} {run : PassRun} {left : List Nat}
    {failures : List (Target × Failure)}
    (computed : firstRun configuration (.memory inserted) files sink actions = some run)
    (viewed : run.view = ⟨.finished, left, failures⟩) (permitted : 0 ∉ left)
    (stored : ∀ failed ∈ failures, failed.2.isOfStore = false) :
    ∃ engine, Engine.start configuration (.memory inserted) files sink = .ok engine ∧
      Ends inserted.toUniverse engine run ∧ run.pass.engine.source = .memory inserted := by
  obtain ⟨engine, starts, ran⟩ := Option.bind_eq_some_iff.1 computed
  have started := toOption_eq_some_iff.1 starts
  have source : engine.source = .memory inserted := by
    obtain ⟨-, scheduler, -, same⟩ := Engine.start_eq_ok started
    rw [same]
  exact ⟨engine, started,
    .of_view (.of_source fun files => by rw [source]; rfl) ran viewed permitted stored,
    (Reachable.begin.steps ran).source_and_cache_eq.1.trans source⟩

/-- A name that leads out of the cache, into the directory of a package and back. -/
def strayBean : String :=
  "a.x/../../out/a/../b.C"

def strayTypes : List TypeDeclaration := [
  ⟨strayBean, .classType, [⟨"Observes", .empty, false⟩], []⟩,
  ⟨"a.y.D", .classType, [⟨"Observes", .empty, false⟩], []⟩]

/-- The sidecar of the stray bean. A record may be written as the array of its fields. -/
def straySidecar : String :=
  "[\"\",[\"a.x/../../out/a/../b.C\",\"observer-subscription\"]," ++
    "\"a.x/../../out/a/../b.C_ObserverSubscriptions\"," ++
    "\"sha256:a03f2386ae06b21109577020844df367857b72c2fcce384c1896fed98a89c82b\"]"

/-- A source was cached for the stray bean. -/
def strayFiles : Files where
  entries := [
    (["cache"], .directory), (["cache", "a.x"], .directory), (["out"], .directory),
    (["out", "b.C_ObserverSubscriptions.java"], .file "stale".toUTF8),
    (["out", "b.C_ObserverSubscriptions.meta.json"], .file straySidecar.toUTF8)]

/-- Artifacts are used again, and the packages have short names. -/
def strayReusing : Configuration :=
  { reusing with packages := ["a"] }

/-- Each job gives its permit back before the next target is started. -/
def oneByOne : List PassAction :=
  .pass :: List.replicate 14 (.task 0) ++ [.pass, .pass, .pass] ++
    List.replicate 13 (.task 1) ++ [.pass, .pass] ++ List.replicate 13 (.task 2) ++ [.pass, .pass]

/-- The entry of the stray bean cannot be reached before the first pass has written the other bean,
and so the bean fails. The second pass takes the entry, although no two beans share a class and
nothing fails to be stored. -/
theorem stray_entry_departs : ∃ engine run again,
    Engine.start strayReusing (.memory (.ofTypes strayTypes)) strayFiles (.files "out") =
        .ok engine ∧
      (((MemoryUniverse.ofTypes strayTypes).toUniverse.survey
        ⟨strayReusing.annotations.observes, strayReusing.packages⟩).types.map
          fun bean => (Target.observer bean.name).className).Nodup ∧
      Ends (MemoryUniverse.ofTypes strayTypes).toUniverse engine run ∧
      Ends (MemoryUniverse.ofTypes strayTypes).toUniverse run.pass.engine again ∧
      again.pass.report ≠ run.pass.report := by
  have computed : (firstRun strayReusing (.memory (.ofTypes strayTypes)) strayFiles (.files "out")
      oneByOne).map (fun run =>
        (run.view, ((begin run.pass.engine).run? (List.replicate 8 .pass)).map view)) =
      some (⟨.finished, [1, 1, 1],
        [(.observer strayBean, .model (.invalidIdentifier strayBean strayBean .type))]⟩,
        some ⟨.finished, [], []⟩) := by
    decide +kernel
  obtain ⟨run, ran, shown⟩ := Option.map_eq_some_iff.1 computed
  obtain ⟨viewed, shownAgain⟩ := Prod.mk.inj shown
  obtain ⟨again, ranAgain, viewedAgain⟩ := Option.map_eq_some_iff.1 shownAgain
  obtain ⟨engine, started, first, source⟩ :=
    exists_ends_of_view ran viewed (by decide) (by decide)
  have second : Ends (MemoryUniverse.ofTypes strayTypes).toUniverse run.pass.engine again :=
    .of_view (.of_source fun files => by rw [source]; rfl) ranAgain viewedAgain (by decide)
      (by decide)
  refine ⟨engine, run, again, started, by decide +kernel, first, second, fun same => ?_⟩
  have failures := congrArg View.failures viewed
  have failuresAgain := congrArg View.failures viewedAgain
  simp only [view] at failures failuresAgain
  rw [same, failures] at failuresAgain
  cases failuresAgain

end PassRun

end BusBridge
