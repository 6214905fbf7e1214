/-
This file proves what the steps of a generation pass do to the stores, when no job is refused and
nothing fails to be stored. Whatever is cached before the pass, only a target that is finished
changes them.
-/

import BusBridge.Proofs.Engine.PassContent
import BusBridge.Proofs.Engine.Tidy

namespace BusBridge

namespace Engine

variable {types : Universe} {engine next : Engine} {target : Target} {pending : PendingTarget}

/-- The engine makes what the universe has, and no commit is under way. -/
structure Prepared (types : Universe) (engine : Engine) : Prop where
  serves : engine.Serves
  knows : engine.Knows types
  yields : engine.Yields types
  tidy : engine.IsTidy

/-- An engine is prepared for a pass when it starts with a sink that nobody used. -/
theorem Prepared.start {configuration : Configuration} {source : UniverseSource} {files : Files}
    {sink : Sink} (started : start configuration source files sink = .ok engine)
    (fresh : sink.reservations = {}) : engine.Prepared types :=
  ⟨.start started, .start started, .start started, .start started fresh⟩

/-- The engines store the same, and for the same configuration. -/
structure SameStores (engine next : Engine) : Prop where
  configuration : next.configuration = engine.configuration
  cache : next.cache = engine.cache
  sink : next.sink = engine.sink
  files : next.files = engine.files
  commits : next.commits = engine.commits

/-- An engine has its own stores. -/
theorem SameStores.refl (engine : Engine) : engine.SameStores engine :=
  ⟨rfl, rfl, rfl, rfl, rfl⟩

/-- Stores that stay the same twice stay the same. -/
theorem SameStores.trans {last : Engine} (same : engine.SameStores next)
    (after : next.SameStores last) : engine.SameStores last :=
  ⟨after.configuration.trans same.configuration, after.cache.trans same.cache,
    after.sink.trans same.sink, after.files.trans same.files, after.commits.trans same.commits⟩

/-- Engines that differ in their logs have the same stores. -/
theorem Agrees.sameStores (agrees : engine.Agrees next) : engine.SameStores next :=
  ⟨agrees.configuration.symm, agrees.cache.symm, agrees.sink.symm, agrees.files.symm,
    agrees.commits.symm⟩

/-- The same artifacts can be reused from the same stores. -/
theorem SameStores.reusable?_eq (stores : engine.SameStores next) :
    next.reusable? target = engine.reusable? target := by
  rw [reusable?, reusable?, stores.configuration, stores.cache, stores.files]

/-- The same parts of entries are found in the same stores. -/
theorem SameStores.cached?_eq (stores : engine.SameStores next) {part : EntryPart} :
    next.cached? target part = engine.cached? target part := by
  rw [cached?, cached?, stores.cache, stores.files]

/-- The same sidecars are found in the same stores. -/
theorem SameStores.sidecar?_eq (stores : engine.SameStores next) :
    next.sidecar? target = engine.sidecar? target := by
  rw [sidecar?, sidecar?, stores.cached?_eq]

/-- How a target begins: its class stands, or its artifact is cached, or it gets a job. -/
inductive Begins (engine : Engine) (target : Target) : PendingState → Prop where
  | standing (created : engine.sink.isCreated target.className = true) :
      Begins engine target .alreadyGenerated
  | cached {artifact : Artifact} (free : engine.sink.isCreated target.className = false)
      (found : engine.reusable? target = some artifact) : Begins engine target (.cached artifact)
  | running (job : JobId) (free : engine.sink.isCreated target.className = false)
      (absent : engine.reusable? target = none) : Begins engine target (.running job)

/-- A target begins as the engine hands it in. -/
theorem begins_handIn (engine : Engine) (target : Target) :
    engine.Begins (engine.handIn target).1.target (engine.handIn target).1.state := by
  have handed := handsIn_handIn engine target
  revert handed
  generalize engine.handIn target = pair
  rintro (⟨known, -⟩ | ⟨free, found, -⟩ | ⟨free, absent, -⟩)
  · exact .standing (by simpa [Sink.shouldGenerate] using known)
  · exact .cached (by simpa [Sink.shouldGenerate] using free) found
  · exact .running _ (by simpa [Sink.shouldGenerate] using free) absent

/-- How a target begins depends on the stores alone. -/
theorem Begins.congr {state : PendingState} (begins : engine.Begins target state)
    (stores : next.SameStores engine) : next.Begins target state := by
  cases begins with
  | standing created => exact .standing (stores.sink ▸ created)
  | cached free found =>
      exact .cached (stores.sink ▸ free) (stores.reusable?_eq ▸ found)
  | running job free absent =>
      exact .running job (stores.sink ▸ free) (stores.reusable?_eq ▸ absent)

/-- A target that waits for an artifact has a class that was free. -/
theorem Begins.isCreated_eq_false {state : PendingState} (begins : engine.Begins target state)
    (waits : state ≠ .alreadyGenerated) : engine.sink.isCreated target.className = false := by
  cases begins with
  | standing => exact absurd rfl waits
  | cached free | running _ free => exact free

/-- A target begins as generated exactly when its class is taken. -/
theorem Begins.eq_alreadyGenerated_iff {state : PendingState}
    (begins : engine.Begins target state) :
    state = .alreadyGenerated ↔ engine.sink.isCreated target.className = true := by
  constructor
  · rintro rfl
    cases begins with
    | standing created => exact created
  · intro created
    by_contra waits
    rw [begins.isCreated_eq_false waits] at created
    cases created

/-- What a target waits for fits its class. -/
def Fits (engine : Engine) (pending : PendingTarget) : Prop :=
  match pending.state with
  | .alreadyGenerated => engine.sink.isCreated pending.target.className = true
  | .cached artifact => artifact.className = pending.target.className
  | .running _ => True

/-- A target begins in a state that fits it. -/
theorem Begins.fits (begins : engine.Begins pending.target pending.state) :
    engine.Fits pending := by
  unfold Fits
  cases state : pending.state <;> rw [state] at begins
  case alreadyGenerated =>
    cases begins with
    | standing created => exact created
  case cached =>
    cases begins with
    | cached free found => exact className_of_reusable? found
  case running => trivial

/-- Classes stay created. -/
theorem Fits.mono (fits : engine.Fits pending)
    (stay : ∀ className, engine.sink.isCreated className = true →
      next.sink.isCreated className = true) : next.Fits pending := by
  unfold Fits at fits ⊢
  cases state : pending.state <;> rw [state] at fits
  case alreadyGenerated => exact stay _ fits
  case cached => exact fits
  case running => trivial

/-- A class that is created stays created. -/
theorem Finishes.isCreated {result : Except Failure String}
    (finishes : Finishes pending engine next result) {className : ClassName}
    (created : engine.sink.isCreated className = true) : next.sink.isCreated className = true := by
  cases finishes with
  | standing _ _ agrees | failed _ _ agrees => exact agrees.sink ▸ created
  | stored _ _ _ _ _ takes => exact takes.isCreated_iff.2 (.inr created)

end Engine

/-- The warnings of a pass over a universe. -/
def plannedWarnings (configuration : Configuration) (types : Universe) : List String :=
  (types.survey ⟨configuration.annotations.observes, configuration.packages⟩).warnings.map
    ScanFailure.message

namespace PassRun

variable {types : Universe} {engine : Engine} {run next : PassRun} {history after : PassHistory}
  {action : PassAction}

/-- Between its steps a pass has a prepared engine, and what waits fits. The warnings are those of
its scan. -/
structure Steady (types : Universe) (run : PassRun) : Prop where
  prepared : run.pass.engine.Prepared types
  fits : ∀ pending ∈ run.pass.inFlight, run.pass.engine.Fits pending
  warned : run.pass.report.scanWarnings =
    if run.stage.isScanned then plannedWarnings run.pass.engine.configuration types else []

/-- What a step does to the targets of a pass and to its stores. -/
inductive Advance (types : Universe) (history : PassHistory) (run : PassRun) :
    PassHistory → PassRun → Prop where
  | quiet {next : PassRun} (inFlight : next.pass.inFlight = run.pass.inFlight)
      (stores : run.pass.engine.SameStores next.pass.engine) :
      Advance types history run history next
  | start {next : PassRun} (pending : PendingTarget)
      (inFlight : next.pass.inFlight = run.pass.inFlight ++ [pending])
      (begins : run.pass.engine.Begins pending.target pending.state)
      (stores : run.pass.engine.SameStores next.pass.engine)
      (room : run.stage = .begun ∨ ∃ bean beans, run.stage = .generating (bean :: beans) ∧
        run.pass.inFlight.length ≠ run.pass.window) :
      Advance types history run { history with started := history.started ++ [pending] } next
  | finish {next : PassRun} {oldest : PendingTarget} {result : Except Failure String}
      (inFlight : run.pass.inFlight = oldest :: next.pass.inFlight)
      (made : ∀ job, oldest.state = .running job → run.pass.engine.artifactOf oldest.state =
        Pipeline.made run.pass.engine.configuration types oldest.target)
      (finishes : Engine.Finishes oldest run.pass.engine next.pass.engine result) :
      Advance types history run
        { history with finished := history.finished ++ [(oldest, result)] } next

/-- A pass of a prepared engine over a universe that stays as it is, in which no permit was missing
and nothing failed to be stored. -/
structure Smooth (types : Universe) (engine : Engine) (history : PassHistory) (run : PassRun) :
    Prop where
  prepared : engine.Prepared types
  still : Still types engine
  remembered : Remembered engine history run
  permitted : ∀ request ∈ run.requests, request.left ≠ 0
  unfailing : ∀ entry ∈ history.finished, Engine.Unfailing engine.sink entry.2

/-- A smooth run keeps the order of its targets. -/
theorem Smooth.order (smooth : Smooth types engine history run) : Order engine history run :=
  (smooth.remembered.order smooth.prepared.serves).1

/-- The targets that were started are the first ones of the plan. -/
theorem Smooth.isPrefix (smooth : Smooth types engine history run) :
    history.started.map PendingTarget.target <+: plannedTargets engine.configuration types :=
  (smooth.remembered.order smooth.prepared.serves).2.isPrefix smooth.prepared.serves
    smooth.prepared.knows smooth.still

/-- A pass that is finished has done all that was planned. -/
theorem Smooth.done_eq (smooth : Smooth types engine history run)
    (finished : run.stage = .finished) :
    history.done = plannedTargets engine.configuration types :=
  (smooth.remembered.order smooth.prepared.serves).2.done_eq smooth.prepared.serves
    smooth.prepared.knows smooth.still smooth.order finished

/-- Each target that was started was planned. -/
theorem Smooth.planned (smooth : Smooth types engine history run) {pending : PendingTarget}
    (started : pending ∈ history.started) :
    pending.target ∈ plannedTargets engine.configuration types :=
  smooth.isPrefix.subset (List.mem_map_of_mem started)

/-- A target in flight was started. -/
theorem Order.started_of_inFlight (order : Order engine history run) {pending : PendingTarget}
    (waits : pending ∈ run.pass.inFlight) : pending ∈ history.started := by
  rw [order.started]
  exact List.mem_append_right _ waits

/-- A target that is finished was started. -/
theorem Order.started_of_finished (order : Order engine history run)
    {entry : PendingTarget × Except Failure String} (finished : entry ∈ history.finished) :
    entry.1 ∈ history.started := by
  rw [order.started]
  exact List.mem_append_left _ (List.mem_map_of_mem finished)

/-- No target is started twice. -/
theorem Smooth.nodup (smooth : Smooth types engine history run) :
    (history.started.map PendingTarget.target).Nodup :=
  (nodup_plannedTargets engine.configuration types).sublist smooth.isPrefix.sublist

/-- What was smooth after a step was so before it. -/
theorem Smooth.before (smooth : Smooth types engine (run.remember next history) next)
    (remembered : Remembered engine history run) (possible : run.step? action = some next) :
    Smooth types engine history run := by
  constructor
  case prepared => exact smooth.prepared
  case still => exact smooth.still
  case remembered => exact remembered
  case permitted =>
    have permitted := smooth.permitted
    intro request old
    cases Change.of_step? possible with
    | move => exact permitted request (List.mem_append_left _ old)
    | start | finish | scan | close => exact permitted request old
  case unfailing =>
    exact fun entry finished => smooth.unfailing entry (List.mem_append_left _ finished)

/-- A target that is handed in leaves the stores as they are, and what it begins fits them. -/
theorem Steady.handIn (steady : Steady types run) (same : run.pass.engine.types = types)
    {target : Target} {stage : PassStage} (scanned : stage.isScanned = run.stage.isScanned)
    (room : run.stage = .begun ∨ ∃ bean beans, run.stage = .generating (bean :: beans) ∧
      run.pass.inFlight.length ≠ run.pass.window) :
    Steady types { run with pass := run.pass.handIn target, stage } ∧
      Advance types history run
        (run.remember { run with pass := run.pass.handIn target, stage } history)
        { run with pass := run.pass.handIn target, stage } := by
  obtain ⟨serves, knows, yields, tidy⟩ := steady.prepared
  obtain ⟨configuration, commits, -⟩ := Engine.handIn_cases run.pass.engine target
  obtain ⟨cache, sink, files, -⟩ := Engine.handIn_stores run.pass.engine target
  have begins := Engine.begins_handIn run.pass.engine target
  rw [remember_of_started rfl]
  refine ⟨⟨⟨?_, ?_, ?_, tidy.congr commits sink⟩, ?_, ?_⟩,
    .start (run.pass.engine.handIn target).1 rfl begins
      ⟨configuration, cache, sink, files, commits⟩ room⟩
  · exact serves.handIn target
  · exact knows.handIn serves same target
  · exact yields.handIn serves target
  · intro pending waits
    have fits : run.pass.engine.Fits pending := by
      rcases List.mem_append.1 waits with old | new
      · exact steady.fits pending old
      · rw [List.mem_singleton.1 new]
        exact begins.fits
    exact fits.mono fun className created => sink.symm ▸ created
  · have warned := steady.warned
    rw [← scanned] at warned
    exact configuration.symm ▸ warned

/-- The oldest target is finished with the artifact of its own class, and what waits behind it
still fits. -/
theorem Steady.finishOldest {pass : GenerationPass} {stage : PassStage}
    (steady : Steady types run) (order : Order engine history run)
    (reached : Reachable engine run)
    (smooth : Smooth types engine (run.remember { run with pass, stage } history)
      { run with pass, stage })
    (finishes : run.pass.finishOldest? = some pass)
    (scanned : stage.isScanned = run.stage.isScanned) :
    Steady types { run with pass, stage } ∧
      Advance types history run (run.remember { run with pass, stage } history)
        { run with pass, stage } := by
  obtain ⟨serves, knows, yields, tidy⟩ := steady.prepared
  obtain ⟨oldest, rest, inFlight, ready, rfl⟩ := GenerationPass.finishOldest?_eq_some finishes
  have waits : oldest ∈ run.pass.inFlight := by simp [inFlight]
  have fits := steady.fits oldest waits
  have made (job : JobId) (state : oldest.state = .running job) :=
    order.artifactOf_eq_made yields waits ready state
  -- What a job returned was made for its target, and so it is of the class of that target.
  have own (artifact : Artifact)
      (received : run.pass.engine.artifactOf oldest.state = .ok artifact) :
      artifact.className = oldest.target.className := by
    unfold Engine.Fits at fits
    cases state : oldest.state <;> rw [state] at fits
    case alreadyGenerated => rw [state] at received; cases received
    case cached => rw [state] at received; cases received; exact fits
    case running job =>
      rw [made job state] at received
      exact (Pipeline.isDeclared_of_made received).1
  have memory := reached.inMemory_eq
  rw [remember_of_finished inFlight rfl] at smooth ⊢
  obtain ⟨after, finished⟩ := tidy.finishTarget
    (fun standing => by simpa only [Engine.Fits, standing] using fits) own
    ((smooth.unfailing (oldest, _) (by simp)).imp_left memory.trans)
  have sameRun : run.pass.engine.SameRun (run.pass.engine.finishTarget oldest {}).2 :=
    Engine.sameRun_finishTarget
  refine ⟨⟨⟨?_, ?_, ?_, after⟩, ?_, ?_⟩, .finish inFlight made finished⟩
  · exact serves.finishTarget oldest
  · exact knows.congr sameRun
  · exact yields.congr sameRun.configuration sameRun.scheduler
  · exact fun pending waits =>
      (steady.fits pending (by simp [inFlight, waits])).mono fun _ => finished.isCreated
  · have warned := steady.warned
    rw [← scanned] at warned
    exact sameRun.configuration.symm ▸ warned

/-- A step keeps a pass steady, and takes one of the three ways. -/
theorem Steady.step (steady : Steady types run)
    (smooth : Smooth types engine (run.remember next history) next)
    (remembered : Remembered engine history run) (possible : run.step? action = some next) :
    Steady types next ∧ Advance types history run (run.remember next history) next := by
  have earlier := smooth.before remembered possible
  have order := earlier.order
  obtain ⟨serves, knows, yields, tidy⟩ := steady.prepared
  have same := earlier.still run remembered.reachable
  cases Change.of_step? possible with
  | @move task moved member moves =>
      have left : task.stage = .unpermitted → run.scheduler.permits ≠ 0 := fun stage =>
        smooth.permitted _ (List.mem_append_right _ (mem_requestsOf_iff.2 ⟨stage, rfl⟩))
      have history : run.remember { run with
        pass := { run.pass with engine := { run.pass.engine with run := moved } }
        requests := run.requests ++ requestsOf run.scheduler task } history = history :=
          remember_of_inFlight rfl
      rw [history]
      refine ⟨⟨⟨?_, ?_, ?_, tidy.congr rfl rfl⟩, steady.fits, steady.warned⟩,
        .quiet rfl ⟨rfl, rfl, rfl, rfl, rfl⟩⟩
      · exact serves.move member moves
      · exact knows.move serves member moves
      · exact yields.move knows serves member left moves
  | start target stage room scanned => exact steady.handIn same scanned room
  | finish finishes stage scanned =>
      exact steady.finishOldest order remembered.reachable smooth finishes scanned
  | scan stage scanned =>
      have history : run.remember { run with pass := run.pass.scan.2, stage } history = history :=
        remember_of_inFlight rfl
      rw [history]
      obtain ⟨found, kept⟩ :=
        knows.scan same run.pass.engine.configuration.annotations.observes
      refine ⟨⟨⟨?_, kept, ?_, tidy.congr rfl rfl⟩, steady.fits, ?_⟩,
        .quiet rfl ⟨rfl, rfl, rfl, rfl, rfl⟩⟩
      · exact (serves.scan _).2
      · exact yields.congr rfl rfl
      · rw [scanned]
        exact congrArg (fun outcome => outcome.warnings.map ScanFailure.message) found
  | close scanned =>
      have history : run.remember { run with pass := run.pass.close, stage := .finished } history =
          history := remember_of_inFlight rfl
      rw [history]
      refine ⟨⟨⟨?_, ?_, ?_, tidy.congr rfl rfl⟩, steady.fits, ?_⟩,
        .quiet rfl ⟨rfl, rfl, rfl, rfl, rfl⟩⟩
      · exact serves.congr (by constructor <;> rfl)
      · exact knows.congr (by constructor <;> rfl)
      · exact yields.congr rfl rfl
      · have warned := steady.warned
        rw [scanned] at warned
        exact warned

/-- A smooth run is steady. -/
theorem Smooth.steady (smooth : Smooth types engine history run) : Steady types run := by
  have remembered := smooth.remembered
  induction remembered with
  | begin => exact ⟨smooth.prepared, nofun, rfl⟩
  | step before possible ih =>
      exact ((ih (smooth.before before possible)).step smooth before possible).1

/-- What holds at the begin of a smooth pass, and is kept by each way to advance, holds of it. -/
theorem Smooth.induction {motive : PassHistory → PassRun → Prop}
    (smooth : Smooth types engine history run) (begins : motive {} (begin engine))
    (advances : ∀ {history after : PassHistory} {run next : PassRun},
      Smooth types engine history run → Smooth types engine after next →
        Advance types history run after next → motive history run → motive after next) :
    motive history run := by
  have remembered := smooth.remembered
  induction remembered with
  | begin => exact begins
  | step before possible ih =>
      have earlier := smooth.before before possible
      exact advances earlier smooth (earlier.steady.step smooth before possible).2 (ih earlier)

end PassRun

end BusBridge
