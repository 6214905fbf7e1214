/-
This file proves what a generation pass makes while the universe stays as it is: whatever the order
of its jobs, each target gets what the universe has for it, and the sink holds just that.
-/

import BusBridge.Proofs.Engine.Delivered
import BusBridge.Proofs.Engine.PassOrder
import BusBridge.Proofs.Scan.Shown

namespace BusBridge

/-- The targets of a pass over a universe. -/
def plannedTargets (configuration : Configuration) (types : Universe) : List Target :=
  .loader configuration.loaderContract ::
    (types.survey ⟨configuration.annotations.observes, configuration.packages⟩).types.map
      fun bean => .observer bean.name

section Plan

variable {configuration : Configuration} {types : Universe} {target : Target}

/-- No target is planned twice. -/
theorem nodup_plannedTargets (configuration : Configuration) (types : Universe) :
    (plannedTargets configuration types).Nodup := by
  have once := Universe.nodup_typeNames_survey types
    ⟨configuration.annotations.observes, configuration.packages⟩
  have apart := Target.nodup_loader_observers configuration.loaderContract once
  rw [ScanOutcome.typeNames, List.map_map] at apart
  exact apart

/-- The loader is planned, and each bean of the survey. -/
theorem mem_plannedTargets : target ∈ plannedTargets configuration types ↔
    target = .loader configuration.loaderContract ∨
      ∃ bean ∈ (types.survey ⟨configuration.annotations.observes, configuration.packages⟩).types,
        .observer bean.name = target := by
  rw [plannedTargets, List.mem_cons, List.mem_map]

/-- The name of a class tells its strategy. -/
theorem strategy_eq_of_simple {first second : Target}
    (same : first.className.simple = second.className.simple) :
    first.strategy = second.strategy := by
  simp only [Target.className] at same
  exact (Target.append_suffix_inj same).1

/-- When no two scanned beans share a class, no two targets of the pass do. -/
theorem eq_of_className_eq
    (distinct : ((types.survey
      ⟨configuration.annotations.observes, configuration.packages⟩).types.map
        fun bean => (Target.observer bean.name).className).Nodup)
    {first second : Target} (inPlan : first ∈ plannedTargets configuration types)
    (alsoInPlan : second ∈ plannedTargets configuration types)
    (same : first.className = second.className) : first = second := by
  have strategy := strategy_eq_of_simple (congrArg ClassName.simple same)
  rcases mem_plannedTargets.1 inPlan with rfl | ⟨bean, found, rfl⟩ <;>
    rcases mem_plannedTargets.1 alsoInPlan with rfl | ⟨other, alsoFound, rfl⟩
  · rfl
  · cases strategy
  · cases strategy
  · rw [List.inj_on_of_nodup_map distinct found alsoFound same]

/-- The class for a bean is in its package. -/
theorem package_className (bean : TypeDeclaration) :
    (Target.observer bean.name).className.package = bean.package := by
  rw [Target.className, Target.observer, TypeDeclaration.package]

/-- No other target has the simple name of a class without package, which is that of the loader. -/
theorem eq_of_default_package
    (named : ∀ bean ∈ (types.survey
      ⟨configuration.annotations.observes, configuration.packages⟩).types, bean.package ≠ "")
    {first second : Target} (inPlan : first ∈ plannedTargets configuration types)
    (alsoInPlan : second ∈ plannedTargets configuration types)
    (default : second.className.package = "")
    (same : first.className.simple = second.className.simple) : first = second := by
  rcases mem_plannedTargets.1 alsoInPlan with rfl | ⟨bean, found, rfl⟩
  · rcases mem_plannedTargets.1 inPlan with rfl | ⟨bean, found, rfl⟩
    · rfl
    · cases strategy_eq_of_simple same
  · rw [package_className] at default
    exact absurd default (named bean found)

/-- When no two scanned beans share a class, the targets of the pass keep apart. -/
theorem keepApart_plannedTargets {declarations : List TypeDeclaration}
    (shows : types.Shows declarations)
    (distinct : ((types.survey
      ⟨configuration.annotations.observes, configuration.packages⟩).types.map
        fun bean => (Target.observer bean.name).className).Nodup) :
    Target.KeepApart (plannedTargets configuration types) := by
  constructor
  case classes =>
    exact fun _ inPlan _ alsoInPlan => eq_of_className_eq distinct inPlan alsoInPlan
  case rootless =>
    refine fun _ inPlan _ alsoInPlan =>
      eq_of_default_package (fun bean found => ?_) inPlan alsoInPlan
    obtain ⟨-, -, packagePrefix, -, covers⟩ := shows.of_mem_types_survey found
    exact ne_empty_of_covers covers

end Plan

/-- The beans of the scan are known. -/
def PassStage.isScanned : PassStage → Bool
  | .begun | .loading | .scanning => false
  | .generating _ | .finished | .aborted => true

/-- Whether the window fits or not, the scan is made. -/
theorem PassStage.isScanned_afterScan (window : Nat) (beans : List TypeDeclaration) :
    (afterScan window beans).isScanned = true := by
  unfold afterScan
  split <;> rfl

/-- The targets that were finished. -/
def PassHistory.done (history : PassHistory) : List Target :=
  history.finished.map fun entry => entry.1.target

namespace PassRun

variable {engine : Engine} {run next : PassRun} {history : PassHistory} {types : Universe}
  {action : PassAction}

/-- What a step of a pass does. -/
inductive Change (run : PassRun) : PassRun → Prop where
  | move {task : Task} {moved : SchedulerRun Scanner} (member : task ∈ run.scheduler.tasks)
      (moves : run.pass.engine.run.moveTask? task = some moved) :
      Change run { run with
        pass := { run.pass with engine := { run.pass.engine with run := moved } }
        requests := run.requests ++ requestsOf run.scheduler task }
  | start (target : Target) (stage : PassStage)
      (room : run.stage = .begun ∨ ∃ bean beans, run.stage = .generating (bean :: beans) ∧
        run.pass.inFlight.length ≠ run.pass.window)
      (scanned : stage.isScanned = run.stage.isScanned) :
      Change run { run with pass := run.pass.handIn target, stage }
  | finish {pass : GenerationPass} (finishes : run.pass.finishOldest? = some pass)
      (stage : PassStage) (scanned : stage.isScanned = run.stage.isScanned) :
      Change run { run with pass, stage }
  | scan (stage : PassStage) (scanned : stage.isScanned = true) :
      Change run { run with pass := run.pass.scan.2, stage }
  | close (scanned : run.stage.isScanned = true) :
      Change run { run with pass := run.pass.close, stage := .finished }

/-- A step of the thread of a pass is one of the cases. -/
theorem Change.of_threadStep (goes : ThreadStep run next) : Change run next := by
  cases goes with
  | startLoader stage => exact .start _ _ (.inl stage) (by rw [stage]; rfl)
  | finishLoader stage finishes => exact .finish finishes _ (by rw [stage]; rfl)
  | scan => exact .scan _ (PassStage.isScanned_afterScan _ _)
  | startBean stage room => exact .start _ _ (.inr ⟨_, _, stage, room⟩) (by rw [stage]; rfl)
  | finishBean _ _ finishes => exact .finish finishes _ rfl
  | close stage => exact .close (by rw [stage]; rfl)

/-- A possible step of a pass is one of the cases. -/
theorem Change.of_step? (possible : run.step? action = some next) : Change run next := by
  cases Step.of_step? possible with
  | task member moves =>
      obtain ⟨moved, taskMoves, rfl⟩ := Option.map_eq_some_iff.1 moves
      exact .move member taskMoves
  | thread goes => exact .of_threadStep goes

/-- The engine shows the same universe in every state of the pass. -/
def Still (types : Universe) (engine : Engine) : Prop :=
  ∀ run, Reachable engine run → run.pass.engine.types = types

/-- A pass keeps the source of its engine and the place of its cache. -/
theorem Reachable.source_and_cache_eq (reached : Reachable engine run) :
    run.pass.engine.source = engine.source ∧ run.pass.engine.cache = engine.cache := by
  induction reached with
  | begin => exact ⟨rfl, rfl⟩
  | step before possible ih =>
      cases Change.of_step? possible with
      | move | scan | close => exact ih
      | start target =>
          obtain ⟨cache, -, -, source⟩ := Engine.handIn_stores _ target
          exact ⟨source.trans ih.1, cache.trans ih.2⟩
      | finish finishes =>
          obtain ⟨oldest, -, -, -, rfl⟩ := GenerationPass.finishOldest?_eq_some finishes
          exact ⟨Engine.sameRun_finishTarget.source.trans ih.1,
            Engine.sameRun_finishTarget.cache.trans ih.2⟩

/-- A source that shows the same types whatever the files are does so throughout the pass. -/
theorem Still.of_source (still : ∀ files, engine.source.at files = types) : Still types engine := by
  intro run reached
  rw [Engine.types, reached.source_and_cache_eq.1]
  exact still _

/-- The universe is known throughout the pass, whether or not jobs are refused. -/
theorem Reachable.knows (serves : engine.Serves) (knows : engine.Knows types)
    (still : Still types engine) (reached : Reachable engine run) :
    run.pass.engine.Knows types := by
  induction reached with
  | begin => exact knows
  | step before possible ih =>
      have running := before.serves serves
      have same := still _ before
      cases Change.of_step? possible with
      | move member moves => exact ih.move running member moves
      | start target => exact ih.handIn running same target
      | finish finishes =>
          obtain ⟨oldest, -, -, -, rfl⟩ := GenerationPass.finishOldest?_eq_some finishes
          exact ih.congr Engine.sameRun_finishTarget
      | scan => exact (ih.scan same _).2
      | close => exact ih.congr (by constructor <;> rfl)

/-- Throughout the pass the sink stores where it stored at its start. -/
theorem Reachable.inMemory_eq (reached : Reachable engine run) :
    run.pass.engine.sink.inMemory = engine.sink.inMemory := by
  induction reached with
  | begin => rfl
  | step before possible ih =>
      cases Change.of_step? possible with
      | move | scan | close => exact ih
      | start target =>
          exact (congrArg Sink.inMemory (Engine.handIn_stores _ target).2.1).trans ih
      | finish finishes =>
          obtain ⟨oldest, -, -, -, rfl⟩ := GenerationPass.finishOldest?_eq_some finishes
          exact Engine.inMemory_finishTarget.trans ih

/-- The targets of a scanned pass are those of the plan. -/
theorem scannedTargets_eq (knows : run.pass.engine.Knows types)
    (same : run.pass.engine.types = types) :
    run.scannedTargets = plannedTargets run.pass.engine.configuration types := by
  have found := (knows.scan same run.pass.engine.configuration.annotations.observes).1
  rw [scannedTargets, plannedTargets, ← found]
  rfl

/-- The targets that were started are the first ones of the plan. -/
theorem FollowsScan.isPrefix (serves : engine.Serves) (knows : engine.Knows types)
    (still : Still types engine) (follows : FollowsScan engine history run) :
    history.started.map PendingTarget.target <+: plannedTargets engine.configuration types := by
  have planned {scan : PassRun} (reached : Reachable engine scan) :
      scan.scannedTargets = plannedTargets engine.configuration types := by
    obtain ⟨remembered, before⟩ := reached.exists_remembered
    rw [scannedTargets_eq (reached.knows serves knows still) (still scan reached),
      (before.order serves).1.configuration]
  have alone : [Target.loader engine.configuration.loaderContract] <+:
      plannedTargets engine.configuration types := ⟨_, rfl⟩
  cases stage : run.stage <;> simp only [FollowsScan, stage] at follows
  case begun => simp [follows]
  case loading | scanning | aborted => exact follows.2 ▸ alone
  case generating beans =>
    obtain ⟨scan, reached, -, targets⟩ := follows
    exact ⟨_, targets.trans (planned reached)⟩
  case finished =>
    obtain ⟨-, scan, reached, -, targets⟩ := follows
    exact ⟨_, targets.trans (planned reached)⟩

/-- A job that has an outcome ended with what was made for its target. -/
theorem Order.artifactOf_eq_made (order : Order engine history run)
    (yields : run.pass.engine.Yields types) {pending : PendingTarget}
    (waits : pending ∈ run.pass.inFlight) (ready : pending.state.isReady run.pass.engine = true)
    {job : JobId} (state : pending.state = .running job) :
    run.pass.engine.artifactOf pending.state =
      Pipeline.made run.pass.engine.configuration types pending.target := by
  rw [state] at ready ⊢
  obtain ⟨outcome, recorded⟩ := Option.isSome_iff_exists.1 ready
  obtain ⟨found, known, target⟩ := order.known pending waits job state
  have ended : found.outcome = some outcome := by
    have known : run.pass.engine.run.scheduler.job? job = some found := known
    rwa [SchedulerRun.outcome?, known] at recorded
  rw [Engine.artifactOf, recorded, ← target]
  exact yields.outcomes.jobs job found outcome known ended

/-- At its end a pass has finished the whole plan. -/
theorem FollowsScan.done_eq (serves : engine.Serves) (knows : engine.Knows types)
    (still : Still types engine) (order : Order engine history run)
    (follows : FollowsScan engine history run) (finished : run.stage = .finished) :
    history.done = plannedTargets engine.configuration types := by
  simp only [FollowsScan, finished, List.map_nil, List.append_nil] at follows
  obtain ⟨idle, scan, reached, -, targets⟩ := follows
  obtain ⟨earlier, before⟩ := reached.exists_remembered
  rw [scannedTargets_eq (reached.knows serves knows still) (still scan reached),
    (before.order serves).1.configuration, order.started, idle, List.append_nil,
    List.map_map] at targets
  exact targets

/-- What every step of a pass keeps, when no job is refused and nothing fails to be stored. -/
structure Fulfils (types : Universe) (engine : Engine) (history : PassHistory) (run : PassRun) :
    Prop where
  yields : run.pass.engine.Yields types
  delivered : run.pass.engine.HasDelivered types history.done
  running : ∀ pending ∈ run.pass.inFlight, ∃ job, pending.state = .running job
  results : ∀ entry ∈ history.finished, entry.2 =
    (Pipeline.made engine.configuration types entry.1.target).map
      fun _ => entry.1.target.className.qualified

/-- A step that starts and finishes no target leaves the stores as they are. -/
theorem Fulfils.quiet (fulfils : Fulfils types engine history run)
    (inFlight : next.pass.inFlight = run.pass.inFlight) (yields : next.pass.engine.Yields types)
    (configuration : next.pass.engine.configuration = run.pass.engine.configuration)
    (cache : next.pass.engine.cache = run.pass.engine.cache)
    (sink : next.pass.engine.sink = run.pass.engine.sink)
    (files : next.pass.engine.files = run.pass.engine.files)
    (commits : next.pass.engine.commits = run.pass.engine.commits) :
    Fulfils types engine (run.remember next history) next := by
  rw [remember_of_inFlight inFlight]
  exact ⟨yields, fulfils.delivered.congr configuration cache sink files commits,
    inFlight ▸ fulfils.running, fulfils.results⟩

/-- A target that is started was not started before, so it gets a job. -/
theorem Fulfils.start (fulfils : Fulfils types engine history run)
    (order : Order engine history run)
    (separate : Target.KeepApart (plannedTargets engine.configuration types)) {target : Target}
    {stage : PassStage}
    (first : history.started.map PendingTarget.target ++ [target] <+:
      plannedTargets engine.configuration types) :
    Fulfils types engine (run.remember { run with pass := run.pass.handIn target, stage } history)
      { run with pass := run.pass.handIn target, stage } := by
  have inFlight : (run.pass.handIn target).inFlight =
      run.pass.inFlight ++ [(run.pass.engine.handIn target).1] := rfl
  rw [remember_of_started inFlight]
  have once := (nodup_plannedTargets engine.configuration types).sublist first.sublist
  have started : history.done ⊆ history.started.map PendingTarget.target := by
    rw [order.started, List.map_append, List.map_map]
    exact List.subset_append_left _ _
  have member : target ∈ plannedTargets engine.configuration types := first.subset (by simp)
  have new : target ∉ history.done := fun finished =>
    (List.nodup_append.1 once).2.2 target (started finished) target (List.mem_singleton_self _) rfl
  have within : history.done ⊆ plannedTargets engine.configuration types :=
    fun _ finished => first.subset (List.mem_append_left _ (started finished))
  constructor
  case yields => exact fulfils.yields.handIn order.serves target
  case delivered => exact fulfils.delivered.handIn target
  case running =>
    intro pending waits
    rw [inFlight] at waits
    rcases List.mem_append.1 waits with old | own
    · exact fulfils.running pending old
    · obtain ⟨job, handed⟩ := fulfils.delivered.state_handIn separate within member new
      exact ⟨job, by rw [List.mem_singleton.1 own, handed]⟩
  case results => exact fulfils.results

/-- The oldest target gets what was made for it. -/
theorem Fulfils.finish (fulfils : Fulfils types engine history run)
    (order : Order engine history run)
    (separate : Target.KeepApart (plannedTargets engine.configuration types))
    (first : history.started.map PendingTarget.target <+:
      plannedTargets engine.configuration types)
    {pass : GenerationPass} {stage : PassStage} (finishes : run.pass.finishOldest? = some pass)
    (unfailing : ∀ entry ∈ (run.remember { run with pass, stage } history).finished,
      Engine.Unfailing run.pass.engine.sink entry.2) :
    Fulfils types engine (run.remember { run with pass, stage } history)
      { run with pass, stage } := by
  obtain ⟨oldest, rest, inFlight, ready, rfl⟩ := GenerationPass.finishOldest?_eq_some finishes
  rw [remember_of_finished inFlight rfl] at unfailing ⊢
  have once := (nodup_plannedTargets engine.configuration types).sublist first.sublist
  have targets : history.started.map PendingTarget.target =
      history.done ++ oldest.target :: rest.map PendingTarget.target := by
    rw [order.started, inFlight, List.map_append, List.map_map, List.map_cons]
    rfl
  rw [targets] at first once
  have within : history.done ⊆ plannedTargets engine.configuration types :=
    fun _ finished => first.subset (List.mem_append_left _ finished)
  have member : oldest.target ∈ plannedTargets engine.configuration types := first.subset (by simp)
  have new : oldest.target ∉ history.done := fun finished =>
    (List.nodup_append.1 once).2.2 _ finished _ List.mem_cons_self rfl
  obtain ⟨job, state⟩ := fulfils.running oldest (by simp [inFlight])
  have received := order.artifactOf_eq_made fulfils.yields (by simp [inFlight]) ready state
  obtain ⟨result, delivered⟩ := fulfils.delivered.finishTarget
    (order.configuration ▸ separate) (order.configuration ▸ within)
    (order.configuration ▸ member) new (by simp [state]) received
    (unfailing (oldest, _) (by simp))
  constructor
  case yields =>
    exact fulfils.yields.congr Engine.sameRun_finishTarget.configuration
      Engine.sameRun_finishTarget.scheduler
  case delivered =>
    simpa [PassHistory.done] using delivered
  case running => exact fun pending waits => fulfils.running pending (by simp [inFlight, waits])
  case results =>
    intro entry finished
    rcases List.mem_append.1 finished with old | own
    · exact fulfils.results entry old
    · rw [List.mem_singleton.1 own]
      exact order.configuration ▸ result

/-- A pass fulfils its plan, if no permit was missing. -/
theorem Remembered.fulfils (serves : engine.Serves) (knows : engine.Knows types)
    (still : Still types engine) (yields : engine.Yields types)
    (nothing : engine.HasDelivered types [])
    (separate : Target.KeepApart (plannedTargets engine.configuration types))
    (remembered : Remembered engine history run)
    (permitted : ∀ request ∈ run.requests, request.left ≠ 0)
    (unfailing : ∀ entry ∈ history.finished, Engine.Unfailing engine.sink entry.2) :
    Fulfils types engine history run := by
  induction remembered with
  | begin => exact ⟨yields, nothing, nofun, nofun⟩
  | @step history run next action before possible ih =>
      obtain ⟨order, follows⟩ := before.order serves
      have seen := before.reachable.knows serves knows still
      have first := follows.isPrefix serves knows still
      have after := ((before.step possible).order serves).2.isPrefix serves knows still
      have earlier : (∀ request ∈ run.requests, request.left ≠ 0) →
          Fulfils types engine history run := fun permitted =>
        ih permitted fun entry finished => unfailing entry (List.mem_append_left _ finished)
      cases Change.of_step? possible with
      | @move task _ member moves =>
          have fulfils := earlier fun request old => permitted request (List.mem_append_left _ old)
          have left : task.stage = .unpermitted → run.scheduler.permits ≠ 0 := fun stage =>
            permitted _ (List.mem_append_right _ (mem_requestsOf_iff.2 ⟨stage, rfl⟩))
          exact fulfils.quiet rfl (fulfils.yields.move seen order.serves member left moves)
            rfl rfl rfl rfl rfl
      | start target stage =>
          refine (earlier permitted).start order separate ?_
          rw [remember_of_started rfl, List.map_append] at after
          exact (order.serves.known_handIn target).1 ▸ after
      | finish finishes stage =>
          refine (earlier permitted).finish order separate first finishes fun entry finished => ?_
          exact (unfailing entry finished).imp_left before.reachable.inMemory_eq.trans
      | scan | close =>
          have fulfils := earlier permitted
          exact fulfils.quiet rfl (fulfils.yields.congr rfl rfl) rfl rfl rfl rfl rfl

/-- A finished pass of a new engine with an empty cache, in which no permit was missing. Its sink is
in memory, or nothing failed to be stored. -/
structure Undisturbed (configuration : Configuration) (source : UniverseSource) (engine : Engine)
    (run : PassRun) : Prop where
  started : ∃ files sink, Engine.start configuration source files sink = .ok engine
  fresh : engine.sink.reservations = {}
  uncached : ∀ target,
    engine.files.content? (engine.files.destination (engine.cache.sidecarPath target)) = none
  reached : Reachable engine run
  finished : run.stage = .finished
  permitted : ∀ request ∈ run.requests, request.left ≠ 0
  unfailing : ∀ outcome ∈ run.pass.report.outcomes, Engine.Unfailing engine.sink outcome.2

/-- The source that the sink has for a class. -/
def source? (run : PassRun) (className : ClassName) : Option String :=
  run.pass.engine.sink.stored? run.pass.engine.files className

/-- An undisturbed pass reports what its universe has for each planned target, and its sink has the
sources of just those targets that have one. -/
theorem Undisturbed.makes_planned {configuration : Configuration} {source : UniverseSource}
    (undisturbed : Undisturbed configuration source engine run)
    (still : ∀ files, source.at files = types)
    (separate : Target.KeepApart (plannedTargets configuration types)) :
    run.pass.report.outcomes = (plannedTargets configuration types).map (fun target =>
        (target, (Pipeline.made configuration types target).map fun _ =>
          target.className.qualified)) ∧
      ∀ className text, run.source? className = some text ↔
        ∃ target ∈ plannedTargets configuration types,
          Pipeline.made configuration types target = .ok ⟨className, text⟩ := by
  obtain ⟨files, sink, started⟩ := undisturbed.started
  have still : Still types engine := by
    obtain ⟨-, scheduler, -, rfl⟩ := Engine.start_eq_ok started
    exact .of_source still
  have same : engine.configuration = configuration := by
    obtain ⟨-, scheduler, -, rfl⟩ := Engine.start_eq_ok started
    rfl
  subst same
  have serves : engine.Serves := .start started
  have knows : engine.Knows types := .start started
  obtain ⟨history, remembered⟩ := undisturbed.reached.exists_remembered
  obtain ⟨order, follows⟩ := remembered.order serves
  have unfailing : ∀ entry ∈ history.finished, Engine.Unfailing engine.sink entry.2 := by
    intro entry finished
    refine undisturbed.unfailing (entry.1.target, entry.2) ?_
    rw [order.reported]
    exact List.mem_map.2 ⟨entry, finished, rfl⟩
  have fulfils := remembered.fulfils serves knows still (.start started)
    (.start started undisturbed.fresh undisturbed.uncached) separate undisturbed.permitted unfailing
  have planned := follows.done_eq serves knows still order undisturbed.finished
  constructor
  · rw [order.reported, ← planned, PassHistory.done, List.map_map]
    exact List.map_congr_left fun entry finished =>
      congrArg (entry.1.target, ·) (fulfils.results entry finished)
  · intro className text
    rw [source?, fulfils.delivered.stored?_eq_some_iff, planned, order.configuration]

end PassRun

end BusBridge
