/-
This file proves that each job of an engine ends with what is made for its target, as long as the
universe stays as it is and no permit is missing.
-/

import BusBridge.Proofs.Engine.Made
import BusBridge.Proofs.Engine.Serving
import BusBridge.Proofs.Scheduler.OpenPool

namespace BusBridge

namespace Scheduler

/-- What a pipeline made is the outcome of its job. -/
theorem outcomeOf_ending (scheduler : Scheduler) (id : JobId) (made : JobOutcome) :
    scheduler.outcomeOf id (Pipeline.ending made) = made := by
  cases made <;> rfl

end Scheduler

namespace Engine

/-- The scanner of the engine and the works of its jobs agree with a universe. -/
structure Knows (types : Universe) (engine : Engine) : Prop where
  scanner : engine.run.world.Reports types
  works : ∀ entry ∈ engine.run.works, ∃ job, engine.run.scheduler.job? entry.1 = some job ∧
    entry.2 = Pipeline.work engine.configuration types job.target

variable {types : Universe} {engine next : Engine} {task : Task} {moved : SchedulerRun Scanner}

/-- An engine that starts has no work. -/
theorem Knows.start {configuration : Configuration} {source : UniverseSource} {files : Files}
    {sink : Sink} (started : start configuration source files sink = .ok engine) :
    engine.Knows types := by
  obtain ⟨-, scheduler, -, rfl⟩ := start_eq_ok started
  exact ⟨Scanner.reports_empty types, nofun⟩

/-- What an engine knows depends on its run alone. -/
theorem Knows.congr (knows : engine.Knows types) (same : engine.SameRun next) :
    next.Knows types := by
  constructor
  case scanner => exact same.world ▸ knows.scanner
  case works =>
    rw [same.works, same.scheduler, same.configuration]
    exact knows.works

/-- The work of a job is that of its target. -/
theorem Knows.work_eq (knows : engine.Knows types) {id : JobId} {work : Work Scanner}
    (known : engine.run.works.lookup id = some work) :
    ∃ job, engine.run.scheduler.job? id = some job ∧
      work = Pipeline.work engine.configuration types job.target := by
  obtain ⟨before, after, split, -⟩ := List.lookup_eq_some_iff.1 known
  exact knows.works (id, work) (by simp [split])

/-- The effects of a work leave a scanner that reports the universe. -/
theorem Knows.changesWorld (knows : engine.Knows types) {action : Action} {scanner : Scanner}
    (changes : engine.run.ChangesWorld task action scanner) : scanner.Reports types := by
  cases changes with
  | quiet | skipSetup => exact knows.scanner
  | setUp known brings | panic known brings =>
      obtain ⟨job, -, rfl⟩ := knows.work_eq known
      obtain rfl := Option.some.inj brings
      exact Pipeline.reports_prime knows.scanner
  | generate known =>
      obtain ⟨job, -, rfl⟩ := knows.work_eq known
      exact (Pipeline.ofTarget_of_reports knows.scanner).2

/-- A task that moves keeps what the engine knows. -/
theorem Knows.move (knows : engine.Knows types) (serves : engine.Serves)
    (member : task ∈ engine.run.scheduler.tasks) (moves : engine.run.moveTask? task = some moved) :
    ({ engine with run := moved } : Engine).Knows types := by
  have valid := serves.run.scheduler
  obtain ⟨works, move⟩ := SchedulerRun.Move.of_moveTask? valid member moves
  constructor
  case scanner =>
    cases move with
    | enter _ known _ _ _ world =>
        obtain ⟨job, -, rfl⟩ := knows.work_eq known
        exact world ▸ knows.scanner
    | step action _ _ changes => exact knows.changesWorld changes
  case works =>
    intro entry inWorks
    obtain ⟨job, known, own⟩ := knows.works entry (works ▸ inWorks)
    cases move with
    | enter _ _ _ same => exact ⟨job, (congrArg (Scheduler.job? · entry.1) same).trans known, own⟩
    | step action step =>
        obtain ⟨after, inNext, target, -⟩ := step.keeps valid known
        exact ⟨after, inNext, target ▸ own⟩

/-- A target is handed in with the work of the universe that the engine sees. -/
theorem Knows.handIn (knows : engine.Knows types) (serves : engine.Serves)
    (same : engine.types = types) (target : Target) :
    (engine.handIn target).2.Knows types := by
  have handed := handsIn_handIn engine target
  revert handed
  generalize engine.handIn target = pair
  rintro (⟨-, records⟩ | ⟨-, -, records⟩ | ⟨-, -, records⟩)
  · exact knows.congr (by constructor <;> rfl)
  · exact knows.congr (by constructor <;> rfl)
  · have valid := serves.run.scheduler
    constructor
    case scanner =>
      rw [SchedulerRun.world_handIn]
      exact knows.scanner
    case works =>
      intro entry member
      rcases SchedulerRun.mem_works_handIn member with old | rfl
      · obtain ⟨job, known, own⟩ := knows.works entry old
        obtain ⟨after, inNext, target, -⟩ :=
          (Scheduler.Step.of_submit SchedulerRun.handIn_eq.symm).keeps valid known
        exact ⟨after, inNext, target ▸ own⟩
      · obtain ⟨job, known, own⟩ := valid.submit_target SchedulerRun.handIn_eq.symm
        refine ⟨job, known, ?_⟩
        rw [own]
        exact congrArg (Pipeline.work engine.configuration · target) same

/-- A scan surveys the universe, and keeps what the engine knows. -/
theorem Knows.scan (knows : engine.Knows types) (same : engine.types = types) (marker : String) :
    (engine.scan marker).1 = types.survey ⟨marker, engine.configuration.packages⟩ ∧
      (engine.scan marker).2.Knows types := by
  obtain ⟨found, kept⟩ := knows.scanner.scan ⟨marker, engine.configuration.packages⟩
  rw [← same] at found kept
  exact ⟨same ▸ found, same ▸ kept, knows.works⟩

/-- The pool takes work, and whatever outcome a job has was made for its target. -/
structure Yields (types : Universe) (engine : Engine) : Prop where
  opened : engine.run.scheduler.IsOpen
  outcomes : engine.run.scheduler.HasOutcomes fun target outcome =>
    outcome = Pipeline.made engine.configuration types target

/-- An engine that starts has no outcome. -/
theorem Yields.start {configuration : Configuration} {source : UniverseSource} {files : Files}
    {sink : Sink} (started : start configuration source files sink = .ok engine) :
    engine.Yields types := by
  obtain ⟨-, scheduler, created, rfl⟩ := start_eq_ok started
  exact ⟨.create created, .create created⟩

/-- What an engine yields depends on its scheduler alone. -/
theorem Yields.congr (yields : engine.Yields types)
    (configuration : next.configuration = engine.configuration)
    (scheduler : next.run.scheduler = engine.run.scheduler) : next.Yields types := by
  constructor
  case opened => exact scheduler ▸ yields.opened
  case outcomes =>
    rw [scheduler, configuration]
    exact yields.outcomes

/-- While permits are left, a task goes on to what is made for its target. -/
theorem Yields.move (yields : engine.Yields types) (knows : engine.Knows types)
    (serves : engine.Serves) (member : task ∈ engine.run.scheduler.tasks)
    (permitted : task.stage = .unpermitted → engine.run.scheduler.permits ≠ 0)
    (moves : engine.run.moveTask? task = some moved) :
    ({ engine with run := moved } : Engine).Yields types := by
  have valid := serves.run.scheduler
  obtain ⟨-, move⟩ := SchedulerRun.Move.of_moveTask? valid member moves
  cases move with
  | enter _ _ _ same => exact yields.congr rfl same
  | step action step _ changes =>
      refine ⟨yields.opened.taskStep valid member step,
        yields.outcomes.taskStep valid member step fun outcome brings => ?_⟩
      rcases yields.opened.ends_of_brings member permitted brings with
        ⟨panic, rfl⟩ | ⟨ending, rfl, rfl⟩
      · -- Priming never panics.
        generalize moved.world = world at changes
        cases changes with
        | quiet quiet => cases quiet
        | panic known brings panics =>
            obtain ⟨job, -, rfl⟩ := knows.work_eq known
            obtain rfl := Option.some.inj brings
            cases panics
      · obtain ⟨work, known, rfl⟩ := changes.exists_work
        obtain ⟨job, inTable, rfl⟩ := knows.work_eq known
        rw [Scheduler.targetOf_eq inTable]
        change Scheduler.outcomeOf _ _
          (Pipeline.ofTarget _ types job.target engine.run.world).result = _
        rw [(Pipeline.ofTarget_of_reports knows.scanner).1, Scheduler.outcomeOf_ending]

/-- A target that is handed in yields nothing yet. -/
theorem Yields.handIn (yields : engine.Yields types) (serves : engine.Serves) (target : Target) :
    (engine.handIn target).2.Yields types := by
  have handed := handsIn_handIn engine target
  revert handed
  generalize engine.handIn target = pair
  rintro (⟨-, records⟩ | ⟨-, -, records⟩ | ⟨-, -, records⟩)
  · exact yields.congr rfl rfl
  · exact yields.congr rfl rfl
  · have submitted : ((engine.report records).run.handIn target
        (Pipeline.work engine.configuration engine.types target)).2.scheduler =
          (engine.run.scheduler.submit target true).2 := congrArg Prod.snd SchedulerRun.handIn_eq
    constructor
    case opened =>
      rw [submitted]
      exact yields.opened.submit target true
    case outcomes =>
      rw [submitted]
      exact yields.outcomes.submit serves.run.scheduler target true

end Engine

end BusBridge
