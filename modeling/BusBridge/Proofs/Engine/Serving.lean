/-
This file proves that an engine keeps serving: whatever was generated on it before, its tasks can
move, and its scans name no type twice.
-/

import BusBridge.Proofs.Configuration
import BusBridge.Proofs.Engine.PassRun
import BusBridge.Proofs.Scan.Distinct
import BusBridge.Proofs.Scheduler.Progress

namespace BusBridge

namespace Pipeline

variable {configuration : Configuration} {types : Universe} {target : Target} {scanner : Scanner}

/-- Loading ahead keeps the names of a scan apart. -/
theorem namesOnce_prime (once : scanner.NamesOnce) :
    (prime configuration types scanner).world.NamesOnce := by
  intro entry member
  exact once entry (Scanner.outcomes_prime scanner types configuration.packages ▸ member)

/-- Only the pipeline of a loader scans. -/
theorem namesOnce_ofTarget (once : scanner.NamesOnce) :
    (ofTarget configuration types target scanner).world.NamesOnce := by
  unfold ofTarget
  cases target.strategy with
  | rpcProxy => exact (once.scan types configuration.remoteRequest).2
  | observerSubscription => exact once

end Pipeline

namespace Engine

/-- The jobs of an engine can all be run to their ends. -/
structure Serves (engine : Engine) : Prop where
  accepted : engine.configuration.validate = .ok ()
  run : SchedulerRun.IsUnhindered (.ofConfiguration engine.configuration) engine.run
  works : ∀ entry ∈ engine.run.works, ∃ types target,
    entry.2 = Pipeline.work engine.configuration types target
  scanner : engine.run.world.NamesOnce

variable {engine next : Engine} {task : Task} {moved : SchedulerRun Scanner}

/-- An engine serves from its start. -/
theorem Serves.start {configuration : Configuration} {source : UniverseSource} {files : Files}
    {sink : Sink} (started : start configuration source files sink = .ok engine) :
    engine.Serves := by
  obtain ⟨accepted, scheduler, created, rfl⟩ := start_eq_ok started
  have idle := Scheduler.tasks_of_create created
  have vacant : scheduler.context = .vacant := by
    rw [Scheduler.eq_of_create created]
  constructor
  case accepted => exact accepted
  case works | scanner =>
    intro entry member
    cases member
  case run =>
    constructor
    case scheduler => exact .create created
    case queue => exact .create created
    case workers => exact Configuration.workerThreads_pos_of_validate accepted
    case attended =>
      intro occupied
      rw [vacant] at occupied
      cases occupied
    case works =>
      intro task member
      rw [idle] at member
      cases member
    case ready =>
      intro entry member
      cases member

/-- Files, sinks and gates do not hold an engine back. -/
theorem Serves.congr (serves : engine.Serves) (same : engine.SameRun next) : next.Serves := by
  constructor
  case accepted => exact same.configuration ▸ serves.accepted
  case run =>
    rw [same.configuration]
    exact serves.run.congr same.scheduler same.works
  case works =>
    rw [same.configuration, same.works]
    exact serves.works
  case scanner => exact same.world ▸ serves.scanner

/-- A task that moves keeps the engine serving. -/
theorem Serves.move (serves : engine.Serves) (member : task ∈ engine.run.scheduler.tasks)
    (moves : engine.run.moveTask? task = some moved) :
    ({ engine with run := moved } : Engine).Serves := by
  obtain ⟨works, move⟩ := SchedulerRun.Move.of_moveTask? serves.run.scheduler member moves
  constructor
  case accepted => exact serves.accepted
  case run => exact serves.run.move member works move
  case works => exact fun entry inWorks => serves.works entry (works ▸ inWorks)
  case scanner =>
    have scanner := serves.scanner
    have ofWork {work : Work Scanner} (known : engine.run.works.lookup task.job = some work) :
        ∃ types target, work = Pipeline.work engine.configuration types target := by
      obtain ⟨before, after, split, -⟩ := List.lookup_eq_some_iff.1 known
      exact serves.works (task.job, work) (by simp [split])
    change moved.world.NamesOnce
    cases move with
    | enter _ known _ _ _ world =>
        obtain ⟨types, target, rfl⟩ := ofWork known
        rw [world]
        exact scanner
    | step action _ _ changes =>
        generalize moved.world = world at changes ⊢
        cases changes with
        | quiet | skipSetup => exact scanner
        | setUp known brings | panic known brings =>
            obtain ⟨types, target, rfl⟩ := ofWork known
            obtain rfl := Option.some.inj brings
            exact Pipeline.namesOnce_prime scanner
        | generate known =>
            obtain ⟨types, target, rfl⟩ := ofWork known
            exact Pipeline.namesOnce_ofTarget scanner

/-- A target that is handed in keeps the engine serving. -/
theorem Serves.handIn (serves : engine.Serves) (target : Target) :
    (engine.handIn target).2.Serves := by
  have handed := handsIn_handIn engine target
  revert handed
  generalize engine.handIn target = pair
  rintro (⟨-, records⟩ | ⟨-, -, records⟩ | ⟨-, -, records⟩)
  · exact serves.congr (by constructor <;> rfl)
  · exact serves.congr (by constructor <;> rfl)
  · have reported : (engine.report records).Serves := serves.congr (by constructor <;> rfl)
    constructor
    case accepted => exact serves.accepted
    case run => exact reported.run.handIn fun _ => rfl
    case works =>
      intro entry member
      rcases SchedulerRun.mem_works_handIn member with old | new
      · exact serves.works entry old
      · exact ⟨engine.types, target, congrArg Prod.snd new⟩
    case scanner =>
      rw [SchedulerRun.world_handIn]
      exact serves.scanner

/-- A scan names no type twice, and keeps the engine serving. -/
theorem Serves.scan (serves : engine.Serves) (marker : String) :
    (engine.scan marker).1.typeNames.Nodup ∧ (engine.scan marker).2.Serves := by
  have scanned := serves.scanner.scan engine.types ⟨marker, engine.configuration.packages⟩
  refine ⟨scanned.1, ?_⟩
  constructor
  case accepted => exact serves.accepted
  case run => exact serves.run.congr rfl rfl
  case works => exact serves.works
  case scanner => exact scanned.2

/-- Work that settles keeps the engine serving. -/
theorem Serves.settle (serves : engine.Serves) :
    ({ engine with run := engine.run.settle } : Engine).Serves := by
  have advance (fuel : Nat) {run : SchedulerRun Scanner}
      (serves : ({ engine with run } : Engine).Serves) :
      ({ engine with run := run.advance fuel } : Engine).Serves := by
    induction fuel generalizing run with
    | zero => exact serves
    | succ fuel ih =>
        rw [SchedulerRun.advance]
        split
        case h_1 => exact serves
        case h_2 moved found =>
          obtain ⟨task, member, moves⟩ := List.exists_of_findSome?_eq_some found
          exact ih (serves.move member moves)
  exact advance _ serves

/-- A target that is finished keeps the engine serving. -/
theorem Serves.finishTarget (serves : engine.Serves) (pending : PendingTarget) :
    (engine.finishTarget pending {}).2.Serves :=
  serves.congr sameRun_finishTarget

/-- A target that is generated keeps the engine serving. -/
theorem Serves.generate (serves : engine.Serves) (target : Target) :
    (engine.generate target).2.Serves := by
  have handed := serves.handIn target
  have started : (engine.startTarget target).2.Serves := by
    unfold startTarget
    split
    case h_1 state =>
      rw [state] at handed
      exact handed.settle
    case h_2 => exact handed
  exact started.finishTarget _

end Engine

end BusBridge
