/-
This file proves for how many pending jobs an accepted configuration can be served: the permits of
the scheduler and the window of a pass have a limit each, and the limit of the window is the
smaller one.
-/

import BusBridge.Configuration.Json
import BusBridge.Engine.Pass
import BusBridge.Proofs.Configuration
import BusBridge.Proofs.Engine.Publication

namespace BusBridge

/-- Every engine starts with the configuration, and every pass of an engine that has it ends with a
report. -/
structure Configuration.IsServed (configuration : Configuration) : Prop where
  starts (source : UniverseSource) (files : Files) (sink : Sink) :
    ∃ engine, Engine.start configuration source files sink = .ok engine
  reports (engine : Engine) : engine.configuration = configuration →
    ∃ report, engine.generateAll.1 = .ok report

namespace Engine

variable {configuration : Configuration} {source : UniverseSource} {files : Files} {sink : Sink}
  {engine : Engine}

/-- An engine keeps its configuration, and has the permits that this one asks for. -/
theorem permits_of_start (started : start configuration source files sink = .ok engine) :
    engine.configuration = configuration ∧
      engine.run.scheduler.permits = configuration.maxPendingJobs := by
  obtain ⟨-, scheduler, created, rfl⟩ := start_eq_ok started
  rw [Scheduler.eq_of_create created]
  exact ⟨rfl, rfl⟩

/-- A start with an accepted configuration is stopped by the count of permits. -/
theorem start_of_exceeded (accepted : configuration.validate = .ok ())
    (exceeded : Scheduler.maximalPermits < configuration.maxPendingJobs) :
    start configuration source files sink = .error .unrepresentable := by
  rw [start, bind_eq_error_iff]
  refine .inr ⟨(), mapError_eq_ok_iff.2 accepted, ?_⟩
  rw [PoolSize.ofConfiguration, if_pos exceeded]
  rfl

/-- Nothing else stops a start with an accepted configuration. -/
theorem exists_start (accepted : configuration.validate = .ok ())
    (fits : configuration.maxPendingJobs ≤ Scheduler.maximalPermits) :
    ∃ engine, start configuration source files sink = .ok engine := by
  have workers : configuration.workerThreads ≠ 0 :=
    Nat.ne_of_gt (Configuration.workerThreads_pos_of_validate accepted)
  have created : ∃ scheduler,
      Scheduler.create (.ofConfiguration configuration) = .ok scheduler := by
    rw [Scheduler.create, WorkerPool.start, PoolSize.ofConfiguration, if_neg workers]
    exact ⟨_, rfl⟩
  obtain ⟨scheduler, created⟩ := created
  simp only [start, bind_eq_ok_iff, check_eq_ok_iff, mapError_eq_ok_iff]
  exact ⟨_, (), accepted, Nat.not_lt_of_le fits, scheduler, created, rfl⟩

/-- A start is refused for what is wrong with the configuration, and is stopped for its permits. -/
theorem start_unrepresentable_iff (accepted : configuration.validate = .ok ()) :
    start configuration source files sink = .error .unrepresentable ↔
      Scheduler.maximalPermits < configuration.maxPendingJobs := by
  refine ⟨fun stopped => ?_, start_of_exceeded accepted⟩
  by_contra fits
  obtain ⟨engine, started⟩ : ∃ engine, start configuration source files sink = .ok engine :=
    exists_start accepted (Nat.le_of_not_lt fits)
  rw [stopped] at started
  cases started

/-- A generation keeps the configuration. -/
theorem configuration_generate (engine : Engine) (target : Target) :
    (engine.generate target).2.configuration = engine.configuration := by
  have started : (engine.startTarget target).2.configuration = engine.configuration := by
    have handed := (handIn_cases engine target).1
    unfold startTarget
    split
    case h_1 same =>
      rw [same] at handed
      exact handed
    case h_2 => exact handed
  exact sameRun_finishTarget.configuration.trans started

/-- A pass is stopped for the size of its window or not at all. -/
theorem generateAll_cases (engine : Engine) :
    (engine.generateAll.1 = .error .unrepresentable ∧
      GenerationPass.maximalWindow < engine.configuration.maxPendingJobs) ∨
    (∃ report, engine.generateAll.1 = .ok report) ∧
      engine.configuration.maxPendingJobs ≤ GenerationPass.maximalWindow := by
  let loaded := (GenerationPass.generateLoader engine).engine
  have kept : loaded.configuration = engine.configuration := configuration_generate engine _
  have room : 1 ≤ GenerationPass.maximalWindow := by decide
  -- the window is at least one, and the loader has not changed what it is taken from
  have window : GenerationPass.maximalWindow < max loaded.configuration.maxPendingJobs 1 ↔
      GenerationPass.maximalWindow < engine.configuration.maxPendingJobs := by
    rw [kept]
    omega
  unfold generateAll
  by_cases exceeded : GenerationPass.maximalWindow < engine.configuration.maxPendingJobs
  · exact .inl ⟨congrArg Prod.fst (if_pos (window.2 exceeded)), exceeded⟩
  · exact .inr ⟨⟨_, congrArg Prod.fst (if_neg (mt window.1 exceeded))⟩,
      Nat.le_of_not_lt exceeded⟩

/-- A pass is stopped exactly where the window is greater than there can be. -/
theorem generateAll_unrepresentable_iff (engine : Engine) :
    engine.generateAll.1 = .error .unrepresentable ↔
      GenerationPass.maximalWindow < engine.configuration.maxPendingJobs := by
  rcases generateAll_cases engine with ⟨stopped, exceeded⟩ | ⟨⟨report, reported⟩, fits⟩
  · exact iff_of_true stopped exceeded
  · exact iff_of_false (by simp [reported]) (Nat.not_lt_of_le fits)

end Engine

namespace Configuration

variable {configuration : Configuration}

/-- An accepted configuration is served exactly when its pending jobs fit in a window. Beyond that
the passes are stopped, and beyond the permits that there can be the starts are stopped as well. -/
theorem isServed_iff (accepted : configuration.validate = .ok ()) :
    (configuration.IsServed ↔ configuration.maxPendingJobs ≤ GenerationPass.maximalWindow) ∧
    (∀ source files sink,
      (Engine.start configuration source files sink = .error .unrepresentable ↔
        Scheduler.maximalPermits < configuration.maxPendingJobs) ∧
      ∀ engine, Engine.start configuration source files sink = .ok engine →
        engine.configuration = configuration ∧
          engine.run.scheduler.permits = configuration.maxPendingJobs) ∧
    ∀ engine : Engine, engine.configuration = configuration →
      (engine.generateAll.1 = .error .unrepresentable ↔
        GenerationPass.maximalWindow < configuration.maxPendingJobs) := by
  refine ⟨⟨fun served => ?_, fun fits => ⟨fun source files sink => ?_, fun engine same => ?_⟩⟩,
    fun source files sink =>
      ⟨Engine.start_unrepresentable_iff accepted, fun engine => Engine.permits_of_start⟩,
    fun engine same => same ▸ Engine.generateAll_unrepresentable_iff engine⟩
  · -- an engine that starts has the configuration, so that its pass tells the size of the window
    obtain ⟨engine, started⟩ := served.starts default {} .memory
    obtain ⟨report, reported⟩ := served.reports engine (Engine.permits_of_start started).1
    rcases Engine.generateAll_cases engine with ⟨stopped, -⟩ | ⟨-, fits⟩
    · rw [stopped] at reported
      cases reported
    · exact (Engine.permits_of_start started).1 ▸ fits
  · exact Engine.exists_start accepted (fits.trans (by decide))
  · rcases Engine.generateAll_cases engine with ⟨-, exceeded⟩ | ⟨reported, -⟩
    · exact absurd exceeded (Nat.not_lt_of_le (same ▸ fits))
    · exact reported

/-- The greatest window is still served, and one place more is not. -/
theorem greatestWindow_served :
    let greatest : Configuration :=
      { packages := ["com.example"], maxPendingJobs := GenerationPass.maximalWindow }
    let greater := { greatest with maxPendingJobs := greatest.maxPendingJobs + 1 }
    greatest.validate = .ok () ∧ greater.validate = .ok () ∧
      greatest.IsServed ∧ ¬ greater.IsServed := by
  intro greatest greater
  have accepted : greatest.validate = .ok () :=
    validate_of_pending validate_package (by decide)
  have acceptedGreater : greater.validate = .ok () :=
    validate_of_pending accepted (Nat.succ_ne_zero _)
  exact ⟨accepted, acceptedGreater, (isServed_iff accepted).1.2 (Nat.le_refl _),
    fun served => Nat.not_succ_le_self _ ((isServed_iff acceptedGreater).1.1 served)⟩

/-- The greatest number of 64 bits is read and accepted, and no engine starts with it. With a number
that the permits can still reach, every engine starts and no pass ends. -/
theorem acceptedSizes_not_served :
    let text :=
      "\x7b\"packages\": [\"com.example\"], \"max_pending_jobs\": 18446744073709551615\x7d"
    let greatest : Configuration :=
      { packages := ["com.example"], maxPendingJobs := 18446744073709551615 }
    let started : Configuration :=
      { packages := ["com.example"], maxPendingJobs := 1152921504606846976 }
    (ofJsonBytes text.toUTF8 = .ok greatest ∧ greatest.validate = .ok () ∧
      ∀ source files sink,
        Engine.start greatest source files sink = .error .unrepresentable) ∧
    started.validate = .ok () ∧ ∀ source files sink, ∃ engine,
      Engine.start started source files sink = .ok engine ∧
        engine.generateAll.1 = .error .unrepresentable := by
  intro text greatest started
  have read : ofJsonBytes text.toUTF8 = .ok greatest := by decide +kernel
  have alsoAccepted : greatest.validate = .ok () :=
    validate_of_pending validate_package (by decide)
  have accepted : started.validate = .ok () := validate_of_pending validate_package (by decide)
  refine ⟨⟨read, alsoAccepted, fun source files sink => ?_⟩, accepted,
    fun source files sink => ?_⟩
  · exact Engine.start_of_exceeded alsoAccepted (by decide)
  · obtain ⟨engine, begun⟩ := Engine.exists_start accepted (by decide)
    refine ⟨engine, begun, (Engine.generateAll_unrepresentable_iff engine).2 ?_⟩
    rw [(Engine.permits_of_start begun).1]
    decide

end Configuration

end BusBridge
