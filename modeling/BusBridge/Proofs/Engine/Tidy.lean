/-
This file proves what finishing a target comes to in an engine that is tidy between its targets:
the class stands already, or there is no artifact, or the class is stored.
-/

import BusBridge.Proofs.Engine.Delivered

namespace BusBridge

theorem CommitGates.isSome_current?_opened {commits : CommitGates} {key other : String} :
    ((commits.opened key).current? other).isSome = true ↔
      (commits.current? other).isSome = true ∨ other = key := by
  by_cases same : other = key
  · simp [current?, opened, List.lookup_append, same]
  · have different : (other == key) = false := beq_false_of_ne same
    simp [current?, opened, List.lookup_append, List.lookup_cons, different, same]

namespace Engine

variable {engine next : Engine} {target : Target} {artifact : Artifact} {pending : PendingTarget}
  {types : Universe}

/-- No commit is under way. The classes behind the gates are those that the sink has created, and
no other class is committed. -/
structure IsTidy (engine : Engine) : Prop where
  rest : engine.commits.AtRest
  gated : ∀ target : Target,
    (engine.commits.current? target.className.qualified).isSome = true ↔
      engine.sink.isCreated target.className = true
  committed : ∀ className ∈ engine.sink.reservations.committed,
    engine.sink.isCreated className = true

theorem IsTidy.start {configuration : Configuration} {source : UniverseSource} {files : Files}
    {sink : Sink} (started : start configuration source files sink = .ok engine)
    (fresh : sink.reservations = {}) : engine.IsTidy := by
  obtain ⟨-, scheduler, -, rfl⟩ := start_eq_ok started
  constructor
  case rest => exact nofun
  case gated => simp [CommitGates.current?, Sink.isCreated, Reservations.isReserved, fresh]
  case committed => simp [fresh]

theorem IsTidy.congr (tidy : engine.IsTidy) (commits : next.commits = engine.commits)
    (sink : next.sink = engine.sink) : next.IsTidy := by
  constructor
  case rest => exact commits ▸ tidy.rest
  case gated =>
    rw [commits, sink]
    exact tidy.gated
  case committed =>
    rw [sink]
    exact tidy.committed

/-- The gate of a created class tells that its commit succeeded. -/
theorem IsTidy.exists_gate (tidy : engine.IsTidy)
    (created : engine.sink.isCreated target.className = true) :
    ∃ gate, engine.commits.current? target.className.qualified = some gate ∧
      engine.commits.result? gate = some (.ok ()) := by
  obtain ⟨gate, known⟩ := Option.isSome_iff_exists.1 ((tidy.gated target).2 created)
  exact ⟨gate, known, tidy.rest.result?_eq known⟩

theorem IsTidy.current?_eq_none (tidy : engine.IsTidy)
    (free : engine.sink.isCreated target.className = false) :
    engine.commits.current? target.className.qualified = none := by
  rw [← Option.not_isSome_iff_eq_none, tidy.gated, free]
  exact Bool.false_ne_true

theorem Takes.isCreated_iff (takes : Takes target artifact engine next) {className : ClassName} :
    next.sink.isCreated className = true ↔
      className = artifact.className ∨ engine.sink.isCreated className = true := by
  simp only [Sink.isCreated, Reservations.isReserved, takes.reserved, List.contains_iff_mem,
    List.mem_cons]

/-- What finishing a target can come to. -/
inductive Finishes (pending : PendingTarget) (engine next : Engine) :
    Except Failure String → Prop where
  | standing (created : engine.sink.isCreated pending.target.className = true)
      (held : pending.state = .alreadyGenerated ∨
        ∃ artifact, engine.artifactOf pending.state = .ok artifact)
      (agrees : engine.Agrees next) :
      Finishes pending engine next (.ok pending.target.className.qualified)
  | failed {failure : Failure} (waits : pending.state ≠ .alreadyGenerated)
      (received : engine.artifactOf pending.state = .error failure)
      (agrees : engine.Agrees next) : Finishes pending engine next (.error failure)
  | stored {artifact : Artifact} (waits : pending.state ≠ .alreadyGenerated)
      (received : engine.artifactOf pending.state = .ok artifact)
      (own : artifact.className = pending.target.className)
      (free : engine.sink.isCreated artifact.className = false)
      (same : engine.SameRun next) (takes : Takes pending.target artifact engine next)
      (stores : artifact.IsDeclared → Stores pending.target artifact engine next) :
      Finishes pending engine next (.ok pending.target.className.qualified)

/-- An artifact is published for a class that stands already, or it is stored. -/
theorem IsTidy.publish (tidy : engine.IsTidy) (own : artifact.className = target.className)
    (unfailing : Unfailing engine.sink (engine.publish target artifact {}).1) :
    (engine.publish target artifact {}).1 = .ok () ∧
      (engine.publish target artifact {}).2.IsTidy ∧
      (engine.sink.isCreated target.className = true ∧
          (engine.publish target artifact {}).2 = engine ∨
        engine.sink.isCreated artifact.className = false ∧
          Takes target artifact engine (engine.publish target artifact {}).2 ∧
          (artifact.IsDeclared →
            Stores target artifact engine (engine.publish target artifact {}).2)) := by
  by_cases created : engine.sink.isCreated target.className = true
  case pos =>
    obtain ⟨gate, known, settled⟩ := tidy.exists_gate created
    rw [← own] at known
    rw [publish_of_settled known settled]
    exact ⟨rfl, tidy, .inl ⟨created, rfl⟩⟩
  case neg =>
    have free : engine.sink.isCreated target.className = false := by simpa using created
    have unknown : engine.commits.current? artifact.className.qualified = none := by
      rw [own]
      exact tidy.current?_eq_none free
    rw [← own] at free
    have uncommitted : artifact.className ∉ engine.sink.reservations.committed := by
      intro committed
      rw [tidy.committed _ committed] at free
      cases free
    obtain ⟨succeeded, current, takes, stores⟩ :=
      publish_of_free unknown free uncommitted own unfailing
    refine ⟨succeeded, ?_, .inr ⟨free, takes, stores⟩⟩
    constructor
    case rest => exact publish_atRest tidy.rest
    case gated =>
      intro other
      rw [takes.isCreated_iff, ← tidy.gated other, or_comm, own, ← Target.qualified_className_inj,
        ← own, CommitGates.current?, current]
      exact CommitGates.isSome_current?_opened
    case committed =>
      intro className member
      rw [takes.committed] at member
      rw [takes.isCreated_iff]
      exact (List.mem_cons.1 member).imp_right (tidy.committed className)

/-- A tidy engine finishes a target in one of the three ways, and it is tidy again. -/
theorem IsTidy.finishTarget (tidy : engine.IsTidy)
    (standing : pending.state = .alreadyGenerated →
      engine.sink.isCreated pending.target.className = true)
    (own : ∀ artifact, engine.artifactOf pending.state = .ok artifact →
      artifact.className = pending.target.className)
    (unfailing : Unfailing engine.sink (engine.finishTarget pending {}).1) :
    (engine.finishTarget pending {}).2.IsTidy ∧
      Finishes pending engine (engine.finishTarget pending {}).2
        (engine.finishTarget pending {}).1 := by
  by_cases waits : pending.state = .alreadyGenerated
  case pos =>
    obtain ⟨gate, known, settled⟩ := tidy.exists_gate (standing waits)
    have finished : engine.finishTarget pending {} =
        (.ok pending.target.className.qualified, engine) := by
      simp only [Engine.finishTarget, waits, CommitGates.committed, known, Option.bind_some,
        settled, Option.getD_some]
      rfl
    rw [finished]
    exact ⟨tidy, .standing (standing waits) (.inl waits) (.refl engine)⟩
  case neg =>
    have agrees : (engine.publishPending pending {}).2.Agrees (engine.finishTarget pending {}).2 :=
      agrees_finishTarget waits
    have same : engine.SameRun (engine.finishTarget pending {}).2 := sameRun_finishTarget
    rw [finishTarget_fst waits] at unfailing ⊢
    generalize engine.finishTarget pending {} = finished at agrees same ⊢
    unfold publishPending at agrees unfailing ⊢
    cases received : engine.artifactOf pending.state with
    | error failure =>
        simp only [received] at agrees ⊢
        exact ⟨tidy.congr agrees.commits.symm agrees.sink.symm, .failed waits received agrees⟩
    | ok artifact =>
        simp only [received] at agrees unfailing ⊢
        obtain ⟨succeeded, after, outcome⟩ := tidy.publish (own artifact received)
          (unfailing.imp_right fun unfailing failure failed =>
            unfailing failure (map_eq_error_iff.2 failed))
        rw [succeeded]
        refine ⟨after.congr agrees.commits.symm agrees.sink.symm, ?_⟩
        rcases outcome with ⟨created, unchanged⟩ | ⟨free, takes, stores⟩
        · exact .standing created (.inr ⟨artifact, received⟩) (unchanged ▸ agrees)
        · have taken : Takes pending.target artifact engine finished.2 :=
            ⟨agrees.sink ▸ takes.reserved, agrees.sink ▸ takes.committed,
              agrees.files ▸ takes.gains⟩
          refine .stored waits received (own artifact received) free same taken fun declared =>
            ⟨taken, ?_, ?_⟩
          · exact agrees.sink ▸ agrees.files ▸ (stores declared).own
          · exact agrees.sink ▸ agrees.files ▸ (stores declared).others

end Engine

end BusBridge
