/-
This file proves that a caller does in its steps what the engine does in one call, if nothing
comes between them.
-/

import BusBridge.Proofs.Engine.Session

namespace BusBridge

namespace CommitGates

/-- No commit is under way, and none that failed is remembered. -/
def AtRest (commits : CommitGates) : Prop :=
  ∀ entry ∈ commits.current, commits.result? entry.2 = some (.ok ())

/-- Between commits, each remembered commit succeeded. -/
theorem AtRest.result?_eq {commits : CommitGates} {gate : GateId} {key : String}
    (rest : commits.AtRest) (known : commits.current? key = some gate) :
    commits.result? gate = some (.ok ()) :=
  rest (key, gate) (mem_of_current? known)

/-- A settled gate is not opened again. -/
theorem open?_of_result? {commits : CommitGates} {gate : GateId} {result : Except Failure Unit}
    (settled : commits.result? gate = some result) : commits.open? gate = none := by
  rw [open?, state?_of_result? settled]

/-- The class gets a new gate, and its commit begins. -/
def opened (commits : CommitGates) (key : String) : CommitGates where
  gates := commits.gates ++ [.committing]
  current := commits.current ++ [(key, commits.gates.length)]

/-- A gate that was just added can be opened. -/
theorem open?_new (commits : CommitGates) (key : String) :
    open? ⟨commits.gates ++ [.unopened], commits.current ++ [(key, commits.gates.length)]⟩
      commits.gates.length = some (commits.opened key) := by
  simp [open?, state?, opened]

/-- The new gate has the result that it was settled with. -/
theorem result?_settle_opened {commits : CommitGates} {key : String}
    {outcome : Except Failure Unit} :
    ((commits.opened key).settle commits.gates.length outcome).result? commits.gates.length =
      some outcome := by
  simp [result?, state?, settle, opened]

/-- The commit behind a new gate leaves the other gates as they are. -/
theorem result?_settle_opened_of_settled {commits : CommitGates} {gate : GateId} {key : String}
    {outcome result : Except Failure Unit} (settled : commits.result? gate = some result) :
    ((commits.opened key).settle commits.gates.length outcome).result? gate = some result := by
  have below : gate < commits.gates.length :=
    (List.getElem?_eq_some_iff.1 (state?_of_result? settled)).1
  have same : ((commits.opened key).settle commits.gates.length outcome).state? gate =
      commits.state? gate := by
    simp [state?, settle, opened, List.getElem?_append_left below]
  rw [result?, same]
  exact settled

/-- A commit that succeeds leaves the gates at rest. -/
theorem AtRest.settle_opened {commits : CommitGates} {key : String} (rest : commits.AtRest) :
    ((commits.opened key).settle commits.gates.length (.ok ())).AtRest := by
  intro entry member
  rcases List.mem_append.1 member with old | new
  · exact result?_settle_opened_of_settled (rest entry old)
  · rw [List.mem_singleton.1 new]
    exact result?_settle_opened

/-- A commit that fails is forgotten, which leaves the gates at rest. -/
theorem AtRest.retire_opened {commits : CommitGates} {key : String} {failure : Failure}
    (rest : commits.AtRest) :
    (((commits.opened key).settle commits.gates.length (.error failure)).retire key
      commits.gates.length).AtRest := by
  intro entry member
  obtain ⟨member, left⟩ := List.mem_filter.1 member
  rcases List.mem_append.1 member with old | new
  · exact result?_settle_opened_of_settled (rest entry old)
  · simp [List.mem_singleton.1 new] at left

end CommitGates

namespace Engine

/-- The engines differ in their logs and in the work of their jobs alone. -/
structure Agrees (first second : Engine) : Prop where
  configuration : first.configuration = second.configuration
  source : first.source = second.source
  files : first.files = second.files
  cache : first.cache = second.cache
  sink : first.sink = second.sink
  scheduler : first.run.scheduler = second.run.scheduler
  commits : first.commits = second.commits

/-- An engine agrees with itself. -/
theorem Agrees.refl (engine : Engine) : engine.Agrees engine :=
  ⟨rfl, rfl, rfl, rfl, rfl, rfl, rfl⟩

/-- A report changes nothing but the log. -/
theorem Agrees.report (engine : Engine) (records : List LogRecord) :
    engine.Agrees (engine.report records) :=
  ⟨rfl, rfl, rfl, rfl, rfl, rfl, rfl⟩

/-- A gate is settled, and it is given up if its commit failed. -/
def conclude (engine : Engine) (key : String) (gate : GateId) (result : Except Failure Unit) :
    Engine :=
  match result with
  | .ok () => { engine with commits := engine.commits.settle gate result }
  | .error _ => { engine with commits := (engine.commits.settle gate result).retire key gate }

variable {engine : Engine} {target : Target} {artifact : Artifact} {faults : PublishFaults}

/-- A class that has a settled gate is not committed again. -/
theorem publish_of_settled {gate : GateId} {outcome : Except Failure Unit}
    (known : engine.commits.current? artifact.className.qualified = some gate)
    (settled : engine.commits.result? gate = some outcome) :
    engine.publish target artifact faults = (outcome, engine) := by
  simp only [publish, CommitGates.gateFor, known, CommitGates.open?_of_result? settled, settled,
    Option.getD_some]

/-- A class without a gate is committed behind a new one. -/
theorem publish_of_unknown
    (unknown : engine.commits.current? artifact.className.qualified = none) :
    engine.publish target artifact faults =
      ((({ engine with commits := engine.commits.opened artifact.className.qualified } :
          Engine).commit target artifact faults).1,
        (({ engine with commits := engine.commits.opened artifact.className.qualified } :
          Engine).commit target artifact faults).2.conclude artifact.className.qualified
            engine.commits.gates.length
            (({ engine with commits := engine.commits.opened artifact.className.qualified } :
              Engine).commit target artifact faults).1) := by
  simp only [publish, CommitGates.gateFor, unknown, CommitGates.open?_new]
  generalize ({ engine with commits := engine.commits.opened artifact.className.qualified } :
    Engine).commit target artifact faults = committed
  obtain ⟨result, committed⟩ := committed
  cases result <;> rfl

/-- No publication leaves a failed commit behind. -/
theorem publish_atRest (rest : engine.commits.AtRest) :
    (engine.publish target artifact faults).2.commits.AtRest := by
  cases known : engine.commits.current? artifact.className.qualified with
  | some gate =>
      rw [publish_of_settled known (rest.result?_eq known)]
      exact rest
  | none =>
      rw [publish_of_unknown known]
      generalize committed : ({ engine with
        commits := engine.commits.opened artifact.className.qualified } : Engine).commit target
          artifact faults = commitment
      have same : commitment.2.commits = engine.commits.opened artifact.className.qualified :=
        committed ▸ sameRun_commit.2
      obtain ⟨outcome, changed⟩ := commitment
      cases outcome with
      | ok =>
          change (changed.commits.settle _ _).AtRest
          rw [same]
          exact rest.settle_opened
      | error failure =>
          change ((changed.commits.settle _ _).retire _ _).AtRest
          rw [same]
          exact rest.retire_opened

/-- A failure is reported. -/
theorem agrees_finishTarget {pending : PendingTarget} (waits : pending.state ≠ .alreadyGenerated) :
    (engine.publishPending pending faults).2.Agrees (engine.finishTarget pending faults).2 := by
  unfold finishTarget
  dsimp only
  split
  case h_1 state => exact absurd state waits
  case h_2 =>
    generalize engine.publishPending pending faults = published
    obtain ⟨failure | name, published⟩ := published
    · exact .report published _
    · exact .refl published

end Engine

namespace Session

/-- A caller moves, and nothing comes between its steps. -/
inductive Goes (index : Nat) (faults : PublishFaults) :
    Session → Caller → Session → Caller → Prop where
  | stay (session : Session) (caller : Caller) : Goes index faults session caller session caller
  | move {session middle next : Session} {caller moving moved : Caller}
      (moves : session.moveCaller? caller faults = some (middle, moving))
      (rest : Goes index faults { middle with callers := session.callers.set index moving } moving
        next moved) : Goes index faults session caller next moved

/-- The caller returns the result, and leaves the engine like the given one. -/
def Returns (index : Nat) (faults : PublishFaults) (session : Session) (caller : Caller)
    (result : Except Failure String) (engine : Engine) : Prop :=
  ∃ next moved, Goes index faults session caller next moved ∧ moved.stage = .returned result ∧
    next.engine.Agrees engine

variable {index : Nat} {faults : PublishFaults} {session next : Session} {caller moved : Caller}
  {artifact : Artifact} {gate : GateId} {result : Except Failure String} {engine : Engine}

/-- A caller that can move takes a step of its session. -/
theorem step?_advance (known : session.callers[index]? = some caller)
    (moves : session.moveCaller? caller faults = some (next, moved)) :
    session.step? (.advance index faults) =
      some { next with callers := session.callers.set index moved } := by
  simp [step?, known, moves]

/-- A caller returns what it returns after its next step. -/
theorem Returns.move (moves : session.moveCaller? caller faults = some (next, moved))
    (returns : Returns index faults { next with callers := session.callers.set index moved } moved
      result engine) :
    Returns index faults session caller result engine := by
  obtain ⟨last, returned, goes, rest⟩ := returns
  exact ⟨last, returned, .move moves goes, rest⟩

/-- A caller that returned has returned. -/
theorem Returns.of_returned (stage : caller.stage = .returned result)
    (agrees : session.engine.Agrees engine) : Returns index faults session caller result engine :=
  ⟨session, caller, .stay session caller, stage, agrees⟩

/-- A caller that settles a gate returns the result of the commit. -/
theorem Returns.of_settling {outcome : Except Failure Unit}
    (stage : caller.stage = .settling artifact gate outcome)
    (agrees : (session.engine.conclude artifact.className.qualified gate outcome).Agrees engine) :
    Returns index faults session caller (outcome.map fun _ => caller.qualified) engine := by
  refine .move (by rw [moveCaller?, stage]) ?_
  cases outcome with
  | ok => exact .of_returned rfl agrees
  | error failure =>
      refine .move rfl ?_
      exact .of_returned rfl agrees

/-- The caller that opened a gate does what the engine does in a commit. -/
theorem Returns.of_reserving (stage : caller.stage = .reserving artifact gate)
    (agrees : ((session.engine.commit caller.target artifact faults).2.conclude
      artifact.className.qualified gate
      (session.engine.commit caller.target artifact faults).1).Agrees engine) :
    Returns index faults session caller
      ((session.engine.commit caller.target artifact faults).1.map fun _ => caller.qualified)
      engine := by
  revert agrees
  unfold Engine.commit
  dsimp only
  generalize reserved : session.engine.sink.tryCreate artifact.className = reservation
  obtain ⟨none | handle, sink⟩ := reservation
  case none =>
    rintro ⟨⟩
    refine .move (by simp only [moveCaller?, stage, Session.reserve, reserved]; rfl) ?_
    exact of_settling rfl (by constructor <;> assumption)
  case some =>
    dsimp only
    generalize committed :
      sink.commit session.engine.files handle artifact.source faults.sink = commitment
    obtain ⟨failure | path, changed, files⟩ := commitment
    · rintro ⟨⟩
      refine .move (by simp only [moveCaller?, stage, Session.reserve, reserved]; rfl) ?_
      refine .move (by simp only [moveCaller?, Caller.goTo, Session.write, committed]; rfl) ?_
      exact of_settling rfl (by constructor <;> assumption)
    · rintro ⟨⟩
      refine .move (by simp only [moveCaller?, stage, Session.reserve, reserved]; rfl) ?_
      refine .move (by simp only [moveCaller?, Caller.goTo, Session.write, committed]; rfl) ?_
      refine .move rfl ?_
      exact of_settling rfl (by constructor <;> assumption)

/-- A caller at a settled gate shares its result. -/
theorem moveCaller?_of_settled {outcome : Except Failure Unit}
    (stage : caller.stage = .gated artifact gate)
    (settled : session.commits.result? gate = some outcome) :
    session.moveCaller? caller faults = some (session, caller.conclude artifact gate outcome) := by
  simp only [moveCaller?, stage, enter?, CommitGates.open?_of_result? settled, settled,
    Option.map_some]

/-- A caller at a new gate opens it. -/
theorem moveCaller?_of_open? {opened : CommitGates} (stage : caller.stage = .gated artifact gate)
    (opens : session.commits.open? gate = some opened) :
    session.moveCaller? caller faults =
      some (session.withCommits opened, caller.goTo (.reserving artifact gate)) := by
  simp only [moveCaller?, stage, enter?, opens]

/-- A caller that has its artifact does what the engine does to publish it. -/
theorem Returns.of_publishing (stage : caller.stage = .publishing artifact)
    (rest : session.commits.AtRest)
    (agrees : (session.engine.publish caller.target artifact faults).2.Agrees engine) :
    Returns index faults session caller
      ((session.engine.publish caller.target artifact faults).1.map fun _ => caller.qualified)
      engine := by
  refine .move (by rw [moveCaller?, stage]) ?_
  cases known : session.commits.current? artifact.className.qualified with
  | some gate =>
      have settled := rest.result?_eq known
      rw [Engine.publish_of_settled known settled] at agrees ⊢
      simp only [obtainGate, CommitGates.gateFor, known]
      exact .move (moveCaller?_of_settled rfl settled) (.of_returned rfl agrees)
  | none =>
      rw [Engine.publish_of_unknown known] at agrees ⊢
      simp only [obtainGate, CommitGates.gateFor, known]
      exact .move (moveCaller?_of_open? rfl (CommitGates.open?_new _ _)) (of_reserving rfl agrees)

/-- A caller that waited for an artifact publishes it, or returns why there is none. -/
theorem Returns.of_await? {state : PendingState}
    (ready : state.isReady session.engine = true) (rest : session.commits.AtRest)
    (moves : session.moveCaller? caller faults =
      (session.await? caller state).map fun moved => (session, moved))
    (agrees : (session.engine.publishPending ⟨caller.target, state⟩ faults).2.Agrees engine) :
    Returns index faults session caller
      (session.engine.publishPending ⟨caller.target, state⟩ faults).1 engine := by
  rw [await?, if_pos ready] at moves
  unfold Engine.publishPending at agrees ⊢
  cases received : session.engine.artifactOf state with
  | error failure =>
      simp only [received] at moves agrees ⊢
      exact .move moves (.of_returned rfl agrees)
  | ok artifact =>
      simp only [received] at moves agrees ⊢
      exact .move moves (of_publishing rfl rest agrees)

/-- A caller that watches a settled gate returns. -/
theorem moveCaller?_of_watched {outcome : Except Failure Unit}
    (stage : caller.stage = .watching gate)
    (settled : session.commits.result? gate = some outcome) :
    session.moveCaller? caller faults =
      some (session, caller.goTo (.returned (outcome.map fun _ => caller.qualified))) := by
  simp only [moveCaller?, stage, settled, Option.map_some]

/-- A caller whose artifact is ready finishes its target as the engine does. -/
theorem Returns.finishTarget {state : PendingState} (stage : caller.stage = .pending state)
    (ready : state.isReady session.engine = true) (rest : session.commits.AtRest) :
    Returns index faults session caller
      (session.engine.finishTarget ⟨caller.target, state⟩ faults).1
      (session.engine.finishTarget ⟨caller.target, state⟩ faults).2 := by
  by_cases unneeded : state = .alreadyGenerated
  case pos =>
    subst unneeded
    have finished : session.engine.finishTarget ⟨caller.target, .alreadyGenerated⟩ faults =
        ((session.commits.committed caller.qualified).map fun _ => caller.qualified,
          session.engine) := rfl
    rw [finished, CommitGates.committed]
    refine .move (by rw [moveCaller?, stage]) ?_
    rw [Session.watch]
    cases known : session.commits.current? caller.qualified with
    | none => exact .of_returned rfl (.refl _)
    | some gate =>
        have settled := rest.result?_eq known
        rw [Option.bind_some, settled]
        exact .move (moveCaller?_of_watched rfl settled) (.of_returned rfl (.refl _))
  case neg =>
    have moves : session.moveCaller? caller faults =
        (session.await? caller state).map fun moved => (session, moved) := by
      rw [moveCaller?, stage]
      cases state with
      | alreadyGenerated => exact absurd rfl unneeded
      | cached | running => rfl
    rw [Engine.finishTarget_fst unneeded]
    exact of_await? ready rest moves (Engine.agrees_finishTarget unneeded)

/-- A caller that finds its artifact in the cache need not wait. -/
theorem moveCaller?_of_reusable? (stage : caller.stage = .choosing)
    (found : session.engine.reusable? caller.target = some artifact) :
    session.moveCaller? caller faults =
      some (session, caller.goTo (.pending (.cached artifact))) := by
  simp only [moveCaller?, stage, choose, found]

/-- A caller that finds nothing in the cache goes on to hand its target in. -/
theorem moveCaller?_of_missing (stage : caller.stage = .choosing)
    (missing : session.engine.reusable? caller.target = none) :
    session.moveCaller? caller faults = some (session, caller.goTo .submitting) := by
  simp only [moveCaller?, stage, choose, missing]

/-- A caller begins as the engine hands its target in. -/
theorem Goes.handIn (stage : caller.stage = .begun) :
    ∃ next moved, Goes index faults session caller next moved ∧ moved.target = caller.target ∧
      moved.stage = .pending (session.engine.handIn caller.target).1.state ∧
      next.engine.Agrees (session.engine.handIn caller.target).2 := by
  unfold Engine.handIn
  dsimp only
  split
  case isTrue reserved =>
    have taken : session.engine.sink.shouldGenerate caller.target.className = false := by
      simpa using reserved
    have moves : session.moveCaller? caller faults =
        some (session, caller.goTo (.pending .alreadyGenerated)) := by
      rw [moveCaller?, stage, taken]
      rfl
    exact ⟨_, _, .move moves (.stay _ _), rfl, rfl, .report _ _⟩
  case isFalse unreserved =>
    have free : session.engine.sink.shouldGenerate caller.target.className = true := by
      simpa using unreserved
    have moves : session.moveCaller? caller faults = some (session, caller.goTo .choosing) := by
      rw [moveCaller?, stage, free]
      rfl
    split
    case h_1 artifact found =>
      exact ⟨_, _, .move moves (.move (moveCaller?_of_reusable? rfl found) (.stay _ _)), rfl, rfl,
        .report _ _⟩
    case h_2 missing =>
      exact ⟨_, _, .move moves (.move (moveCaller?_of_missing rfl missing) (.move rfl (.stay _ _))),
        rfl, rfl, rfl, rfl, rfl, rfl, rfl, rfl, rfl⟩

/-- A caller that moves on does so in a run of the session. -/
theorem Goes.run? {allowed : Scheduler → Action → Prop} [DecidableRel allowed]
    (goes : Goes index faults session caller next moved)
    (known : session.callers[index]? = some caller) :
    (∃ count, session.run? allowed (List.replicate count (.advance index faults)) = some next) ∧
      next.callers[index]? = some moved := by
  induction goes with
  | stay => exact ⟨⟨0, rfl⟩, known⟩
  | @move session _ _ _ _ _ moves _ ih =>
      obtain ⟨⟨count, ran⟩, there⟩ := ih (known_there known)
      have allows : session.Allows allowed (.advance index faults) := trivial
      refine ⟨⟨count + 1, ?_⟩, there⟩
      rw [List.replicate_succ, Session.run?, if_pos allows, step?_advance known moves]
      exact ran

end Session

end BusBridge
