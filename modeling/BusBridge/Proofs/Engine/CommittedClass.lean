/-
This file proves when a call returns with its class committed: always, but for a call that found
its class reserved and then no gate of it.
-/

import BusBridge.Proofs.Engine.SessionInvariant
import BusBridge.Proofs.Store.CacheEntry
import BusBridge.Proofs.Store.Sink

namespace BusBridge

/-- The gate of a caller whose source is in the sink, while the gate is not settled yet. -/
def CallerStage.stored? : CallerStage → Option GateId
  | .caching _ gate | .settling _ gate (.ok ()) => some gate
  | _ => none

/-- A caller that has stored a source holds its gate open. -/
theorem CallerStage.opened?_of_stored? {stage : CallerStage} {gate : GateId}
    (stored : stage.stored? = some gate) : stage.opened? = some gate := by
  cases stage with
  | caching => exact stored
  | settling _ _ result => cases result <;> first | exact stored | cases stored
  | _ => cases stored

/-- A commit of the class succeeded. -/
def Session.Succeeded (session : Session) (key : String) : Prop :=
  ∃ call ∈ session.calls, call.className.qualified = key ∧ call.succeeded = true

/-- What a caller knows of its own class. -/
structure Caller.Owns (session : Session) (caller : Caller) : Prop where
  artifact : ∀ artifact, caller.stage.artifact? = some artifact →
    artifact.className = caller.target.className
  cached : ∀ artifact, caller.stage = .pending (.cached artifact) →
    artifact.className = caller.target.className
  running : ∀ id, caller.stage = .pending (.running id) →
    ∃ job, session.scheduler.job? id = some job ∧ job.target = caller.target
  handle : ∀ artifact gate handle, caller.stage = .writing artifact gate handle →
    handle.className = artifact.className
  watched : ∀ gate, caller.stage = .watching gate → session.keys[gate]? = some caller.qualified
  stored : ∀ gate, caller.stage.stored? = some gate →
    ∃ key, session.keys[gate]? = some key ∧ session.Succeeded key

namespace Session

variable {session next : Session} {caller moved : Caller} {gate : GateId} {size : PoolSize}
  {key : String}

/-- What every step keeps, while the sink is used by these callers alone. -/
structure Committed (session : Session) : Prop where
  outcomes : session.scheduler.OwnsOutcomes
  owns : ∀ (index : Nat) caller, session.callers[index]? = some caller → caller.Owns session
  reserved : ∀ className ∈ session.engine.sink.reservations.reserved,
    session.Succeeded className.qualified ∨
      ∃ (index : Nat) (caller : Caller) (artifact : Artifact) (gate : GateId)
        (handle : WriteHandle), session.callers[index]? = some caller ∧
          caller.stage = .writing artifact gate handle ∧ handle.className = className
  committed : ∀ className ∈ session.engine.sink.reservations.committed,
    session.Succeeded className.qualified
  current : ∀ key, session.Succeeded key → ∃ gate, (key, gate) ∈ session.commits.current ∧
    (session.commits.state? gate = some (.settled (.ok ())) ∨
      ∃ (index : Nat) (caller : Caller), session.callers[index]? = some caller ∧
        caller.stage.stored? = some gate)
  settled : ∀ gate key, session.keys[gate]? = some key →
    session.commits.state? gate = some (.settled (.ok ())) → session.Succeeded key
  held : ∀ key, session.Succeeded key → session.engine.sink.Holds key

/-- The calls so far stay on record. -/
theorem CallerStep.succeeded (step : CallerStep session caller next moved)
    (before : session.Succeeded key) : next.Succeeded key := by
  obtain ⟨call, inCalls, same, succeeded⟩ := before
  refine ⟨call, ?_, same, succeeded⟩
  rcases step.calls with kept | ⟨_, grown, -⟩
  · rw [kept]
    exact inCalls
  · rw [grown]
    exact List.mem_append_left _ inCalls

/-- A caller owns what it owned after a step of another one. -/
theorem Leaves.owns {opened : Option GateId} (left : Leaves opened session next)
    (succeeded : ∀ key, session.Succeeded key → next.Succeeded key)
    (owns : caller.Owns session) : caller.Owns next := by
  constructor
  case artifact => exact owns.artifact
  case cached => exact owns.cached
  case running =>
    intro id stage
    obtain ⟨job, known, same⟩ := owns.running id stage
    obtain ⟨kept, inNext, target, -⟩ := left.jobs id job known
    exact ⟨kept, inNext, target.trans same⟩
  case handle => exact owns.handle
  case watched => exact fun gate stage => left.keys gate _ (owns.watched gate stage)
  case stored =>
    intro gate stores
    obtain ⟨key, known, before⟩ := owns.stored gate stores
    exact ⟨key, left.keys gate key known, succeeded key before⟩

end Session

namespace Caller

variable {session : Session} {caller : Caller} {gate : GateId} {artifact : Artifact}

/-- Most stages say no more than which artifact is published. -/
theorem Owns.of_artifact (artifact : ∀ artifact, caller.stage.artifact? = some artifact →
      artifact.className = caller.target.className)
    (plain : (∀ state, caller.stage ≠ .pending state) ∧ (∀ gate, caller.stage ≠ .watching gate) ∧
      (∀ artifact gate handle, caller.stage ≠ .writing artifact gate handle) ∧
      caller.stage.stored? = none) : caller.Owns session := by
  obtain ⟨awaiting, watching, writing, storing⟩ := plain
  constructor
  case artifact => exact artifact
  case cached => exact fun _ stage => absurd stage (awaiting _)
  case running => exact fun _ stage => absurd stage (awaiting _)
  case handle => exact fun _ _ _ stage => absurd stage (writing _ _ _)
  case watched => exact fun _ stage => absurd stage (watching _)
  case stored =>
    intro gate stores
    rw [storing] at stores
    cases stores

/-- What a caller knows does not depend on the other callers. -/
theorem Owns.withCallers (owns : caller.Owns session) (callers : List Caller) :
    caller.Owns { session with callers } := by
  obtain ⟨⟩ := owns
  constructor <;> assumption

/-- A caller that concludes still knows its own class. -/
theorem Owns.conclude {result : Except Failure Unit}
    (own : artifact.className = caller.target.className) :
    (caller.conclude artifact gate result).Owns session := by
  cases result with
  | ok => exact .of_artifact nofun ⟨nofun, nofun, nofun, rfl⟩
  | error => exact .of_artifact (by rintro _ ⟨⟩; exact own) ⟨nofun, nofun, nofun, rfl⟩

end Caller

namespace Session

variable {session next : Session} {caller moved : Caller} {gate : GateId} {size : PoolSize}
  {key : String} {className : ClassName}

/-- A caller gets an artifact of its own class. -/
theorem className_of_artifactOf {state : PendingState} {artifact : Artifact}
    (outcomes : session.scheduler.OwnsOutcomes) (owns : caller.Owns session)
    (stage : caller.stage = .pending state) (ready : state.isReady session.engine = true)
    (received : session.engine.artifactOf state = .ok artifact) :
    artifact.className = caller.target.className := by
  cases state with
  | alreadyGenerated => cases received
  | cached other =>
      cases received
      exact owns.cached artifact stage
  | running id =>
      obtain ⟨job, known, target⟩ := owns.running id stage
      have recorded := outcome?_of_artifactOf ready received
      rw [Scheduler.outcome?, known] at recorded
      rw [← target]
      exact outcomes.jobs id job artifact known recorded

/-- A caller that moves still knows its own class. -/
theorem CallerStep.owns (valid : Scheduler.Invariant size session.scheduler)
    (outcomes : session.scheduler.OwnsOutcomes) (kept : session.commits.Kept session.keys)
    (stands : caller.Stands session) (owns : caller.Owns session)
    (free : ∀ artifact gate, caller.stage = .reserving artifact gate →
      session.engine.sink.isCreated artifact.className = false)
    (step : CallerStep session caller next moved) : moved.Owns next := by
  have own {stage : CallerStage} (same : caller.stage = stage) {artifact : Artifact}
      (publishes : stage.artifact? = some artifact) :
      artifact.className = caller.target.className :=
    owns.artifact artifact (same ▸ publishes)
  cases step with
  | overlook => exact ⟨nofun, nofun, nofun, nofun, nofun, nofun⟩
  | reuse _ found =>
      refine ⟨nofun, ?_, nofun, nofun, nofun, nofun⟩
      rintro _ ⟨⟩
      exact Engine.className_of_reusable? found
  | submit _ submits =>
      refine ⟨nofun, nofun, ?_, nofun, nofun, nofun⟩
      rintro _ ⟨⟩
      exact valid.submit_target submits
  | watch _ known =>
      refine ⟨nofun, nofun, nofun, nofun, ?_, nofun⟩
      rintro _ ⟨⟩
      exact kept.keyed _ (CommitGates.mem_of_current? known)
  | receive stage ready received =>
      have same := className_of_artifactOf outcomes owns stage ready received
      refine .of_artifact ?_ ⟨nofun, nofun, nofun, rfl⟩
      rintro _ ⟨⟩
      exact same
  | go | miss | pass | fail | see | retire => exact .of_artifact nofun ⟨nofun, nofun, nofun, rfl⟩
  | share stage | settle stage => exact .conclude (own stage rfl)
  | lose stage created => cases created.symm.trans (free _ _ stage)
  | reserve stage =>
      refine ⟨?_, nofun, nofun, ?_, nofun, nofun⟩
      · rintro _ ⟨⟩
        exact own stage rfl
      · rintro _ _ _ ⟨⟩
        rfl
  | store stage =>
      refine ⟨?_, nofun, nofun, nofun, nofun, ?_⟩
      · rintro _ ⟨⟩
        exact own stage rfl
      · rintro _ ⟨⟩
        refine ⟨_, stands.key _ _ (by rw [stage]; rfl) (by rw [stage]; rfl), _,
          List.mem_append_right _ (List.mem_singleton_self _), ?_, rfl⟩
        rw [owns.handle _ _ _ stage]
  | cache stage =>
      refine ⟨?_, nofun, nofun, nofun, nofun, ?_⟩
      · rintro _ ⟨⟩
        exact own stage rfl
      · rintro _ ⟨⟩
        exact owns.stored _ (by rw [stage]; rfl)
  | join stage | create stage | enter stage | spoil stage =>
      refine .of_artifact ?_ ⟨nofun, nofun, nofun, rfl⟩
      rintro _ ⟨⟩
      exact own stage rfl

/-- A class is reserved by the caller that writes it, until its commit fails. -/
theorem CallerStep.reserved (step : CallerStep session caller next moved)
    (uncommitted : ∀ artifact gate handle, caller.stage = .writing artifact gate handle →
      handle.className ∉ session.engine.sink.reservations.committed)
    (reserved : className ∈ next.engine.sink.reservations.reserved) :
    (className ∈ session.engine.sink.reservations.reserved ∧
        ∀ artifact gate handle, caller.stage = .writing artifact gate handle →
          handle.className = className → next.Succeeded className.qualified) ∨
      ∃ artifact gate handle, moved.stage = .writing artifact gate handle ∧
        handle.className = className := by
  have idle {stage : CallerStage} (same : caller.stage = stage)
      (other : ∀ artifact gate handle, stage ≠ .writing artifact gate handle) :
      ∀ artifact gate handle, caller.stage = .writing artifact gate handle →
        handle.className = className → next.Succeeded className.qualified :=
    fun _ _ _ writing => absurd (same.symm.trans writing) (other _ _ _)
  cases step with
  | reserve stage =>
      rcases List.mem_cons.1 reserved with rfl | before
      · exact .inr ⟨_, _, _, rfl, rfl⟩
      · exact .inl ⟨before, idle stage nofun⟩
  | store stage stored =>
      rw [(Sink.eq_of_commit_ok stored).1] at reserved
      refine .inl ⟨reserved, fun _ _ _ writing same => ?_⟩
      cases stage.symm.trans writing
      exact ⟨_, List.mem_append_right _ (List.mem_singleton_self _), by rw [same], rfl⟩
  | spoil stage spoiled =>
      rcases Sink.eq_of_commit_error spoiled with ⟨twice, -⟩ | rfl
      · exact absurd twice (uncommitted _ _ _ stage)
      · obtain ⟨before, other⟩ := List.mem_filter.1 reserved
        refine .inl ⟨before, fun _ _ _ writing same => ?_⟩
        cases stage.symm.trans writing
        simp [same] at other
  | cache stage _ sink =>
      rw [sink] at reserved
      exact .inl ⟨reserved, idle stage nofun⟩
  | _ stage => exact .inl ⟨reserved, idle stage nofun⟩

/-- A class is marked by a commit that succeeds. -/
theorem CallerStep.committed (step : CallerStep session caller next moved)
    (committed : className ∈ next.engine.sink.reservations.committed) :
    className ∈ session.engine.sink.reservations.committed ∨
      next.Succeeded className.qualified := by
  cases step with
  | store _ stored =>
      rw [(Sink.eq_of_commit_ok stored).1] at committed
      rcases List.mem_cons.1 committed with rfl | before
      · exact .inr ⟨_, List.mem_append_right _ (List.mem_singleton_self _), rfl, rfl⟩
      · exact .inl before
  | spoil _ spoiled =>
      rcases Sink.eq_of_commit_error spoiled with ⟨-, rfl⟩ | rfl
      · exact .inl committed
      · obtain ⟨marked, other⟩ := List.mem_filter.1 committed
        rcases List.mem_cons.1 marked with rfl | before
        · simp at other
        · exact .inl before
  | cache _ _ sink =>
      rw [sink] at committed
      exact .inl committed
  | _ => exact .inl committed

/-- The sink keeps the classes that no commit is pending for. -/
theorem CallerStep.holds (step : CallerStep session caller next moved)
    (other : ∀ artifact gate handle, caller.stage = .writing artifact gate handle →
      handle.className.qualified ≠ key)
    (held : session.engine.sink.Holds key) : next.engine.sink.Holds key := by
  cases step with
  | reserve => exact ⟨held.marked, held.kept⟩
  | store _ stored => exact .of_commit_ok stored (.inr held)
  | spoil stage spoiled => exact held.of_commit_error spoiled (other _ _ _ stage)
  | cache _ _ sink =>
      rw [sink]
      exact held
  | _ => exact held

/-- A gate is given up only after its commit failed. -/
theorem CallerStep.mem_current (stands : caller.Stands session)
    (step : CallerStep session caller next moved)
    (current : (key, gate) ∈ session.commits.current)
    (unfailed : ∀ failure, session.commits.state? gate ≠ some (.settled (.error failure))) :
    (key, gate) ∈ next.commits.current := by
  cases step with
  | create => exact List.mem_append_left _ current
  | @cache _ _ _ engine _ _ commits =>
      have same : ({ session with engine } : Session).commits = session.commits := commits
      rw [same]
      exact current
  | @retire _ retired failure stage =>
      have failed := stands.retiring _ _ _ stage
      have other : gate ≠ retired := fun same => unfailed failure (same ▸ failed)
      exact List.mem_filter.2 ⟨current, by simp [other]⟩
  | _ => exact current

/-- A gate is settled by the caller that opened it. -/
theorem CallerStep.settled {result : Except Failure Unit}
    (step : CallerStep session caller next moved)
    (settled : next.commits.state? gate = some (.settled result)) :
    session.commits.state? gate = some (.settled result) ∨
      ∃ artifact, caller.stage = .settling artifact gate result := by
  have changed {other : GateId} {state : GateState}
      (settled : (CommitGates.mk (session.commits.gates.set other state)
        session.commits.current).state? gate = some (.settled result)) :
      session.commits.state? gate = some (.settled result) ∨
        other = gate ∧ state = .settled result := by
    rw [CommitGates.state?_set] at settled
    split at settled
    case isTrue same =>
      obtain ⟨_, -, state⟩ := Option.map_eq_some_iff.1 settled
      exact .inr ⟨same, state⟩
    case isFalse => exact .inl settled
  cases step with
  | create =>
      have settled : (session.commits.gates ++ [.unopened])[gate]? = some (.settled result) :=
        settled
      rcases Nat.lt_or_ge gate session.commits.gates.length with below | above
      · exact .inl ((List.getElem?_append_left below).symm.trans settled)
      · rw [List.getElem?_append_right above] at settled
        cases List.mem_singleton.1 (List.mem_of_getElem? settled)
  | enter =>
      rcases changed settled with before | ⟨-, opened⟩
      · exact .inl before
      · cases opened
  | settle stage =>
      rcases changed settled with before | ⟨rfl, same⟩
      · exact .inl before
      · cases same
        exact .inr ⟨_, stage⟩
  | @cache _ _ _ engine _ _ commits =>
      have same : ({ session with engine } : Session).commits = session.commits := commits
      rw [same] at settled
      exact .inl settled
  | _ => exact .inl settled

/-- Callers that opened gates of one class are one. -/
theorem Invariant.index_eq {first second : Nat} {other : Caller} {later : GateId}
    (valid : Invariant size session) (found : session.callers[first]? = some caller)
    (alsoFound : session.callers[second]? = some other)
    (opens : caller.stage.opened? = some gate) (alsoOpens : other.stage.opened? = some later)
    (known : session.keys[gate]? = some key) (alsoKnown : session.keys[later]? = some key) :
    first = second := by
  have committing := (valid.stands first caller found).opened gate opens
  have alsoCommitting := (valid.stands second other alsoFound).opened later alsoOpens
  have same : gate = later :=
    valid.kept.unique (valid.kept.mem_current known committing nofun)
      (valid.kept.mem_current alsoKnown alsoCommitting nofun)
  exact valid.single first second caller other gate found alsoFound opens (same ▸ alsoOpens)

/-- No commit of a class succeeded while a caller is still to ask for one. -/
theorem Committed.not_succeeded {index : Nat} (committed : Committed session)
    (valid : Invariant size session) (found : session.callers[index]? = some caller)
    (waits : caller.stage.uncalled? = some gate) (known : session.keys[gate]? = some key) :
    ¬session.Succeeded key := by
  intro succeeded
  have opens := CallerStage.opened?_of_uncalled? waits
  have committing := (valid.stands index caller found).opened gate opens
  have own := valid.kept.mem_current known committing nofun
  obtain ⟨later, current, settled | ⟨other, owner, alsoFound, stores⟩⟩ :=
    committed.current key succeeded
  · obtain rfl := valid.kept.unique own current
    cases committing.symm.trans settled
  · obtain rfl := valid.kept.unique own current
    have alsoOpens := CallerStage.opened?_of_stored? stores
    obtain rfl := valid.single index other caller owner gate found alsoFound opens alsoOpens
    cases found.symm.trans alsoFound
    generalize caller.stage = stage at waits stores
    cases stage with
    | reserving | writing => cases stores
    | _ => cases waits

/-- A class is free while the caller that opened its gate is to reserve it. -/
theorem Committed.isCreated_eq {index : Nat} {artifact : Artifact} (committed : Committed session)
    (valid : Invariant size session) (found : session.callers[index]? = some caller)
    (stage : caller.stage = .reserving artifact gate) :
    session.engine.sink.isCreated artifact.className = false := by
  have known := (valid.stands index caller found).key artifact gate (by rw [stage]; rfl)
    (by rw [stage]; rfl)
  rw [Bool.eq_false_iff]
  intro created
  rcases committed.reserved artifact.className (List.contains_iff_mem.1 created) with
    succeeded | ⟨other, writer, published, later, handle, alsoFound, writing, same⟩
  · exact committed.not_succeeded valid found (by rw [stage]; rfl) known succeeded
  · have alsoKnown := (valid.stands other writer alsoFound).key published later
      (by rw [writing]; rfl) (by rw [writing]; rfl)
    rw [← (committed.owns other writer alsoFound).handle _ _ _ writing, same] at alsoKnown
    obtain rfl := valid.index_eq found alsoFound (by rw [stage]; rfl) (by rw [writing]; rfl)
      known alsoKnown
    cases found.symm.trans alsoFound
    cases stage.symm.trans writing

/-- A new caller commits nothing. -/
theorem Committed.call (committed : Committed session) (target : Target) :
    Committed { session with callers := session.callers ++ [{ target }] } := by
  have stays : ∀ (index : Nat) caller, session.callers[index]? = some caller →
      (session.callers ++ [({ target } : Caller)])[index]? = some caller :=
    fun index caller found =>
      (List.getElem?_append_left (List.getElem?_eq_some_iff.1 found).1).trans found
  constructor
  case outcomes => exact committed.outcomes
  case owns =>
    intro index caller found
    rcases known_of_call found with old | rfl
    · exact (committed.owns index caller old).withCallers _
    · exact .of_artifact nofun ⟨nofun, nofun, nofun, rfl⟩
  case reserved =>
    intro className reserved
    refine (committed.reserved className reserved).imp_right ?_
    rintro ⟨index, caller, artifact, gate, handle, found, writes⟩
    exact ⟨index, caller, artifact, gate, handle, stays index caller found, writes⟩
  case committed => exact committed.committed
  case current =>
    intro key succeeded
    obtain ⟨gate, current, settled | ⟨index, caller, found, stores⟩⟩ :=
      committed.current key succeeded
    · exact ⟨gate, current, .inl settled⟩
    · exact ⟨gate, current, .inr ⟨index, caller, stays index caller found, stores⟩⟩
  case settled => exact committed.settled
  case held => exact committed.held

/-- A step of the scheduler commits nothing. -/
theorem Committed.schedule (committed : Committed session) (valid : Invariant size session)
    {action : Action} {scheduler : Scheduler}
    (possible : session.scheduler.step? action = some scheduler)
    (honest : Scheduler.OwnEnding session.scheduler action) :
    Committed (session.withScheduler scheduler) := by
  have step := Scheduler.Step.of_step? possible
  constructor
  case outcomes => exact committed.outcomes.step valid.scheduler step honest
  case owns =>
    intro index caller found
    exact (Leaves.of_schedule valid.scheduler step).owns (fun _ before => before)
      (committed.owns index caller found)
  case reserved => exact committed.reserved
  case committed => exact committed.committed
  case current => exact committed.current
  case settled => exact committed.settled
  case held => exact committed.held

/-- Callers record no outcomes of their own. -/
theorem CallerStep.outcomes (valid : Scheduler.Invariant size session.scheduler)
    (outcomes : session.scheduler.OwnsOutcomes) (step : CallerStep session caller next moved) :
    next.scheduler.OwnsOutcomes := by
  cases step with
  | submit _ submits => exact outcomes.step valid (.of_submit submits) nofun
  | @cache _ _ _ engine plan =>
      have same : ({ session with engine } : Session).scheduler = session.scheduler := plan.2.1
      rw [same]
      exact outcomes
  | _ => exact outcomes

/-- A caller whose source is in the sink settles its gate with that. -/
theorem CallerStep.stored (stands : caller.Stands session)
    (step : CallerStep session caller next moved) (stores : caller.stage.stored? = some gate) :
    next.commits.state? gate = some (.settled (.ok ())) ∨ moved.stage.stored? = some gate := by
  have waits {stage : CallerStage} (same : caller.stage = stage) (idle : stage.stored? = none) :
      False := by
    rw [same, idle] at stores
    cases stores
  cases step with
  | cache stage =>
      rw [stage] at stores
      exact .inr stores
  | @settle _ _ result stage =>
      have committing := stands.opened gate (CallerStage.opened?_of_stored? stores)
      rw [stage] at stores
      cases result with
      | error => cases stores
      | ok =>
          cases stores
          refine .inl ?_
          change (CommitGates.mk (session.commits.gates.set gate _) _).state? gate = _
          rw [CommitGates.state?_set, if_pos rfl, committing]
          rfl
  | overlook stage | go stage | reuse stage | miss stage | submit stage | pass stage | watch stage
  | receive stage | fail stage | see stage | join stage | create stage | enter stage
  | share stage | lose stage | reserve stage | store stage | spoil stage | retire stage =>
      exact (waits stage rfl).elim

/-- A new success is that of the caller that moves. -/
theorem CallerStep.of_succeeded (stands : caller.Stands session) (owns : caller.Owns session)
    (step : CallerStep session caller next moved) (succeeded : next.Succeeded key) :
    session.Succeeded key ∨ next.engine.sink.Holds key ∧ ∃ gate,
      caller.stage.opened? = some gate ∧ moved.stage.stored? = some gate ∧
        session.keys[gate]? = some key := by
  cases step with
  | store stage stored =>
      obtain ⟨call, inCalls, rfl, success⟩ := succeeded
      rcases List.mem_append.1 inCalls with before | new
      · exact .inl ⟨call, before, rfl, success⟩
      · obtain rfl := List.mem_singleton.1 new
        refine .inr ⟨.of_commit_ok stored (.inl rfl), _, by rw [stage]; rfl, rfl, ?_⟩
        rw [owns.handle _ _ _ stage]
        exact stands.key _ _ (by rw [stage]; rfl) (by rw [stage]; rfl)
  | spoil =>
      obtain ⟨call, inCalls, same, success⟩ := succeeded
      rcases List.mem_append.1 inCalls with before | new
      · exact .inl ⟨call, before, same, success⟩
      · rw [List.mem_singleton.1 new] at success
        cases success
  | _ => exact .inl succeeded

/-- The callers that do not move stay where they are. -/
theorem known_elsewhere {index other : Nat} (found : session.callers[other]? = some caller)
    (different : other ≠ index) : (session.callers.set index moved)[other]? = some caller := by
  rw [List.getElem?_set_ne (Ne.symm different), found]

section

variable {index : Nat} (committed : Committed session) (valid : Invariant size session)
  (found : session.callers[index]? = some caller) (step : CallerStep session caller next moved)

include committed valid found step

/-- A class that is reserved after a step is committed or being written. -/
theorem Committed.reserved_of_advance
    (reserved : className ∈ next.engine.sink.reservations.reserved) :
    next.Succeeded className.qualified ∨
      ∃ (other : Nat) (writer : Caller) (artifact : Artifact) (gate : GateId)
        (handle : WriteHandle), (session.callers.set index moved)[other]? = some writer ∧
          writer.stage = .writing artifact gate handle ∧ handle.className = className := by
  have stands := valid.stands index caller found
  have owns := committed.owns index caller found
  have uncommitted : ∀ artifact gate handle, caller.stage = .writing artifact gate handle →
      handle.className ∉ session.engine.sink.reservations.committed := by
    intro artifact gate handle stage marked
    refine committed.not_succeeded valid found (by rw [stage]; rfl)
      (stands.key _ _ (by rw [stage]; rfl) (by rw [stage]; rfl)) ?_
    rw [← owns.handle _ _ _ stage]
    exact committed.committed _ marked
  rcases step.reserved uncommitted reserved with
    ⟨before, writes⟩ | ⟨artifact, gate, handle, writing, same⟩
  · rcases committed.reserved className before with
      succeeded | ⟨other, writer, artifact, gate, handle, known, writing, same⟩
    · exact .inl (step.succeeded succeeded)
    · by_cases own : other = index
      · subst own
        cases found.symm.trans known
        exact .inl (writes _ _ _ writing same)
      · exact .inr ⟨other, writer, artifact, gate, handle, known_elsewhere known own, writing,
          same⟩
  · exact .inr ⟨index, moved, artifact, gate, handle, known_there found, writing, same⟩

/-- A committed class has a gate that settled with success or is about to. -/
theorem Committed.current_of_advance (succeeded : next.Succeeded key) :
    ∃ gate, (key, gate) ∈ next.commits.current ∧
      (next.commits.state? gate = some (.settled (.ok ())) ∨
        ∃ (other : Nat) (owner : Caller), (session.callers.set index moved)[other]? = some owner ∧
          owner.stage.stored? = some gate) := by
  have stands := valid.stands index caller found
  have owns := committed.owns index caller found
  have stays {gate : GateId} {state : GateState}
      (current : (key, gate) ∈ session.commits.current)
      (known : session.commits.state? gate = some state)
      (unfailed : ∀ failure, state ≠ .settled (.error failure)) :
      (key, gate) ∈ next.commits.current :=
    step.mem_current stands current fun failure failed =>
      unfailed failure (Option.some.inj (known.symm.trans failed))
  rcases step.of_succeeded stands owns succeeded with
    before | ⟨-, gate, opens, stores, known⟩
  · obtain ⟨gate, current, settled | ⟨other, owner, known, stores⟩⟩ :=
      committed.current key before
    · exact ⟨gate, stays current settled nofun,
        .inl ((step.leaves valid.scheduler stands).settled settled)⟩
    · have committing := (valid.stands other owner known).opened gate
        (CallerStage.opened?_of_stored? stores)
      refine ⟨gate, stays current committing nofun, ?_⟩
      by_cases own : other = index
      · subst own
        cases found.symm.trans known
        exact (step.stored stands stores).imp_right fun stores =>
          ⟨other, moved, known_there found, stores⟩
      · exact .inr ⟨other, owner, known_elsewhere known own, stores⟩
  · have committing := stands.opened gate opens
    exact ⟨gate, stays (valid.kept.mem_current known committing nofun) committing nofun,
      .inr ⟨index, moved, known_there found, stores⟩⟩

/-- A gate that settled with success belongs to a committed class. -/
theorem Committed.settled_of_advance (known : next.keys[gate]? = some key)
    (settled : next.commits.state? gate = some (.settled (.ok ()))) : next.Succeeded key := by
  have stands := valid.stands index caller found
  have before {other : String} (alsoKnown : session.keys[gate]? = some other)
      (succeeded : session.Succeeded other) : next.Succeeded key := by
    cases ((step.leaves valid.scheduler stands).keys gate other alsoKnown).symm.trans known
    exact step.succeeded succeeded
  rcases step.settled settled with old | ⟨artifact, stage⟩
  · have inside := (List.getElem?_eq_some_iff.1 old).1
    rw [← valid.kept.lengths] at inside
    have alsoKnown := List.getElem?_eq_getElem inside
    exact before alsoKnown (committed.settled gate _ alsoKnown old)
  · obtain ⟨other, alsoKnown, succeeded⟩ :=
      (committed.owns index caller found).stored gate (by rw [stage]; rfl)
    exact before alsoKnown succeeded

/-- The source of a committed class is in the sink. -/
theorem Committed.held_of_advance (succeeded : next.Succeeded key) :
    next.engine.sink.Holds key := by
  have stands := valid.stands index caller found
  have owns := committed.owns index caller found
  rcases step.of_succeeded stands owns succeeded with before | ⟨held, -⟩
  · refine step.holds (fun artifact gate handle stage same => ?_) (committed.held key before)
    refine committed.not_succeeded valid found (by rw [stage]; rfl) ?_ before
    rw [← same, owns.handle _ _ _ stage]
    exact stands.key _ _ (by rw [stage]; rfl) (by rw [stage]; rfl)
  · exact held

/-- A step of a caller keeps what is known of the commits. -/
theorem Committed.advance : Committed { next with callers := session.callers.set index moved } := by
  have stands := valid.stands index caller found
  constructor
  case outcomes =>
    have after := step.outcomes valid.scheduler committed.outcomes
    exact after
  case owns =>
    intro other after inNext
    rcases known_of_advance inNext with ⟨-, rfl⟩ | ⟨-, old⟩
    · exact (step.owns valid.scheduler committed.outcomes valid.kept stands
        (committed.owns index caller found)
        fun _ _ => committed.isCreated_eq valid found).withCallers _
    · exact ((step.leaves valid.scheduler stands).owns (fun _ => step.succeeded)
        (committed.owns other after old)).withCallers _
  case reserved =>
    intro className reserved
    have after := committed.reserved_of_advance valid found step reserved
    exact after
  case committed =>
    intro className marked
    rcases step.committed marked with before | succeeded
    · exact step.succeeded (committed.committed className before)
    · exact succeeded
  case current =>
    intro key succeeded
    have after := committed.current_of_advance valid found step succeeded
    exact after
  case settled =>
    intro gate key known settled
    have after := committed.settled_of_advance valid found step known settled
    exact after
  case held =>
    intro key succeeded
    have after := committed.held_of_advance valid found step succeeded
    exact after

end

/-- Each step keeps what is known of the commits. -/
theorem Committed.step {action : SessionAction} (committed : Committed session)
    (valid : Invariant size session)
    (honest : session.Allows Scheduler.OwnEnding action)
    (possible : session.step? action = some next) : Committed next := by
  cases Step.of_step? possible with
  | call target => exact committed.call target
  | schedule scheduled => exact committed.schedule valid scheduled honest
  | advance found step => exact committed.advance valid found step

/-- Nothing is committed when an engine is started. -/
theorem Committed.begin {configuration : Configuration} {source : UniverseSource} {files : Files}
    {sink : Sink} {engine : Engine}
    (started : Engine.start configuration source files sink = .ok engine)
    (unused : sink.reservations = {}) : Committed { engine } := by
  obtain ⟨-, scheduler, created, rfl⟩ := Engine.start_eq_ok started
  have unreserved : ∀ className, className ∉ sink.reservations.reserved ∧
      className ∉ sink.reservations.committed := by simp [unused]
  constructor
  case outcomes => exact Scheduler.ownsOutcomes_iff.2 (.create created)
  case owns =>
    intro index caller found
    have found : ([] : List Caller)[index]? = some caller := found
    simp at found
  case reserved => exact fun className reserved => absurd reserved (unreserved className).1
  case committed => exact fun className marked => absurd marked (unreserved className).2
  case current =>
    rintro key ⟨call, inCalls, -⟩
    cases inCalls
  case settled =>
    intro gate key known
    have known : ([] : List String)[gate]? = some key := known
    simp at known
  case held =>
    rintro key ⟨call, inCalls, -⟩
    cases inCalls

/-- What is known of the commits holds in each session that an engine gets to. -/
theorem Reachable.committed {configuration : Configuration} {source : UniverseSource}
    {files : Files} {sink : Sink} {engine : Engine}
    (started : Engine.start configuration source files sink = .ok engine)
    (unused : sink.reservations = {})
    (reached : Reachable Scheduler.OwnEnding engine session) : Committed session := by
  induction reached with
  | begin => exact .begin started unused
  | step reached honest possible ih => exact ih.step (reached.invariant started) honest possible

/-- A caller that returns its class saw a commit of it succeed, or found no gate. -/
theorem CallerStep.returned {index : Nat} {qualified : String} (committed : Committed session)
    (valid : Invariant size session) (found : session.callers[index]? = some caller)
    (step : CallerStep session caller next moved)
    (returned : moved.stage = .returned (.ok qualified)) :
    qualified = caller.qualified ∧ (session.Succeeded qualified ∨
      caller.stage = .pending .alreadyGenerated ∧
        session.commits.current? qualified = none) := by
  have stands := valid.stands index caller found
  have owns := committed.owns index caller found
  have own {artifact : Artifact} {gate : GateId}
      (publishes : caller.stage.artifact? = some artifact)
      (at_ : caller.stage.gate? = some gate) :
      session.keys[gate]? = some caller.qualified := by
    rw [stands.key artifact gate publishes at_, owns.artifact artifact publishes]
    rfl
  have concluded {artifact : Artifact} {gate : GateId} {result : Except Failure Unit}
      (returned : (caller.conclude artifact gate result).stage = .returned (.ok qualified)) :
      result = .ok () ∧ qualified = caller.qualified := by
    cases result with
    | ok =>
        cases returned
        exact ⟨rfl, rfl⟩
    | error => cases returned
  cases step with
  | pass stage unknown =>
      cases returned
      -- This is the one way to succeed without a commit that was seen.
      exact ⟨rfl, .inr ⟨stage, unknown⟩⟩
  | @see gate stage result settled =>
      cases result with
      | error => cases returned
      | ok =>
          cases returned
          exact ⟨rfl, .inl (committed.settled gate _ (owns.watched gate stage)
            (CommitGates.state?_of_result? settled))⟩
  | share stage settled =>
      obtain ⟨rfl, rfl⟩ := concluded returned
      exact ⟨rfl, .inl (committed.settled _ _ (own (by rw [stage]; rfl) (by rw [stage]; rfl))
        (CommitGates.state?_of_result? settled))⟩
  | settle stage =>
      obtain ⟨rfl, rfl⟩ := concluded returned
      obtain ⟨key, known, succeeded⟩ := owns.stored _ (by rw [stage]; rfl)
      cases known.symm.trans (own (by rw [stage]; rfl) (by rw [stage]; rfl))
      exact ⟨rfl, .inl succeeded⟩
  | _ => cases returned

/-- A commit of a class succeeded before a call returns the class, so that the sink holds it. The
one exception is a call that found its class reserved and then no gate of it. -/
theorem succeeded_before_return_iff {configuration : Configuration} {source : UniverseSource}
    {files : Files} {sink : Sink} {engine : Engine} {index : Nat} {faults : PublishFaults}
    {qualified : String}
    (started : Engine.start configuration source files sink = .ok engine)
    (unused : sink.reservations = {})
    (reached : Reachable Scheduler.OwnEnding engine session)
    (possible : session.step? (.advance index faults) = some next)
    (before : session.callers[index]? = some caller) (after : next.callers[index]? = some moved)
    (returned : moved.stage = .returned (.ok qualified)) :
    qualified = caller.qualified ∧
      (session.Succeeded qualified ↔ ¬(caller.stage = .pending .alreadyGenerated ∧
        session.commits.current? qualified = none)) ∧
      (session.Succeeded qualified → session.engine.sink.Holds qualified) := by
  have committed := reached.committed started unused
  have valid := reached.invariant started
  generalize taken : SessionAction.advance index faults = action at possible
  cases Step.of_step? possible with
  | call | schedule => cases taken
  | @advance _ _ known other changed found step =>
      cases taken
      cases found.symm.trans before
      cases (known_there found).symm.trans after
      obtain ⟨same, seen⟩ := step.returned committed valid found returned
      refine ⟨same, ⟨fun succeeded missed => ?_, seen.resolve_right⟩, committed.held qualified⟩
      obtain ⟨gate, current, -⟩ := committed.current qualified succeeded
      exact CommitGates.not_mem_of_current? missed.2 gate current

/-- The second caller finds the class of the first one reserved, and waits for its commit. -/
def watchedCommit : List SessionAction :=
  .call orders :: moves 0 3 ++ generates 0 ⟨orders.className, ""⟩ ++ moves 0 4 ++
    .call orders :: moves 1 2 ++ moves 0 3

/-- A caller that found its class reserved returns after the commit of the other one. -/
theorem watchedCommit_succeeded : ∃ engine session next caller moved,
    Engine.start .brief (.memory (.ofTypes [])) {} .memory = .ok engine ∧
      Sink.memory.reservations = {} ∧ Reachable Scheduler.OwnEnding engine session ∧
      session.step? (.advance 1 {}) = some next ∧ session.callers[1]? = some caller ∧
      next.callers[1]? = some moved ∧
      moved.stage = .returned (.ok orders.className.qualified) ∧
      session.engine.sink.Holds orders.className.qualified := by
  have computed : ((Engine.start .brief (.memory (.ofTypes [])) {} .memory).toOption.bind
      fun engine => run? Scheduler.OwnEnding { engine } watchedCommit).map (fun session =>
        (session.callers[1]?.bind fun caller => caller.stage.gate?,
          (session.step? (.advance 1 {})).bind fun next =>
            next.callers[1]?.bind fun moved => moved.stage.result?)) =
      some (some 0, some (.ok orders.className.qualified)) := by
    decide +kernel
  obtain ⟨engine, session, started, reached, view⟩ := exists_reachable_of_run? computed
  obtain ⟨waits, returns⟩ := Prod.ext_iff.1 view
  obtain ⟨caller, before, gate⟩ := Option.bind_eq_some_iff.1 waits
  obtain ⟨next, possible, returns⟩ := Option.bind_eq_some_iff.1 returns
  obtain ⟨moved, after, result⟩ := Option.bind_eq_some_iff.1 returns
  have returned := CallerStage.eq_of_result? result
  obtain ⟨-, seen, held⟩ := succeeded_before_return_iff started rfl reached possible before after
    returned
  refine ⟨engine, session, next, caller, moved, started, rfl, reached, possible, before, after,
    returned, held (seen.2 fun missed => ?_)⟩
  rw [missed.1] at gate
  cases gate

/-- The second caller finds the class reserved while the first one writes it. Before it looks for
the gate, the write failed and the gate was given up. -/
def overlookedFailure : List SessionAction :=
  .call orders :: moves 0 3 ++ generates 0 ⟨orders.className, ""⟩ ++ moves 0 4 ++
    .call orders :: moves 1 1 ++ .advance 0 { sink := some .beforeWriting } :: moves 0 2

/-- A call may return its class although no commit of it succeeded. -/
theorem overlookedFailure_unsucceeded : ∃ engine session next moved,
    Engine.start .brief (.memory (.ofTypes [])) {} (.files "out") = .ok engine ∧
      Reachable Scheduler.OwnEnding engine session ∧
      session.step? (.advance 1 {}) = some next ∧ next.callers[1]? = some moved ∧
      moved.stage = .returned (.ok orders.className.qualified) ∧
      ¬next.Succeeded orders.className.qualified := by
  have computed : ((Engine.start .brief (.memory (.ofTypes [])) {} (.files "out")).toOption.bind
      fun engine => run? Scheduler.OwnEnding { engine } overlookedFailure).map (fun session =>
        (session.step? (.advance 1 {})).map fun next =>
          (next.calls.map SinkCall.succeeded,
            next.callers[1]?.bind fun moved => moved.stage.result?)) =
      some (some ([false], some (.ok orders.className.qualified))) := by
    decide +kernel
  obtain ⟨engine, session, started, reached, view⟩ := exists_reachable_of_run? computed
  obtain ⟨next, possible, view⟩ := Option.map_eq_some_iff.1 view
  obtain ⟨calls, returns⟩ := Prod.mk.inj view
  obtain ⟨moved, after, result⟩ := Option.bind_eq_some_iff.1 returns
  refine ⟨engine, session, next, moved, started, reached, possible, after,
    CallerStage.eq_of_result? result, ?_⟩
  rintro ⟨call, inCalls, -, succeeded⟩
  have failed : call.succeeded ∈ next.calls.map SinkCall.succeeded := List.mem_map_of_mem inCalls
  rw [calls, succeeded] at failed
  cases List.mem_singleton.1 failed

end Session

end BusBridge
