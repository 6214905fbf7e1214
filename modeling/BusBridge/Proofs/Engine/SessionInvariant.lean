/-
This file proves what every step of a session keeps: what each caller relies on at its stage, and
what a caller has from the job that it joined.
-/

import BusBridge.Proofs.Engine.CommitGates
import BusBridge.Proofs.Engine.Session
import BusBridge.Proofs.Scheduler.Outcome

namespace BusBridge

namespace CallerStage

/-- The artifact that a caller publishes. -/
def artifact? : CallerStage → Option Artifact
  | .publishing artifact | .gated artifact _ | .reserving artifact _ | .writing artifact ..
  | .caching artifact _ | .settling artifact .. | .retiring artifact .. => some artifact
  | .begun | .choosing | .submitting | .pending _ | .watching _ | .returned _ => none

/-- The gate that a caller is at. -/
def gate? : CallerStage → Option GateId
  | .watching gate | .gated _ gate | .reserving _ gate | .writing _ gate _ | .caching _ gate
  | .settling _ gate _ | .retiring _ gate _ => some gate
  | .begun | .choosing | .submitting | .pending _ | .publishing _ | .returned _ => none

/-- The gate that a caller opened and did not settle yet. -/
def opened? : CallerStage → Option GateId
  | .reserving _ gate | .writing _ gate _ | .caching _ gate | .settling _ gate _ => some gate
  | _ => none

/-- The gate of a caller that did not ask the sink yet. -/
def uncalled? : CallerStage → Option GateId
  | .reserving _ gate | .writing _ gate _ => some gate
  | _ => none

def precedesJob : CallerStage → Bool
  | .begun | .choosing | .submitting => true
  | _ => false

def precedesGate : CallerStage → Bool
  | .begun | .choosing | .submitting | .pending _ | .publishing _ => true
  | _ => false

/-- A caller without a job has no gate either. -/
theorem precedesGate_of_precedesJob {stage : CallerStage} (early : stage.precedesJob = true) :
    stage.precedesGate = true := by
  cases stage <;> first | rfl | cases early

/-- A caller that did not ask the sink yet has opened its gate. -/
theorem opened?_of_uncalled? {stage : CallerStage} {gate : GateId}
    (waits : stage.uncalled? = some gate) : stage.opened? = some gate := by
  cases stage <;> first | exact waits | cases waits

/-- A caller that did not ask the sink yet is at a gate. -/
theorem gate?_of_uncalled? {stage : CallerStage} {gate : GateId}
    (waits : stage.uncalled? = some gate) : stage.gate? = some gate := by
  cases stage <;> first | exact waits | cases waits

end CallerStage

/-- What a caller relies on, at its stage. -/
structure Caller.Stands (session : Session) (caller : Caller) : Prop where
  gate : ∀ gate, caller.stage.gate? = some gate → caller.gate = some gate
  ungated : caller.stage.precedesGate = true → caller.gate = none
  key : ∀ artifact gate, caller.stage.artifact? = some artifact →
    caller.stage.gate? = some gate → session.keys[gate]? = some artifact.className.qualified
  opened : ∀ gate, caller.stage.opened? = some gate →
    session.commits.state? gate = some .committing
  uncalled : ∀ gate, caller.stage.uncalled? = some gate →
    ∀ call ∈ session.calls, call.gate ≠ gate
  retiring : ∀ artifact gate failure, caller.stage = .retiring artifact gate failure →
    session.commits.state? gate = some (.settled (.error failure))
  returned : ∀ result gate, caller.stage = .returned result → caller.gate = some gate →
    ∃ outcome, session.commits.state? gate = some (.settled outcome) ∧
      result = outcome.map fun _ => caller.qualified

/-- What a caller has from the job that it joined. -/
structure Caller.Joined (session : Session) (caller : Caller) (id : JobId) : Prop where
  submitted : caller.stage.precedesJob = false
  target : ∃ job, session.scheduler.job? id = some job ∧ job.target = caller.target
  state : ∀ state, caller.stage = .pending state → state = .running id
  artifact : ∀ artifact, caller.stage.artifact? = some artifact →
    session.scheduler.outcome? id = some (.ok artifact)
  gate : ∀ gate, caller.gate = some gate → ∃ artifact,
    session.scheduler.outcome? id = some (.ok artifact) ∧
      session.keys[gate]? = some artifact.className.qualified
  returned : ∀ result, caller.stage = .returned result → caller.gate = none →
    ∃ failure, session.scheduler.outcome? id = some (.error failure) ∧ result = .error failure

namespace Session

variable {session next : Session} {caller moved : Caller} {gate : GateId} {id : JobId}
  {size : PoolSize}

/-- What a step leaves to the callers that do not take it. It may go on with the gate that its own
caller opened. -/
structure Leaves (opened : Option GateId) (before after : Session) : Prop where
  keys : ∀ (gate : GateId) (key : String), before.keys[gate]? = some key →
    after.keys[gate]? = some key
  states : ∀ gate state, before.commits.state? gate = some state → state ≠ .unopened →
    opened ≠ some gate → after.commits.state? gate = some state
  committing : ∀ gate, opened = some gate → before.commits.state? gate = some .committing
  calls : ∀ call ∈ after.calls, call ∈ before.calls ∨ opened = some call.gate
  jobs : ∀ id job, before.scheduler.job? id = some job →
    ∃ kept, after.scheduler.job? id = some kept ∧ Scheduler.Keeps job kept

/-- An outcome stays recorded. -/
theorem Leaves.outcome? {opened : Option GateId} (left : Leaves opened session next)
    {outcome : JobOutcome} (recorded : session.scheduler.outcome? id = some outcome) :
    next.scheduler.outcome? id = some outcome := by
  obtain ⟨job, known, recorded⟩ := Option.bind_eq_some_iff.1 recorded
  obtain ⟨kept, inNext, -, keeps⟩ := left.jobs id job known
  exact Option.bind_eq_some_iff.2 ⟨kept, inNext, keeps outcome recorded⟩

/-- A settled gate stays settled. -/
theorem Leaves.settled {opened : Option GateId} (left : Leaves opened session next)
    {result : Except Failure Unit}
    (settled : session.commits.state? gate = some (.settled result)) :
    next.commits.state? gate = some (.settled result) := by
  refine left.states gate _ settled nofun fun own => ?_
  have committing := left.committing gate own
  rw [settled] at committing
  cases committing

/-- A caller stands where it stood after a step that goes on with another gate. -/
theorem Leaves.stands {opened : Option GateId} (left : Leaves opened session next)
    (stands : caller.Stands session)
    (other : ∀ gate, caller.stage.opened? = some gate → opened ≠ some gate) :
    caller.Stands next := by
  constructor
  case gate => exact stands.gate
  case ungated => exact stands.ungated
  case key =>
    exact fun artifact gate publishes known =>
      left.keys gate _ (stands.key artifact gate publishes known)
  case opened =>
    exact fun gate opens =>
      left.states gate _ (stands.opened gate opens) nofun (other gate opens)
  case uncalled =>
    intro gate waits call inCalls
    rcases left.calls call inCalls with old | new
    · exact stands.uncalled gate waits call old
    · rintro rfl
      exact other call.gate (CallerStage.opened?_of_uncalled? waits) new
  case retiring =>
    exact fun artifact gate failure stage =>
      left.settled (stands.retiring artifact gate failure stage)
  case returned =>
    intro result gate stage known
    obtain ⟨outcome, settled, same⟩ := stands.returned result gate stage known
    exact ⟨outcome, left.settled settled, same⟩

/-- What a caller has from its job is left to it. -/
theorem Leaves.joined {opened : Option GateId} (left : Leaves opened session next)
    (joined : caller.Joined session id) : caller.Joined next id := by
  constructor
  case submitted => exact joined.submitted
  case target =>
    obtain ⟨job, known, same⟩ := joined.target
    obtain ⟨kept, inNext, target, -⟩ := left.jobs id job known
    exact ⟨kept, inNext, target.trans same⟩
  case state => exact joined.state
  case artifact =>
    exact fun artifact publishes =>
      left.outcome? (joined.artifact artifact publishes)
  case gate =>
    intro gate known
    obtain ⟨artifact, recorded, key⟩ := joined.gate gate known
    exact ⟨artifact, left.outcome? recorded, left.keys gate _ key⟩
  case returned =>
    intro result stage ungated
    obtain ⟨failure, failed, same⟩ := joined.returned result stage ungated
    exact ⟨failure, left.outcome? failed, same⟩

/-- A step that only the stages of callers take part in leaves everything. -/
theorem Leaves.refl (session : Session)
    (opened : ∀ gate, caller.stage.opened? = some gate →
      session.commits.state? gate = some .committing) :
    Leaves caller.stage.opened? session session :=
  ⟨fun _ _ known => known, fun _ _ stands _ _ => stands, opened, fun _ => .inl,
    fun _ job known => ⟨job, known, rfl, fun _ recorded => recorded⟩⟩

/-- A step of a caller leaves to the others what they rely on. -/
theorem CallerStep.leaves (valid : Scheduler.Invariant size session.scheduler)
    (stands : caller.Stands session) (step : CallerStep session caller next moved) :
    Leaves caller.stage.opened? session next := by
  have unchanged := Leaves.refl session stands.opened
  cases step with
  | overlook | go | reuse | miss | pass | watch | receive | fail | see | join | share | lose =>
      exact unchanged
  | submit stage submits =>
      refine ⟨unchanged.keys, unchanged.states, unchanged.committing, unchanged.calls, ?_⟩
      intro id job known
      exact (Scheduler.Step.of_submit submits).keeps valid known
  | create stage unknown =>
      refine ⟨?_, ?_, unchanged.committing, unchanged.calls, unchanged.jobs⟩
      · exact fun gate key known =>
          (List.getElem?_append_left (List.getElem?_eq_some_iff.1 known).1).trans known
      · exact fun gate state known _ _ =>
          (List.getElem?_append_left (List.getElem?_eq_some_iff.1 known).1).trans known
  | @enter artifact gate stage unopened =>
      refine ⟨unchanged.keys, ?_, unchanged.committing, unchanged.calls, unchanged.jobs⟩
      intro other state known opened _
      change (CommitGates.mk (session.commits.gates.set gate .committing) _).state? other = _
      rw [CommitGates.state?_set, if_neg, known]
      rintro rfl
      exact opened (Option.some.inj (known.symm.trans unopened))
  | reserve stage =>
      exact ⟨unchanged.keys, unchanged.states, unchanged.committing, unchanged.calls,
        unchanged.jobs⟩
  | store stage | spoil stage =>
      refine ⟨unchanged.keys, unchanged.states, unchanged.committing, ?_, unchanged.jobs⟩
      intro call inCalls
      rcases List.mem_append.1 inCalls with old | new
      · exact .inl old
      · rw [List.mem_singleton.1 new, stage]
        exact .inr rfl
  | @cache _ _ stage engine plan sink commits =>
      have commits : ({ session with engine } : Session).commits = session.commits := commits
      have scheduler : ({ session with engine } : Session).scheduler = session.scheduler := plan.2.1
      refine ⟨unchanged.keys, ?_, unchanged.committing, unchanged.calls, ?_⟩
      · rw [commits]
        exact unchanged.states
      · rw [scheduler]
        exact unchanged.jobs
  | @settle artifact gate result stage =>
      refine ⟨unchanged.keys, ?_, unchanged.committing, unchanged.calls, unchanged.jobs⟩
      intro other state known _ elsewhere
      change (CommitGates.mk (session.commits.gates.set gate _) _).state? other = _
      rw [CommitGates.state?_set, if_neg, known]
      rintro rfl
      exact elsewhere (by rw [stage]; rfl)
  | retire stage =>
      exact ⟨unchanged.keys, unchanged.states, unchanged.committing, unchanged.calls,
        unchanged.jobs⟩

end Session

namespace Caller

variable {session : Session} {caller : Caller} {gate : GateId} {artifact : Artifact}

/-- A conclusion keeps the target. -/
@[simp] theorem conclude_target (result : Except Failure Unit) :
    (caller.conclude artifact gate result).target = caller.target := by
  cases result <;> rfl

/-- A conclusion keeps the gate. -/
@[simp] theorem conclude_gate (result : Except Failure Unit) :
    (caller.conclude artifact gate result).gate = caller.gate := by
  cases result <;> rfl

/-- A conclusion keeps the job. -/
@[simp] theorem conclude_job (result : Except Failure Unit) :
    (caller.conclude artifact gate result).job = caller.job := by
  cases result <;> rfl

/-- A caller that concludes is past its gate. -/
theorem conclude_precedesGate (result : Except Failure Unit) :
    (caller.conclude artifact gate result).stage.precedesGate = false := by
  cases result <;> rfl

/-- A caller that concludes publishes nothing but its artifact. -/
theorem artifact?_conclude {result : Except Failure Unit} {published : Artifact}
    (publishes : (caller.conclude artifact gate result).stage.artifact? = some published) :
    some artifact = some published := by
  cases result with
  | ok => cases publishes
  | error => exact publishes

/-- A caller without a gate relies on nothing. -/
theorem Stands.of_precedesGate (early : caller.stage.precedesGate = true)
    (ungated : caller.gate = none) : caller.Stands session := by
  obtain ⟨target, stage, job, own⟩ := caller
  cases stage with
  | begun | choosing | submitting | pending | publishing =>
      exact ⟨nofun, fun _ => ungated, nofun, nofun, nofun, nofun, nofun⟩
  | _ => cases early

/-- A caller that opened a gate has to settle it. -/
theorem Stands.of_opened? (opened : caller.stage.opened? = some gate)
    (own : caller.gate = some gate)
    (key : ∀ artifact, caller.stage.artifact? = some artifact →
      session.keys[gate]? = some artifact.className.qualified)
    (committing : session.commits.state? gate = some .committing)
    (uncalled : caller.stage.uncalled? = some gate → ∀ call ∈ session.calls, call.gate ≠ gate) :
    caller.Stands session := by
  obtain ⟨target, stage, job, known⟩ := caller
  cases stage with
  | reserving | writing | caching | settling =>
      cases opened
      refine ⟨fun _ same => own.trans same, nofun, ?_, ?_, ?_, nofun, nofun⟩
      · rintro artifact _ publishes ⟨⟩
        exact key artifact publishes
      · rintro _ ⟨⟩
        exact committing
      · intro other waits
        cases CallerStage.opened?_of_uncalled? waits
        exact uncalled waits
  | _ => cases opened

/-- A caller that returned without a gate relies on nothing. -/
theorem Stands.of_returned {result : Except Failure String}
    (stage : caller.stage = .returned result) (ungated : caller.gate = none) :
    caller.Stands session := by
  obtain ⟨target, _, job, own⟩ := caller
  cases stage
  refine ⟨nofun, nofun, nofun, nofun, nofun, nofun, fun _ gate _ known => ?_⟩
  rw [ungated] at known
  cases known

/-- A caller that saw how its gate was settled goes on with that result. -/
theorem Stands.conclude {result : Except Failure Unit} (own : caller.gate = some gate)
    (key : session.keys[gate]? = some artifact.className.qualified)
    (settled : session.commits.state? gate = some (.settled result)) :
    (caller.conclude artifact gate result).Stands session := by
  cases result with
  | ok =>
      refine ⟨nofun, nofun, nofun, nofun, nofun, nofun, ?_⟩
      rintro _ other ⟨⟩ known
      obtain rfl : gate = other := Option.some.inj (own.symm.trans known)
      exact ⟨.ok (), settled, rfl⟩
  | error failure =>
      refine ⟨fun _ same => own.trans same, nofun, ?_, nofun, nofun, ?_, nofun⟩
      · rintro _ _ ⟨⟩ ⟨⟩
        exact key
      · rintro _ _ _ ⟨⟩
        exact settled

/-- What a caller relies on does not depend on the other callers. -/
theorem Stands.withCallers (stands : caller.Stands session) (callers : List Caller) :
    caller.Stands { session with callers } := by
  obtain ⟨⟩ := stands
  constructor <;> assumption

/-- What a caller has from its job does not depend on the other callers. -/
theorem Joined.withCallers {id : JobId} (joined : caller.Joined session id)
    (callers : List Caller) : caller.Joined { session with callers } id := by
  obtain ⟨⟩ := joined
  constructor <;> assumption

/-- A caller at a gate goes on with the artifact that it has. -/
theorem Joined.goOn {id : JobId} {moved : Caller} (joined : caller.Joined session id)
    (target : moved.target = caller.target) (same : moved.gate = caller.gate)
    (own : caller.gate = some gate) (late : moved.stage.precedesGate = false)
    (artifact : ∀ artifact, moved.stage.artifact? = some artifact →
      caller.stage.artifact? = some artifact) : moved.Joined session id := by
  constructor
  case submitted =>
    apply Bool.eq_false_iff.2
    intro early
    exact Bool.false_ne_true (late.symm.trans (CallerStage.precedesGate_of_precedesJob early))
  case target =>
    rw [target]
    exact joined.target
  case state =>
    intro state stage
    rw [stage] at late
    cases late
  case artifact => exact fun other publishes => joined.artifact other (artifact other publishes)
  case gate =>
    rw [same]
    exact joined.gate
  case returned =>
    intro _ _ ungated
    rw [same, own] at ungated
    cases ungated

end Caller

namespace Session

variable {session next : Session} {caller moved : Caller} {gate : GateId} {id : JobId}
  {size : PoolSize}

/-- A caller keeps to its gate, and to its job from then on. -/
theorem CallerStep.gate_eq (stands : caller.Stands session)
    (step : CallerStep session caller next moved) (known : caller.gate = some gate) :
    moved.gate = some gate ∧ moved.job = caller.job := by
  have late {stage : CallerStage} (same : caller.stage = stage)
      (early : stage.precedesGate = true) : False := by
    rw [stands.ungated (same ▸ early)] at known
    cases known
  cases step with
  | submit stage | watch stage | join stage | create stage => exact (late stage rfl).elim
  | share | settle => exact ⟨(Caller.conclude_gate _).trans known, Caller.conclude_job _⟩
  | _ => exact ⟨known, rfl⟩

/-- A caller that moves still stands where its stage says. -/
theorem CallerStep.stands (kept : session.commits.Kept session.keys)
    (called : ∀ call ∈ session.calls, session.commits.state? call.gate ≠ some .unopened)
    (stands : caller.Stands session) (step : CallerStep session caller next moved) :
    moved.Stands next := by
  have early {stage : CallerStage} (same : caller.stage = stage)
      (precedes : stage.precedesGate = true) : caller.gate = none :=
    stands.ungated (same ▸ precedes)
  have own {stage : CallerStage} (same : caller.stage = stage) {gate : GateId}
      (at_ : stage.gate? = some gate) : caller.gate = some gate :=
    stands.gate gate (same ▸ at_)
  have key {stage : CallerStage} (same : caller.stage = stage) {artifact : Artifact}
      {gate : GateId} (publishes : stage.artifact? = some artifact)
      (at_ : stage.gate? = some gate) :
      session.keys[gate]? = some artifact.className.qualified :=
    stands.key artifact gate (same ▸ publishes) (same ▸ at_)
  have committing {stage : CallerStage} (same : caller.stage = stage) {gate : GateId}
      (opens : stage.opened? = some gate) : session.commits.state? gate = some .committing :=
    stands.opened gate (same ▸ opens)
  cases step with
  | overlook stage | go stage | reuse stage | miss stage | submit stage | receive stage =>
      exact .of_precedesGate rfl (early stage rfl)
  | pass stage | fail stage => exact .of_returned rfl (early stage rfl)
  | watch stage =>
      exact ⟨fun _ same => same, nofun, nofun, nofun, nofun, nofun, nofun⟩
  | @see gate stage result settled =>
      refine ⟨nofun, nofun, nofun, nofun, nofun, nofun, ?_⟩
      rintro _ other ⟨⟩ known
      obtain rfl : gate = other := Option.some.inj ((own stage rfl).symm.trans known)
      exact ⟨result, CommitGates.state?_of_result? settled, rfl⟩
  | @join artifact stage gate known =>
      refine ⟨fun _ same => same, nofun, ?_, nofun, nofun, nofun, nofun⟩
      rintro _ _ ⟨⟩ ⟨⟩
      exact kept.keyed _ (CommitGates.mem_of_current? known)
  | create stage unknown =>
      refine ⟨fun _ same => same, nofun, ?_, nofun, nofun, nofun, nofun⟩
      rintro _ _ ⟨⟩ ⟨⟩
      simp [← kept.lengths]
  | @enter artifact gate stage unopened =>
      refine .of_opened? rfl (own stage rfl) ?_ ?_ fun _ call inCalls same => ?_
      · rintro _ ⟨⟩
        exact key stage rfl rfl
      · change (CommitGates.mk (session.commits.gates.set gate .committing) _).state? gate = _
        rw [CommitGates.state?_set, if_pos rfl, unopened]
        rfl
      · exact called call inCalls (same ▸ unopened)
  | share stage settled =>
      exact .conclude (own stage rfl) (key stage rfl rfl) (CommitGates.state?_of_result? settled)
  | lose stage =>
      refine .of_opened? rfl (own stage rfl) ?_ (committing stage rfl) nofun
      rintro _ ⟨⟩
      exact key stage rfl rfl
  | @cache _ gate stage engine _ _ commits =>
      have commits : ({ session with engine } : Session).commits = session.commits := commits
      refine .of_opened? rfl (own stage rfl) ?_ ?_ nofun
      · rintro _ ⟨⟩
        exact key stage rfl rfl
      · rw [commits]
        exact committing stage rfl
  | reserve stage =>
      refine .of_opened? rfl (own stage rfl) ?_ (committing stage rfl) fun _ => ?_
      · rintro _ ⟨⟩
        exact key stage rfl rfl
      · exact stands.uncalled _ (by rw [stage]; rfl)
  | store stage | spoil stage =>
      refine .of_opened? rfl (own stage rfl) ?_ (committing stage rfl) nofun
      rintro _ ⟨⟩
      exact key stage rfl rfl
  | @settle artifact gate result stage =>
      refine .conclude (own stage rfl) (key stage rfl rfl) ?_
      change (CommitGates.mk (session.commits.gates.set gate _) _).state? gate = _
      rw [CommitGates.state?_set, if_pos rfl, committing stage rfl]
      rfl
  | @retire artifact gate failure stage =>
      refine ⟨nofun, nofun, nofun, nofun, nofun, nofun, ?_⟩
      rintro _ other ⟨⟩ known
      obtain rfl : gate = other := Option.some.inj ((own stage rfl).symm.trans known)
      exact ⟨.error failure, stands.retiring artifact gate failure stage, rfl⟩

/-- An artifact is received from a recorded outcome. -/
theorem outcome?_of_artifactOf {outcome : JobOutcome}
    (ready : (PendingState.running id).isReady session.engine = true)
    (received : session.engine.artifactOf (.running id) = outcome) :
    session.scheduler.outcome? id = some outcome := by
  obtain ⟨recorded, found⟩ := Option.isSome_iff_exists.1 ready
  rw [Engine.artifactOf, found] at received
  exact found.trans (congrArg some received)

/-- A caller that moves has what its job gave it. -/
theorem CallerStep.joined (valid : Scheduler.Invariant size session.scheduler)
    (kept : session.commits.Kept session.keys)
    (called : ∀ call ∈ session.calls, session.commits.state? call.gate ≠ some .unopened)
    (stands : caller.Stands session)
    (joined : ∀ id, caller.job = some id → caller.Joined session id)
    (step : CallerStep session caller next moved) (job : moved.job = some id) :
    moved.Joined next id := by
  have standing := step.stands kept called stands
  have before (same : caller.job = some id) : caller.Joined next id :=
    (step.leaves valid stands).joined (joined id same)
  have own {stage : CallerStage} (same : caller.stage = stage) {gate : GateId}
      (at_ : stage.gate? = some gate) : caller.gate = some gate :=
    stands.gate gate (same ▸ at_)
  cases step with
  | overlook stage | go stage | reuse stage | miss stage =>
      have late := (joined id job).submitted
      rw [stage] at late
      cases late
  | submit stage submits =>
      cases job
      have ungated : caller.gate = none := stands.ungated (by rw [stage]; rfl)
      refine ⟨rfl, valid.submit_target submits, ?_, nofun, ?_, nofun⟩
      · rintro _ ⟨⟩
        rfl
      · intro gate known
        exact absurd (ungated.symm.trans known) nofun
  | pass stage | watch stage => cases (joined id job).state _ stage
  | receive stage ready received =>
      have joined := joined id job
      obtain rfl := joined.state _ stage
      refine ⟨rfl, joined.target, nofun, ?_, joined.gate, nofun⟩
      rintro _ ⟨⟩
      exact outcome?_of_artifactOf ready received
  | fail stage _ ready failed =>
      have joined := joined id job
      obtain rfl := joined.state _ stage
      refine ⟨rfl, joined.target, nofun, nofun, joined.gate, ?_⟩
      rintro _ ⟨⟩ _
      exact ⟨_, outcome?_of_artifactOf ready failed, rfl⟩
  | see stage => exact (before job).goOn rfl rfl (own stage rfl) rfl nofun
  | join stage | create stage =>
      have joined := before job
      refine ⟨rfl, joined.target, nofun, ?_, ?_, nofun⟩
      · rintro _ ⟨⟩
        exact joined.artifact _ (by rw [stage]; rfl)
      · rintro _ ⟨⟩
        exact ⟨_, joined.artifact _ (by rw [stage]; rfl), standing.key _ _ rfl rfl⟩
  | share stage | settle stage =>
      refine (before ((Caller.conclude_job _).symm.trans job)).goOn (Caller.conclude_target _)
        (Caller.conclude_gate _) (own stage rfl) (Caller.conclude_precedesGate _) ?_
      intro artifact publishes
      rw [stage]
      exact Caller.artifact?_conclude publishes
  | retire stage => exact (before job).goOn rfl rfl (own stage rfl) rfl nofun
  | _ stage =>
      refine (before job).goOn rfl rfl (own stage rfl) rfl ?_
      rintro _ ⟨⟩
      rw [stage]
      rfl

/-- What every step of a session keeps. -/
structure Invariant (size : PoolSize) (session : Session) : Prop where
  scheduler : Scheduler.Invariant size session.scheduler
  kept : session.commits.Kept session.keys
  stands : ∀ (index : Nat) caller, session.callers[index]? = some caller → caller.Stands session
  joined : ∀ (index : Nat) caller id, session.callers[index]? = some caller →
    caller.job = some id → caller.Joined session id
  single : ∀ (first second : Nat) caller other gate, session.callers[first]? = some caller →
    session.callers[second]? = some other → caller.stage.opened? = some gate →
    other.stage.opened? = some gate → first = second
  called : ∀ call ∈ session.calls,
    ∃ state, session.commits.state? call.gate = some state ∧ state ≠ .unopened
  calls : (session.calls.map SinkCall.gate).Nodup
  owned : ∀ call ∈ session.calls, ∃ (index : Nat) (caller : Caller),
    session.callers[index]? = some caller ∧ caller.job = call.job ∧ caller.gate = some call.gate

/-- Callers keep the invariant of the scheduler. -/
theorem CallerStep.scheduler_invariant (valid : Scheduler.Invariant size session.scheduler)
    (step : CallerStep session caller next moved) :
    Scheduler.Invariant size next.scheduler := by
  cases step with
  | submit _ submits => exact valid.step (.of_submit submits)
  | @cache _ _ _ engine plan =>
      have same : ({ session with engine } : Session).scheduler = session.scheduler := plan.2.1
      rw [same]
      exact valid
  | _ => exact valid

/-- Callers keep the table of the gates. -/
theorem CallerStep.kept (kept : session.commits.Kept session.keys)
    (stands : caller.Stands session) (step : CallerStep session caller next moved) :
    next.commits.Kept next.keys := by
  cases step with
  | create _ unknown => exact kept.create unknown
  | enter _ unopened => exact kept.set unopened nofun
  | settle stage => exact kept.set (stands.opened _ (by rw [stage]; rfl)) nofun
  | retire stage => exact kept.retire (stands.retiring _ _ _ stage)
  | @cache _ _ _ engine _ _ commits =>
      have same : ({ session with engine } : Session).commits = session.commits := commits
      rw [same]
      exact kept
  | _ => exact kept

/-- A gate is opened once. -/
theorem CallerStep.opened (step : CallerStep session caller next moved)
    (opens : moved.stage.opened? = some gate) :
    caller.stage.opened? = some gate ∨ session.commits.state? gate = some .unopened := by
  cases step with
  | enter stage unopened => cases opens; exact .inr unopened
  | lose stage | reserve stage | store stage | spoil stage | cache stage =>
      cases opens
      exact .inl (by rw [stage]; rfl)
  | share | settle =>
      have closed : ∀ artifact gate result,
          (caller.conclude artifact gate result).stage.opened? = none := by
        intro artifact gate result
        cases result <;> rfl
      rw [closed] at opens
      cases opens
  | _ => cases opens

/-- A gate that was opened stays so. -/
theorem CallerStep.not_unopened (step : CallerStep session caller next moved)
    (before : ∃ state, session.commits.state? gate = some state ∧ state ≠ .unopened) :
    ∃ state, next.commits.state? gate = some state ∧ state ≠ .unopened := by
  obtain ⟨state, known, opened⟩ := before
  have changed {other : GateId} {after : GateState} (later : after ≠ .unopened) :
      ∃ state, (CommitGates.mk (session.commits.gates.set other after)
        session.commits.current).state? gate = some state ∧ state ≠ .unopened := by
    rw [CommitGates.state?_set, known]
    split
    case isTrue => exact ⟨after, rfl, later⟩
    case isFalse => exact ⟨state, rfl, opened⟩
  cases step with
  | create =>
      exact ⟨state, (List.getElem?_append_left (List.getElem?_eq_some_iff.1 known).1).trans known,
        opened⟩
  | enter => exact changed nofun
  | settle => exact changed nofun
  | @cache _ _ _ engine _ _ commits =>
      have same : ({ session with engine } : Session).commits = session.commits := commits
      rw [same]
      exact ⟨state, known, opened⟩
  | _ => exact ⟨state, known, opened⟩

/-- A caller asks the sink for the commit behind the gate that it opened. -/
theorem CallerStep.calls (step : CallerStep session caller next moved) :
    next.calls = session.calls ∨ ∃ call, next.calls = session.calls ++ [call] ∧
      caller.stage.uncalled? = some call.gate ∧ caller.job = call.job := by
  cases step with
  | store stage | spoil stage => exact .inr ⟨_, rfl, by rw [stage]; rfl, rfl⟩
  | _ => exact .inl rfl

/-- The callers after a call are those before it and a new one. -/
theorem known_of_call {target : Target} {index : Nat}
    (found : (session.callers ++ [({ target } : Caller)])[index]? = some caller) :
    session.callers[index]? = some caller ∨ caller = { target } := by
  rcases Nat.lt_or_ge index session.callers.length with below | above
  · exact .inl ((List.getElem?_append_left below).symm.trans found)
  · rw [List.getElem?_append_right above] at found
    exact .inr (List.mem_singleton.1 (List.mem_of_getElem? found))

/-- One caller moves at a time. -/
theorem known_of_advance {index other : Nat}
    (found : (session.callers.set index moved)[other]? = some caller) :
    other = index ∧ caller = moved ∨ other ≠ index ∧ session.callers[other]? = some caller := by
  rw [List.getElem?_set] at found
  split at found
  case isTrue same =>
    split at found <;> cases found
    exact .inl ⟨same.symm, rfl⟩
  case isFalse different => exact .inr ⟨Ne.symm different, found⟩

/-- A new caller keeps the invariant. -/
theorem Invariant.call (valid : Invariant size session) (target : Target) :
    Invariant size { session with callers := session.callers ++ [{ target }] } := by
  constructor
  case scheduler => exact valid.scheduler
  case kept => exact valid.kept
  case stands =>
    intro index caller found
    rcases known_of_call found with old | rfl
    · exact (valid.stands index caller old).withCallers _
    · exact .of_precedesGate rfl rfl
  case joined =>
    intro index caller id found job
    rcases known_of_call found with old | rfl
    · exact (valid.joined index caller id old job).withCallers _
    · cases job
  case single =>
    intro first second caller other gate found alsoFound opens alsoOpens
    rcases known_of_call found with old | rfl
    · rcases known_of_call alsoFound with alsoOld | rfl
      · exact valid.single first second caller other gate old alsoOld opens alsoOpens
      · cases alsoOpens
    · cases opens
  case called => exact valid.called
  case calls => exact valid.calls
  case owned =>
    intro call inCalls
    obtain ⟨index, caller, found, owns⟩ := valid.owned call inCalls
    exact ⟨index, caller,
      (List.getElem?_append_left (List.getElem?_eq_some_iff.1 found).1).trans found, owns⟩

/-- A step of the scheduler leaves everything but the outcomes to come. -/
theorem Leaves.of_schedule {action : Action} {scheduler : Scheduler}
    (valid : Scheduler.Invariant size session.scheduler)
    (step : Scheduler.Step session.scheduler action scheduler) :
    Leaves none session (session.withScheduler scheduler) :=
  ⟨fun _ _ known => known, fun _ _ stands _ _ => stands, nofun, fun _ => .inl,
    fun _ _ known => step.keeps valid known⟩

/-- A step of the scheduler keeps the invariant. -/
theorem Invariant.schedule (valid : Invariant size session) {action : Action}
    {scheduler : Scheduler} (possible : session.scheduler.step? action = some scheduler) :
    Invariant size (session.withScheduler scheduler) := by
  have step := Scheduler.Step.of_step? possible
  have left := Leaves.of_schedule valid.scheduler step
  constructor
  case scheduler => exact valid.scheduler.step step
  case kept => exact valid.kept
  case stands =>
    exact fun index caller found => left.stands (valid.stands index caller found) nofun
  case joined =>
    exact fun index caller id found job => left.joined (valid.joined index caller id found job)
  case single => exact valid.single
  case called => exact valid.called
  case calls => exact valid.calls
  case owned => exact valid.owned

/-- A gate that a caller has opened when it moves was opened by no other. -/
theorem Invariant.opened_alone (valid : Invariant size session) {index other : Nat}
    {after : Caller} {gate : GateId} (found : session.callers[index]? = some caller)
    (step : CallerStep session caller next moved) (old : session.callers[other]? = some after)
    (opens : moved.stage.opened? = some gate) (alsoOpens : after.stage.opened? = some gate) :
    other = index := by
  rcases step.opened opens with before | unopened
  · exact valid.single other index after caller gate old found alsoOpens before
  · have committing := (valid.stands other after old).opened gate alsoOpens
    rw [unopened] at committing
    cases committing

/-- Each call has its caller still, also the one that the step adds. -/
theorem Invariant.owned_advance (valid : Invariant size session) {index : Nat} {call : SinkCall}
    (found : session.callers[index]? = some caller)
    (step : CallerStep session caller next moved) (inCalls : call ∈ next.calls) :
    ∃ (other : Nat) (after : Caller),
      (session.callers.set index moved)[other]? = some after ∧ after.job = call.job ∧
        after.gate = some call.gate := by
  have stands := valid.stands index caller found
  have at_ : index < session.callers.length := (List.getElem?_eq_some_iff.1 found).1
  have moves : ∀ {gate : GateId}, caller.gate = some gate →
      moved.gate = some gate ∧ moved.job = caller.job := step.gate_eq stands
  have stillThere : (session.callers.set index moved)[index]? = some moved := by
    rw [List.getElem?_set, if_pos rfl, if_pos at_]
  have old (inCalls : call ∈ session.calls) : ∃ (other : Nat) (after : Caller),
      (session.callers.set index moved)[other]? = some after ∧ after.job = call.job ∧
        after.gate = some call.gate := by
    obtain ⟨other, owner, before, job, gate⟩ := valid.owned call inCalls
    by_cases same : other = index
    · subst same
      obtain rfl : caller = owner := Option.some.inj (found.symm.trans before)
      exact ⟨other, moved, stillThere, (moves gate).2.trans job, (moves gate).1⟩
    · refine ⟨other, owner, ?_, job, gate⟩
      rw [List.getElem?_set, if_neg (Ne.symm same)]
      exact before
  rcases step.calls with same | ⟨new, grown, waits, job⟩
  · exact old (same ▸ inCalls)
  · rw [grown] at inCalls
    rcases List.mem_append.1 inCalls with before | last
    · exact old before
    · obtain rfl := List.mem_singleton.1 last
      have own : caller.gate = some call.gate :=
        stands.gate call.gate (CallerStage.gate?_of_uncalled? waits)
      exact ⟨index, moved, stillThere, (moves own).2.trans job, (moves own).1⟩

/-- A step of a caller keeps the invariant. -/
theorem Invariant.advance (valid : Invariant size session) {index : Nat}
    (found : session.callers[index]? = some caller)
    (step : CallerStep session caller next moved) :
    Invariant size { next with callers := session.callers.set index moved } := by
  have stands := valid.stands index caller found
  have left := step.leaves valid.scheduler stands
  have unopened : ∀ call ∈ session.calls,
      session.commits.state? call.gate ≠ some .unopened := by
    intro call inCalls same
    obtain ⟨state, known, opened⟩ := valid.called call inCalls
    exact opened (Option.some.inj (known.symm.trans same))
  constructor
  case scheduler =>
    have after := step.scheduler_invariant valid.scheduler
    exact after
  case kept =>
    have after := step.kept valid.kept stands
    exact after
  case stands =>
    intro other after inNext
    rcases known_of_advance inNext with ⟨-, rfl⟩ | ⟨different, old⟩
    · exact (step.stands valid.kept unopened stands).withCallers _
    · refine (left.stands (valid.stands other after old) ?_).withCallers _
      intro gate opens alsoOpens
      exact different (valid.single other index after caller gate old found opens alsoOpens)
  case joined =>
    intro other after id inNext job
    rcases known_of_advance inNext with ⟨-, rfl⟩ | ⟨-, old⟩
    · exact (step.joined valid.scheduler valid.kept unopened stands
        (fun id => valid.joined index caller id found) job).withCallers _
    · exact (left.joined (valid.joined other after id old job)).withCallers _
  case single =>
    intro first second owner other gate inNext alsoInNext opens alsoOpens
    -- One of the two may be the caller that moved, and the others have stayed.
    rcases known_of_advance inNext with ⟨rfl, rfl⟩ | ⟨different, old⟩
    · rcases known_of_advance alsoInNext with ⟨rfl, -⟩ | ⟨-, alsoOld⟩
      · rfl
      · exact (valid.opened_alone found step alsoOld opens alsoOpens).symm
    · rcases known_of_advance alsoInNext with ⟨rfl, rfl⟩ | ⟨-, alsoOld⟩
      · exact valid.opened_alone found step old alsoOpens opens
      · exact valid.single first second owner other gate old alsoOld opens alsoOpens
  case called =>
    intro call inCalls
    refine step.not_unopened ?_
    rcases left.calls call inCalls with old | opens
    · exact valid.called call old
    · exact ⟨.committing, stands.opened call.gate opens, nofun⟩
  case calls =>
    rcases step.calls with same | ⟨call, grown, waits, -⟩
    · rw [same]
      exact valid.calls
    · rw [grown, List.map_append, List.nodup_append]
      refine ⟨valid.calls, List.nodup_singleton _, ?_⟩
      rintro _ old _ new rfl
      obtain ⟨before, inCalls, same⟩ := List.mem_map.1 old
      exact stands.uncalled call.gate waits before inCalls
        (same.trans (List.mem_singleton.1 new))
  case owned => exact fun call inCalls => valid.owned_advance found step inCalls

/-- Each step of a session keeps the invariant. -/
theorem Invariant.step {action : SessionAction} (valid : Invariant size session)
    (possible : session.step? action = some next) : Invariant size next := by
  cases Step.of_step? possible with
  | call target => exact valid.call target
  | schedule scheduled => exact valid.schedule scheduled
  | advance found step => exact valid.advance found step

/-- The invariant holds when an engine is started. -/
theorem Invariant.begin {configuration : Configuration} {source : UniverseSource} {files : Files}
    {sink : Sink} {engine : Engine}
    (started : Engine.start configuration source files sink = .ok engine) :
    Invariant (.ofConfiguration configuration) { engine } := by
  obtain ⟨-, scheduler, created, rfl⟩ := Engine.start_eq_ok started
  have nobody : ∀ (index : Nat) (caller : Caller), ([] : List Caller)[index]? ≠ some caller := by
    simp
  constructor
  case scheduler => exact .create created
  case kept => exact .empty
  case stands => exact fun index caller found => absurd found (nobody index caller)
  case joined => exact fun index caller _ found => absurd found (nobody index caller)
  case single => exact fun index _ caller _ _ found => absurd found (nobody index caller)
  case called => exact nofun
  case calls => exact List.nodup_nil
  case owned => exact nofun

/-- The invariant holds in each session that an engine gets to. -/
theorem Reachable.invariant {allowed : Scheduler → Action → Prop} {configuration : Configuration}
    {source : UniverseSource} {files : Files} {sink : Sink} {engine : Engine}
    (started : Engine.start configuration source files sink = .ok engine)
    (reached : Reachable allowed engine session) :
    Invariant (.ofConfiguration configuration) session := by
  induction reached with
  | begin => exact .begin started
  | step _ _ possible ih => exact ih.step possible

end Session

end BusBridge
