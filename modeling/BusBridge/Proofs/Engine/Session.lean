/-
This file holds sessions in which any number of callers generate targets with one engine. Their
steps, and those of the scheduler, interleave freely.
-/

import BusBridge.Proofs.Configuration
import BusBridge.Proofs.Engine.Publication

namespace BusBridge

/-- What a caller does next. A call starts its target first, and finishes it then. -/
inductive CallerStage where
  | begun
  | choosing
  | submitting
  | pending (state : PendingState)
  | watching (gate : GateId)
  | publishing (artifact : Artifact)
  | gated (artifact : Artifact) (gate : GateId)
  | reserving (artifact : Artifact) (gate : GateId)
  | writing (artifact : Artifact) (gate : GateId) (handle : WriteHandle)
  | caching (artifact : Artifact) (gate : GateId)
  | settling (artifact : Artifact) (gate : GateId) (result : Except Failure Unit)
  | retiring (artifact : Artifact) (gate : GateId) (failure : Failure)
  | returned (result : Except Failure String)
  deriving Inhabited

def CallerStage.result? : CallerStage → Option (Except Failure String)
  | .returned result => some result
  | _ => none

/-- Only a caller that returned has a result. -/
theorem CallerStage.eq_of_result? {stage : CallerStage} {result : Except Failure String}
    (known : stage.result? = some result) : stage = .returned result := by
  cases stage <;> cases known
  rfl

/-- A caller keeps the job that it joined and the gate of the commit that it shares. -/
structure Caller where
  target : Target
  stage : CallerStage := .begun
  job : Option JobId := none
  gate : Option GateId := none
  deriving Inhabited

namespace Caller

def qualified (caller : Caller) : String :=
  caller.target.className.qualified

def goTo (caller : Caller) (stage : CallerStage) : Caller :=
  { caller with stage }

/-- A gate with a failed commit is given up before its failure is returned. -/
def conclude (caller : Caller) (artifact : Artifact) (gate : GateId) :
    Except Failure Unit → Caller
  | .ok () => caller.goTo (.returned (.ok caller.qualified))
  | .error failure => caller.goTo (.retiring artifact gate failure)

end Caller

/-- One call of the commit of a sink, on behalf of the callers that share a gate. -/
structure SinkCall where
  className : ClassName
  job : Option JobId
  gate : GateId
  succeeded : Bool
  deriving DecidableEq, Repr

/-- A session keeps the class of each gate and the commits that were asked of the sink. -/
structure Session where
  engine : Engine
  callers : List Caller := []
  keys : List String := []
  calls : List SinkCall := []

inductive SessionAction where
  | call (target : Target)
  | schedule (action : Action)
  | advance (index : Nat) (faults : PublishFaults)

namespace Session

def scheduler (session : Session) : Scheduler :=
  session.engine.run.scheduler

def commits (session : Session) : CommitGates :=
  session.engine.commits

def withScheduler (session : Session) (scheduler : Scheduler) : Session :=
  { session with
    engine := { session.engine with run := { session.engine.run with scheduler } } }

def withCommits (session : Session) (commits : CommitGates) : Session :=
  { session with engine := { session.engine with commits } }

/-- A target whose class is not reserved is looked up in the cache. -/
def choose (session : Session) (caller : Caller) : Caller :=
  match session.engine.reusable? caller.target with
  | some artifact => caller.goTo (.pending (.cached artifact))
  | none => caller.goTo .submitting

/-- A target that the cache did not answer is handed in. The class may have been reserved, or the
entry written, since the caller looked. -/
def submit (session : Session) (caller : Caller) : Session × Caller :=
  let (job, scheduler) := session.scheduler.submit caller.target true
  (session.withScheduler scheduler,
    { caller with stage := .pending (.running job), job := some job })

/-- A caller that found its class reserved waits for the commit of that class, if any is known. -/
def watch (session : Session) (caller : Caller) : Caller :=
  match session.commits.current? caller.qualified with
  | none => caller.goTo (.returned (.ok caller.qualified))
  | some gate => { caller with stage := .watching gate, gate := some gate }

def await? (session : Session) (caller : Caller) (state : PendingState) : Option Caller :=
  if state.isReady session.engine then
    match session.engine.artifactOf state with
    | .ok artifact => some (caller.goTo (.publishing artifact))
    | .error failure => some (caller.goTo (.returned (.error failure)))
  else none

def obtainGate (session : Session) (caller : Caller) (artifact : Artifact) : Session × Caller :=
  let key := artifact.className.qualified
  let (gate, commits) := session.commits.gateFor key
  let keys := if (session.commits.current? key).isSome then session.keys else session.keys ++ [key]
  ({ session.withCommits commits with keys },
    { caller with stage := .gated artifact gate, gate := some gate })

/-- The first caller at a gate opens it, and the others wait until it is settled. -/
def enter? (session : Session) (caller : Caller) (artifact : Artifact) (gate : GateId) :
    Option (Session × Caller) :=
  match session.commits.open? gate with
  | some opened => some (session.withCommits opened, caller.goTo (.reserving artifact gate))
  | none => (session.commits.result? gate).map fun result =>
      (session, caller.conclude artifact gate result)

def reserve (session : Session) (caller : Caller) (artifact : Artifact) (gate : GateId) :
    Session × Caller :=
  match session.engine.sink.tryCreate artifact.className with
  | (none, _) => (session, caller.goTo (.settling artifact gate (.ok ())))
  | (some handle, sink) =>
      ({ session with engine := { session.engine with sink } },
        caller.goTo (.writing artifact gate handle))

def write (session : Session) (caller : Caller) (artifact : Artifact) (gate : GateId)
    (handle : WriteHandle) (fault : Option Files.ReplaceFault) : Session × Caller :=
  let (result, sink, files) :=
    session.engine.sink.commit session.engine.files handle artifact.source fault
  let call (succeeded : Bool) : SinkCall := ⟨handle.className, caller.job, gate, succeeded⟩
  let written := { session with engine := { session.engine with sink, files } }
  match result with
  | .ok _ =>
      ({ written with calls := session.calls ++ [call true] },
        caller.goTo (.caching artifact gate))
  | .error failure =>
      ({ written with calls := session.calls ++ [call false] },
        caller.goTo (.settling artifact gate (.error failure.toFailure)))

/-- One step of a caller, if it can move. -/
def moveCaller? (session : Session) (caller : Caller) (faults : PublishFaults) :
    Option (Session × Caller) :=
  match caller.stage with
  | .begun =>
      some (session, caller.goTo (if session.engine.sink.shouldGenerate caller.target.className
        then .choosing else .pending .alreadyGenerated))
  | .choosing => some (session, session.choose caller)
  | .submitting => some (session.submit caller)
  | .pending .alreadyGenerated => some (session, session.watch caller)
  | .pending state => (session.await? caller state).map fun moved => (session, moved)
  | .watching gate => (session.commits.result? gate).map fun result =>
      (session, caller.goTo (.returned (result.map fun _ => caller.qualified)))
  | .publishing artifact => some (session.obtainGate caller artifact)
  | .gated artifact gate => session.enter? caller artifact gate
  | .reserving artifact gate => some (session.reserve caller artifact gate)
  | .writing artifact gate handle =>
      some (session.write caller artifact gate handle faults.sink)
  | .caching artifact gate =>
      some ({ session with
        engine := session.engine.updateCache caller.target artifact faults.cache },
        caller.goTo (.settling artifact gate (.ok ())))
  | .settling artifact gate result =>
      some (session.withCommits (session.commits.settle gate result),
        caller.conclude artifact gate result)
  | .retiring artifact gate failure =>
      some (session.withCommits (session.commits.retire artifact.className.qualified gate),
        caller.goTo (.returned (.error failure)))
  | .returned _ => none

def step? (session : Session) : SessionAction → Option Session
  | .call target => some { session with callers := session.callers ++ [{ target }] }
  | .schedule action => (session.scheduler.step? action).map session.withScheduler
  | .advance index faults => do
      let (next, moved) ← session.moveCaller? (← session.callers[index]?) faults
      return { next with callers := session.callers.set index moved }

/-- What the scheduler may do can be restricted, and what the callers do cannot. -/
def Allows (allowed : Scheduler → Action → Prop) (session : Session) : SessionAction → Prop
  | .schedule action => allowed session.scheduler action
  | .call _ | .advance .. => True

instance {allowed : Scheduler → Action → Prop} [DecidableRel allowed] (session : Session)
    (action : SessionAction) : Decidable (session.Allows allowed action) :=
  match action with
  | .schedule action => inferInstanceAs (Decidable (allowed session.scheduler action))
  | .call _ | .advance .. => .isTrue trivial

/-- A run is a sequence of possible steps that are allowed. -/
def run? (allowed : Scheduler → Action → Prop) [DecidableRel allowed] (session : Session) :
    List SessionAction → Option Session
  | [] => some session
  | action :: rest =>
      if session.Allows allowed action then
        (session.step? action).bind fun next => next.run? allowed rest
      else none

/-- The cases in which a caller moves. -/
inductive CallerStep (session : Session) (caller : Caller) : Session → Caller → Prop where
  | overlook (stage : caller.stage = .begun)
      (created : session.engine.sink.isCreated caller.target.className = true) :
      CallerStep session caller session (caller.goTo (.pending .alreadyGenerated))
  | go (stage : caller.stage = .begun)
      (free : session.engine.sink.isCreated caller.target.className = false) :
      CallerStep session caller session (caller.goTo .choosing)
  | reuse (stage : caller.stage = .choosing) {artifact : Artifact}
      (found : session.engine.reusable? caller.target = some artifact) :
      CallerStep session caller session (caller.goTo (.pending (.cached artifact)))
  | miss (stage : caller.stage = .choosing)
      (absent : session.engine.reusable? caller.target = none) :
      CallerStep session caller session (caller.goTo .submitting)
  | submit (stage : caller.stage = .submitting) {job : JobId} {scheduler : Scheduler}
      (submits : session.scheduler.submit caller.target true = (job, scheduler)) :
      CallerStep session caller (session.withScheduler scheduler)
        { caller with stage := .pending (.running job), job := some job }
  | pass (stage : caller.stage = .pending .alreadyGenerated)
      (unknown : session.commits.current? caller.qualified = none) :
      CallerStep session caller session (caller.goTo (.returned (.ok caller.qualified)))
  | watch (stage : caller.stage = .pending .alreadyGenerated) {gate : GateId}
      (known : session.commits.current? caller.qualified = some gate) :
      CallerStep session caller session
        { caller with stage := .watching gate, gate := some gate }
  | receive {state : PendingState} (stage : caller.stage = .pending state)
      (ready : state.isReady session.engine = true) {artifact : Artifact}
      (received : session.engine.artifactOf state = .ok artifact) :
      CallerStep session caller session (caller.goTo (.publishing artifact))
  | fail {state : PendingState} (stage : caller.stage = .pending state)
      (waits : state ≠ .alreadyGenerated)
      (ready : state.isReady session.engine = true) {failure : Failure}
      (failed : session.engine.artifactOf state = .error failure) :
      CallerStep session caller session (caller.goTo (.returned (.error failure)))
  | see {gate : GateId} (stage : caller.stage = .watching gate) {result : Except Failure Unit}
      (settled : session.commits.result? gate = some result) :
      CallerStep session caller session
        (caller.goTo (.returned (result.map fun _ => caller.qualified)))
  | join {artifact : Artifact} (stage : caller.stage = .publishing artifact) {gate : GateId}
      (known : session.commits.current? artifact.className.qualified = some gate) :
      CallerStep session caller session
        { caller with stage := .gated artifact gate, gate := some gate }
  | create {artifact : Artifact} (stage : caller.stage = .publishing artifact)
      (unknown : session.commits.current? artifact.className.qualified = none) :
      CallerStep session caller
        { session.withCommits ⟨session.commits.gates ++ [.unopened],
            session.commits.current ++
              [(artifact.className.qualified, session.commits.gates.length)]⟩ with
          keys := session.keys ++ [artifact.className.qualified] }
        { caller with
          stage := .gated artifact session.commits.gates.length
          gate := some session.commits.gates.length }
  | enter {artifact : Artifact} {gate : GateId} (stage : caller.stage = .gated artifact gate)
      (unopened : session.commits.state? gate = some .unopened) :
      CallerStep session caller
        (session.withCommits { session.commits with
          gates := session.commits.gates.set gate .committing })
        (caller.goTo (.reserving artifact gate))
  | share {artifact : Artifact} {gate : GateId} (stage : caller.stage = .gated artifact gate)
      {result : Except Failure Unit} (settled : session.commits.result? gate = some result) :
      CallerStep session caller session (caller.conclude artifact gate result)
  | lose {artifact : Artifact} {gate : GateId} (stage : caller.stage = .reserving artifact gate)
      (created : session.engine.sink.isCreated artifact.className = true) :
      CallerStep session caller session (caller.goTo (.settling artifact gate (.ok ())))
  | reserve {artifact : Artifact} {gate : GateId}
      (stage : caller.stage = .reserving artifact gate)
      (free : session.engine.sink.isCreated artifact.className = false) :
      CallerStep session caller
        { session with engine := { session.engine with
          sink := { session.engine.sink with reservations :=
            { session.engine.sink.reservations with
              reserved := artifact.className :: session.engine.sink.reservations.reserved } } } }
        (caller.goTo (.writing artifact gate
          ⟨artifact.className, session.engine.sink.pathFor artifact.className⟩))
  | store {artifact : Artifact} {gate : GateId} {handle : WriteHandle}
      (stage : caller.stage = .writing artifact gate handle) {fault : Option Files.ReplaceFault}
      {path : String} {sink : Sink} {files : Files}
      (stored : session.engine.sink.commit session.engine.files handle artifact.source fault =
        (.ok path, sink, files)) :
      CallerStep session caller
        { session with
          engine := { session.engine with sink, files }
          calls := session.calls ++ [⟨handle.className, caller.job, gate, true⟩] }
        (caller.goTo (.caching artifact gate))
  | spoil {artifact : Artifact} {gate : GateId} {handle : WriteHandle}
      (stage : caller.stage = .writing artifact gate handle) {fault : Option Files.ReplaceFault}
      {failure : StoreFailure} {sink : Sink} {files : Files}
      (spoiled : session.engine.sink.commit session.engine.files handle artifact.source fault =
        (.error failure, sink, files)) :
      CallerStep session caller
        { session with
          engine := { session.engine with sink, files }
          calls := session.calls ++ [⟨handle.className, caller.job, gate, false⟩] }
        (caller.goTo (.settling artifact gate (.error failure.toFailure)))
  | cache {artifact : Artifact} {gate : GateId} (stage : caller.stage = .caching artifact gate)
      {engine : Engine} (plan : session.engine.SamePlan engine)
      (sink : engine.sink = session.engine.sink)
      (commits : engine.commits = session.engine.commits) :
      CallerStep session caller { session with engine }
        (caller.goTo (.settling artifact gate (.ok ())))
  | settle {artifact : Artifact} {gate : GateId} {result : Except Failure Unit}
      (stage : caller.stage = .settling artifact gate result) :
      CallerStep session caller
        (session.withCommits { session.commits with
          gates := session.commits.gates.set gate (.settled result) })
        (caller.conclude artifact gate result)
  | retire {artifact : Artifact} {gate : GateId} {failure : Failure}
      (stage : caller.stage = .retiring artifact gate failure) :
      CallerStep session caller
        (session.withCommits { session.commits with
          current := session.commits.current.filter fun entry =>
            entry.1 != artifact.className.qualified || entry.2 != gate })
        (caller.goTo (.returned (.error failure)))

variable {session next : Session} {caller moved : Caller} {faults : PublishFaults}

/-- A caller reuses an artifact or goes on to hand its target in. -/
theorem CallerStep.of_choose (stage : caller.stage = .choosing) :
    CallerStep session caller session (session.choose caller) := by
  unfold choose
  split
  case h_1 found => exact .reuse stage found
  case h_2 absent => exact .miss stage absent

/-- A caller passes a reserved class, or watches the commit of it. -/
theorem CallerStep.of_watch (stage : caller.stage = .pending .alreadyGenerated) :
    CallerStep session caller session (session.watch caller) := by
  unfold Session.watch
  split
  case h_1 unknown => exact .pass stage unknown
  case h_2 known => exact .watch stage known

/-- A caller receives its artifact, or fails without one. -/
theorem CallerStep.of_await? {state : PendingState} (stage : caller.stage = .pending state)
    (waits : state ≠ .alreadyGenerated) (moves : session.await? caller state = some moved) :
    CallerStep session caller session moved := by
  unfold await? at moves
  split at moves
  case isFalse => cases moves
  case isTrue ready =>
    split at moves <;> cases moves
    case h_1 received => exact .receive stage ready received
    case h_2 failed => exact .fail stage waits ready failed

/-- A caller opens its gate, or shares the result of it. -/
theorem CallerStep.of_enter? {artifact : Artifact} {gate : GateId}
    (stage : caller.stage = .gated artifact gate)
    (moves : session.enter? caller artifact gate = some (next, moved)) :
    CallerStep session caller next moved := by
  unfold enter? at moves
  split at moves
  case h_1 opened opens =>
    unfold CommitGates.open? at opens
    split at opens <;> cases opens
    case h_1 unopened =>
      cases moves
      exact .enter stage unopened
  case h_2 =>
    obtain ⟨result, settled, same⟩ := Option.map_eq_some_iff.1 moves
    cases same
    exact .share stage settled

/-- A caller joins the gate of its class, or creates it. -/
theorem CallerStep.of_obtainGate {artifact : Artifact}
    (stage : caller.stage = .publishing artifact) :
    CallerStep session caller (session.obtainGate caller artifact).1
      (session.obtainGate caller artifact).2 := by
  cases known : session.commits.current? artifact.className.qualified with
  | none =>
      simp only [obtainGate, CommitGates.gateFor, known]
      exact .create stage known
  | some gate =>
      simp only [obtainGate, CommitGates.gateFor, known]
      exact .join stage known

/-- A caller reserves its class, or has lost it to another. -/
theorem CallerStep.of_reserve {artifact : Artifact} {gate : GateId}
    (stage : caller.stage = .reserving artifact gate) :
    CallerStep session caller (session.reserve caller artifact gate).1
      (session.reserve caller artifact gate).2 := by
  cases created : session.engine.sink.isCreated artifact.className with
  | true =>
      have taken : session.engine.sink.reservations.isReserved artifact.className = true := created
      simp only [Session.reserve, Sink.tryCreate, Reservations.reserve?, taken, if_true]
      exact .lose stage created
  | false =>
      have free : session.engine.sink.reservations.isReserved artifact.className = false := created
      simp only [Session.reserve, Sink.tryCreate, Reservations.reserve?, free, Bool.false_eq_true,
        if_false]
      exact .reserve stage created

/-- A caller stores its source, or fails to. -/
theorem CallerStep.of_write {artifact : Artifact} {gate : GateId} {handle : WriteHandle}
    {fault : Option Files.ReplaceFault} (stage : caller.stage = .writing artifact gate handle) :
    CallerStep session caller (session.write caller artifact gate handle fault).1
      (session.write caller artifact gate handle fault).2 := by
  unfold write
  split
  case _ result sink files committed =>
    cases result with
    | ok path => exact .store stage committed
    | error failure => exact .spoil stage committed

/-- A move of a caller is one of the cases. -/
theorem CallerStep.of_moveCaller? (moves : session.moveCaller? caller faults = some (next, moved)) :
    CallerStep session caller next moved := by
  have taken {pair : Session × Caller} (step : CallerStep session caller pair.1 pair.2)
      (moves : some pair = some (next, moved)) : CallerStep session caller next moved := by
    rw [Option.some.inj moves] at step
    exact step
  cases stage : caller.stage <;> simp only [moveCaller?, stage] at moves
  case begun =>
    cases moves
    cases created : session.engine.sink.isCreated caller.target.className with
    | true =>
        simp only [Sink.shouldGenerate, created, Bool.not_true, Bool.false_eq_true, if_false]
        exact .overlook stage created
    | false =>
        simp only [Sink.shouldGenerate, created, Bool.not_false, if_true]
        exact .go stage created
  case choosing => exact taken (.of_choose stage) moves
  case submitting => exact taken (.submit stage rfl) moves
  case pending state =>
    cases state with
    | alreadyGenerated =>
        exact taken (.of_watch stage) moves
    | cached | running =>
        obtain ⟨other, moves, same⟩ := Option.map_eq_some_iff.1 moves
        cases same
        exact .of_await? stage nofun moves
  case watching gate =>
    obtain ⟨result, settled, same⟩ := Option.map_eq_some_iff.1 moves
    cases same
    exact .see stage settled
  case publishing artifact => exact taken (.of_obtainGate stage) moves
  case gated artifact gate => exact .of_enter? stage moves
  case reserving artifact gate => exact taken (.of_reserve stage) moves
  case writing artifact gate handle => exact taken (.of_write stage) moves
  case caching artifact gate =>
    cases moves
    exact .cache stage (Engine.SameRun.updateCache (.refl _) _).samePlan rfl rfl
  case settling artifact gate result =>
    cases moves
    exact .settle stage
  case retiring artifact gate failure =>
    cases moves
    exact .retire stage
  case returned => cases moves

/-- A caller that moved stands where it was. -/
theorem known_there {index : Nat} (found : session.callers[index]? = some caller) :
    (session.callers.set index moved)[index]? = some moved :=
  List.getElem?_set_self (List.getElem?_eq_some_iff.1 found).1

/-- The cases in which a session goes on. -/
inductive Step (session : Session) : SessionAction → Session → Prop where
  | call (target : Target) :
      Step session (.call target) { session with callers := session.callers ++ [{ target }] }
  | schedule {action : Action} {scheduler : Scheduler}
      (possible : session.scheduler.step? action = some scheduler) :
      Step session (.schedule action) (session.withScheduler scheduler)
  | advance {index : Nat} {faults : PublishFaults} {caller moved : Caller} {next : Session}
      (known : session.callers[index]? = some caller)
      (moves : CallerStep session caller next moved) :
      Step session (.advance index faults)
        { next with callers := session.callers.set index moved }

/-- A possible step of a session is one of the cases. -/
theorem Step.of_step? {action : SessionAction} (possible : session.step? action = some next) :
    Step session action next := by
  cases action with
  | call target =>
      cases possible
      exact .call target
  | schedule action =>
      obtain ⟨scheduler, scheduled, rfl⟩ := Option.map_eq_some_iff.1 possible
      exact .schedule scheduled
  | advance index faults =>
      obtain ⟨caller, known, possible⟩ := Option.bind_eq_some_iff.1 possible
      obtain ⟨⟨changed, moved⟩, moves, same⟩ := Option.bind_eq_some_iff.1 possible
      cases same
      exact .advance known (.of_moveCaller? moves)

/-- The sessions that an engine may get to, while the scheduler takes only steps that are
allowed. -/
inductive Reachable (allowed : Scheduler → Action → Prop) (engine : Engine) : Session → Prop where
  | begin : Reachable allowed engine { engine }
  | step {session next : Session} {action : SessionAction}
      (reached : Reachable allowed engine session) (honest : session.Allows allowed action)
      (possible : session.step? action = some next) : Reachable allowed engine next

/-- A run of allowed steps keeps to reachable sessions. -/
theorem Reachable.steps {allowed : Scheduler → Action → Prop} [DecidableRel allowed]
    {engine : Engine} {actions : List SessionAction} (reached : Reachable allowed engine session)
    (ran : session.run? allowed actions = some next) : Reachable allowed engine next := by
  induction actions generalizing session with
  | nil => cases ran; exact reached
  | cons action rest ih =>
      rw [run?] at ran
      split at ran
      case isTrue honest =>
        obtain ⟨middle, possible, ran⟩ := Option.bind_eq_some_iff.1 ran
        exact ih (reached.step honest possible) ran
      case isFalse => cases ran

/-- A run that can be computed leads to a session. -/
theorem exists_reachable_of_run? {α : Type} {allowed : Scheduler → Action → Prop}
    [DecidableRel allowed] {configuration : Configuration} {source : UniverseSource}
    {files : Files} {sink : Sink} {actions : List SessionAction} {view : Session → α} {seen : α}
    (computed : ((Engine.start configuration source files sink).toOption.bind fun engine =>
      run? allowed { engine } actions).map view = some seen) :
    ∃ engine session, Engine.start configuration source files sink = .ok engine ∧
      Reachable allowed engine session ∧ view session = seen := by
  obtain ⟨session, found, same⟩ := Option.map_eq_some_iff.1 computed
  obtain ⟨engine, starts, ran⟩ := Option.bind_eq_some_iff.1 found
  exact ⟨engine, session, toOption_eq_some_iff.1 starts, Reachable.begin.steps ran, same⟩

/-- The steps of the scheduler that bring a job to its outcome. -/
def generates (job : JobId) (artifact : Artifact) : List SessionAction :=
  [.checkFlag job, .acquirePermit job, .enqueue job, .take job, .start job, .prepare job,
    .enterContext job, .finishSetup job, .finishPipeline job (.returned artifact),
    .recordOutcome job].map .schedule

/-- A caller moves a number of times, and no device fails. -/
def moves (index count : Nat) : List SessionAction :=
  List.replicate count (.advance index {})

def orders : Target :=
  .observer "shop.Orders"

end Session

end BusBridge
