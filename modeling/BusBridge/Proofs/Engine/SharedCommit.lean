/-
This file proves what the callers share that joined one job. Those that came to one gate return
the result of its one commit, and they come to different gates only after a commit failed.
-/

import BusBridge.Proofs.Engine.SessionInvariant

namespace BusBridge.Session

variable {session : Session} {caller : Caller} {id : JobId} {size : PoolSize}

/-- The callers that joined the job. -/
def joiners (session : Session) (id : JobId) : List Caller :=
  session.callers.filter fun caller => caller.job = some id

/-- The commits that were asked of the sink for the callers of the job. -/
def callsOf (session : Session) (id : JobId) : List SinkCall :=
  session.calls.filter fun call => call.job = some id

/-- The callers that joined the job came to one gate. -/
def SharesGate (session : Session) (id : JobId) : Prop :=
  ∀ first ∈ session.joiners id, ∀ second ∈ session.joiners id, ∀ gate other,
    first.gate = some gate → second.gate = some other → gate = other

theorem Invariant.of_joiner (valid : Invariant size session)
    (member : caller ∈ session.joiners id) :
    caller.Stands session ∧ caller.Joined session id := by
  obtain ⟨inCallers, job⟩ := List.mem_filter.1 member
  obtain ⟨index, found⟩ := List.getElem?_of_mem inCallers
  exact ⟨valid.stands index caller found,
    valid.joined index caller id found (of_decide_eq_true job)⟩

theorem Invariant.length_callsOf_le (valid : Invariant size session)
    (shares : session.SharesGate id) : (session.callsOf id).length ≤ 1 := by
  have distinct : ((session.callsOf id).map SinkCall.gate).Nodup :=
    valid.calls.sublist (List.filter_sublist.map SinkCall.gate)
  have owner : ∀ call ∈ session.callsOf id,
      ∃ caller ∈ session.joiners id, caller.gate = some call.gate := by
    intro call inCalls
    obtain ⟨inCalls, job⟩ := List.mem_filter.1 inCalls
    obtain ⟨index, caller, found, same, gate⟩ := valid.owned call inCalls
    refine ⟨caller, List.mem_filter.2 ⟨List.mem_of_getElem? found, ?_⟩, gate⟩
    rw [same]
    exact job
  match calls : session.callsOf id with
  | [] => exact Nat.zero_le 1
  | [_] => exact Nat.le_refl 1
  | first :: second :: rest =>
      rw [calls] at distinct owner
      obtain ⟨caller, member, gate⟩ := owner first (by simp)
      obtain ⟨other, alsoMember, alsoGate⟩ := owner second (by simp)
      have same := shares caller member other alsoMember _ _ gate alsoGate
      simp [same] at distinct

/-- Callers of one job that came to one gate return one result. -/
theorem Invariant.result_eq {second : Caller} {result other : Except Failure String}
    (valid : Invariant size session) (shares : session.SharesGate id)
    (member : caller ∈ session.joiners id) (alsoMember : second ∈ session.joiners id)
    (returned : caller.stage = .returned result) (alsoReturned : second.stage = .returned other) :
    result = other := by
  obtain ⟨stands, joined⟩ := valid.of_joiner member
  obtain ⟨alsoStands, alsoJoined⟩ := valid.of_joiner alsoMember
  cases own : caller.gate with
  | none =>
      obtain ⟨failure, failed, rfl⟩ := joined.returned result returned own
      cases alsoOwn : second.gate with
      | none =>
          obtain ⟨cause, alsoFailed, rfl⟩ := alsoJoined.returned other alsoReturned alsoOwn
          cases failed.symm.trans alsoFailed
          rfl
      | some gate =>
          obtain ⟨_, recorded, -⟩ := alsoJoined.gate gate alsoOwn
          cases failed.symm.trans recorded
  | some gate =>
      obtain ⟨_, recorded, -⟩ := joined.gate gate own
      cases alsoOwn : second.gate with
      | none =>
          obtain ⟨_, failed, -⟩ := alsoJoined.returned other alsoReturned alsoOwn
          cases recorded.symm.trans failed
      | some later =>
          obtain rfl := shares caller member second alsoMember gate later own alsoOwn
          obtain ⟨outcome, settled, rfl⟩ := stands.returned result gate returned own
          obtain ⟨same, alsoSettled, rfl⟩ := alsoStands.returned other gate alsoReturned alsoOwn
          cases settled.symm.trans alsoSettled
          have target : caller.target = second.target := by
            obtain ⟨job, known, target⟩ := joined.target
            obtain ⟨again, alsoKnown, alsoTarget⟩ := alsoJoined.target
            cases known.symm.trans alsoKnown
            exact target.symm.trans alsoTarget
          rw [Caller.qualified, Caller.qualified, target]

/-- The callers that joined one job share its one commit and return one result, if they came to
one gate. They come to different gates only after the commit behind the earlier one failed. -/
theorem joiners_agree {allowed : Scheduler → Action → Prop} {configuration : Configuration}
    {source : UniverseSource} {files : Files} {sink : Sink} {engine : Engine}
    (started : Engine.start configuration source files sink = .ok engine)
    (reached : Reachable allowed engine session) (id : JobId) :
    (session.SharesGate id →
      (session.callsOf id).length ≤ 1 ∧
      ∀ first ∈ session.joiners id, ∀ second ∈ session.joiners id, ∀ result other,
        first.stage = .returned result → second.stage = .returned other → result = other) ∧
    ∀ first ∈ session.joiners id, ∀ second ∈ session.joiners id, ∀ gate later,
      first.gate = some gate → second.gate = some later → gate < later →
      ∃ failure, session.commits.state? gate = some (.settled (.error failure)) := by
  have valid := reached.invariant started
  refine ⟨fun shares => ⟨valid.length_callsOf_le shares, fun first member second alsoMember
    result other => valid.result_eq shares member alsoMember⟩, ?_⟩
  intro first member second alsoMember gate later own alsoOwn before
  obtain ⟨artifact, recorded, key⟩ := (valid.of_joiner member).2.gate gate own
  obtain ⟨other, alsoRecorded, alsoKey⟩ := (valid.of_joiner alsoMember).2.gate later alsoOwn
  cases recorded.symm.trans alsoRecorded
  exact valid.kept.failed_of_lt key alsoKey before

/-- The device has no room for the source of the first caller, and it has some again when the
second caller comes. -/
def retriedCommit : List SessionAction :=
  .call orders :: .call orders :: moves 0 3 ++ moves 1 3 ++ generates 0 ⟨orders.className, ""⟩ ++
    moves 0 4 ++ .advance 0 { sink := some .beforeWriting } :: moves 0 2 ++ moves 1 7

theorem retriedCommit_ends : ∃ engine session first second failure,
    Engine.start .brief (.memory (.ofTypes [])) {} (.files "out") = .ok engine ∧
      Reachable Scheduler.OwnEnding engine session ∧ (session.callsOf 0).length = 2 ∧
      session.joiners 0 = [first, second] ∧ first.gate = some 0 ∧ second.gate = some 1 ∧
      first.stage = .returned (.error failure) ∧
      second.stage = .returned (.ok orders.className.qualified) := by
  have computed : ((Engine.start .brief (.memory (.ofTypes [])) {} (.files "out")).toOption.bind
      fun engine => run? Scheduler.OwnEnding { engine } retriedCommit).map (fun session =>
        ((session.callsOf 0).length,
          (session.joiners 0).map fun caller => (caller.gate, caller.stage.result?))) =
      some (2, [(some 0, some (.error (StoreFailure.io .writeFailed).toFailure)),
        (some 1, some (.ok orders.className.qualified))]) := by
    decide +kernel
  obtain ⟨engine, session, started, reached, view⟩ := exists_reachable_of_run? computed
  obtain ⟨calls, callers⟩ := Prod.ext_iff.1 view
  obtain ⟨first, rest, joined, own, callers⟩ := List.map_eq_cons_iff.1 callers
  obtain ⟨second, others, rfl, alsoOwn, callers⟩ := List.map_eq_cons_iff.1 callers
  obtain rfl := List.map_eq_nil_iff.1 callers
  obtain ⟨gate, result⟩ := Prod.ext_iff.1 own
  obtain ⟨alsoGate, alsoResult⟩ := Prod.ext_iff.1 alsoOwn
  exact ⟨engine, session, first, second, _, started, reached, calls, joined, gate, alsoGate,
    CallerStage.eq_of_result? result, CallerStage.eq_of_result? alsoResult⟩

theorem retriedCommit_failed : ∃ engine session first second failure,
    Engine.start .brief (.memory (.ofTypes [])) {} (.files "out") = .ok engine ∧
      Reachable Scheduler.OwnEnding engine session ∧ session.joiners 0 = [first, second] ∧
      first.gate = some 0 ∧ second.gate = some 1 ∧
      session.commits.state? 0 = some (.settled (.error failure)) := by
  obtain ⟨engine, session, first, second, _, started, reached, -, joined, gate, alsoGate, -⟩ :=
    retriedCommit_ends
  obtain ⟨failure, settled⟩ := (joiners_agree started reached 0).2 first (by simp [joined]) second
    (by simp [joined]) 0 1 gate alsoGate (by decide)
  exact ⟨engine, session, first, second, failure, started, reached, joined, gate, alsoGate,
    settled⟩

/-- Two callers of one job may be committed for twice, and return different results. -/
theorem retriedCommit_disagrees : ∃ engine session,
    Engine.start .brief (.memory (.ofTypes [])) {} (.files "out") = .ok engine ∧
      Reachable Scheduler.OwnEnding engine session ∧ ¬(session.callsOf 0).length ≤ 1 ∧
      ¬∀ first ∈ session.joiners 0, ∀ second ∈ session.joiners 0, ∀ result other,
        first.stage = .returned result → second.stage = .returned other → result = other := by
  obtain ⟨engine, session, first, second, _, started, reached, calls, joined, -, -, result,
    other⟩ := retriedCommit_ends
  refine ⟨engine, session, started, reached, by omega, fun agree => ?_⟩
  cases agree first (by simp [joined]) second (by simp [joined]) _ _ result other

end BusBridge.Session
