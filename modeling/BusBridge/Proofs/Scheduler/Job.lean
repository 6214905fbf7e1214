/-
This file proves what starting and finishing a job change. A job has an outcome once it ended, and
whatever calls are made on it, in whatever order, every caller is given that one.
-/

import BusBridge.Scheduler.Job

namespace BusBridge

/-- A job has ended when it is no more in flight. -/
theorem JobState.isTerminal_iff (state : JobState) :
    state.isTerminal = true ↔ state.isInFlight = false := by
  cases state <;> simp [isTerminal, isInFlight]

/-- A job with an outcome has ended. -/
@[simp] theorem JobState.isTerminal_ofOutcome (outcome : JobOutcome) :
    (ofOutcome outcome).isTerminal = true := by
  cases outcome <;> rfl

/-- Only a job in flight changes its state. -/
theorem JobState.isInFlight_of_canBecome {state next : JobState}
    (possible : state.canBecome next = true) : state.isInFlight = true := by
  cases state <;> simp_all [canBecome, isInFlight]

/-- A job that has ended keeps its state. -/
theorem JobState.isTerminal_of_canBecome {state next : JobState}
    (possible : state.canBecome next = true) : state.isTerminal = false := by
  cases state <;> simp_all [canBecome, isTerminal]

namespace Job

/-- An outcome is recorded exactly for a job that ended. -/
def IsSettled (job : Job) : Prop :=
  job.state.isTerminal = job.outcome.isSome

variable {job : Job} {outcome : JobOutcome}

/-- A job that may still end has no outcome yet. -/
theorem IsSettled.outcome_eq_none {next : JobState} (settled : job.IsSettled)
    (possible : job.state.canBecome next = true) : job.outcome = none := by
  rw [IsSettled, JobState.isTerminal_of_canBecome possible] at settled
  simpa using settled.symm

/-- A start keeps the target. -/
@[simp] theorem start_target : job.start.2.target = job.target := by
  unfold start
  split <;> rfl

/-- A start records no outcome. -/
@[simp] theorem start_outcome : job.start.2.outcome = job.outcome := by
  unfold start
  split <;> rfl

/-- An outcome keeps the target. -/
@[simp] theorem finish_target : (job.finish outcome).2.target = job.target := by
  simp only [finish]
  split <;> rfl

/-- The first outcome is kept. -/
theorem finish_outcome {recorded : JobOutcome} (settled : job.IsSettled)
    (before : job.outcome = some recorded) : (job.finish outcome).2.outcome = some recorded := by
  simp only [finish]
  split
  case isTrue possible => simp [settled.outcome_eq_none possible] at before
  case isFalse => exact before

/-- A start keeps a job consistent with its outcome. -/
theorem start_isSettled (settled : job.IsSettled) : job.start.2.IsSettled := by
  unfold start
  split
  case isTrue possible =>
    rw [IsSettled, JobState.isTerminal_of_canBecome possible] at settled
    exact settled
  case isFalse => exact settled

/-- An outcome keeps a job consistent with it. -/
theorem finish_isSettled (settled : job.IsSettled) : (job.finish outcome).2.IsSettled := by
  simp only [finish]
  split
  case isTrue => simp [IsSettled]
  case isFalse => exact settled

/-- A job that is in flight after a start was so before. -/
theorem start_inFlight (running : job.start.2.state.isInFlight = true) :
    job.state.isInFlight = true := by
  unfold start at running
  split at running
  case isTrue possible => exact JobState.isInFlight_of_canBecome possible
  case isFalse => exact running

/-- A job that is in flight after an outcome was so before. -/
theorem finish_inFlight (running : (job.finish outcome).2.state.isInFlight = true) :
    job.state.isInFlight = true := by
  simp only [finish] at running
  split at running
  case isTrue possible => exact JobState.isInFlight_of_canBecome possible
  case isFalse => exact running

/-- A job that starts is running. -/
theorem start_state (starts : job.start.1 = true) : job.start.2.state = .running := by
  unfold start at starts ⊢
  split at starts
  case isTrue possible => rw [if_pos possible]
  case isFalse => contradiction

/-- A job ended after a failure was recorded for it, if only because it had ended before. -/
theorem finish_error_isTerminal (failure : Failure) :
    (job.finish (.error failure)).2.state.isTerminal = true := by
  simp only [finish, JobState.ofOutcome]
  cases state : job.state <;> simp [JobState.canBecome, JobState.isTerminal, state]

end Job

/-- The calls that may be made on a job. Callers that share a job take turns, so it does not matter
here which of them makes a call. -/
inductive JobCall where
  | start
  | finish (outcome : JobOutcome)
  | tryOutcome
  | wait

inductive JobAnswer where
  | took (effect : Bool)
  | found (outcome : Option JobOutcome)

/-- A call that has returned. -/
structure JobEvent where
  call : JobCall
  answer : JobAnswer

namespace JobEvent

/-- The outcome that the call recorded. -/
def recorded? : JobEvent → Option JobOutcome
  | ⟨.finish outcome, .took true⟩ => some outcome
  | _ => none

/-- The outcome that the caller was given. -/
def given? : JobEvent → Option JobOutcome
  | ⟨_, .found outcome⟩ => outcome
  | _ => none

end JobEvent

namespace Job

/-- What a call returns, and the job after it. A wait returns only when there is an outcome. -/
def take? (job : Job) : JobCall → Option (JobAnswer × Job)
  | .start => some (.took job.start.1, job.start.2)
  | .finish outcome => some (.took (job.finish outcome).1, (job.finish outcome).2)
  | .tryOutcome => some (.found job.outcome, job)
  | .wait => job.outcome.map fun recorded => (.found (some recorded), job)

/-- Calls that have returned one after the other lead from one job to another. -/
inductive Reaches : Job → List JobEvent → Job → Prop where
  | refl {job : Job} : Reaches job [] job
  | call {job next last : Job} {later : List JobEvent} {call : JobCall} {answer : JobAnswer}
      (taken : job.take? call = some (answer, next)) (reached : Reaches next later last) :
      Reaches job (⟨call, answer⟩ :: later) last

/-- The outcome of a job fits its state. -/
structure IsConsistent (job : Job) : Prop where
  settled : job.IsSettled
  fits : ∀ recorded, job.outcome = some recorded → job.state = .ofOutcome recorded

section Calls

variable {job next last : Job} {call : JobCall} {answer : JobAnswer}
  {history later : List JobEvent}

/-- What a call does: it starts the job, records an outcome, or leaves the job as it is. -/
theorem take?_cases (taken : job.take? call = some (answer, next)) :
    (call = .start ∧ answer = .took true ∧ job.state.canBecome .running = true ∧
      next = { job with state := .running }) ∨
    (∃ outcome, call = .finish outcome ∧ answer = .took true ∧
      job.state.canBecome (.ofOutcome outcome) = true ∧
      next = { job with state := .ofOutcome outcome, outcome := some outcome }) ∨
    (next = job ∧ JobEvent.recorded? ⟨call, answer⟩ = none ∧
      ∀ given, JobEvent.given? ⟨call, answer⟩ = some given → job.outcome = some given) := by
  cases call with
  | start =>
      simp only [take?, start] at taken
      split at taken
      case isTrue possible => cases taken; exact .inl ⟨rfl, rfl, possible, rfl⟩
      case isFalse => cases taken; exact .inr (.inr ⟨rfl, rfl, nofun⟩)
  | finish outcome =>
      simp only [take?, finish] at taken
      split at taken
      case isTrue possible => cases taken; exact .inr (.inl ⟨outcome, rfl, rfl, possible, rfl⟩)
      case isFalse => cases taken; exact .inr (.inr ⟨rfl, rfl, nofun⟩)
  | tryOutcome =>
      cases taken
      exact .inr (.inr ⟨rfl, rfl, fun given same => same⟩)
  | wait =>
      obtain ⟨recorded, stored, same⟩ := Option.map_eq_some_iff.1 taken
      cases same
      exact .inr (.inr ⟨rfl, rfl, fun given same => stored.trans same⟩)

/-- A call leaves the outcome as it is, unless there was none and the call records it. -/
theorem outcome_of_take? (settled : job.IsSettled) (taken : job.take? call = some (answer, next)) :
    (next.outcome = job.outcome ∧ JobEvent.recorded? ⟨call, answer⟩ = none ∧
      ∀ given, JobEvent.given? ⟨call, answer⟩ = some given → job.outcome = some given) ∨
    (job.outcome = none ∧ ∃ outcome, next.outcome = some outcome ∧
      JobEvent.recorded? ⟨call, answer⟩ = some outcome ∧
      JobEvent.given? ⟨call, answer⟩ = none) := by
  obtain ⟨rfl, rfl, -, rfl⟩ | ⟨outcome, rfl, rfl, possible, rfl⟩ | ⟨rfl, silent, held⟩ :=
    take?_cases taken
  · exact .inl ⟨rfl, rfl, nofun⟩
  · exact .inr ⟨settled.outcome_eq_none possible, outcome, rfl, rfl, rfl⟩
  · exact .inl ⟨rfl, silent, held⟩

/-- A call moves a job along its life cycle only. -/
theorem canBecome_of_take? (taken : job.take? call = some (answer, next))
    (changed : next.state ≠ job.state) : job.state.canBecome next.state = true := by
  obtain ⟨-, -, possible, rfl⟩ | ⟨outcome, -, -, possible, rfl⟩ | ⟨rfl, -⟩ := take?_cases taken
  · exact possible
  · exact possible
  · exact absurd rfl changed

/-- A job that ended is left as it is. -/
theorem take?_of_isTerminal (ended : job.state.isTerminal = true)
    (taken : job.take? call = some (answer, next)) :
    next = job ∧ JobEvent.recorded? ⟨call, answer⟩ = none := by
  obtain ⟨-, -, possible, -⟩ | ⟨outcome, -, -, possible, -⟩ | ⟨same, silent, -⟩ :=
    take?_cases taken
  · rw [JobState.isTerminal_of_canBecome possible] at ended
    cases ended
  · rw [JobState.isTerminal_of_canBecome possible] at ended
    cases ended
  · exact ⟨same, silent⟩

/-- Nothing is changed in a job that has ended, and nothing is recorded. -/
theorem Reaches.eq_of_isTerminal (reached : job.Reaches later last)
    (ended : job.state.isTerminal = true) :
    last = job ∧ later.filterMap JobEvent.recorded? = [] := by
  induction reached with
  | refl => exact ⟨rfl, rfl⟩
  | call taken _ ih =>
      obtain ⟨rfl, silent⟩ := take?_of_isTerminal ended taken
      rw [List.filterMap_cons_none silent]
      exact ih ended

/-- Each call keeps a job consistent. -/
theorem IsConsistent.take? (consistent : job.IsConsistent)
    (taken : job.take? call = some (answer, next)) : next.IsConsistent := by
  obtain ⟨-, -, possible, rfl⟩ | ⟨outcome, -, -, -, rfl⟩ | ⟨rfl, -⟩ := take?_cases taken
  · have none := consistent.settled.outcome_eq_none possible
    exact ⟨by simp [IsSettled, none, JobState.isTerminal], by simp [none]⟩
  · exact ⟨by simp [IsSettled], by simp⟩
  · exact consistent

/-- A job has an artifact exactly when it is done. -/
theorem IsConsistent.isOk_iff (consistent : job.IsConsistent) :
    (∃ artifact, job.outcome = some (.ok artifact)) ↔ job.state = .done := by
  constructor
  · rintro ⟨artifact, stored⟩
    exact consistent.fits _ stored
  · intro done
    have settled := consistent.settled
    rw [IsSettled, done, JobState.isTerminal, eq_comm, Option.isSome_iff_exists] at settled
    obtain ⟨recorded, stored⟩ := settled
    have fits := consistent.fits recorded stored
    cases recorded with
    | ok artifact => exact ⟨artifact, stored⟩
    | error failure =>
        rw [fits] at done
        cases done

/-- What the calls so far tell of the job that they led to. -/
structure Tells (history : List JobEvent) (job : Job) : Prop where
  consistent : job.IsConsistent
  recorded : history.filterMap JobEvent.recorded? = job.outcome.toList
  given : ∀ event ∈ history, ∀ given, event.given? = some given → job.outcome = some given

/-- Nothing is told of a new job. -/
theorem Tells.new (target : Target) : Tells [] { target } where
  consistent := ⟨rfl, nofun⟩
  recorded := rfl
  given := List.forall_mem_nil _

/-- The history goes on with the call and its answer. -/
theorem Tells.take? (tells : Tells history job) (taken : job.take? call = some (answer, next)) :
    Tells (history ++ [⟨call, answer⟩]) next := by
  have consistent := tells.consistent.take? taken
  obtain ⟨kept, silent, held⟩ | ⟨none, outcome, stored, recorded, ungiven⟩ :=
    outcome_of_take? tells.consistent.settled taken
  · refine ⟨consistent, by simp [tells.recorded, silent, kept], ?_⟩
    rw [kept, List.forall_mem_append, List.forall_mem_singleton]
    exact ⟨tells.given, held⟩
  · -- There was no outcome before, so nobody was given one.
    have before := tells.recorded
    have never := tells.given
    rw [none] at before never
    refine ⟨consistent, by simp [before, recorded, stored], ?_⟩
    rw [List.forall_mem_append, List.forall_mem_singleton, ungiven]
    exact ⟨fun event member given same => absurd (never event member given same) nofun, nofun⟩

/-- The history goes on with what happens later. -/
theorem Tells.reaches (tells : Tells history job) (reached : job.Reaches later last) :
    Tells (history ++ later) last := by
  induction reached generalizing history with
  | refl => rwa [List.append_nil]
  | call taken _ ih =>
      rw [List.append_cons]
      exact ih (tells.take? taken)

/-- The state of a job changes only as states may, an outcome is stored exactly for a job that
ended, and an artifact exactly for one that is done. One call to finish a job that ended took
effect, nothing changes afterwards, and every outcome that was given to a caller is the stored
one. -/
theorem outcome_recorded_once {target : Target} (reached : Reaches { target } history job) :
    (∀ call answer next, job.take? call = some (answer, next) → next.state ≠ job.state →
      job.state.canBecome next.state = true) ∧
    (job.outcome.isSome = true ↔ job.state.isTerminal = true) ∧
    ((∃ artifact, job.outcome = some (.ok artifact)) ↔ job.state = .done) ∧
    (job.state.isTerminal = true → ∃ recorded, job.outcome = some recorded ∧
      history.filterMap JobEvent.recorded? = [recorded] ∧
      ∀ later last, job.Reaches later last →
        last.state = job.state ∧ last.outcome = some recorded ∧
          later.filterMap JobEvent.recorded? = []) ∧
    ∀ event ∈ history, ∀ given, event.given? = some given → job.outcome = some given := by
  obtain ⟨consistent, recordings, givings⟩ := (Tells.new target).reaches reached
  have settled : job.state.isTerminal = job.outcome.isSome := consistent.settled
  refine ⟨fun _ _ _ => canBecome_of_take?, by rw [settled], consistent.isOk_iff, ?_, givings⟩
  intro ended
  obtain ⟨recorded, stored⟩ := Option.isSome_iff_exists.1 (settled ▸ ended)
  refine ⟨recorded, stored, by simpa [stored] using recordings, fun later last onward => ?_⟩
  obtain ⟨rfl, silent⟩ := onward.eq_of_isTerminal ended
  exact ⟨rfl, stored, silent⟩

/-- An artifact comes before the job is started and is not recorded, a failure is, and another
artifact comes too late. -/
def crowdedCalls (target : Target) : List JobEvent :=
  [⟨.finish (.ok ⟨target.className, "early"⟩), .took false⟩, ⟨.tryOutcome, .found none⟩,
    ⟨.start, .took true⟩, ⟨.start, .took false⟩,
    ⟨.finish (.error (.scheduler .shutDown)), .took true⟩,
    ⟨.wait, .found (some (.error (.scheduler .shutDown)))⟩,
    ⟨.finish (.ok ⟨target.className, "late"⟩), .took false⟩,
    ⟨.tryOutcome, .found (some (.error (.scheduler .shutDown)))⟩]

/-- The failure that came first stays, and later outcomes are refused. -/
theorem crowdedCalls_keep_failure :
    let job : Job := ⟨.loader "Calls", .failed, some (.error (.scheduler .shutDown))⟩
    Reaches { target := .loader "Calls" } (crowdedCalls (.loader "Calls")) job ∧
      (crowdedCalls (.loader "Calls")).filterMap JobEvent.recorded? =
        [.error (.scheduler .shutDown)] := by
  intro job
  have reached : Reaches { target := .loader "Calls" } (crowdedCalls (.loader "Calls")) job :=
    .call rfl (.call rfl (.call rfl (.call rfl (.call rfl (.call rfl (.call rfl
      (.call rfl .refl)))))))
  obtain ⟨-, -, -, ended, -⟩ := outcome_recorded_once reached
  obtain ⟨recorded, stored, one, -⟩ := ended rfl
  cases stored
  exact ⟨reached, one⟩

end Calls

end Job

end BusBridge
