/-
This file proves what the callers of a scheduler rely on while jobs are in flight. A target has
at most one such job, and each job that did not end has one task that is bound to end it.
-/

import BusBridge.Proofs.Scheduler.Reachable

namespace BusBridge

/-- A task owes an outcome to its job until it recorded one while it was dropped. -/
def Stage.owesOutcome : Stage → Bool
  | .recorded | .unlisted => false
  | _ => true

namespace Scheduler

variable {scheduler : Scheduler} {task : Task} {size : PoolSize}

/-- The tasks that are bound to finish a job. -/
def owners (scheduler : Scheduler) (id : JobId) : List Task :=
  scheduler.tasks.filter fun task => task.job == id

theorem Invariant.owners_eq (valid : Invariant size scheduler) (member : task ∈ scheduler.tasks) :
    scheduler.owners task.job = [task] := by
  obtain ⟨before, after, split, others⟩ := valid.tasks_eq member
  have none : (before ++ after).filter (fun other => other.job == task.job) = [] :=
    List.filter_eq_nil_iff.2 fun other found => by simpa using others other found
  rw [List.filter_append, List.append_eq_nil_iff] at none
  simp [owners, split, none]

/-- While a pipeline runs, the job of its task does. -/
theorem Invariant.running_of_generating (valid : Invariant size scheduler)
    (member : task ∈ scheduler.tasks) (stage : task.stage = .generating) :
    ∃ job, scheduler.job? task.job = some job ∧ job.state = .running ∧
      scheduler.targetOf task.job = job.target := by
  obtain ⟨job, known, admitted⟩ := valid.agrees task member
  rw [stage] at admitted
  exact ⟨job, known, admitted, by simp [targetOf, known]⟩

/-- Jobs in flight of one target are one job, which the table lists, and their pipelines are
one pipeline. -/
theorem single_flight (reached : Reachable size scheduler) :
    (∀ id job, scheduler.job? id = some job → job.state.isInFlight = true →
      scheduler.table.lookup job.target = some id) ∧
    (∀ first second firstJob secondJob,
      scheduler.job? first = some firstJob → firstJob.state.isInFlight = true →
      scheduler.job? second = some secondJob → secondJob.state.isInFlight = true →
      firstJob.target = secondJob.target → first = second) ∧
    (∀ first ∈ scheduler.tasks, ∀ second ∈ scheduler.tasks,
      first.stage = .generating → second.stage = .generating →
      scheduler.targetOf first.job = scheduler.targetOf second.job → first = second) := by
  have valid := reached.invariant
  have listed : ∀ id job, scheduler.job? id = some job → job.state.isInFlight = true →
      scheduler.table.lookup job.target = some id := fun id job known running =>
    valid.lookup_eq (valid.listed id job known running)
  have single : ∀ first second firstJob secondJob,
      scheduler.job? first = some firstJob → firstJob.state.isInFlight = true →
      scheduler.job? second = some secondJob → secondJob.state.isInFlight = true →
      firstJob.target = secondJob.target → first = second := by
    intro first second firstJob secondJob firstKnown firstRuns secondKnown secondRuns same
    have found := listed first firstJob firstKnown firstRuns
    rw [same, listed second secondJob secondKnown secondRuns] at found
    exact (Option.some.inj found).symm
  refine ⟨listed, single, ?_⟩
  intro first inTasks second alsoInTasks firstStage secondStage same
  obtain ⟨firstJob, firstKnown, firstState, firstTarget⟩ :=
    valid.running_of_generating inTasks firstStage
  obtain ⟨secondJob, secondKnown, secondState, secondTarget⟩ :=
    valid.running_of_generating alsoInTasks secondStage
  rw [firstTarget, secondTarget] at same
  have sameJob := single first.job second.job firstJob secondJob firstKnown
    (by rw [firstState]; rfl) secondKnown (by rw [secondState]; rfl) same
  exact valid.unique alsoInTasks inTasks sameJob

/-- The first job of the target ended but is still listed when the second one is submitted. -/
def resubmission (target : Target) : List Action :=
  [.submit target false, .checkFlag 0, .acquirePermit 0, .enqueue 0, .take 0, .start 0,
    .prepare 0, .finishPipeline 0 (.panicked ⟨none⟩), .recordOutcome 0, .submit target false]

theorem resubmission_single_flight : ∃ scheduler, Reachable {} scheduler ∧
    scheduler.tasks.map Task.job = [0, 1] ∧
    scheduler.table.lookup (.observer "com.example.Bean") = some 1 := by
  obtain ⟨scheduler, ran, tasks, job, known, target, running⟩ :
      ∃ scheduler, ({ pool := { size := {} }, permits := 256 } : Scheduler).run?
          (resubmission (.observer "com.example.Bean")) = some scheduler ∧
        scheduler.tasks.map Task.job = [0, 1] ∧ ∃ job, scheduler.job? 1 = some job ∧
          job.target = .observer "com.example.Bean" ∧ job.state.isInFlight = true :=
    ⟨_, rfl, rfl, _, rfl, rfl, rfl⟩
  have reached : Reachable {} scheduler := (Reachable.create rfl).run ran
  exact ⟨scheduler, reached, tasks, target ▸ (single_flight reached).1 1 job known running⟩

/-- No job waits for ever and no permit is lost: whatever has not ended, or is still listed, has
one task that ends it, and every permit that is missing is held by a task. -/
theorem tasks_own_jobs (reached : Reachable size scheduler) :
    (∀ id job, scheduler.job? id = some job → job.state.isTerminal = false →
      ∃ task, scheduler.owners id = [task] ∧ task.stage.owesOutcome = true) ∧
    (∀ target id, (target, id) ∈ scheduler.table →
      ∃ job task, scheduler.job? id = some job ∧ job.target = target ∧
        scheduler.owners id = [task] ∧ task.stage.isListed = true) ∧
    scheduler.permits + scheduler.tasks.countP Task.holdsPermit = size.maxPendingJobs ∧
    (scheduler.tasks = [] →
      (∀ id job, scheduler.job? id = some job → job.outcome.isSome = true) ∧
      scheduler.table = [] ∧ scheduler.permits = size.maxPendingJobs) := by
  have valid := reached.invariant
  have owned : ∀ id job, scheduler.job? id = some job → job.state.isTerminal = false →
      ∃ task, scheduler.owners id = [task] ∧ task.stage.owesOutcome = true := by
    intro id job known waiting
    have running : job.state.isInFlight = true := by
      cases state : job.state <;> simp_all [JobState.isTerminal, JobState.isInFlight]
    obtain ⟨task, member, rfl⟩ := valid.bound id job known running
    refine ⟨task, valid.owners_eq member, ?_⟩
    have admitted := valid.admits member known
    cases stage : task.stage <;> simp_all [Stage.owesOutcome, Stage.Admits]
  have kept : ∀ target id, (target, id) ∈ scheduler.table →
      ∃ job task, scheduler.job? id = some job ∧ job.target = target ∧
        scheduler.owners id = [task] ∧ task.stage.isListed = true := by
    intro target id inTable
    obtain ⟨job, known, same⟩ := valid.entries _ inTable
    obtain ⟨task, member, rfl, listed⟩ := valid.kept _ inTable
    exact ⟨job, task, known, same, valid.owners_eq member, listed⟩
  refine ⟨owned, kept, valid.permits, fun idle => ⟨?_, ?_, ?_⟩⟩
  · intro id job known
    rw [← valid.settled id job known]
    by_contra waiting
    obtain ⟨task, owner, -⟩ := owned id job known (Bool.eq_false_iff.2 waiting)
    simp [owners, idle] at owner
  · refine List.eq_nil_iff_forall_not_mem.2 fun entry inTable => ?_
    obtain ⟨_, task, _, _, owner, _⟩ := kept entry.1 entry.2 inTable
    simp [owners, idle] at owner
  · simpa [idle] using valid.permits

/-- One job is rejected for want of a permit, and the other one is dropped by a shutdown. -/
def shutdownRun (first second : Target) : List Action :=
  [.submit first false, .checkFlag 0, .acquirePermit 0, .enqueue 0,
    .submit second true, .checkFlag 1, .acquirePermit 1, .recordOutcome 1, .recordOutcome 1,
    .removeEntry 1, .releasePermit 1, .raiseFlag, .closePool, .discard 0, .recordOutcome 0,
    .removeEntry 0, .releasePermit 0]

theorem shutdownRun_ends_jobs :
    ∃ scheduler, Reachable { maxPendingJobs := 1 } scheduler ∧ scheduler.jobs.length = 2 ∧
      (∀ id job, scheduler.job? id = some job → job.outcome.isSome = true) ∧
      scheduler.table = [] ∧ scheduler.permits = 1 := by
  obtain ⟨scheduler, ran, jobs, idle⟩ :
      ∃ scheduler, ({ pool := { size := { maxPendingJobs := 1 } }, permits := 1 } :
          Scheduler).run? (shutdownRun (.loader "com.example.Loader")
            (.observer "com.example.Bean")) = some scheduler ∧
        scheduler.jobs.length = 2 ∧ scheduler.tasks = [] :=
    ⟨_, rfl, rfl, rfl⟩
  have reached : Reachable { maxPendingJobs := 1 } scheduler := (Reachable.create rfl).run ran
  exact ⟨scheduler, reached, jobs, (tasks_own_jobs reached).2.2.2 idle⟩

end Scheduler

end BusBridge
