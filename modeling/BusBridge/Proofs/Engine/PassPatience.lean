/-
This file proves that a pass can come to its end with a permit for each of its jobs: its thread has
to wait until the workers are done before it goes on.
-/

import BusBridge.Proofs.Engine.PassContent

namespace BusBridge

/-- A task that is alone and asks for a permit finds all of them. -/
theorem Scheduler.Invariant.permits_of_alone {size : PoolSize} {scheduler : Scheduler} {task : Task}
    (valid : scheduler.Invariant size) (alone : scheduler.tasks = [task])
    (stage : task.stage = .unpermitted) : scheduler.permits = size.maxPendingJobs := by
  have member : task ∈ scheduler.tasks := by simp [alone]
  have unheld := valid.unheld task member (by rw [stage]; rfl)
  have permits := valid.permits
  rw [alone, List.countP_singleton, unheld] at permits
  exact permits

/-- A step of a task leaves at most as many tasks. -/
theorem Scheduler.TaskStep.length_tasks_le {size : PoolSize} {scheduler next : Scheduler}
    {task : Task} {action : Action} (valid : scheduler.Invariant size)
    (member : task ∈ scheduler.tasks) (step : scheduler.TaskStep task action next) :
    next.tasks.length ≤ scheduler.tasks.length := by
  obtain ⟨before, after, split, gone | ⟨changed, kept, -⟩⟩ := step.tasks_eq valid member
  · rw [gone, split, List.length_append, List.length_append, List.length_cons]
    omega
  · rw [kept, split, List.length_append, List.length_append, List.length_cons, List.length_cons]

/-- A submission adds one task at most. -/
theorem Scheduler.length_tasks_submit (scheduler : Scheduler) (target : Target) (hasSetup : Bool) :
    (scheduler.submit target hasSetup).2.tasks.length ≤ scheduler.tasks.length + 1 := by
  unfold Scheduler.submit
  split
  case h_1 => exact Nat.le_succ _
  case h_2 => simp [Scheduler.addJob]

/-- A new engine has no tasks. -/
theorem Engine.tasks_of_start {configuration : Configuration} {source : UniverseSource}
    {files : Files} {sink : Sink} {engine : Engine}
    (started : start configuration source files sink = .ok engine) :
    engine.run.scheduler.tasks = [] := by
  obtain ⟨-, scheduler, created, same⟩ := start_eq_ok started
  rw [same]
  exact Scheduler.tasks_of_create created

namespace PassRun

variable {types : Universe} {engine : Engine} {run next : PassRun} {history : PassHistory}
  {task : Task}

/-- At most one job is in the hands of the workers, and each one got its permit. -/
structure IsPatient (run : PassRun) : Prop where
  single : run.scheduler.tasks.length ≤ 1
  permitted : ∀ request ∈ run.requests, request.left ≠ 0

theorem IsPatient.moveTask (patient : run.IsPatient) (serves : run.pass.engine.Serves)
    (member : task ∈ run.scheduler.tasks) (possible : run.moveTask? task = some next) :
    next.IsPatient := by
  have valid := serves.run.scheduler
  obtain ⟨moved, moves, rfl⟩ := Option.map_eq_some_iff.1 possible
  obtain ⟨-, move⟩ := SchedulerRun.Move.of_moveTask? valid member moves
  constructor
  case single =>
    cases move with
    | enter _ _ _ same =>
        refine Nat.le_trans (Nat.le_of_eq ?_) patient.single
        exact congrArg (fun scheduler => scheduler.tasks.length) same
    | step action step => exact Nat.le_trans (step.length_tasks_le valid member) patient.single
  case permitted =>
    intro request requested
    rcases List.mem_append.1 requested with old | new
    · exact patient.permitted request old
    · obtain ⟨stage, rfl⟩ := mem_requestsOf_iff.1 new
      have alone : run.scheduler.tasks = [task] := by
        obtain ⟨other, only⟩ := List.length_eq_one_iff.1
          (Nat.le_antisymm patient.single (List.length_pos_of_mem member))
        rw [only, List.mem_singleton] at member
        rw [only, member]
      have positive := Configuration.maxPendingJobs_pos_of_validate serves.accepted
      have permits := valid.permits_of_alone alone stage
      exact permits ▸ Nat.ne_of_gt positive

/-- When the workers are done, the thread of the pass hands them one job at most. -/
theorem IsPatient.movePass (patient : run.IsPatient) (idle : run.scheduler.tasks = [])
    (goes : ThreadStep run next) : next.IsPatient := by
  have quiet {pass : GenerationPass} {stage : PassStage}
      (same : pass.engine.run.scheduler = run.scheduler) :
      IsPatient { run with pass, stage } :=
    ⟨(congrArg (fun scheduler => scheduler.tasks.length) same).trans_le patient.single,
      patient.permitted⟩
  cases Change.of_threadStep goes with
  | move member =>
      rw [idle] at member
      cases member
  | start target stage =>
      obtain ⟨-, -, ⟨⟨-, same, -⟩, -⟩ | ⟨job, -, submits, -⟩⟩ :=
        Engine.handIn_cases run.pass.engine target
      · exact quiet same
      · refine ⟨?_, patient.permitted⟩
        have added := Scheduler.length_tasks_submit run.scheduler target true
        have submitted := congrArg (fun pair => pair.2.tasks.length) submits
        rw [idle] at added
        exact submitted.trans_le added
  | finish finishes =>
      obtain ⟨oldest, -, -, -, rfl⟩ := GenerationPass.finishOldest?_eq_some finishes
      exact quiet Engine.samePlan_finishTarget.2.1
  | scan | close => exact quiet rfl

/-- As long as it is not over, a patient pass can take a step and stay patient. -/
theorem IsPatient.exists_step (patient : run.IsPatient) (order : Order engine history run)
    (follows : FollowsScan engine history run) (unfinished : run.stage.isOver = false) :
    ∃ action next, run.step? action = some next ∧ next.IsPatient := by
  by_cases idle : run.scheduler.tasks = []
  case neg =>
    obtain ⟨task, member, next, moves, possible⟩ := exists_moveTask order.serves idle
    exact ⟨.task task.job, next, possible, patient.moveTask order.serves member moves⟩
  case pos =>
    obtain ⟨action, next, possible⟩ := order.exists_step follows unfinished
    refine ⟨action, next, possible, ?_⟩
    cases Step.of_step? possible with
    | task member =>
        rw [idle] at member
        cases member
    | thread goes => exact patient.movePass idle goes

/-- A pass on an engine with one task at most can come to its end with a permit for each of its
jobs, and with one task at most, where the places of its window can be reserved. -/
theorem exists_permitted_end (serves : engine.Serves)
    (fits : engine.configuration.maxPendingJobs ≤ GenerationPass.maximalWindow)
    (few : engine.run.scheduler.tasks.length ≤ 1) :
    ∃ run, Reachable engine run ∧ run.stage = .finished ∧ run.IsPatient := by
  have patient : (begin engine).IsPatient := ⟨few, List.forall_mem_nil _⟩
  have steps (history : PassHistory) (run : PassRun) (remembered : Remembered engine history run)
      (patient : run.IsPatient) (unfinished : run.stage.isOver = false) :
      ∃ action next, run.step? action = some next ∧ next.IsPatient := by
    obtain ⟨order, follows⟩ := remembered.order serves
    exact patient.exists_step order follows unfinished
  obtain ⟨actions, last, ran, ended, kept⟩ :=
    Reachable.begin.exists_end_keeping serves steps patient
  have reached : Reachable engine last := Reachable.begin.steps ran
  have judges := reached.judgesWindow serves
  exact ⟨last, reached, (judges.finished_iff ended).2 fits, kept⟩

end PassRun

end BusBridge
