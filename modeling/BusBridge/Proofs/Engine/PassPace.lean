/-
This file proves at which pace a generation pass goes on: how many targets it has finished when it
starts the next one.
-/

import BusBridge.Proofs.Engine.PassOrder

namespace BusBridge

namespace PassRun

variable {engine : Engine} {run next : PassRun} {history : PassHistory} {action : PassAction}

/-- The first bean is started after the loader is finished, and the window fills before another
target has to be. -/
def finishedAt (window started : Nat) : Nat :=
  if started = 0 then 0 else 1 + (started - window)

theorem finishedAt_of_pos {window started : Nat} (positive : 0 < started) :
    finishedAt window started = 1 + (started - window) :=
  if_neg (Nat.ne_of_gt positive)

/-- How many targets are started and finished in each stage, while some are still to be started. -/
def IsPaced (window : Nat) (history : PassHistory) : PassStage → Prop
  | .begun => history.started.length = 0 ∧ history.finished.length = 0
  | .loading => history.started.length = 1 ∧ history.finished.length = 0
  | .scanning => history.started.length = 1 ∧ history.finished.length = 1
  | .generating (_ :: _) => 0 < history.started.length ∧
      (history.finished.length = finishedAt window history.started.length ∨
        history.started.length = history.finished.length + window)
  | .generating [] | .finished | .aborted => True

theorem Order.length_started (order : Order engine history run) :
    history.started.length = history.finished.length + run.pass.inFlight.length := by
  rw [order.started, List.length_append, List.length_map]

/-- A step of the thread of the pass keeps the pace. -/
theorem Order.isPaced_movePass (order : Order engine history run)
    (paced : IsPaced engine.configuration.maxPendingJobs history run.stage)
    (goes : ThreadStep run next) :
    IsPaced engine.configuration.maxPendingJobs (run.remember next history) next.stage := by
  have lengths := order.length_started
  have positive := order.maxPendingJobs_pos
  have finishing {pass : GenerationPass} (stage : PassStage)
      (finishes : run.pass.finishOldest? = some pass) :
      ((run.remember { run with pass, stage } history).started.length = history.started.length ∧
        (run.remember { run with pass, stage } history).finished.length =
          history.finished.length + 1) := by
    obtain ⟨oldest, rest, inFlight, -, rfl⟩ := GenerationPass.finishOldest?_eq_some finishes
    rw [remember_of_finished inFlight rfl]
    simp
  have starting (target : Target) (stage : PassStage) :
      ((run.remember { run with pass := run.pass.handIn target, stage } history).started.length =
          history.started.length + 1 ∧
        (run.remember { run with pass := run.pass.handIn target, stage } history).finished.length =
          history.finished.length) := by
    rw [remember_of_started rfl]
    simp
  cases goes with
  | startLoader stage =>
      simp only [stage, IsPaced] at paced
      obtain ⟨started, finished⟩ :=
        starting (.loader run.pass.engine.configuration.loaderContract) .loading
      simp only [IsPaced]
      omega
  | finishLoader stage finishes =>
      simp only [stage, IsPaced] at paced
      obtain ⟨started, finished⟩ := finishing .scanning finishes
      simp only [IsPaced]
      omega
  | scan stage =>
      simp only [stage, IsPaced] at paced
      have same : run.remember { run with
        pass := run.pass.scan.2, stage := .afterScan run.pass.window run.pass.scan.1 } history =
          history := remember_of_inFlight rfl
      rw [same, PassStage.afterScan]
      split
      case isTrue => trivial
      case isFalse =>
        cases run.pass.scan.1 with
        | nil => trivial
        | cons bean beans =>
            have one : 0 < history.started.length := by omega
            refine ⟨one, .inl ?_⟩
            rw [finishedAt_of_pos one]
            omega
  | @startBean bean beans stage room =>
      simp only [stage, IsPaced] at paced
      rw [order.window_eq] at room
      obtain ⟨started, finished⟩ := starting (.observer bean.name) (.generating beans)
      cases beans with
      | nil => trivial
      | cons other beans =>
          refine ⟨by omega, ?_⟩
          rw [finished, started, finishedAt_of_pos (Nat.succ_pos _)]
          rw [finishedAt_of_pos paced.1] at paced
          omega
  | @finishBean pass beans stage full finishes =>
      cases beans with
      | nil =>
          simp only [stage]
          trivial
      | cons bean beans =>
          have full := full (List.cons_ne_nil _ _)
          rw [order.window_eq] at full
          obtain ⟨started, finished⟩ := finishing run.stage finishes
          simp only [stage, IsPaced] at paced started finished ⊢
          refine ⟨started ▸ paced.1, .inl ?_⟩
          rw [finished, started, finishedAt_of_pos paced.1]
          omega
  | close => trivial

theorem Remembered.isPaced (serves : engine.Serves) (remembered : Remembered engine history run) :
    IsPaced engine.configuration.maxPendingJobs history run.stage := by
  induction remembered with
  | begin => exact ⟨rfl, rfl⟩
  | step before possible ih =>
      have order := (before.order serves).1
      cases Step.of_step? possible with
      | task member moves =>
          obtain ⟨-, stage, inFlight⟩ := order.moveTask member moves
          rw [remember_of_inFlight inFlight, stage]
          exact ih
      | thread goes => exact order.isPaced_movePass ih goes

/-- Where a target can be started, so many are finished. -/
theorem Remembered.length_finished (serves : engine.Serves)
    (remembered : Remembered engine history run)
    (room : run.stage = .begun ∨ ∃ bean beans, run.stage = .generating (bean :: beans) ∧
      run.pass.inFlight.length ≠ run.pass.window) :
    history.finished.length =
      finishedAt engine.configuration.maxPendingJobs history.started.length := by
  have order := (remembered.order serves).1
  have paced := remembered.isPaced serves
  have lengths := order.length_started
  rcases room with stage | ⟨bean, beans, stage, room⟩
  · simp only [stage, IsPaced] at paced
    rw [paced.1, paced.2]
    rfl
  · rw [order.window_eq] at room
    simp only [stage, IsPaced] at paced
    omega

end PassRun

end BusBridge
