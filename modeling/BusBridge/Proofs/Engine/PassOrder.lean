/-
This file proves that a generation pass comes to its end in whichever order its jobs do, and that
its report lists the loader and then every scanned bean, each of them once and with its own result.
-/

import BusBridge.Proofs.Engine.PassPermits
import BusBridge.Proofs.Engine.Serving
import BusBridge.Proofs.Engine.Sizes
import BusBridge.Proofs.Scheduler.Outcome
import BusBridge.Proofs.Target
import Mathlib.Data.Prod.Lex
import Mathlib.Order.WellFounded

namespace BusBridge

/-- An engine that was started, and that may have been used since. -/
inductive Engine.IsUsed : Engine → Prop where
  | start {configuration : Configuration} {source : UniverseSource} {files : Files} {sink : Sink}
      {engine : Engine} (started : Engine.start configuration source files sink = .ok engine) :
      IsUsed engine
  | scan {engine : Engine} (used : IsUsed engine) (marker : String) : IsUsed (engine.scan marker).2
  | generate {engine : Engine} (used : IsUsed engine) (target : Target) :
      IsUsed (engine.generate target).2
  | pass {engine : Engine} {run : PassRun} (used : IsUsed engine)
      (reached : PassRun.Reachable engine run) (ended : run.stage.isOver = true) :
      IsUsed run.pass.engine
  | touch {engine : Engine} (used : IsUsed engine) (files : Files) : IsUsed { engine with files }

/-- A target that is handed in may get a job, and no job is lost. -/
theorem Engine.Serves.known_handIn {engine : Engine} (serves : engine.Serves) (target : Target) :
    (engine.handIn target).1.target = target ∧
    (∀ job, (engine.handIn target).1.state = .running job →
      ∃ found, (engine.handIn target).2.run.scheduler.job? job = some found ∧
        found.target = target) ∧
    ∀ id found, engine.run.scheduler.job? id = some found →
      ∃ after, (engine.handIn target).2.run.scheduler.job? id = some after ∧
        after.target = found.target := by
  have valid := serves.run.scheduler
  have handed := handsIn_handIn engine target
  revert handed
  generalize engine.handIn target = pair
  rintro (⟨-, records⟩ | ⟨-, -, records⟩ | ⟨-, -, records⟩)
  · exact ⟨rfl, nofun, fun _ found known => ⟨found, known, rfl⟩⟩
  · exact ⟨rfl, nofun, fun _ found known => ⟨found, known, rfl⟩⟩
  · refine ⟨rfl, ?_, fun id found known => ?_⟩
    · rintro _ ⟨⟩
      exact valid.submit_target SchedulerRun.handIn_eq.symm
    · obtain ⟨after, inNext, kept⟩ :=
        (Scheduler.Step.of_submit SchedulerRun.handIn_eq.symm).keeps valid known
      exact ⟨after, inNext, kept.1⟩

namespace PassStage

/-- The stages of a pass are numbered from its end. -/
def stepsLeft : PassStage → Nat
  | .begun => 4
  | .loading => 3
  | .scanning => 2
  | .generating _ => 1
  | .finished | .aborted => 0

def remaining : PassStage → List TypeDeclaration
  | .generating beans => beans
  | .begun | .loading | .scanning | .finished | .aborted => []

end PassStage

/-- The targets of a pass in the order in which they were started, and those that were finished
with their results. -/
structure PassHistory where
  started : List PendingTarget := []
  finished : List (PendingTarget × Except Failure String) := []
  deriving Inhabited

namespace PassRun

variable {engine : Engine} {run next : PassRun} {history : PassHistory} {task : Task}
  {pass : GenerationPass} {target : Target} {stage : PassStage} {action : PassAction}

/-- A target is started when it comes to those in flight, and finished when it leaves them. -/
def remember (run next : PassRun) (history : PassHistory) : PassHistory where
  started := history.started ++ next.pass.inFlight.drop run.pass.inFlight.length
  finished := history.finished ++
    (run.pass.inFlight.take (run.pass.inFlight.length - next.pass.inFlight.length)).map
      fun pending => (pending, (run.pass.engine.finishTarget pending {}).1)

/-- A run that remembers its targets. -/
inductive Remembered (engine : Engine) : PassHistory → PassRun → Prop where
  | begin : Remembered engine {} (begin engine)
  | step {history : PassHistory} {run next : PassRun} {action : PassAction}
      (reached : Remembered engine history run) (possible : run.step? action = some next) :
      Remembered engine (run.remember next history) next

/-- A run that is remembered is reachable. -/
theorem Remembered.reachable (reached : Remembered engine history run) : Reachable engine run := by
  induction reached with
  | begin => exact .begin
  | step _ possible ih => exact ih.step possible

/-- The targets of a pass, as its scan tells them. -/
def scannedTargets (run : PassRun) : List Target :=
  .loader run.pass.engine.configuration.loaderContract ::
    run.pass.scan.1.map fun bean => .observer bean.name

/-- Nothing is remembered of a step that leaves the targets in flight. -/
theorem remember_of_inFlight (same : next.pass.inFlight = run.pass.inFlight) :
    run.remember next history = history := by
  simp [remember, same]

/-- A target that comes into flight is remembered as started. -/
theorem remember_of_started {pending : PendingTarget}
    (starts : next.pass.inFlight = run.pass.inFlight ++ [pending]) :
    run.remember next history = { history with started := history.started ++ [pending] } := by
  simp [remember, starts]

/-- The oldest target in flight is remembered as finished when it leaves. -/
theorem remember_of_finished {pending : PendingTarget} {rest : List PendingTarget}
    (before : run.pass.inFlight = pending :: rest) (after : next.pass.inFlight = rest) :
    run.remember next history =
      { history with
        finished := history.finished ++
          [(pending, (run.pass.engine.finishTarget pending {}).1)] } := by
  simp [remember, before, after]

/-- What every step of a pass keeps. -/
structure Order (engine : Engine) (history : PassHistory) (run : PassRun) : Prop where
  serves : run.pass.engine.Serves
  configuration : run.pass.engine.configuration = engine.configuration
  known : ∀ pending ∈ run.pass.inFlight, ∀ job, pending.state = .running job →
    ∃ found, run.scheduler.job? job = some found ∧ found.target = pending.target
  started : history.started = history.finished.map Prod.fst ++ run.pass.inFlight
  reported : run.pass.report.outcomes =
    history.finished.map fun entry => (entry.1.target, entry.2)
  window : run.pass.inFlight.length ≤ engine.configuration.maxPendingJobs
  handed : ∀ pending ∈ history.started, ∃ before, Reachable engine before ∧
    pending = (before.pass.engine.handIn pending.target).1

/-- The targets that were started, and those that the stage has still to start, are those of the
scan. -/
def FollowsScan (engine : Engine) (history : PassHistory) (run : PassRun) : Prop :=
  let targets := history.started.map PendingTarget.target
  let scanned (rest : List TypeDeclaration) := ∃ scan, Reachable engine scan ∧
    scan.stage = .scanning ∧
      targets ++ rest.map (fun bean => .observer bean.name) = scan.scannedTargets
  match run.stage with
  | .begun => history.started = []
  | .loading => history.finished = [] ∧
      targets = [.loader engine.configuration.loaderContract]
  | .scanning | .aborted => run.pass.inFlight = [] ∧
      targets = [.loader engine.configuration.loaderContract]
  | .generating beans => scanned beans
  | .finished => run.pass.inFlight = [] ∧ scanned []

/-- At least one job may be pending. -/
theorem Order.maxPendingJobs_pos (order : Order engine history run) :
    0 < engine.configuration.maxPendingJobs := by
  rw [← order.configuration]
  exact Configuration.maxPendingJobs_pos_of_validate order.serves.accepted

/-- The window is as wide as the limit of pending jobs. -/
theorem Order.window_eq (order : Order engine history run) :
    run.pass.window = engine.configuration.maxPendingJobs := by
  have positive := order.maxPendingJobs_pos
  rw [GenerationPass.window, order.configuration]
  omega

/-- A move of a task leaves the targets of the pass as they are. -/
theorem Order.moveTask (order : Order engine history run) (member : task ∈ run.scheduler.tasks)
    (possible : run.moveTask? task = some next) :
    Order engine history next ∧ next.stage = run.stage ∧
      next.pass.inFlight = run.pass.inFlight := by
  obtain ⟨moved, moves, rfl⟩ := Option.map_eq_some_iff.1 possible
  refine ⟨?_, rfl, rfl⟩
  constructor
  case serves => exact order.serves.move member moves
  case known =>
    intro pending waits job state
    obtain ⟨found, known, target⟩ := order.known pending waits job state
    obtain ⟨-, move⟩ := SchedulerRun.Move.of_moveTask? order.serves.run.scheduler member moves
    cases move with
    | enter _ _ _ same =>
        exact ⟨found, (congrArg (Scheduler.job? · job) same).trans known, target⟩
    | step action step =>
        obtain ⟨after, inNext, kept⟩ := step.keeps order.serves.run.scheduler known
        exact ⟨after, inNext, kept.1.trans target⟩
  case configuration => exact order.configuration
  case started => exact order.started
  case reported => exact order.reported
  case window => exact order.window
  case handed => exact order.handed

/-- A target that is started comes last. -/
theorem Order.handIn (order : Order engine history run) (reached : Reachable engine run)
    (room : run.pass.inFlight.length < engine.configuration.maxPendingJobs)
    (target : Target) (stage : PassStage) :
    ∃ pending, pending.target = target ∧
      run.remember { run with pass := run.pass.handIn target, stage } history =
        { history with started := history.started ++ [pending] } ∧
      Order engine { history with started := history.started ++ [pending] }
        { run with pass := run.pass.handIn target, stage } := by
  obtain ⟨own, running, kept⟩ := order.serves.known_handIn target
  have inFlight : (run.pass.handIn target).inFlight =
      run.pass.inFlight ++ [(run.pass.engine.handIn target).1] := rfl
  refine ⟨(run.pass.engine.handIn target).1, own, remember_of_started inFlight, ?_⟩
  constructor
  case serves => exact order.serves.handIn target
  case configuration =>
    exact (Engine.handIn_cases run.pass.engine target).1.trans order.configuration
  case known =>
    intro pending waits job state
    rw [inFlight] at waits
    rcases List.mem_append.1 waits with old | new
    · obtain ⟨found, known, same⟩ := order.known pending old job state
      obtain ⟨after, inNext, unchanged⟩ := kept job found known
      exact ⟨after, inNext, unchanged.trans same⟩
    · rw [List.mem_singleton.1 new] at state ⊢
      rw [own]
      exact running job state
  case started =>
    rw [inFlight, order.started, List.append_assoc]
  case reported => exact order.reported
  case window =>
    rw [inFlight, List.length_append]
    exact room
  case handed =>
    intro pending starts
    rcases List.mem_append.1 starts with old | new
    · exact order.handed pending old
    · refine ⟨run, reached, ?_⟩
      rw [List.mem_singleton.1 new, own]

/-- The target that is finished was the first of those in flight. -/
theorem Order.finishOldest (order : Order engine history run)
    (possible : run.pass.finishOldest? = some pass) (stage : PassStage) :
    ∃ oldest result, run.pass.inFlight = oldest :: pass.inFlight ∧
      run.remember { run with pass, stage } history =
        { history with finished := history.finished ++ [(oldest, result)] } ∧
      Order engine { history with finished := history.finished ++ [(oldest, result)] }
        { run with pass, stage } := by
  obtain ⟨oldest, rest, inFlight, -, rfl⟩ := GenerationPass.finishOldest?_eq_some possible
  have same : run.pass.engine.SameRun (run.pass.engine.finishTarget oldest {}).2 :=
    Engine.sameRun_finishTarget
  refine ⟨oldest, _, inFlight, remember_of_finished inFlight rfl, ?_⟩
  constructor
  case serves => exact order.serves.finishTarget oldest
  case configuration => exact same.configuration.trans order.configuration
  case known =>
    intro pending waits job state
    obtain ⟨found, known, target⟩ :=
      order.known pending (inFlight ▸ List.mem_cons_of_mem oldest waits) job state
    exact ⟨found, (congrArg (Scheduler.job? · job) same.scheduler).trans known, target⟩
  case started =>
    rw [order.started, inFlight, List.map_append, List.append_assoc]
    rfl
  case reported =>
    rw [List.map_append, ← order.reported]
    rfl
  case window =>
    have window := order.window
    rw [inFlight] at window
    exact Nat.le_of_succ_le window
  case handed => exact order.handed

/-- A scan and the end of the pass neither start nor finish a target. -/
theorem Order.congr (order : Order engine history run) (pass : GenerationPass) (stage : PassStage)
    (serves : pass.engine.Serves)
    (configuration : pass.engine.configuration = run.pass.engine.configuration)
    (scheduler : pass.engine.run.scheduler = run.pass.engine.run.scheduler)
    (outcomes : pass.report.outcomes = run.pass.report.outcomes)
    (inFlight : pass.inFlight = run.pass.inFlight) :
    Order engine history { run with pass, stage } := by
  constructor
  case serves => exact serves
  case configuration => exact configuration.trans order.configuration
  case known =>
    intro pending waits job state
    obtain ⟨found, known, target⟩ := order.known pending (inFlight ▸ waits) job state
    exact ⟨found, (congrArg (Scheduler.job? · job) scheduler).trans known, target⟩
  case started => exact order.started.trans (congrArg _ inFlight.symm)
  case reported => exact outcomes.trans order.reported
  case window => exact inFlight ▸ order.window
  case handed => exact order.handed

/-- A step of the thread of the pass keeps the order. -/
theorem Order.movePass (order : Order engine history run) (follows : FollowsScan engine history run)
    (reached : Reachable engine run) (goes : ThreadStep run next) :
    Order engine (run.remember next history) next ∧
      FollowsScan engine (run.remember next history) next := by
  cases goes with
  | startLoader stage =>
      simp only [FollowsScan, stage] at follows
      have none := order.started
      rw [follows] at none
      obtain ⟨unfinished, idle⟩ := List.append_eq_nil_iff.1 none.symm
      have room : run.pass.inFlight.length < engine.configuration.maxPendingJobs := by
        rw [idle]
        exact order.maxPendingJobs_pos
      obtain ⟨pending, own, remembered, after⟩ := order.handIn reached room
        (.loader run.pass.engine.configuration.loaderContract) .loading
      rw [remembered]
      refine ⟨after, List.map_eq_nil_iff.1 unfinished, ?_⟩
      rw [follows, List.nil_append, List.map_singleton, own, order.configuration]
  | finishLoader stage finishes =>
      simp only [FollowsScan, stage] at follows
      obtain ⟨unfinished, targets⟩ := follows
      obtain ⟨oldest, result, inFlight, remembered, after⟩ :=
        order.finishOldest finishes .scanning
      rw [remembered]
      refine ⟨after, ?_, targets⟩
      have alone := targets
      rw [order.started, unfinished, inFlight] at alone
      simp only [List.map_nil, List.nil_append, List.map_cons, List.cons.injEq] at alone
      exact List.map_eq_nil_iff.1 alone.2
  | scan stage =>
      simp only [FollowsScan, stage] at follows
      obtain ⟨idle, targets⟩ := follows
      let scanned :=
        { run with pass := run.pass.scan.2, stage := .afterScan run.pass.window run.pass.scan.1 }
      have same : run.remember scanned history = history := remember_of_inFlight rfl
      rw [same]
      refine ⟨order.congr run.pass.scan.2 _ (order.serves.scan _).2 rfl rfl rfl rfl, ?_⟩
      unfold PassStage.afterScan
      split
      case isTrue => exact ⟨idle, targets⟩
      case isFalse =>
        refine ⟨run, reached, stage, ?_⟩
        rw [targets, scannedTargets, order.configuration]
        rfl
  | @startBean bean beans stage room =>
      simp only [FollowsScan, stage] at follows
      obtain ⟨scan, scanReached, scanStage, targets⟩ := follows
      rw [order.window_eq] at room
      obtain ⟨pending, own, remembered, after⟩ := order.handIn reached
        (Nat.lt_of_le_of_ne order.window room) (.observer bean.name) (.generating beans)
      rw [remembered]
      refine ⟨after, scan, scanReached, scanStage, ?_⟩
      rw [List.map_append, List.append_assoc, List.map_singleton, own]
      exact targets
  | finishBean stage _ finishes =>
      obtain ⟨oldest, result, inFlight, remembered, after⟩ :=
        order.finishOldest finishes run.stage
      rw [remembered]
      refine ⟨after, ?_⟩
      simp only [FollowsScan, stage] at follows ⊢
      exact follows
  | close stage idle =>
      simp only [FollowsScan, stage] at follows
      have same : run.remember { run with pass := run.pass.close, stage := .finished } history =
          history := remember_of_inFlight rfl
      rw [same]
      have closed : run.pass.close.engine.Serves :=
        order.serves.congr (by constructor <;> rfl)
      exact ⟨order.congr run.pass.close _ closed rfl rfl rfl rfl, idle, follows⟩

/-- A step of a task or of the thread of the pass keeps the order. -/
theorem Order.step (order : Order engine history run) (follows : FollowsScan engine history run)
    (reached : Reachable engine run) (possible : run.step? action = some next) :
    Order engine (run.remember next history) next ∧
      FollowsScan engine (run.remember next history) next := by
  cases Step.of_step? possible with
  | task member moves =>
      obtain ⟨after, stage, inFlight⟩ := order.moveTask member moves
      rw [remember_of_inFlight inFlight]
      refine ⟨after, ?_⟩
      simp only [FollowsScan, stage, inFlight] at follows ⊢
      exact follows
  | thread goes => exact order.movePass follows reached goes

/-- The targets are started as planned, and the beans as they were scanned. -/
theorem Remembered.order (serves : engine.Serves) (reached : Remembered engine history run) :
    Order engine history run ∧ FollowsScan engine history run := by
  induction reached with
  | begin =>
      refine ⟨?_, rfl⟩
      constructor
      case serves => exact serves
      case configuration => rfl
      case known => exact nofun
      case started => rfl
      case reported => rfl
      case window => exact Nat.zero_le _
      case handed => exact nofun
  | step before possible ih => exact ih.1.step ih.2 before.reachable possible

/-- Every run can be remembered. -/
theorem Reachable.exists_remembered (reached : Reachable engine run) :
    ∃ history, Remembered engine history run := by
  induction reached with
  | begin => exact ⟨{}, .begin⟩
  | step _ possible ih =>
      obtain ⟨history, before⟩ := ih
      exact ⟨_, before.step possible⟩

/-- An engine still serves in the middle of a pass. -/
theorem Reachable.serves (serves : engine.Serves) (reached : Reachable engine run) :
    run.pass.engine.Serves := by
  obtain ⟨history, remembered⟩ := reached.exists_remembered
  exact (remembered.order serves).1.serves

/-- A pass works with the configuration of its engine. -/
theorem Reachable.configuration_eq (serves : engine.Serves) (reached : Reachable engine run) :
    run.pass.engine.configuration = engine.configuration := by
  obtain ⟨history, remembered⟩ := reached.exists_remembered
  exact (remembered.order serves).1.configuration

/-- Without a task in the scheduler, nothing is left to wait for. -/
theorem Order.isReady_of_idle (order : Order engine history run)
    (idle : run.scheduler.tasks = []) :
    ∀ pending ∈ run.pass.inFlight, pending.state.isReady run.pass.engine = true := by
  intro pending waits
  cases state : pending.state with
  | alreadyGenerated | cached => rfl
  | running job =>
      have valid := order.serves.run.scheduler
      obtain ⟨found, known, -⟩ := order.known pending waits job state
      have ended : found.state.isTerminal = true := by
        rw [JobState.isTerminal_iff, ← Bool.not_eq_true]
        intro running
        obtain ⟨task, member, -⟩ := valid.bound job found known running
        rw [show run.pass.engine.run.scheduler.tasks = [] from idle] at member
        cases member
      have settled : found.outcome.isSome = true :=
        (valid.settled job found known).symm.trans ended
      have known : run.pass.engine.run.scheduler.job? job = some found := known
      simp only [PendingState.isReady, SchedulerRun.outcome?, known, Option.bind_some, settled]

/-- As long as there are tasks, one of them can move. -/
theorem exists_moveTask (serves : run.pass.engine.Serves) (busy : run.scheduler.tasks ≠ []) :
    ∃ task ∈ run.scheduler.tasks, ∃ next, run.moveTask? task = some next ∧
      run.step? (.task task.job) = some next := by
  obtain ⟨task, member, moves⟩ := serves.run.exists_movable busy
  obtain ⟨moved, moves⟩ := Option.isSome_iff_exists.1 moves
  have found : run.scheduler.task? task.job = some task := serves.run.scheduler.task?_eq member
  obtain ⟨next, possible⟩ : ∃ next, run.moveTask? task = some next :=
    ⟨_, by rw [moveTask?, moves, Option.map_some]⟩
  exact ⟨task, member, next, possible, by rw [step?, found, Option.bind_some, possible]⟩

/-- As long as a pass is not over, a task or its thread can move. -/
theorem Order.exists_step (order : Order engine history run)
    (follows : FollowsScan engine history run) (unfinished : run.stage.isOver = false) :
    ∃ action next, run.step? action = some next := by
  by_cases idle : run.scheduler.tasks = []
  case neg =>
    obtain ⟨task, -, next, -, possible⟩ := exists_moveTask order.serves idle
    exact ⟨.task task.job, next, possible⟩
  case pos =>
    have handedOver : run.scheduler.tasks.all Task.isHandedOver = true := by simp [idle]
    have ready := order.isReady_of_idle idle
    have finishes (waiting : run.pass.inFlight ≠ []) :
        ∃ pass, run.pass.finishOldest? = some pass := by
      obtain ⟨oldest, rest, inFlight⟩ := List.exists_cons_of_ne_nil waiting
      refine ⟨run.pass.finishOldest, ?_⟩
      rw [GenerationPass.finishOldest?, inFlight]
      exact if_pos (ready oldest (by simp [inFlight]))
    -- No task is left, so whatever the thread waits for is ready, and its stage alone decides.
    suffices moves : run.movePass?.isSome = true by
      obtain ⟨next, moves⟩ := Option.isSome_iff_exists.1 moves
      exact ⟨.pass, next, by rw [step?, if_pos handedOver, moves]⟩
    cases stage : run.stage with
    | begun | scanning => simp [movePass?, stage]
    | finished | aborted =>
        rw [stage] at unfinished
        cases unfinished
    | loading =>
        simp only [FollowsScan, stage] at follows
        have waiting : run.pass.inFlight ≠ [] := by
          intro none
          have targets := follows.2
          rw [order.started, follows.1, none] at targets
          cases targets
        obtain ⟨pass, finishes⟩ := finishes waiting
        simp [movePass?, stage, finishes]
    | generating beans =>
        cases beans with
        | nil =>
            by_cases none : run.pass.inFlight = []
            case pos => simp [movePass?, stage, none]
            case neg =>
              obtain ⟨pass, finishes⟩ := finishes none
              simp [movePass?, stage, none, finishes]
        | cons bean beans =>
            by_cases full : run.pass.inFlight.length = run.pass.window
            case neg => simp [movePass?, stage, full]
            case pos =>
              have waiting : run.pass.inFlight ≠ [] := by
                intro none
                have positive := order.maxPendingJobs_pos
                rw [order.window_eq, none] at full
                exact absurd full (Nat.ne_of_lt positive)
              obtain ⟨pass, finishes⟩ := finishes waiting
              simp [movePass?, stage, full, finishes]

/-- A pass is nearer to its end when its stage is later, then when it has fewer targets to start
and to finish, and then when its tasks have fewer moves before them. -/
def rank (run : PassRun) : ℕ ×ₗ ℕ ×ₗ ℕ :=
  toLex (run.stage.stepsLeft,
    toLex (2 * run.stage.remaining.length + run.pass.inFlight.length,
      run.pass.engine.run.movesLeft))

/-- The rank counts the stages first, then the targets, then the work of the scheduler. -/
theorem rank_lt_iff : next.rank < run.rank ↔
    next.stage.stepsLeft < run.stage.stepsLeft ∨
      next.stage.stepsLeft = run.stage.stepsLeft ∧
        (2 * next.stage.remaining.length + next.pass.inFlight.length <
            2 * run.stage.remaining.length + run.pass.inFlight.length ∨
          2 * next.stage.remaining.length + next.pass.inFlight.length =
              2 * run.stage.remaining.length + run.pass.inFlight.length ∧
            next.pass.engine.run.movesLeft < run.pass.engine.run.movesLeft) := by
  simp only [rank, Prod.Lex.toLex_lt_toLex]

/-- A target that is finished lowers the rank. -/
theorem rank_lt_of_finishOldest? (finishes : run.pass.finishOldest? = some pass) :
    ({ run with pass } : PassRun).rank < run.rank := by
  obtain ⟨oldest, rest, inFlight, -, rfl⟩ := GenerationPass.finishOldest?_eq_some finishes
  refine rank_lt_iff.2 (.inr ⟨rfl, .inl ?_⟩)
  rw [inFlight]
  exact Nat.lt_succ_self _

/-- Each step of the thread of a pass brings it nearer to its end. -/
theorem ThreadStep.rank_lt (goes : ThreadStep run next) : next.rank < run.rank := by
  cases goes with
  | startLoader stage => exact rank_lt_iff.2 (.inl (by rw [stage]; exact Nat.lt_succ_self 3))
  | finishLoader stage => exact rank_lt_iff.2 (.inl (by rw [stage]; exact Nat.lt_succ_self 2))
  | scan stage =>
      refine rank_lt_iff.2 (.inl ?_)
      rw [stage]
      unfold PassStage.afterScan
      split
      case isTrue => exact Nat.zero_lt_succ 1
      case isFalse => exact Nat.lt_succ_self 1
  | @startBean bean beans stage =>
      refine rank_lt_iff.2 (.inr ⟨by rw [stage]; rfl, .inl ?_⟩)
      have inFlight : (run.pass.handIn (.observer bean.name)).inFlight.length =
          run.pass.inFlight.length + 1 := List.length_append
      rw [stage, inFlight]
      simp only [PassStage.remaining, List.length_cons]
      omega
  | finishBean _ _ finishes => exact rank_lt_of_finishOldest? finishes
  | close stage => exact rank_lt_iff.2 (.inl (by rw [stage]; exact Nat.zero_lt_one))

/-- Each step lowers the rank. -/
theorem rank_lt_of_step? (serves : run.pass.engine.Serves)
    (possible : run.step? action = some next) : next.rank < run.rank := by
  cases Step.of_step? possible with
  | task member moves =>
      obtain ⟨moved, taskMoves, rfl⟩ := Option.map_eq_some_iff.1 moves
      have valid := serves.run.scheduler
      obtain ⟨-, move⟩ := SchedulerRun.Move.of_moveTask? valid member taskMoves
      exact rank_lt_iff.2 (.inr ⟨rfl, .inr ⟨rfl, move.movesLeft_lt valid member⟩⟩)
  | thread goes => exact goes.rank_lt

end PassRun

/-- An engine that is used serves. -/
theorem Engine.IsUsed.serves {engine : Engine} (used : engine.IsUsed) : engine.Serves := by
  induction used with
  | start started => exact .start started
  | scan _ marker ih => exact (ih.scan marker).2
  | generate _ target ih => exact ih.generate target
  | pass _ reached _ ih => exact reached.serves ih
  | touch _ files ih => exact ih.congr (by constructor <;> rfl)

namespace PassRun

variable {engine : Engine} {run next : PassRun} {history : PassHistory}

/-- A pass does not go on for ever. -/
theorem exists_stop (serves : engine.Serves) (states : ℕ → PassRun)
    (first : states 0 = begin engine) :
    ∃ count, ∀ action, (states count).step? action ≠ some (states (count + 1)) := by
  by_contra endless
  have steps : ∀ count, ∃ action, (states count).step? action = some (states (count + 1)) := by
    simpa using endless
  have reached : ∀ count, Reachable engine (states count) := by
    intro count
    induction count with
    | zero => exact first ▸ .begin
    | succ count ih =>
        obtain ⟨action, possible⟩ := steps count
        exact ih.step possible
  -- The ranks of the states would fall for ever.
  obtain ⟨count, stops⟩ := WellFounded.not_rel_apply_succ (r := (· < ·))
    fun count => (states count).rank
  obtain ⟨action, possible⟩ := steps count
  exact stops (rank_lt_of_step? ((reached count).serves serves) possible)

/-- What the stage of a pass says about the size of its window: it was compared after the scan. -/
def JudgesWindow (engine : Engine) : PassStage → Prop
  | .begun | .loading | .scanning => True
  | .generating _ | .finished =>
      engine.configuration.maxPendingJobs ≤ GenerationPass.maximalWindow
  | .aborted => GenerationPass.maximalWindow < engine.configuration.maxPendingJobs

/-- A pass that is over has finished when its window could be reserved. -/
theorem JudgesWindow.finished_iff {stage : PassStage} (judges : JudgesWindow engine stage)
    (ended : stage.isOver = true) :
    stage = .finished ↔ engine.configuration.maxPendingJobs ≤ GenerationPass.maximalWindow := by
  cases stage with
  | finished => exact iff_of_true rfl judges
  | aborted => exact iff_of_false nofun (Nat.not_le_of_lt judges)
  | begun | loading | scanning | generating => cases ended

/-- The window is compared once, and no later step forgets it. -/
theorem Order.judgesWindow_movePass (order : Order engine history run)
    (judges : JudgesWindow engine run.stage) (goes : ThreadStep run next) :
    JudgesWindow engine next.stage := by
  cases goes with
  | startLoader | finishLoader => trivial
  | scan =>
      simp only [PassStage.afterScan, order.window_eq]
      split
      case isTrue exceeded => exact exceeded
      case isFalse fits => exact Nat.le_of_not_lt fits
  | startBean stage | close stage => rwa [stage] at judges
  | finishBean => exact judges

/-- Whether the window fits is judged once, after the scan. -/
theorem Reachable.judgesWindow (serves : engine.Serves) (reached : Reachable engine run) :
    JudgesWindow engine run.stage := by
  induction reached with
  | begin => trivial
  | step before possible ih =>
      obtain ⟨history, remembered⟩ := before.exists_remembered
      have order := (remembered.order serves).1
      cases Step.of_step? possible with
      | task member moves =>
          obtain ⟨-, stage, -⟩ := order.moveTask member moves
          exact stage ▸ ih
      | thread goes => exact order.judgesWindow_movePass ih goes

/-- What some step keeps, as long as a pass is not over, can be kept until its end. -/
theorem Reachable.exists_end_keeping {kept : PassRun → Prop} (serves : engine.Serves)
    (steps : ∀ history run, Remembered engine history run → kept run → run.stage.isOver = false →
      ∃ action next, run.step? action = some next ∧ kept next)
    (reached : Reachable engine run) (holds : kept run) :
    ∃ actions last, run.run? actions = some last ∧ last.stage.isOver = true ∧ kept last := by
  induction measured : run.rank using WellFoundedLT.induction generalizing run with
  | ind rank ih =>
      cases ended : run.stage.isOver with
      | true => exact ⟨[], run, rfl, ended, holds⟩
      | false =>
        obtain ⟨history, remembered⟩ := reached.exists_remembered
        obtain ⟨action, next, possible, after⟩ := steps history run remembered holds ended
        have nearer := rank_lt_of_step? (reached.serves serves) possible
        obtain ⟨actions, last, ran, ends⟩ :=
          ih _ (measured ▸ nearer) (reached.step possible) after rfl
        exact ⟨action :: actions, last, Option.bind_eq_some_iff.2 ⟨next, possible, ran⟩, ends⟩

/-- Whatever a pass has done, it can go on until it is over. -/
theorem Reachable.exists_end (serves : engine.Serves) (reached : Reachable engine run) :
    ∃ actions last, run.run? actions = some last ∧ last.stage.isOver = true := by
  obtain ⟨actions, last, ran, ended, -⟩ := reached.exists_end_keeping serves
    (fun history run remembered _ unfinished => by
      obtain ⟨order, follows⟩ := remembered.order serves
      obtain ⟨action, next, possible⟩ := order.exists_step follows unfinished
      exact ⟨action, next, possible, trivial⟩) trivial
  exact ⟨actions, last, ran, ended⟩

/-- Where the places of its window can be reserved, a pass can go on until it has its report. -/
theorem Reachable.exists_finished (serves : engine.Serves)
    (fits : engine.configuration.maxPendingJobs ≤ GenerationPass.maximalWindow)
    (reached : Reachable engine run) :
    ∃ actions last, run.run? actions = some last ∧ last.stage = .finished := by
  obtain ⟨actions, last, ran, ended⟩ := reached.exists_end serves
  have judges := (reached.steps ran).judgesWindow serves
  exact ⟨actions, last, ran, (judges.finished_iff ended).2 fits⟩

/-- The scan names no bean twice. -/
theorem nodup_scannedTargets (serves : run.pass.engine.Serves) : run.scannedTargets.Nodup := by
  have once := (serves.scan run.pass.engine.configuration.annotations.observes).1
  have apart := Target.nodup_loader_observers
    run.pass.engine.configuration.loaderContract once
  rw [ScanOutcome.typeNames, List.map_map] at apart
  exact apart

/-- A pass is over after some steps, whatever the order in which its jobs end: it can go on until
then, and it cannot go on for ever. No more targets than jobs may be pending are started and not
finished. A pass that is over has a report exactly where the places of its window can be reserved.
Each target of the scan was then started and finished once, and the report lists them in the order
of the scan with their results. Elsewhere the pass is aborted with the loader alone finished. -/
theorem pass_ends_in_order (used : engine.IsUsed) :
    (∀ states : ℕ → PassRun, states 0 = begin engine →
      ∃ count, ∀ action, (states count).step? action ≠ some (states (count + 1))) ∧
    ∀ history run, Remembered engine history run →
      (run.stage.isOver = false → ∃ action next, run.step? action = some next) ∧
      history.started.length ≤ history.finished.length + engine.configuration.maxPendingJobs ∧
      (run.stage.isOver = true → (run.stage = .finished ↔
        engine.configuration.maxPendingJobs ≤ GenerationPass.maximalWindow)) ∧
      (run.stage = .aborted → history.finished.map Prod.fst = history.started ∧
        history.started.map PendingTarget.target =
          [.loader engine.configuration.loaderContract]) ∧
      (run.stage = .finished →
        history.finished.map Prod.fst = history.started ∧
        (∀ pending ∈ history.started, ∃ before, Reachable engine before ∧
          pending = (before.pass.engine.handIn pending.target).1) ∧
        run.pass.report.outcomes = history.finished.map (fun entry => (entry.1.target, entry.2)) ∧
        ∃ scan, Reachable engine scan ∧ scan.stage = .scanning ∧ scan.scannedTargets.Nodup ∧
          run.pass.report.outcomes.map Prod.fst = scan.scannedTargets) := by
  refine ⟨exists_stop used.serves, fun history run remembered => ?_⟩
  obtain ⟨order, follows⟩ := remembered.order used.serves
  have started := order.started
  refine ⟨order.exists_step follows, ?_,
    (remembered.reachable.judgesWindow used.serves).finished_iff, fun aborted => ?_, fun done => ?_⟩
  · rw [started, List.length_append, List.length_map]
    exact Nat.add_le_add_left order.window _
  · simp only [FollowsScan, aborted] at follows
    obtain ⟨idle, targets⟩ := follows
    rw [idle, List.append_nil] at started
    exact ⟨started.symm, targets⟩
  · simp only [FollowsScan, done, List.map_nil, List.append_nil] at follows
    obtain ⟨idle, scan, reached, scanning, targets⟩ := follows
    rw [idle, List.append_nil] at started
    refine ⟨started.symm, order.handed, order.reported, scan, reached, scanning,
      nodup_scannedTargets (reached.serves used.serves), ?_⟩
    rw [order.reported, List.map_map, ← targets, started, List.map_map]
    rfl

/-- The bean that got no permit is reported in its place too. -/
theorem lateRelease_ends_in_order : ∃ engine run scan, engine.IsUsed ∧ Reachable engine run ∧
    run.stage = .finished ∧ Reachable engine scan ∧ scan.stage = .scanning ∧
      run.pass.report.outcomes.map Prod.fst = scan.scannedTargets ∧
        .observer "shop.Orders" ∈ scan.scannedTargets := by
  obtain ⟨engine, run, started, reached, done, -, failures⟩ := lateRelease_ends
  obtain ⟨history, remembered⟩ := reached.exists_remembered
  obtain ⟨-, ends⟩ := pass_ends_in_order (.start started)
  obtain ⟨-, -, -, -, finished⟩ := ends history run remembered
  obtain ⟨-, -, -, scan, scanReached, scanning, -, targets⟩ := finished done
  refine ⟨engine, run, scan, .start started, reached, done, scanReached, scanning, targets, ?_⟩
  have failed : (.observer "shop.Orders", .scheduler (.poolExhausted 1 1)) ∈
      run.pass.report.failures := failures ▸ List.mem_singleton_self _
  obtain ⟨⟨target, result⟩, reported, same⟩ := List.mem_filterMap.1 failed
  rw [← targets]
  refine List.mem_map.2 ⟨_, reported, ?_⟩
  cases result <;> cases same
  rfl

/-- More jobs may be pending than a window has places. -/
def unreservable : Configuration :=
  { narrow with maxPendingJobs := 1152921504606846976 }

/-- The job of the loader gives its permit back before its result is taken. -/
def loaderAlone : List PassAction :=
  .pass :: List.replicate 14 (.task 0) ++ [.pass, .pass]

/-- With an accepted configuration a pass may be over without a report, although each of its jobs
got a permit: the bean is never started. The call that generates all targets is stopped there. -/
theorem unreservable_aborts : ∃ engine run,
    Engine.start unreservable oneBean {} .memory = .ok engine ∧ Reachable engine run ∧
      (∀ request ∈ run.requests, request.left ≠ 0) ∧ (∀ action, run.step? action = none) ∧
      run.stage = .aborted ∧
      run.pass.report.outcomes.map Prod.fst = [.loader unreservable.loaderContract] ∧
      engine.generateAll.1 = .error .unrepresentable := by
  have computed : ((Engine.start unreservable oneBean {} .memory).toOption.bind fun engine =>
      (PassRun.begin engine).run? loaderAlone).map (fun run =>
        (run.stage, run.requests.map PermitRequest.left, run.scheduler.tasks.length,
          run.pass.report.outcomes.map Prod.fst)) =
      some (.aborted, [1152921504606846976], 0, [.loader unreservable.loaderContract]) := by
    decide +kernel
  obtain ⟨run, found, view⟩ := Option.map_eq_some_iff.1 computed
  obtain ⟨engine, starts, ran⟩ := Option.bind_eq_some_iff.1 found
  have started := toOption_eq_some_iff.1 starts
  simp only [Prod.mk.injEq, List.length_eq_zero_iff] at view
  obtain ⟨stage, left, idle, targets⟩ := view
  refine ⟨engine, run, started, Reachable.begin.steps ran, fun request requested none => ?_,
    fun action => ?_, stage, targets, (Engine.generateAll_unrepresentable_iff engine).2 ?_⟩
  · have asked := List.mem_map_of_mem (f := PermitRequest.left) requested
    rw [left, none] at asked
    cases List.mem_singleton.1 asked
  · cases action with
    | task job => simp [step?, Scheduler.task?, idle]
    | pass => simp [step?, movePass?, stage]
  · rw [(Engine.permits_of_start started).1]
    decide

end PassRun

end BusBridge
