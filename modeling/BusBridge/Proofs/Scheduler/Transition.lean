/-
This file lists what one step of a task can do, with the condition and the result of each case.
Every invariant of a scheduler is proved from these cases.
-/

import BusBridge.Scheduler.Step

namespace BusBridge.Scheduler

/-- The cases in which a step of a task is possible. -/
inductive TaskStep (scheduler : Scheduler) (task : Task) : Action → Scheduler → Prop where
  | refuse (stage : task.stage = .admitted) (raised : scheduler.isShutDown = true) :
      TaskStep scheduler task (.checkFlag task.job)
        (scheduler.setStage task.job (.ended (.error (.scheduler .shutDown))))
  | accept (stage : task.stage = .admitted) (down : scheduler.isShutDown = false) :
      TaskStep scheduler task (.checkFlag task.job) (scheduler.setStage task.job .unpermitted)
  | exhaust (stage : task.stage = .unpermitted) (exhausted : scheduler.permits = 0) :
      TaskStep scheduler task (.acquirePermit task.job)
        (scheduler.setStage task.job (.ended (.error (.scheduler scheduler.exhaustion))))
  | permit (stage : task.stage = .unpermitted) (available : 0 < scheduler.permits) :
      TaskStep scheduler task (.acquirePermit task.job)
        { scheduler.modifyTask task.job fun task =>
            { task with stage := .permitted, holdsPermit := true } with
          permits := scheduler.permits - 1 }
  | queue (stage : task.stage = .permitted) {flag : ShutdownFlag}
      (accepted : scheduler.pool.execute = .ok flag) :
      TaskStep scheduler task (.enqueue task.job)
        { scheduler.setStage task.job .queued with queue := scheduler.queue ++ [task.job] }
  | reject (stage : task.stage = .permitted) {failure : SchedulerFailure}
      (rejected : scheduler.pool.execute = .error failure) :
      TaskStep scheduler task (.enqueue task.job) (scheduler.setStage task.job .dropped)
  | take (stage : task.stage = .queued) {rest : List JobId}
      (first : scheduler.queue = task.job :: rest)
      (idle : scheduler.busyWorkers < scheduler.pool.size.workerThreads) :
      TaskStep scheduler task (.take task.job)
        { scheduler.modifyTask task.job fun task =>
            { task with stage := .taken, hasWorker := true } with
          queue := rest }
  | interrupt (stage : task.stage = .taken) (raised : scheduler.isShutDown = true) :
      TaskStep scheduler task (.start task.job)
        (scheduler.setStage task.job (.ended (.error (.scheduler .shutDown))))
  | start (stage : task.stage = .taken) (down : scheduler.isShutDown = false) {job : Job}
      (found : scheduler.job? task.job = some job) (starts : job.start.1 = true) :
      TaskStep scheduler task (.start task.job)
        ((scheduler.modifyJob task.job fun job => job.start.2).setStage task.job .started)
  | abandon (stage : task.stage = .taken) (down : scheduler.isShutDown = false)
      (ended : ∀ job, scheduler.job? task.job = some job → job.start.1 = false) :
      TaskStep scheduler task (.start task.job) (scheduler.setStage task.job .dropped)
  | prepareSetup (stage : task.stage = .started) (setup : task.hasSetup = true)
      (first : scheduler.targetOf task.job ∉ scheduler.startedTargets) :
      TaskStep scheduler task (.prepare task.job)
        ({ scheduler with
            startedTargets := scheduler.targetOf task.job :: scheduler.startedTargets }.setStage
          task.job .awaitingContext)
  | skipSetup (stage : task.stage = .started)
      (needless : task.hasSetup = true → scheduler.targetOf task.job ∈ scheduler.startedTargets) :
      TaskStep scheduler task (.prepare task.job) (scheduler.setStage task.job .generating)
  | passContext (stage : task.stage = .awaitingContext) (ready : scheduler.context = .ready) :
      TaskStep scheduler task (.enterContext task.job) (scheduler.setStage task.job .generating)
  | enterContext (stage : task.stage = .awaitingContext) (vacant : scheduler.context = .vacant) :
      TaskStep scheduler task (.enterContext task.job)
        ({ scheduler with context := .occupied }.setStage task.job .settingUp)
  | finishSetup (stage : task.stage = .settingUp) :
      TaskStep scheduler task (.finishSetup task.job)
        ({ scheduler with context := .ready }.setStage task.job .generating)
  | panicSetup (stage : task.stage = .settingUp) (panic : Panic) :
      TaskStep scheduler task (.panicSetup task.job panic)
        ({ scheduler with context := .vacant }.setStage task.job
          (.ended (.error (scheduler.interruption task.job panic.reason))))
  | finishPipeline (stage : task.stage = .generating) (ending : PipelineEnd) :
      TaskStep scheduler task (.finishPipeline task.job ending)
        (scheduler.setStage task.job (.ended (scheduler.outcomeOf task.job ending)))
  | complete {outcome : JobOutcome} (stage : task.stage = .ended outcome) :
      TaskStep scheduler task (.recordOutcome task.job)
        (scheduler.recordOutcome task.job outcome .dropped)
  | drop (stage : task.stage = .dropped) :
      TaskStep scheduler task (.recordOutcome task.job)
        (scheduler.recordOutcome task.job (.error (scheduler.droppedFailure task.job)) .recorded)
  | unlist (stage : task.stage = .recorded) :
      TaskStep scheduler task (.removeEntry task.job)
        ((scheduler.unlist task.job).setStage task.job .unlisted)
  | release (stage : task.stage = .unlisted) :
      TaskStep scheduler task (.releasePermit task.job) (scheduler.releasePermit task)
  | discard (closed : scheduler.pool.isClosed = true) (stage : task.stage = .queued) :
      TaskStep scheduler task (.discard task.job) (scheduler.discard task.job)

/-- The cases in which a step is possible. -/
inductive Step (scheduler : Scheduler) : Action → Scheduler → Prop where
  | join {target : Target} {hasSetup : Bool} {id : JobId}
      (found : scheduler.inFlight? target = some id) :
      Step scheduler (.submit target hasSetup) scheduler
  | add {target : Target} {hasSetup : Bool} (free : scheduler.inFlight? target = none) :
      Step scheduler (.submit target hasSetup) (scheduler.addJob target hasSetup)
  | advance {task : Task} {action : Action} {next : Scheduler} (member : task ∈ scheduler.tasks)
      (step : TaskStep scheduler task action next) : Step scheduler action next
  | raise : Step scheduler .raiseFlag scheduler.raiseFlag
  | close (raised : scheduler.isShutDown = true) :
      Step scheduler .closePool
        { scheduler with pool := { scheduler.pool with isClosed := true } }

/-- Schedulers that share a context set it up one at a time. While the setup is another one's,
the context is lent to it, and regained with or without success. -/
inductive Reachable (size : PoolSize) : Scheduler → Prop where
  | create {scheduler : Scheduler} (created : create size = .ok scheduler) :
      Reachable size scheduler
  | lend {scheduler : Scheduler} (reached : Reachable size scheduler)
      (vacant : scheduler.context = .vacant) :
      Reachable size { scheduler with context := .occupied }
  | regain {scheduler : Scheduler} (reached : Reachable size scheduler)
      (occupied : scheduler.context = .occupied)
      (lent : ∀ task ∈ scheduler.tasks, task.stage ≠ .settingUp) (context : ContextState) :
      Reachable size { scheduler with context }
  | step {scheduler next : Scheduler} {action : Action} (reached : Reachable size scheduler)
      (possible : scheduler.step? action = some next) : Reachable size next

variable {scheduler next : Scheduler} {task : Task} {action : Action} {size : PoolSize}

/-- A task that is found is one of the tasks. -/
theorem mem_of_task? {id : JobId} (found : scheduler.task? id = some task) :
    task ∈ scheduler.tasks ∧ task.job = id :=
  ⟨List.mem_of_find?_eq_some found, by simpa using List.find?_some found⟩

/-- A task that was admitted checks whether the pool is shut down. -/
theorem TaskStep.of_checkFlag (stage : task.stage = .admitted) :
    TaskStep scheduler task (.checkFlag task.job) (scheduler.checkFlag task.job) := by
  unfold Scheduler.checkFlag
  split
  case isTrue raised => exact .refuse stage raised
  case isFalse down => exact .accept stage (Bool.eq_false_iff.2 down)

/-- A task without a permit takes one or is refused. -/
theorem TaskStep.of_acquirePermit (stage : task.stage = .unpermitted) :
    TaskStep scheduler task (.acquirePermit task.job) (scheduler.acquirePermit task.job) := by
  unfold Scheduler.acquirePermit
  split
  case isTrue exhausted => exact .exhaust stage exhausted
  case isFalse available => exact .permit stage (Nat.pos_of_ne_zero available)

/-- A task with a permit is queued. -/
theorem TaskStep.of_enqueue (stage : task.stage = .permitted) :
    TaskStep scheduler task (.enqueue task.job) (scheduler.enqueue task.job) := by
  unfold Scheduler.enqueue
  split
  case h_1 accepted => exact .queue stage accepted
  case h_2 rejected => exact .reject stage rejected

/-- A queued task is taken by a worker. -/
theorem TaskStep.of_take? (stage : task.stage = .queued)
    (possible : scheduler.take? task.job = some next) :
    TaskStep scheduler task (.take task.job) next := by
  unfold Scheduler.take? at possible
  split at possible
  case h_1 => cases possible
  case h_2 id rest queue =>
    split at possible <;> cases possible
    case isTrue first =>
      simp only [Bool.and_eq_true, decide_eq_true_eq] at first
      exact .take stage (first.1 ▸ queue) first.2

/-- A task that was taken starts its job. -/
theorem TaskStep.of_start (stage : task.stage = .taken) :
    TaskStep scheduler task (.start task.job) (scheduler.start task.job) := by
  unfold Scheduler.start
  split
  case isTrue raised => exact .interrupt stage raised
  case isFalse down =>
    have down : scheduler.isShutDown = false := Bool.eq_false_iff.2 down
    split
    case isTrue starts =>
      obtain ⟨job, found, starts⟩ := Option.map_eq_some_iff.1 starts
      exact .start stage down found starts
    case isFalse ended =>
      refine .abandon stage down fun job found => ?_
      simpa [found] using ended

/-- A task that started looks for a setup. -/
theorem TaskStep.of_prepare (stage : task.stage = .started) :
    TaskStep scheduler task (.prepare task.job) (scheduler.prepare task) := by
  simp only [Scheduler.prepare]
  split
  case isTrue first =>
    simp only [Bool.and_eq_true, Bool.not_eq_true', List.contains_eq_mem,
      decide_eq_false_iff_not] at first
    exact .prepareSetup stage first.1 first.2
  case isFalse needless =>
    exact .skipSetup stage (by simpa using needless)

/-- A task with a setup enters the context when it is free. -/
theorem TaskStep.of_enterContext? (stage : task.stage = .awaitingContext)
    (possible : scheduler.enterContext? task.job = some next) :
    TaskStep scheduler task (.enterContext task.job) next := by
  unfold Scheduler.enterContext? at possible
  split at possible <;> cases possible
  case h_1 ready => exact .passContext stage ready
  case h_2 vacant => exact .enterContext stage vacant

/-- A step of a task is one of its cases. -/
theorem TaskStep.of_taskStep? (own : Action.job? action = some task.job)
    (possible : scheduler.taskStep? task action = some next) :
    TaskStep scheduler task action next := by
  cases action <;> cases own <;> simp only [taskStep?] at possible
  case take =>
    split at possible
    case h_1 stage => exact .of_take? stage possible
    case h_2 => cases possible
  case discard =>
    split at possible
    case h_1 stage =>
      split at possible <;> cases possible
      case isTrue closed => exact .discard closed stage
    case h_2 => cases possible
  case recordOutcome =>
    split at possible <;> cases possible
    case h_1 stage => exact .complete stage
    case h_2 stage => exact .drop stage
  case checkFlag =>
    split at possible <;> cases possible
    case h_1 stage => exact .of_checkFlag stage
  case acquirePermit =>
    split at possible <;> cases possible
    case h_1 stage => exact .of_acquirePermit stage
  case enqueue =>
    split at possible <;> cases possible
    case h_1 stage => exact .of_enqueue stage
  case start =>
    split at possible <;> cases possible
    case h_1 stage => exact .of_start stage
  case prepare =>
    split at possible <;> cases possible
    case h_1 stage => exact .of_prepare stage
  case finishSetup =>
    split at possible <;> cases possible
    case h_1 stage => exact .finishSetup stage
  case panicSetup panic =>
    split at possible <;> cases possible
    case h_1 stage => exact .panicSetup stage panic
  case finishPipeline ending =>
    split at possible <;> cases possible
    case h_1 stage => exact .finishPipeline stage ending
  case removeEntry =>
    split at possible <;> cases possible
    case h_1 stage => exact .unlist stage
  case releasePermit =>
    split at possible <;> cases possible
    case h_1 stage => exact .release stage
  case enterContext =>
    split at possible
    case h_1 stage => exact .of_enterContext? stage possible
    case h_2 => cases possible

/-- No task closes the pool. -/
theorem TaskStep.pool_eq (step : TaskStep scheduler task action next) :
    next.pool = scheduler.pool := by
  cases step <;> rfl

/-- A step is one of the cases. -/
theorem Step.of_step? (possible : scheduler.step? action = some next) :
    Step scheduler action next := by
  cases action
  case submit target hasSetup =>
    simp only [step?, submit] at possible
    split at possible <;> cases possible
    case h_1 found => exact .join found
    case h_2 free => exact .add free
  case raiseFlag => cases possible; exact .raise
  case closePool =>
    simp only [step?, closePool?] at possible
    split at possible <;> cases possible
    case isTrue raised => exact .close raised
  all_goals
    simp only [step?, Action.job?, Option.bind_eq_bind, Option.bind_some,
      Option.bind_eq_some_iff] at possible
    obtain ⟨task, found, possible⟩ := possible
    obtain ⟨member, rfl⟩ := mem_of_task? found
    exact .advance member (.of_taskStep? rfl possible)

/-- Every state of a run is reachable. -/
theorem Reachable.run {actions : List Action} (reached : Reachable size scheduler)
    (ran : scheduler.run? actions = some next) : Reachable size next := by
  induction actions generalizing scheduler with
  | nil => cases ran; exact reached
  | cons action rest ih =>
      obtain ⟨middle, possible, ran⟩ := Option.bind_eq_some_iff.1 ran
      exact ih (reached.step possible) ran

end BusBridge.Scheduler
