/-
This file proves which jobs run their setups: of the jobs of a target that bring one, the first that
starts. It is the first job of its target exactly when no other job started without a setup before.
-/

import BusBridge.Proofs.Scan.Firsts
import BusBridge.Proofs.Scheduler.Run
import BusBridge.Proofs.Scheduler.Setup

namespace BusBridge

/-- A job moved from pending to running. -/
structure JobStart where
  job : JobId
  target : Target
  hasSetup : Bool
  deriving DecidableEq, Repr

/-- The starts of a run in their order, those of the jobs whose setups were called, and how many
setups ran to completion in the context. -/
structure StartHistory where
  starts : List JobStart := []
  setups : List JobStart := []
  completed : Nat := 0
  deriving Inhabited

namespace StartHistory

def first? (history : StartHistory) (target : Target) : Option JobStart :=
  history.starts.find? (·.target == target)

def firstWithSetup? (history : StartHistory) (target : Target) : Option JobStart :=
  history.starts.find? fun start => start.hasSetup && start.target == target

def complete (history : StartHistory) : StartHistory :=
  { history with completed := history.completed + 1 }

variable {history : StartHistory} {start : JobStart} {target : Target}

/-- The first start with a setup is a start with a setup. -/
theorem of_firstWithSetup? (found : history.firstWithSetup? target = some start) :
    start ∈ history.starts ∧ start.hasSetup = true ∧ start.target = target := by
  have holds := List.find?_some found
  simp only [Bool.and_eq_true, beq_iff_eq] at holds
  exact ⟨List.mem_of_find?_eq_some found, holds⟩

/-- Later starts do not change which one is the first. -/
theorem firstWithSetup?_append (found : history.firstWithSetup? target = some start)
    (later : List JobStart) :
    ({ history with starts := history.starts ++ later } : StartHistory).firstWithSetup? target =
      some start := by
  simp only [firstWithSetup?] at found ⊢
  rw [List.find?_append, found, Option.some_or]

end StartHistory

namespace Scheduler

def isRunning (scheduler : Scheduler) (id : JobId) : Bool :=
  (scheduler.job? id).any fun job => job.state == .running

def startOf (scheduler : Scheduler) (task : Task) : JobStart :=
  ⟨task.job, scheduler.targetOf task.job, task.hasSetup⟩

/-- A job starts while it moves to running, and its setup is called when it finds the context
vacant. -/
def followed (scheduler next : Scheduler) (history : StartHistory) : Action → StartHistory
  | .start id =>
      if next.isRunning id && !scheduler.isRunning id then
        { history with
          starts := history.starts ++ (scheduler.task? id).toList.map scheduler.startOf }
      else history
  | .enterContext id =>
      if scheduler.context = .vacant then
        { history with
          setups := history.setups ++ (scheduler.task? id).toList.map scheduler.startOf }
      else history
  | .finishSetup _ => history.complete
  | _ => history

/-- A run that remembers its starts and its setups, and those setups of other schedulers that
complete in the context it shares with them. -/
inductive Followed (size : PoolSize) : StartHistory → Scheduler → Prop where
  | create {scheduler : Scheduler} (created : create size = .ok scheduler) :
      Followed size {} scheduler
  | lend {history : StartHistory} {scheduler : Scheduler}
      (reached : Followed size history scheduler) (vacant : scheduler.context = .vacant) :
      Followed size history { scheduler with context := .occupied }
  | regain {history : StartHistory} {scheduler : Scheduler}
      (reached : Followed size history scheduler) (occupied : scheduler.context = .occupied)
      (lent : ∀ task ∈ scheduler.tasks, task.stage ≠ .settingUp) (context : ContextState) :
      Followed size (if context = .ready then history.complete else history)
        { scheduler with context }
  | step {history : StartHistory} {scheduler next : Scheduler} {action : Action}
      (reached : Followed size history scheduler)
      (possible : scheduler.step? action = some next) :
      Followed size (scheduler.followed next history action) next

variable {scheduler next : Scheduler} {task : Task} {action : Action} {size : PoolSize}
  {history later : StartHistory}

/-- A scheduler that is followed is reachable. -/
theorem Followed.reachable (reached : Followed size history scheduler) :
    Reachable size scheduler := by
  induction reached with
  | create created => exact .create created
  | lend _ vacant ih => exact ih.lend vacant
  | regain _ occupied lent context ih => exact ih.regain occupied lent context
  | step _ possible ih => exact ih.step possible

/-- The context is occupied while a job sets up. -/
theorem Reachable.occupied (reached : Reachable size scheduler) (member : task ∈ scheduler.tasks)
    (stage : task.stage = .settingUp) : scheduler.context = .occupied := by
  obtain ⟨_, remembered⟩ := reached.exists_history
  exact remembered.setupInvariant.occupied task member stage

/-- What every step keeps of the starts. A target without a mark has at most one start with a
setup, that of a task which is about to set the mark. -/
structure StartInvariant (history : StartHistory) (scheduler : Scheduler) : Prop where
  begun : ∀ task ∈ scheduler.tasks, task.stage = .started →
    scheduler.startOf task ∈ history.starts
  unmarked : ∀ start ∈ history.starts, start.hasSetup = true →
    start.target ∉ scheduler.startedTargets →
      ∃ task ∈ scheduler.tasks, task.stage = .started ∧ scheduler.startOf task = start
  awaiting : ∀ task ∈ scheduler.tasks, task.stage.awaitsSetup = true →
    history.firstWithSetup? (scheduler.targetOf task.job) = some (scheduler.startOf task)
  setups : ∀ start ∈ history.setups, history.firstWithSetup? start.target = some start
  completed : history.completed = if scheduler.context = .ready then 1 else 0

/-- A task keeps the start that it has. -/
theorem Step.startOf_eq (valid : Invariant size scheduler) (step : Step scheduler action next)
    (member : task ∈ scheduler.tasks) : next.startOf task = scheduler.startOf task := by
  rw [startOf, step.targetOf_eq valid member, startOf]

/-- Tasks that run jobs of one target are one task. -/
theorem Invariant.eq_of_started (valid : Invariant size scheduler) {other : Task}
    (member : task ∈ scheduler.tasks) (alsoMember : other ∈ scheduler.tasks)
    (stage : task.stage = .started) (alsoStage : other.stage = .started)
    (same : scheduler.targetOf other.job = scheduler.targetOf task.job) : other = task := by
  have running : ∀ task ∈ scheduler.tasks, task.stage = .started →
      scheduler.inFlight? (scheduler.targetOf task.job) = some task.job := by
    intro task inTasks stage
    obtain ⟨job, known, admitted⟩ := valid.agrees task inTasks
    rw [stage] at admitted
    have state : job.state = .running := admitted
    rw [targetOf_eq known]
    exact valid.inFlight?_eq known (by rw [state]; rfl)
  have found := running other alsoMember alsoStage
  rw [same, running task member stage] at found
  exact valid.unique member alsoMember (Option.some.inj found).symm

/-- A task that is about to set the mark of its target has the first start with a setup. -/
theorem StartInvariant.firstWithSetup?_eq (kept : StartInvariant history scheduler)
    (valid : Invariant size scheduler) (member : task ∈ scheduler.tasks)
    (stage : task.stage = .started) (setup : task.hasSetup = true)
    (unmarked : scheduler.targetOf task.job ∉ scheduler.startedTargets) :
    history.firstWithSetup? (scheduler.targetOf task.job) = some (scheduler.startOf task) := by
  have known : (history.firstWithSetup? (scheduler.targetOf task.job)).isSome = true :=
    List.find?_isSome.2 ⟨_, kept.begun task member stage, by simp [startOf, setup]⟩
  obtain ⟨first, found⟩ := Option.isSome_iff_exists.1 known
  obtain ⟨inStarts, brings, target⟩ := StartHistory.of_firstWithSetup? found
  obtain ⟨other, alsoMember, alsoStage, rfl⟩ :=
    kept.unmarked first inStarts brings (target ▸ unmarked)
  rw [found, valid.eq_of_started member alsoMember stage alsoStage target]

/-- A task that does not start moves on when the marks and the context agree with what it
becomes. -/
theorem StartInvariant.advance (kept : StartInvariant history scheduler)
    (valid : Invariant size scheduler) (member : task ∈ scheduler.tasks)
    (step : TaskStep scheduler task action next) {change : Task → Task}
    (tasks : next.tasks = (scheduler.modifyTask task.job change).tasks)
    (same : scheduler.startOf (change task) = scheduler.startOf task)
    (starts : later.starts = history.starts)
    (setups : ∀ start ∈ later.setups, start ∈ history.setups ∨
      task.stage.awaitsSetup = true ∧ start = scheduler.startOf task)
    (marks : scheduler.startedTargets ⊆ next.startedTargets)
    (begun : (change task).stage ≠ .started)
    (marked : task.stage = .started → task.hasSetup = true →
      scheduler.targetOf task.job ∈ next.startedTargets)
    (awaiting : (change task).stage.awaitsSetup = true →
      history.firstWithSetup? (scheduler.targetOf task.job) = some (scheduler.startOf task))
    (completed : later.completed = if next.context = .ready then 1 else 0) :
    StartInvariant later next := by
  have whole : Step scheduler action next := .advance member step
  have inNext : ∀ other, other ∈ next.tasks ↔
      other = change task ∨ other ∈ scheduler.tasks ∧ other.job ≠ task.job := by
    intro other
    rw [tasks, valid.mem_modifyTask member]
  have job : (change task).job = task.job := congrArg JobStart.job same
  have target : next.targetOf (change task).job = scheduler.targetOf task.job := by
    rw [job, whole.targetOf_eq valid member]
  -- No job starts in this step, so the first starts are those of before.
  have found : ∀ target, later.firstWithSetup? target = history.firstWithSetup? target := by
    intro target
    rw [StartHistory.firstWithSetup?, starts, StartHistory.firstWithSetup?]
  constructor
  case begun =>
    intro other inTasks stage
    rcases (inNext other).1 inTasks with rfl | ⟨before, -⟩
    · exact absurd stage begun
    · rw [whole.startOf_eq valid before, starts]
      exact kept.begun other before stage
  case unmarked =>
    intro start inStarts brings fresh
    rw [starts] at inStarts
    obtain ⟨other, before, stage, rfl⟩ :=
      kept.unmarked start inStarts brings fun mark => fresh (marks mark)
    refine ⟨other, (inNext other).2 (.inr ⟨before, fun own => ?_⟩), stage,
      whole.startOf_eq valid before⟩
    obtain rfl := valid.unique member before own
    exact fresh (marked stage brings)
  case awaiting =>
    intro other inTasks stage
    rcases (inNext other).1 inTasks with rfl | ⟨before, -⟩
    · have start : next.startOf (change task) = scheduler.startOf task := by
        rw [startOf, target, ← same, startOf, job]
      rw [found, target, start]
      exact awaiting stage
    · rw [found, whole.targetOf_eq valid before, whole.startOf_eq valid before]
      exact kept.awaiting other before stage
  case setups =>
    intro start inSetups
    rw [found]
    rcases setups start inSetups with before | ⟨waits, rfl⟩
    · exact kept.setups start before
    · exact kept.awaiting task member waits
  case completed => exact completed

/-- A task that starts is the only one of its target that runs. -/
theorem StartInvariant.start (kept : StartInvariant history scheduler)
    (valid : Invariant size scheduler) (member : task ∈ scheduler.tasks)
    (stage : task.stage = .taken) (step : TaskStep scheduler task action next)
    (tasks : next.tasks = (scheduler.setStage task.job .started).tasks)
    (marks : next.startedTargets = scheduler.startedTargets)
    (context : next.context = scheduler.context) :
    StartInvariant { history with starts := history.starts ++ [scheduler.startOf task] } next := by
  have whole : Step scheduler action next := .advance member step
  have inNext : ∀ other, other ∈ next.tasks ↔
      other = { task with stage := .started } ∨
        other ∈ scheduler.tasks ∧ other.job ≠ task.job := by
    intro other
    rw [tasks, setStage, valid.mem_modifyTask member]
  have own : next.startOf { task with stage := .started } = scheduler.startOf task := by
    rw [startOf, whole.targetOf_eq valid member, startOf]
  constructor
  case begun =>
    intro other inTasks started
    rcases (inNext other).1 inTasks with rfl | ⟨before, -⟩
    · rw [own]
      exact List.mem_append_right _ (List.mem_singleton_self _)
    · rw [whole.startOf_eq valid before]
      exact List.mem_append_left _ (kept.begun other before started)
  case unmarked =>
    intro start inStarts brings fresh
    rcases List.mem_append.1 inStarts with before | new
    · obtain ⟨other, inTasks, started, rfl⟩ :=
        kept.unmarked start before brings (marks ▸ fresh)
      refine ⟨other, (inNext other).2 (.inr ⟨inTasks, fun same => ?_⟩), started,
        whole.startOf_eq valid inTasks⟩
      rw [valid.unique member inTasks same, stage] at started
      cases started
    · exact ⟨_, (inNext _).2 (.inl rfl), rfl, own.trans (List.mem_singleton.1 new).symm⟩
  case awaiting =>
    intro other inTasks waits
    rcases (inNext other).1 inTasks with rfl | ⟨before, -⟩
    · cases waits
    · rw [whole.targetOf_eq valid before, whole.startOf_eq valid before]
      exact StartHistory.firstWithSetup?_append (kept.awaiting other before waits) _
  case setups =>
    exact fun start before => StartHistory.firstWithSetup?_append (kept.setups start before) _
  case completed =>
    rw [context]
    exact kept.completed

/-- A permit that is given back keeps what is known of the starts. -/
theorem StartInvariant.release (kept : StartInvariant history scheduler)
    (valid : Invariant size scheduler) (member : task ∈ scheduler.tasks)
    (stage : task.stage = .unlisted) :
    StartInvariant history (scheduler.releasePermit task) := by
  have left : ∀ other, other ∈ (scheduler.releasePermit task).tasks ↔
      other ∈ scheduler.tasks ∧ other.job ≠ task.job := by
    simp [Scheduler.releasePermit]
  refine ⟨fun other inTasks => kept.begun other ((left other).1 inTasks).1,
    fun start inStarts brings fresh => ?_,
    fun other inTasks => kept.awaiting other ((left other).1 inTasks).1, kept.setups,
    kept.completed⟩
  obtain ⟨other, before, started, same⟩ := kept.unmarked start inStarts brings fresh
  refine ⟨other, (left other).2 ⟨before, fun own => ?_⟩, started, same⟩
  rw [valid.unique member before own, stage] at started
  cases started

/-- A job that does not start leaves the history. -/
theorem followed_of_unstarted {id : JobId} {stage : Stage} :
    scheduler.followed (scheduler.setStage id stage) history (.start id) = history := by
  simp [followed, isRunning, job?, setStage, modifyTask]

/-- A job that starts is added to the history. -/
theorem followed_of_started {job : Job} {stage : Stage}
    (known : scheduler.task? task.job = some task)
    (found : scheduler.job? task.job = some job) (starts : job.start.1 = true) :
    scheduler.followed
        ((scheduler.modifyJob task.job fun job => job.start.2).setStage task.job stage) history
        (.start task.job) =
      { history with starts := history.starts ++ [scheduler.startOf task] } := by
  have idle : job.state ≠ .running := by
    intro state
    simp [Job.start, state, JobState.canBecome] at starts
  have running : ((scheduler.modifyJob task.job fun job => job.start.2).setStage task.job
      stage).job? task.job = some job.start.2 :=
    job?_modifyJob_eq_some_iff.2 ⟨job, found, if_pos rfl⟩
  simp [followed, isRunning, running, found, Job.start_state starts, idle, known]

/-- The setup that enters a vacant context is added to the history. -/
theorem followed_of_vacant (known : scheduler.task? task.job = some task)
    (vacant : scheduler.context = .vacant) :
    scheduler.followed next history (.enterContext task.job) =
      { history with setups := history.setups ++ [scheduler.startOf task] } := by
  simp [followed, vacant, known]

/-- A setup that finds the context taken leaves the history. -/
theorem followed_of_occupied {id : JobId} (occupied : scheduler.context ≠ .vacant) :
    scheduler.followed next history (.enterContext id) = history := by
  simp [followed, occupied]

/-- A step of a task keeps what is known of the starts. -/
theorem StartInvariant.taskStep (kept : StartInvariant history scheduler)
    (reached : Reachable size scheduler) (member : task ∈ scheduler.tasks)
    (step : TaskStep scheduler task action next) :
    StartInvariant (scheduler.followed next history action) next := by
  have valid := reached.invariant
  have whole := step
  have apart {after : Scheduler} {stage : Stage} (step : TaskStep scheduler task action after)
      (tasks : after.tasks = (scheduler.setStage task.job stage).tasks)
      (marks : after.startedTargets = scheduler.startedTargets)
      (context : after.context = scheduler.context) (before : task.stage ≠ .started)
      (begun : stage ≠ .started) (awaits : stage.awaitsSetup = false) :
      StartInvariant history after := by
    refine kept.advance valid member step tasks rfl rfl (fun _ => .inl) (marks ▸ fun _ => id)
      begun (fun started => absurd started before) ?_ (context ▸ kept.completed)
    rw [awaits]
    nofun
  cases step with
  | refuse stage | accept stage | exhaust stage | queue stage | reject stage | finishPipeline stage
  | complete stage | drop stage | unlist stage | discard _ stage =>
      exact apart whole rfl rfl rfl (by rw [stage]; nofun) nofun rfl
  | permit stage | take stage =>
      exact kept.advance valid member whole rfl rfl rfl (fun _ => .inl) (fun _ => id) nofun
        (by rw [stage]; nofun) nofun kept.completed
  | interrupt stage | abandon stage =>
      rw [followed_of_unstarted]
      exact apart whole rfl rfl rfl (by rw [stage]; nofun) nofun rfl
  | start stage down found starts =>
      rw [followed_of_started (valid.task?_eq member) found starts]
      exact kept.start valid member stage whole rfl rfl rfl
  | prepareSetup stage setup first =>
      refine kept.advance valid member whole rfl rfl rfl (fun _ => .inl)
        (List.subset_cons_self ..) nofun (fun _ _ => List.mem_cons_self) ?_ kept.completed
      exact fun _ => kept.firstWithSetup?_eq valid member stage setup first
  | skipSetup stage needless =>
      exact kept.advance valid member whole rfl rfl rfl (fun _ => .inl) (fun _ => id) nofun
        (fun _ => needless) nofun kept.completed
  | passContext stage ready =>
      rw [followed_of_occupied (by rw [ready]; nofun)]
      exact kept.advance valid member whole rfl rfl rfl (fun _ => .inl) (fun _ => id) nofun
        (by rw [stage]; nofun) nofun kept.completed
  | enterContext stage vacant =>
      rw [followed_of_vacant (valid.task?_eq member) vacant]
      have waits : task.stage.awaitsSetup = true := by rw [stage]; rfl
      refine kept.advance valid member whole rfl rfl rfl ?_ (fun _ => id) nofun
        (by rw [stage]; nofun) (fun _ => kept.awaiting task member waits) ?_
      · intro start inSetups
        rcases List.mem_append.1 inSetups with before | new
        · exact .inl before
        · exact .inr ⟨waits, List.mem_singleton.1 new⟩
      · have completed := kept.completed
        rw [vacant] at completed
        exact completed
  | finishSetup stage =>
      have incomplete := kept.completed
      rw [reached.occupied member stage] at incomplete
      refine kept.advance valid member whole rfl rfl rfl (fun _ => .inl) (fun _ => id) nofun
        (by rw [stage]; nofun) nofun ?_
      exact congrArg (· + 1) incomplete
  | panicSetup stage panic =>
      have incomplete := kept.completed
      rw [reached.occupied member stage] at incomplete
      exact kept.advance valid member whole rfl rfl rfl (fun _ => .inl) (fun _ => id) nofun
        (by rw [stage]; nofun) nofun incomplete
  | release stage => exact kept.release valid member stage

/-- A new job has not started. -/
theorem StartInvariant.addJob (kept : StartInvariant history scheduler)
    (valid : Invariant size scheduler) {target : Target} {hasSetup : Bool}
    (free : scheduler.inFlight? target = none) :
    StartInvariant history (scheduler.addJob target hasSetup) := by
  have whole : Step scheduler (.submit target hasSetup) (scheduler.addJob target hasSetup) :=
    .add free
  have inNext : ∀ other ∈ (scheduler.addJob target hasSetup).tasks,
      other.stage ≠ .admitted → other ∈ scheduler.tasks := by
    intro other inTasks stage
    rcases List.mem_append.1 inTasks with before | new
    · exact before
    · exact absurd (congrArg Task.stage (List.mem_singleton.1 new)) stage
  constructor
  case begun =>
    intro other inTasks stage
    have before := inNext other inTasks (by rw [stage]; nofun)
    rw [whole.startOf_eq valid before]
    exact kept.begun other before stage
  case unmarked =>
    intro start inStarts brings fresh
    obtain ⟨other, before, stage, rfl⟩ := kept.unmarked start inStarts brings fresh
    exact ⟨other, List.mem_append_left _ before, stage, whole.startOf_eq valid before⟩
  case awaiting =>
    intro other inTasks waits
    have before := inNext other inTasks fun stage => by rw [stage] at waits; cases waits
    rw [whole.targetOf_eq valid before, whole.startOf_eq valid before]
    exact kept.awaiting other before waits
  case setups => exact kept.setups
  case completed => exact kept.completed

/-- Each step keeps what is known of the starts. -/
theorem StartInvariant.step (kept : StartInvariant history scheduler)
    (reached : Reachable size scheduler) (step : Step scheduler action next) :
    StartInvariant (scheduler.followed next history action) next := by
  cases step with
  | join => exact kept
  | add free => exact kept.addJob reached.invariant free
  | advance member step => exact kept.taskStep reached member step
  | raise | close =>
      exact ⟨kept.begun, kept.unmarked, kept.awaiting, kept.setups, kept.completed⟩

/-- What is known of the starts holds however a scheduler is followed. -/
theorem Followed.startInvariant (reached : Followed size history scheduler) :
    StartInvariant history scheduler := by
  induction reached with
  | create created =>
      obtain rfl := eq_of_create created
      constructor <;> simp
  | @lend history _ _ vacant ih =>
      have completed := ih.completed
      rw [vacant] at completed
      exact ⟨ih.begun, ih.unmarked, ih.awaiting, ih.setups, completed⟩
  | @regain history scheduler _ occupied lent context ih =>
      have incomplete := ih.completed
      rw [occupied] at incomplete
      split
      case isTrue ready =>
        exact ⟨ih.begun, ih.unmarked, ih.awaiting, ih.setups,
          (congrArg (· + 1) incomplete).trans (if_pos ready).symm⟩
      case isFalse other =>
        exact ⟨ih.begun, ih.unmarked, ih.awaiting, ih.setups, incomplete.trans (if_neg other).symm⟩
  | step reached possible ih => exact ih.step reached.reachable (.of_step? possible)

/-- A setup is called by the first job with a setup that its target starts. That job is the first
one of its target at all exactly when the first one brought a setup. At most one setup runs to
completion. -/
theorem setups_of_first_starts (reached : Followed size history scheduler) :
    (∀ setup ∈ history.setups,
      history.firstWithSetup? setup.target = some setup ∧
        ∃ first, history.first? setup.target = some first ∧
          (first = setup ↔ first.hasSetup = true)) ∧
      history.completed ≤ 1 := by
  have kept := reached.startInvariant
  refine ⟨fun setup called => ?_, ?_⟩
  · have found := kept.setups setup called
    exact ⟨found, exists_find?_of_find?_and found⟩
  · rw [kept.completed]
    split <;> decide

/-- The first job of the target ends, without a setup or with one, before the target is submitted
with a setup. The pipeline of the first job panics. -/
def startedAgain (target : Target) (hasSetup : Bool) : List Action :=
  [.submit target hasSetup, .checkFlag 0, .acquirePermit 0, .enqueue 0, .take 0, .start 0,
    .prepare 0] ++ (if hasSetup then [.enterContext 0, .finishSetup 0] else []) ++
    [.finishPipeline 0 (.panicked ⟨none⟩), .recordOutcome 0, .recordOutcome 0, .removeEntry 0,
      .releasePermit 0, .submit target true, .checkFlag 1, .acquirePermit 1, .enqueue 1, .take 1,
      .start 1, .prepare 1] ++ if hasSetup then [] else [.enterContext 1, .finishSetup 1]

def runFollowing? (scheduler : Scheduler) (history : StartHistory) :
    List Action → Option (StartHistory × Scheduler)
  | [] => some (history, scheduler)
  | action :: rest => do
      let next ← scheduler.step? action
      next.runFollowing? (scheduler.followed next history action) rest

/-- A run is followed step by step. -/
theorem Followed.run {actions : List Action} (reached : Followed size history scheduler)
    (ran : scheduler.runFollowing? history actions = some (later, next)) :
    Followed size later next := by
  induction actions generalizing scheduler history with
  | nil => cases ran; exact reached
  | cons action rest ih =>
      obtain ⟨middle, possible, ran⟩ := Option.bind_eq_some_iff.1 ran
      exact ih (reached.step possible) ran

/-- Both jobs of the target bring a setup, and the first job is the one that has it called. -/
theorem startedAgain_setup : ∃ history scheduler, Followed {} history scheduler ∧
    history.starts.length = 2 ∧ history.completed ≤ 1 ∧
      ∃ setup ∈ history.setups, history.first? setup.target = some setup := by
  obtain ⟨history, scheduler, setup, start, ran, starts, called, isFirst, brings⟩ :
      ∃ history scheduler setup start, ({ pool := { size := {} }, permits := 256 } :
          Scheduler).runFollowing? {} (startedAgain (.observer "com.example.Bean") true) =
            some (history, scheduler) ∧
        history.starts.length = 2 ∧ setup ∈ history.setups ∧
        history.first? setup.target = some start ∧ start.hasSetup = true :=
    ⟨_, _, _, _, rfl, rfl, List.mem_cons_self, rfl, rfl⟩
  have reached : Followed {} history scheduler := (Followed.create rfl).run ran
  obtain ⟨setups, completed⟩ := setups_of_first_starts reached
  obtain ⟨-, first, found, same⟩ := setups setup called
  obtain rfl : first = start := Option.some.inj (found.symm.trans isFirst)
  exact ⟨history, scheduler, reached, starts, completed, setup, called,
    found.trans (congrArg some (same.2 brings))⟩

/-- The setup of the second job is called, although the target started before. -/
theorem startedAgain_not_first : ∃ history scheduler, Followed {} history scheduler ∧
    ∃ setup ∈ history.setups, history.first? setup.target ≠ some setup := by
  obtain ⟨history, scheduler, setup, ran, called, later⟩ :
      ∃ history scheduler setup, ({ pool := { size := {} }, permits := 256 } :
          Scheduler).runFollowing? {} (startedAgain (.observer "com.example.Bean") false) =
            some (history, scheduler) ∧
        setup ∈ history.setups ∧ history.first? setup.target ≠ some setup :=
    ⟨_, _, _, rfl, List.mem_cons_self, by decide⟩
  exact ⟨history, scheduler, (Followed.create rfl).run ran, setup, called, later⟩

end Scheduler

end BusBridge
