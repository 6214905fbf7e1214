/-
This file proves when a pipeline with a setup runs in a context that is not set up: after the setup
of its own target panicked, because the target counts as started from then on.
-/

import BusBridge.Proofs.Scheduler.InFlight
import BusBridge.Proofs.Scheduler.Outcome

namespace BusBridge

/-- What is remembered of the setups in a run: the targets of those that panicked, and whether one
of them completed. -/
structure SetupHistory where
  panicked : List Target := []
  completed : Bool := false
  deriving Inhabited

namespace SetupHistory

/-- A later history remembers at least as much. -/
structure Grows (history later : SetupHistory) : Prop where
  panicked : history.panicked ⊆ later.panicked
  completed : history.completed = true → later.completed = true

/-- A setup completed, or the one of this target panicked. -/
def Settles (history : SetupHistory) (target : Target) : Prop :=
  history.completed = true ∨ target ∈ history.panicked

variable {history later : SetupHistory} {target : Target}

/-- A history has grown from itself. -/
theorem Grows.refl (history : SetupHistory) : history.Grows history :=
  ⟨List.Subset.refl _, id⟩

/-- A target that is settled stays settled. -/
theorem Grows.settles (grows : history.Grows later) (settles : history.Settles target) :
    later.Settles target :=
  settles.imp grows.completed fun member => grows.panicked member

def panic (history : SetupHistory) (target : Target) : SetupHistory :=
  { history with panicked := target :: history.panicked }

def complete (history : SetupHistory) : SetupHistory :=
  { history with completed := true }

/-- A setup that panics is added to the history. -/
theorem grows_panic (history : SetupHistory) (target : Target) :
    history.Grows (history.panic target) :=
  ⟨List.subset_cons_self .., id⟩

/-- A setup that completes is added to the history. -/
theorem grows_complete (history : SetupHistory) : history.Grows history.complete :=
  ⟨List.Subset.refl _, fun _ => rfl⟩

end SetupHistory

/-- The task is between the mark on its target and the end of its setup. -/
def Stage.awaitsSetup : Stage → Bool
  | .awaitingContext | .settingUp => true
  | _ => false

namespace Scheduler

/-- What a step adds to the history. -/
def noted (scheduler : Scheduler) (history : SetupHistory) : Action → SetupHistory
  | .panicSetup id _ => history.panic (scheduler.targetOf id)
  | .finishSetup _ => history.complete
  | _ => history

/-- A run that remembers its setups, and those of other schedulers that complete in the context it
shares with them. -/
inductive ReachedWith (size : PoolSize) : SetupHistory → Scheduler → Prop where
  | create {scheduler : Scheduler} (created : create size = .ok scheduler) :
      ReachedWith size {} scheduler
  | lend {history : SetupHistory} {scheduler : Scheduler}
      (reached : ReachedWith size history scheduler) (vacant : scheduler.context = .vacant) :
      ReachedWith size history { scheduler with context := .occupied }
  | regain {history : SetupHistory} {scheduler : Scheduler}
      (reached : ReachedWith size history scheduler) (occupied : scheduler.context = .occupied)
      (lent : ∀ task ∈ scheduler.tasks, task.stage ≠ .settingUp) (context : ContextState) :
      ReachedWith size (if context = .ready then history.complete else history)
        { scheduler with context }
  | step {history : SetupHistory} {scheduler next : Scheduler} {action : Action}
      (reached : ReachedWith size history scheduler)
      (possible : scheduler.step? action = some next) :
      ReachedWith size (scheduler.noted history action) next

variable {scheduler next : Scheduler} {task : Task} {action : Action} {size : PoolSize}
  {history later : SetupHistory}

/-- What is reached with a history is reachable. -/
theorem ReachedWith.reachable (reached : ReachedWith size history scheduler) :
    Reachable size scheduler := by
  induction reached with
  | create created => exact .create created
  | lend _ vacant ih => exact ih.lend vacant
  | regain _ occupied lent context ih => exact ih.regain occupied lent context
  | step _ possible ih => exact ih.step possible

/-- Each reachable scheduler has a history. -/
theorem Reachable.exists_history (reached : Reachable size scheduler) :
    ∃ history, ReachedWith size history scheduler := by
  induction reached with
  | create created => exact ⟨_, .create created⟩
  | lend _ vacant ih =>
      obtain ⟨history, reached⟩ := ih
      exact ⟨_, reached.lend vacant⟩
  | regain _ occupied lent context ih =>
      obtain ⟨history, reached⟩ := ih
      exact ⟨_, reached.regain occupied lent context⟩
  | step _ possible ih =>
      obtain ⟨history, reached⟩ := ih
      exact ⟨_, reached.step possible⟩

/-- What every step keeps of the setups. One task at most is setting up the context, and the mark
on a started target outlives its setup only if some setup completed or its own one panicked. -/
structure SetupInvariant (history : SetupHistory) (scheduler : Scheduler) : Prop where
  ready : scheduler.context = .ready ↔ history.completed = true
  occupied : ∀ task ∈ scheduler.tasks, task.stage = .settingUp → scheduler.context = .occupied
  alone : ∀ task ∈ scheduler.tasks, ∀ other ∈ scheduler.tasks,
    task.stage = .settingUp → other.stage = .settingUp → other.job = task.job
  started : ∀ target ∈ scheduler.startedTargets, history.Settles target ∨
    ∃ task ∈ scheduler.tasks, scheduler.targetOf task.job = target ∧
      task.stage.awaitsSetup = true
  generating : ∀ task ∈ scheduler.tasks, task.hasSetup = true → task.stage = .generating →
    history.Settles (scheduler.targetOf task.job)

/-- A task keeps its target. -/
theorem Step.targetOf_eq (valid : Invariant size scheduler) (step : Step scheduler action next)
    (member : task ∈ scheduler.tasks) : next.targetOf task.job = scheduler.targetOf task.job := by
  obtain ⟨job, known, -⟩ := valid.agrees task member
  obtain ⟨after, inNext, same, -⟩ := step.keeps valid known
  rw [Scheduler.targetOf_eq known, Scheduler.targetOf_eq inNext, same]

/-- A task may move on when the context and the mark on its target agree with what it becomes. -/
theorem SetupInvariant.advance (kept : SetupInvariant history scheduler)
    (valid : Invariant size scheduler) (member : task ∈ scheduler.tasks)
    (step : TaskStep scheduler task action next) {change : Task → Task}
    (tasks : next.tasks = (scheduler.modifyTask task.job change).tasks)
    (job : (change task).job = task.job) (hasSetup : (change task).hasSetup = task.hasSetup)
    (grows : history.Grows later) (ready : next.context = .ready ↔ later.completed = true)
    (settingUp : (change task).stage = .settingUp →
      next.context = .occupied ∧ scheduler.context ≠ .occupied)
    (others : ∀ other ∈ scheduler.tasks, other.job ≠ task.job → other.stage = .settingUp →
      next.context = .occupied)
    (marked : ∀ target ∈ next.startedTargets, target ∈ scheduler.startedTargets ∨
      target = scheduler.targetOf task.job ∧ (change task).stage.awaitsSetup = true)
    (awaits : task.stage.awaitsSetup = true →
      (change task).stage.awaitsSetup = true ∨ later.Settles (scheduler.targetOf task.job))
    (generating : task.hasSetup = true → (change task).stage = .generating →
      later.Settles (scheduler.targetOf task.job)) : SetupInvariant later next := by
  have inNext : ∀ other, other ∈ next.tasks ↔
      other = change task ∨ other ∈ scheduler.tasks ∧ other.job ≠ task.job := by
    intro other
    rw [tasks, valid.mem_modifyTask member]
  have targets : ∀ other ∈ scheduler.tasks,
      next.targetOf other.job = scheduler.targetOf other.job :=
    fun other inTasks => (Step.advance member step).targetOf_eq valid inTasks
  have own : next.targetOf (change task).job = scheduler.targetOf task.job := by
    rw [job, targets task member]
  constructor
  case ready => exact ready
  case occupied =>
    intro other inTasks stage
    rcases (inNext other).1 inTasks with rfl | ⟨inTasks, different⟩
    · exact (settingUp stage).1
    · exact others other inTasks different stage
  case alone =>
    -- A task that starts its setup found the context free, so no other task is at its setup.
    have apart : ∀ other ∈ scheduler.tasks, (change task).stage = .settingUp →
        other.stage ≠ .settingUp := fun other inTasks starts stage =>
      (settingUp starts).2 (kept.occupied other inTasks stage)
    intro first inFirst second inSecond firstStage secondStage
    rcases (inNext first).1 inFirst with rfl | ⟨inFirst, -⟩ <;>
      rcases (inNext second).1 inSecond with rfl | ⟨inSecond, -⟩
    · rfl
    · exact absurd secondStage (apart second inSecond firstStage)
    · exact absurd firstStage (apart first inFirst secondStage)
    · exact kept.alone first inFirst second inSecond firstStage secondStage
  case started =>
    intro target mark
    rcases marked target mark with before | ⟨rfl, waits⟩
    · rcases kept.started target before with settles | ⟨other, inTasks, rfl, waits⟩
      · exact .inl (grows.settles settles)
      · by_cases same : other.job = task.job
        · obtain rfl := valid.unique member inTasks same
          rcases awaits waits with stays | settles
          · exact .inr ⟨_, (inNext _).2 (.inl rfl), own, stays⟩
          · exact .inl settles
        · exact .inr ⟨other, (inNext _).2 (.inr ⟨inTasks, same⟩), targets other inTasks, waits⟩
    · exact .inr ⟨_, (inNext _).2 (.inl rfl), own, waits⟩
  case generating =>
    intro other inTasks brings stage
    rcases (inNext other).1 inTasks with rfl | ⟨inTasks, -⟩
    · rw [own]
      exact generating (hasSetup ▸ brings) stage
    · rw [targets other inTasks]
      exact grows.settles (kept.generating other inTasks brings stage)

/-- Away from the setups a task moves on freely. -/
theorem SetupInvariant.advanceApart (kept : SetupInvariant history scheduler)
    (valid : Invariant size scheduler) (member : task ∈ scheduler.tasks)
    (step : TaskStep scheduler task action next) {change : Task → Task}
    (tasks : next.tasks = (scheduler.modifyTask task.job change).tasks)
    (job : (change task).job = task.job) (hasSetup : (change task).hasSetup = task.hasSetup)
    (context : next.context = scheduler.context)
    (marks : next.startedTargets = scheduler.startedTargets)
    (before : task.stage.awaitsSetup = false) (settingUp : (change task).stage ≠ .settingUp)
    (generating : (change task).stage ≠ .generating) : SetupInvariant history next := by
  refine kept.advance valid member step tasks job hasSetup (.refl history) ?_ ?_ ?_ ?_ ?_ ?_
  · rw [context]
    exact kept.ready
  · exact fun stage => absurd stage settingUp
  · rw [context]
    exact fun other inTasks _ stage => kept.occupied other inTasks stage
  · rw [marks]
    exact fun target mark => .inl mark
  · rw [before]
    nofun
  · exact fun _ stage => absurd stage generating

/-- A target that counts as started has no other task before its pipeline, so its setup is over. -/
theorem SetupInvariant.settles_of_started (kept : SetupInvariant history scheduler)
    (valid : Invariant size scheduler) (member : task ∈ scheduler.tasks)
    (stage : task.stage = .started)
    (mark : scheduler.targetOf task.job ∈ scheduler.startedTargets) :
    history.Settles (scheduler.targetOf task.job) := by
  rcases kept.started _ mark with settles | ⟨other, inTasks, same, waits⟩
  · exact settles
  · have running : ∀ before ∈ scheduler.tasks,
        (∀ state, before.stage.Admits state → state = .running) →
        scheduler.inFlight? (scheduler.targetOf before.job) = some before.job := by
      intro before inTasks admits
      obtain ⟨job, known, admitted⟩ := valid.agrees before inTasks
      rw [targetOf_eq known]
      exact valid.inFlight?_eq known (by rw [admits _ admitted]; rfl)
    have first := running task member (by rw [stage]; exact fun _ admitted => admitted)
    have second := running other inTasks (by
      cases waiting : other.stage <;> rw [waiting] at waits <;> cases waits <;>
        exact fun _ admitted => admitted)
    rw [same, first] at second
    obtain rfl := valid.unique member inTasks (Option.some.inj second).symm
    rw [stage] at waits
    cases waits

/-- A step of a task keeps what is known of the setups. -/
theorem SetupInvariant.taskStep (kept : SetupInvariant history scheduler)
    (valid : Invariant size scheduler) (member : task ∈ scheduler.tasks)
    (step : TaskStep scheduler task action next) :
    SetupInvariant (scheduler.noted history action) next := by
  have whole := step
  cases step with
  | refuse stage | accept stage | exhaust stage | queue stage | reject stage | interrupt stage
  | abandon stage | finishPipeline stage | complete stage | drop stage | unlist stage
  | discard _ stage | start stage | permit stage | take stage =>
      exact kept.advanceApart valid member whole rfl rfl rfl rfl rfl (by rw [stage]; rfl) nofun
        nofun
  | prepareSetup stage =>
      refine kept.advance valid member whole rfl rfl rfl (.refl history) kept.ready nofun
        (fun other inTasks _ => kept.occupied other inTasks) ?_ (fun _ => .inl rfl) nofun
      intro target mark
      rcases List.mem_cons.1 mark with rfl | before
      · exact .inr ⟨rfl, rfl⟩
      · exact .inl before
  | skipSetup stage needless =>
      refine kept.advance valid member whole rfl rfl rfl (.refl history) kept.ready nofun
        (fun other inTasks _ => kept.occupied other inTasks) (fun _ mark => .inl mark)
        (by rw [stage]; nofun) ?_
      exact fun brings _ => kept.settles_of_started valid member stage (needless brings)
  | passContext stage ready =>
      have completed : history.completed = true := kept.ready.1 ready
      exact kept.advance valid member whole rfl rfl rfl (.refl history) kept.ready nofun
        (fun other inTasks _ => kept.occupied other inTasks) (fun _ mark => .inl mark)
        (fun _ => .inr (.inl completed)) (fun _ _ => .inl completed)
  | enterContext stage vacant =>
      have unready : history.completed ≠ true := by
        rw [Ne, ← kept.ready, vacant]
        nofun
      refine kept.advance valid member whole rfl rfl rfl (.refl history) ?_ ?_
        (fun _ _ _ _ => rfl) (fun _ mark => .inl mark) (fun _ => .inl rfl) nofun
      · exact ⟨nofun, fun completed => absurd completed unready⟩
      · rw [vacant]
        exact fun _ => ⟨rfl, nofun⟩
  | finishSetup stage =>
      refine kept.advance valid member whole rfl rfl rfl (history.grows_complete)
        ⟨fun _ => rfl, fun _ => rfl⟩ nofun ?_ (fun _ mark => .inl mark)
        (fun _ => .inr (.inl rfl)) (fun _ _ => .inl rfl)
      exact fun other inTasks different starts =>
        absurd (kept.alone task member other inTasks stage starts) different
  | panicSetup stage panic =>
      -- The context is taken while a setup runs, so none has completed before.
      have unready : history.completed ≠ true := by
        rw [Ne, ← kept.ready, kept.occupied task member stage]
        nofun
      refine kept.advance valid member whole rfl rfl rfl
        (history.grows_panic (scheduler.targetOf task.job)) ?_ nofun ?_ (fun _ mark => .inl mark)
        (fun _ => .inr (.inr List.mem_cons_self)) nofun
      · exact ⟨nofun, fun completed => absurd completed unready⟩
      · exact fun other inTasks different starts =>
          absurd (kept.alone task member other inTasks stage starts) different
  | release stage =>
      have left : ∀ other, other ∈ (scheduler.releasePermit task).tasks ↔
          other ∈ scheduler.tasks ∧ other.job ≠ task.job := by
        simp [Scheduler.releasePermit]
      refine ⟨kept.ready, fun other inTasks => kept.occupied other ((left other).1 inTasks).1,
        fun first inFirst second inSecond => kept.alone first ((left first).1 inFirst).1 second
          ((left second).1 inSecond).1, fun target mark => ?_,
        fun other inTasks => kept.generating other ((left other).1 inTasks).1⟩
      refine (kept.started target mark).imp_right ?_
      rintro ⟨other, inTasks, same, waits⟩
      refine ⟨other, (left other).2 ⟨inTasks, fun own => ?_⟩, same, waits⟩
      rw [valid.unique member inTasks own, stage] at waits
      cases waits

/-- A new job has set nothing up. -/
theorem SetupInvariant.addJob (kept : SetupInvariant history scheduler)
    (valid : Invariant size scheduler) {target : Target} {hasSetup : Bool}
    (free : scheduler.inFlight? target = none) :
    SetupInvariant history (scheduler.addJob target hasSetup) := by
  have targets : ∀ other ∈ scheduler.tasks,
      (scheduler.addJob target hasSetup).targetOf other.job = scheduler.targetOf other.job :=
    fun other inTasks => (Step.add free).targetOf_eq valid inTasks
  have inNext : ∀ other ∈ (scheduler.addJob target hasSetup).tasks,
      other.stage ≠ .admitted → other ∈ scheduler.tasks := by
    intro other inTasks stage
    rcases List.mem_append.1 inTasks with before | new
    · exact before
    · exact absurd (congrArg Task.stage (List.mem_singleton.1 new)) stage
  constructor
  case ready => exact kept.ready
  case occupied =>
    intro other inTasks stage
    exact kept.occupied other (inNext other inTasks (by rw [stage]; nofun)) stage
  case alone =>
    intro first inFirst second inSecond firstStage secondStage
    exact kept.alone first (inNext first inFirst (by rw [firstStage]; nofun)) second
      (inNext second inSecond (by rw [secondStage]; nofun)) firstStage secondStage
  case started =>
    intro marked mark
    refine (kept.started marked mark).imp_right ?_
    rintro ⟨other, inTasks, rfl, waits⟩
    exact ⟨other, List.mem_append_left _ inTasks, targets other inTasks, waits⟩
  case generating =>
    intro other inTasks brings stage
    have before := inNext other inTasks (by rw [stage]; nofun)
    rw [targets other before]
    exact kept.generating other before brings stage

/-- Each step keeps what is known of the setups. -/
theorem SetupInvariant.step (kept : SetupInvariant history scheduler)
    (valid : Invariant size scheduler) (step : Step scheduler action next) :
    SetupInvariant (scheduler.noted history action) next := by
  cases step with
  | join => exact kept
  | add free => exact kept.addJob valid free
  | advance member step => exact kept.taskStep valid member step
  | raise | close =>
      exact ⟨kept.ready, kept.occupied, kept.alone, kept.started, kept.generating⟩

/-- What is known of the setups holds for each history. -/
theorem ReachedWith.setupInvariant (reached : ReachedWith size history scheduler) :
    SetupInvariant history scheduler := by
  induction reached with
  | create created =>
      obtain rfl := eq_of_create created
      constructor <;> simp
  | @lend history _ _ vacant ih =>
      have incomplete : ¬history.completed = true := by simpa [vacant] using ih.ready
      exact ⟨by simp [incomplete], fun _ _ _ => rfl, ih.alone, ih.started, ih.generating⟩
  | @regain history scheduler _ occupied lent context ih =>
      have incomplete : ¬history.completed = true := by simpa [occupied] using ih.ready
      have grows : history.Grows (if context = .ready then history.complete else history) := by
        split
        · exact history.grows_complete
        · exact .refl history
      refine ⟨?_, fun task inTasks stage => absurd stage (lent task inTasks), ih.alone,
        fun target mark => (ih.started target mark).imp_left grows.settles,
        fun task inTasks brings stage => grows.settles (ih.generating task inTasks brings stage)⟩
      split
      case isTrue ready => exact iff_of_true ready rfl
      case isFalse other => exact iff_of_false other incomplete
  | step reached possible ih => exact ih.step reached.reachable.invariant (.of_step? possible)

/-- A pipeline that was submitted with a setup runs in a context that is not set up exactly when
the setup of its own target panicked before and no setup completed. -/
theorem generating_uninitialized_iff (reached : ReachedWith size history scheduler)
    (member : task ∈ scheduler.tasks) (brings : task.hasSetup = true)
    (generates : task.stage = .generating) :
    scheduler.isInitialized = false ↔
      scheduler.targetOf task.job ∈ history.panicked ∧ history.completed = false := by
  have kept := reached.setupInvariant
  have initialized : scheduler.isInitialized = true ↔ history.completed = true := by
    rw [isInitialized, beq_iff_eq, kept.ready]
  rw [← Bool.not_eq_true, ← Bool.not_eq_true, initialized]
  constructor
  · intro unready
    exact ⟨(kept.generating task member brings generates).resolve_left unready, unready⟩
  · exact fun panicked => panicked.2

/-- The setup of the first job panics, and the target is submitted again after it ended. -/
def panickedSetup (target : Target) : List Action :=
  [.submit target true, .checkFlag 0, .acquirePermit 0, .enqueue 0, .take 0, .start 0, .prepare 0,
    .enterContext 0, .panicSetup 0 ⟨none⟩, .recordOutcome 0, .recordOutcome 0, .removeEntry 0,
    .releasePermit 0, .submit target true, .checkFlag 1, .acquirePermit 1, .enqueue 1]

/-- Another target completes a setup before the second job of the first target is taken. -/
def repairedSetup (target other : Target) : List Action :=
  panickedSetup target ++
    [.submit other true, .checkFlag 2, .acquirePermit 2, .enqueue 2, .take 1, .take 2, .start 2,
      .prepare 2, .enterContext 2, .finishSetup 2, .start 1, .prepare 1]

def runNoting? (scheduler : Scheduler) (history : SetupHistory) :
    List Action → Option (SetupHistory × Scheduler)
  | [] => some (history, scheduler)
  | action :: rest => do
      let next ← scheduler.step? action
      next.runNoting? (scheduler.noted history action) rest

/-- A run adds to the history step by step. -/
theorem ReachedWith.run {actions : List Action} (reached : ReachedWith size history scheduler)
    (ran : scheduler.runNoting? history actions = some (later, next)) :
    ReachedWith size later next := by
  induction actions generalizing scheduler history with
  | nil => cases ran; exact reached
  | cons action rest ih =>
      obtain ⟨middle, possible, ran⟩ := Option.bind_eq_some_iff.1 ran
      exact ih (reached.step possible) ran

/-- The target whose setup panicked is generated in the context that another one set up. -/
theorem repairedSetup_initialized : ∃ history scheduler, ReachedWith {} history scheduler ∧
    (∃ task ∈ scheduler.tasks, task.hasSetup = true ∧ task.stage = .generating ∧
      scheduler.targetOf task.job ∈ history.panicked) ∧ scheduler.isInitialized = true := by
  obtain ⟨history, scheduler, task, ran, member, brings, generates, panicked, completed⟩ :
      ∃ history scheduler task, ({ pool := { size := {} }, permits := 256 } :
          Scheduler).runNoting? {} (repairedSetup (.observer "com.example.Bean")
            (.loader "com.example.Loader")) = some (history, scheduler) ∧
        task ∈ scheduler.tasks ∧ task.hasSetup = true ∧ task.stage = .generating ∧
        scheduler.targetOf task.job ∈ history.panicked ∧ history.completed = true :=
    ⟨_, _, _, rfl, List.mem_cons_self, rfl, rfl, List.mem_cons_self, rfl⟩
  have reached : ReachedWith {} history scheduler := (ReachedWith.create rfl).run ran
  have uninitialized := generating_uninitialized_iff reached member brings generates
  refine ⟨history, scheduler, reached, ⟨task, member, brings, generates, panicked⟩, ?_⟩
  simpa [completed] using uninitialized

/-- The second job of the target skips the setup, although no setup has completed. -/
theorem panickedSetup_uninitialized : ∃ scheduler, Reachable {} scheduler ∧
    ∃ task ∈ scheduler.tasks, task.hasSetup = true ∧ task.stage = .generating ∧
      scheduler.isInitialized = false := by
  obtain ⟨scheduler, task, ran, member, brings, generates, uninitialized⟩ :
      ∃ scheduler task, ({ pool := { size := {} }, permits := 256 } : Scheduler).run?
          (panickedSetup (.observer "com.example.Bean") ++ [.take 1, .start 1, .prepare 1]) =
            some scheduler ∧
        task ∈ scheduler.tasks ∧ task.hasSetup = true ∧ task.stage = .generating ∧
        scheduler.isInitialized = false :=
    ⟨_, _, rfl, List.mem_cons_self, rfl, rfl, rfl⟩
  exact ⟨scheduler, (Reachable.create rfl).run ran, task, member, brings, generates,
    uninitialized⟩

end Scheduler

end BusBridge
