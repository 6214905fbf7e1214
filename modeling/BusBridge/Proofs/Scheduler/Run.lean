/-
This file proves what a move of a task and a submission do to a scheduler. A move is one step of
the task, or it changes only the world around the scheduler.
-/

import BusBridge.Proofs.Scheduler.Reachable
import BusBridge.Scheduler.Run

namespace BusBridge

namespace Scheduler

variable {scheduler next : Scheduler} {task : Task} {action : Action} {size : PoolSize}

/-- A task is found by its job. -/
theorem Invariant.task?_eq (valid : Invariant size scheduler) (member : task ∈ scheduler.tasks) :
    scheduler.task? task.job = some task := by
  cases found : scheduler.task? task.job with
  | none =>
      have others := List.find?_eq_none.1 found task member
      simp at others
  | some other =>
      obtain ⟨inTasks, same⟩ := mem_of_task? found
      rw [valid.unique member inTasks same]

/-- An action of a job is a step of its task. -/
theorem Invariant.step?_eq (valid : Invariant size scheduler) (member : task ∈ scheduler.tasks)
    (own : Action.job? action = some task.job) :
    scheduler.step? action = scheduler.taskStep? task action := by
  have found := valid.task?_eq member
  cases action <;> cases own <;> simp [step?, Action.job?, found]

/-- A step of the job of a task is a step of the task. -/
theorem Invariant.taskStep_of_step? (valid : Invariant size scheduler)
    (member : task ∈ scheduler.tasks) (own : Action.job? action = some task.job)
    (possible : scheduler.step? action = some next) : TaskStep scheduler task action next :=
  .of_taskStep? own ((valid.step?_eq member own).symm.trans possible)

end Scheduler

/-- The setup and the pipeline of a job end with these actions. -/
def Action.endsWork : Action → Bool
  | .finishSetup _ | .panicSetup .. | .finishPipeline .. => true
  | _ => false

namespace SchedulerRun

variable {World : Type} {run moved : SchedulerRun World} {task : Task} {action : Action}
  {size : PoolSize} {target : Target} {work : Work World} {id : JobId}

/-- What the world becomes when a task takes a step. Only the work of its job changes it. -/
inductive ChangesWorld (run : SchedulerRun World) (task : Task) : Action → World → Prop where
  | quiet {action : Action} (quiet : action.endsWork = false) :
      ChangesWorld run task action run.world
  | skipSetup {work : Work World} (known : run.works.lookup task.job = some work)
      (absent : work.setup = none) : ChangesWorld run task (.finishSetup task.job) run.world
  | setUp {work : Work World} {setup : World → Effect World (Except Panic Unit)}
      (known : run.works.lookup task.job = some work) (brings : work.setup = some setup)
      (completes : (setup run.world).result = .ok ()) :
      ChangesWorld run task (.finishSetup task.job) (setup run.world).world
  | panic {work : Work World} {setup : World → Effect World (Except Panic Unit)} {panic : Panic}
      (known : run.works.lookup task.job = some work) (brings : work.setup = some setup)
      (panics : (setup run.world).result = .error panic) :
      ChangesWorld run task (.panicSetup task.job panic) (setup run.world).world
  | generate {work : Work World} (known : run.works.lookup task.job = some work) :
      ChangesWorld run task (.finishPipeline task.job (work.pipeline run.world).result)
        (work.pipeline run.world).world

/-- What a move of a task does. -/
inductive Move (run : SchedulerRun World) (task : Task) (moved : SchedulerRun World) : Prop where
  | enter {work : Work World} (stage : task.stage = .generating)
      (known : run.works.lookup task.job = some work) (fresh : task.job ∉ run.entered)
      (same : moved.scheduler = run.scheduler) (entered : moved.entered = task.job :: run.entered)
      (world : moved.world = work.enter run.world)
  | step (action : Action)
      (step : Scheduler.TaskStep run.scheduler task action moved.scheduler)
      (entered : moved.entered = run.entered) (changes : run.ChangesWorld task action moved.world)

/-- A pipeline ends as the work of its job says. -/
theorem ChangesWorld.exists_work {world : World} {ending : PipelineEnd}
    (changes : run.ChangesWorld task (.finishPipeline task.job ending) world) :
    ∃ work, run.works.lookup task.job = some work ∧ (work.pipeline run.world).result = ending := by
  cases changes with
  | quiet quiet => cases quiet
  | generate known => exact ⟨_, known, rfl⟩

/-- The scheduler does not touch the work. -/
theorem perform_works : (run.perform action).works = run.works := by
  unfold perform
  split <;> rfl

/-- The scheduler enters no pipeline. -/
theorem perform_entered : (run.perform action).entered = run.entered := by
  unfold perform
  split <;> rfl

/-- The scheduler does not touch the world. -/
theorem perform_world : (run.perform action).world = run.world := by
  unfold perform
  split <;> rfl

/-- An action that is possible is performed. -/
theorem perform_scheduler {next : Scheduler} (possible : run.scheduler.step? action = some next) :
    (run.perform action).scheduler = next := by
  simp only [perform, possible]

/-- A step that the stage of a task calls for is possible after a change of the world too. -/
theorem Move.of_possible {changed : SchedulerRun World}
    (valid : Scheduler.Invariant size run.scheduler)
    (member : task ∈ run.scheduler.tasks) (own : Scheduler.Action.job? action = some task.job)
    (same : changed.scheduler = run.scheduler) (entered : changed.entered = run.entered)
    (changes : run.ChangesWorld task action changed.world)
    (possible : (run.scheduler.step? action).isSome = true) :
    Move run task (changed.perform action) := by
  obtain ⟨next, possible⟩ := Option.isSome_iff_exists.1 possible
  refine .step action ?_ (perform_entered.trans entered) ?_
  · rw [perform_scheduler (same ▸ possible)]
    exact valid.taskStep_of_step? member own possible
  · rw [perform_world]
    exact changes

/-- A setup ends well or panics. -/
theorem Move.of_setUp (valid : Scheduler.Invariant size run.scheduler)
    (member : task ∈ run.scheduler.tasks) (stage : task.stage = .settingUp)
    (known : run.works.lookup task.job = some work) :
    (run.setUp task.job work).works = run.works ∧ Move run task (run.setUp task.job work) := by
  have finishes : (run.scheduler.step? (.finishSetup task.job)).isSome = true := by
    rw [valid.step?_eq member rfl]
    simp [Scheduler.taskStep?, stage]
  have panics : ∀ panic, (run.scheduler.step? (.panicSetup task.job panic)).isSome = true := by
    intro panic
    rw [valid.step?_eq member rfl]
    simp [Scheduler.taskStep?, stage]
  simp only [setUp]
  split
  case h_1 absent =>
    exact ⟨perform_works,
      .of_possible valid member rfl rfl rfl (.skipSetup known absent) finishes⟩
  case h_2 setup brings =>
    split
    case h_1 panic panicked =>
      exact ⟨perform_works,
        .of_possible valid member rfl rfl rfl (.panic known brings panicked) (panics panic)⟩
    case h_2 completes =>
      exact ⟨perform_works,
        .of_possible valid member rfl rfl rfl (.setUp known brings completes) finishes⟩

/-- A pipeline is entered, or it ends as its work says. -/
theorem Move.of_generate (valid : Scheduler.Invariant size run.scheduler)
    (member : task ∈ run.scheduler.tasks) (stage : task.stage = .generating)
    (known : run.works.lookup task.job = some work)
    (generates : run.generate task.job work = some moved) :
    moved.works = run.works ∧ Move run task moved := by
  have finishes : ∀ ending,
      (run.scheduler.step? (.finishPipeline task.job ending)).isSome = true := by
    intro ending
    rw [valid.step?_eq member rfl]
    simp [Scheduler.taskStep?, stage]
  unfold generate at generates
  split at generates
  case isTrue fresh =>
    cases generates
    exact ⟨rfl, .enter stage known (by simpa using fresh) rfl rfl rfl⟩
  case isFalse =>
    split at generates <;> cases generates
    case isTrue =>
      exact ⟨perform_works,
        .of_possible valid member rfl rfl rfl (.generate known) (finishes _)⟩

/-- A move leaves the works of all jobs as they are. -/
theorem Move.of_moveTask? (valid : Scheduler.Invariant size run.scheduler)
    (member : task ∈ run.scheduler.tasks) (moves : run.moveTask? task = some moved) :
    moved.works = run.works ∧ Move run task moved := by
  have possible {action : Action} (own : Scheduler.Action.job? action = some task.job)
      (quiet : action.endsWork = false)
      (moves : (run.scheduler.step? action).map (fun _ => run.perform action) = some moved) :
      moved.works = run.works ∧ Move run task moved := by
    obtain ⟨next, possible, rfl⟩ := Option.map_eq_some_iff.1 moves
    exact ⟨perform_works, .of_possible valid member own rfl rfl (.quiet quiet)
      (Option.isSome_iff_exists.2 ⟨next, possible⟩)⟩
  simp only [moveTask?] at moves
  cases stage : task.stage <;> simp only [stage] at moves
  case settingUp =>
    obtain ⟨work, known, rfl⟩ := Option.map_eq_some_iff.1 moves
    exact Move.of_setUp valid member stage known
  case generating =>
    obtain ⟨work, known, generates⟩ := Option.bind_eq_some_iff.1 moves
    exact Move.of_generate valid member stage known generates
  all_goals exact possible rfl rfl moves

/-- A submission that is handed in is the one of the scheduler. -/
theorem handIn_eq : ((run.handIn target work).1, (run.handIn target work).2.scheduler) =
    run.scheduler.submit target work.setup.isSome :=
  rfl

/-- A job that is new gets its work. -/
theorem works_handIn : (run.handIn target work).2.works =
    if (run.scheduler.inFlight? target).isSome then run.works
    else run.works ++ [((run.handIn target work).1, work)] :=
  perform_works

/-- The world is as it was when a target is handed in. -/
theorem world_handIn : (run.handIn target work).2.world = run.world :=
  perform_world

/-- Only the work of a submission is new. -/
theorem mem_works_handIn {entry : JobId × Work World}
    (member : entry ∈ (run.handIn target work).2.works) :
    entry ∈ run.works ∨ entry = ((run.handIn target work).1, work) := by
  rw [works_handIn] at member
  split at member
  case isTrue => exact .inl member
  case isFalse => exact (List.mem_append.1 member).imp_right List.mem_singleton.1

end SchedulerRun

end BusBridge
