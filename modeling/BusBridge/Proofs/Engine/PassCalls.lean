/-
This file proves that the one call that generates all targets is a run of a pass: the one in which
the workers are done with each target before the thread of the pass goes on.
-/

import BusBridge.Proofs.Engine.PassOrder

namespace BusBridge

namespace GenerationPass

/-- A target is started, and its job is run to its end. -/
def start (pass : GenerationPass) (target : Target) : GenerationPass :=
  let (pending, engine) := pass.engine.startTarget target
  { pass with engine, inFlight := pass.inFlight ++ [pending] }

end GenerationPass

namespace Engine

variable {engine : Engine} {target : Target}

/-- A job that is submitted is run to its end, and nothing is run where there is none. -/
theorem startTarget_cases (serves : engine.Serves) (target : Target) :
    (∃ job, (engine.handIn target).1.state = .running job ∧
      engine.startTarget target = ((engine.handIn target).1,
        { (engine.handIn target).2 with run := (engine.handIn target).2.run.settle })) ∨
    engine.startTarget target = engine.handIn target ∧
      engine.SamePlan (engine.handIn target).2 := by
  obtain ⟨own, -, -⟩ := serves.known_handIn target
  obtain ⟨-, -, handed⟩ := handIn_cases engine target
  unfold startTarget
  generalize engine.handIn target = pair at own handed ⊢
  obtain ⟨⟨other, state⟩, next⟩ := pair
  obtain rfl : other = target := own
  rcases handed with ⟨same, idle⟩ | ⟨job, rfl, -⟩
  · refine .inr ⟨?_, same⟩
    split
    case h_1 running =>
      cases running
      exact absurd rfl (idle _)
    case h_2 => rfl
  · exact .inl ⟨job, rfl, rfl⟩

theorem target_startTarget (serves : engine.Serves) :
    (engine.startTarget target).1.target = target := by
  have own := (serves.known_handIn target).1
  rcases startTarget_cases serves target with ⟨-, -, started⟩ | ⟨started, -⟩
  · rw [started]
    exact own
  · rw [started]
    exact own

end Engine

namespace PassRun

variable {engine : Engine} {run : PassRun} {pass next : GenerationPass} {stage later : PassStage}
  {target : Target}

/-- All that the tasks of a pass can still do may happen before its thread goes on. -/
theorem Reachable.settle (serves : engine.Serves) (reached : Reachable engine run) :
    ∃ requests, Reachable engine { run with
      pass := { run.pass with engine := { run.pass.engine with run := run.pass.engine.run.settle } }
      requests } := by
  have advance (fuel : Nat) {run : PassRun} (reached : Reachable engine run) :
      ∃ requests, Reachable engine { run with
        pass := { run.pass with
          engine := { run.pass.engine with run := run.pass.engine.run.advance fuel } }
        requests } := by
    induction fuel generalizing run with
    | zero => exact ⟨run.requests, reached⟩
    | succ fuel ih =>
        rw [SchedulerRun.advance]
        split
        case h_1 => exact ⟨run.requests, reached⟩
        case h_2 moved found =>
          obtain ⟨task, member, moves⟩ := List.exists_of_findSome?_eq_some found
          have known : run.scheduler.task? task.job = some task :=
            (reached.serves serves).run.scheduler.task?_eq member
          have step : run.step? (.task task.job) = run.moveTask? task := by
            rw [step?, known, Option.bind_some]
          rw [moveTask?, moves, Option.map_some] at step
          exact ih (reached.step step)
  exact advance _ reached

/-- A pass may come to a stage while none of its tasks is left. -/
structure Rests (engine : Engine) (pass : GenerationPass) (stage : PassStage) : Prop where
  idle : pass.engine.run.scheduler.tasks = []
  reached : ∃ requests, Reachable engine { pass, stage, requests }

/-- While no task is left, the thread of a pass may go on. -/
theorem Rests.movePass (rests : Rests engine pass stage)
    (moves : ∀ requests, movePass? { pass, stage, requests } =
      some { pass := next, stage := later, requests }) :
    ∃ requests, Reachable engine { pass := next, stage := later, requests } := by
  obtain ⟨requests, reached⟩ := rests.reached
  have idle : (PassRun.mk pass stage requests).scheduler.tasks = [] := rests.idle
  have step : step? { pass, stage, requests } .pass =
      some { pass := next, stage := later, requests } := by
    rw [step?, idle]
    exact moves requests
  exact ⟨requests, reached.step step⟩

/-- A target that the thread hands in is run to its end before the thread goes on. -/
theorem Rests.start (rests : Rests engine pass stage) (serves : engine.Serves)
    (moves : ∀ requests, movePass? { pass, stage, requests } =
      some { pass := pass.handIn target, stage := later, requests }) :
    Rests engine (pass.start target) later := by
  obtain ⟨requests, reached⟩ := rests.reached
  have passServes : pass.engine.Serves := reached.serves serves
  obtain ⟨handed, handedIn⟩ := rests.movePass moves
  unfold GenerationPass.start
  rcases Engine.startTarget_cases passServes target with ⟨job, -, started⟩ | ⟨started, same⟩
  · rw [started]
    refine ⟨?_, handedIn.settle serves⟩
    exact (passServes.handIn target).run.tasks_settle_eq_nil
  · rw [started]
    refine ⟨?_, handed, handedIn⟩
    exact (congrArg Scheduler.tasks same.2.1).trans rests.idle

/-- While no task is left, the oldest target is ready. -/
theorem Rests.finishOldest?_eq (rests : Rests engine pass stage) (serves : engine.Serves)
    (waiting : pass.inFlight ≠ []) : pass.finishOldest? = some pass.finishOldest := by
  obtain ⟨requests, reached⟩ := rests.reached
  obtain ⟨history, remembered⟩ := reached.exists_remembered
  have ready := (remembered.order serves).1.isReady_of_idle rests.idle
  obtain ⟨oldest, rest, inFlight⟩ := List.exists_cons_of_ne_nil waiting
  rw [GenerationPass.finishOldest?, inFlight]
  exact if_pos (ready oldest (by simp [inFlight]))

theorem Rests.window_eq (rests : Rests engine pass stage) (serves : engine.Serves) :
    pass.window = engine.configuration.maxPendingJobs := by
  obtain ⟨requests, reached⟩ := rests.reached
  obtain ⟨history, remembered⟩ := reached.exists_remembered
  exact (remembered.order serves).1.window_eq

theorem scheduler_finishOldest (pass : GenerationPass) :
    pass.finishOldest.engine.run.scheduler = pass.engine.run.scheduler := by
  unfold GenerationPass.finishOldest
  split
  case h_1 => rfl
  case h_2 => exact Engine.sameRun_finishTarget.scheduler

theorem inFlight_finishOldest (pass : GenerationPass) :
    pass.finishOldest.inFlight = pass.inFlight.tail := by
  unfold GenerationPass.finishOldest
  split
  case h_1 none => rw [none, List.tail_nil]
  case h_2 oldest rest inFlight => rw [inFlight, List.tail_cons]

/-- The thread may finish the oldest target. -/
theorem Rests.finishOldest (rests : Rests engine pass stage) (serves : engine.Serves)
    (waiting : pass.inFlight ≠ [])
    (moves : ∀ requests, movePass? { pass, stage, requests } =
      pass.finishOldest?.map fun next => { pass := next, stage := later, requests }) :
    Rests engine pass.finishOldest later := by
  refine ⟨(congrArg Scheduler.tasks (scheduler_finishOldest pass)).trans rests.idle, ?_⟩
  refine rests.movePass fun requests => ?_
  rw [moves, rests.finishOldest?_eq serves waiting, Option.map_some]

/-- The loader is generated first. -/
theorem rests_generateLoader (serves : engine.Serves) (idle : engine.run.scheduler.tasks = []) :
    Rests engine (GenerationPass.generateLoader engine) .scanning := by
  let begun : GenerationPass := { engine }
  let loader := Target.loader engine.configuration.loaderContract
  have begins : Rests engine begun .begun := ⟨idle, [], .begin⟩
  have started : Rests engine (begun.start loader) .loading :=
    begins.start serves fun _ => rfl
  have finished : Rests engine (begun.start loader).finishOldest .scanning :=
    started.finishOldest serves (by simp [GenerationPass.start]) fun _ => rfl
  have own : (engine.startTarget loader).1.target = loader := Engine.target_startTarget serves
  have same : (begun.start loader).finishOldest = GenerationPass.generateLoader engine := by
    simp only [GenerationPass.start, GenerationPass.finishOldest, begun, List.nil_append, own]
    rfl
  exact same ▸ finished

/-- The beans are started one by one, each of them when the window has room for it. -/
theorem Rests.addBeans (serves : engine.Serves) {window : Nat}
    (limit : window = engine.configuration.maxPendingJobs) {beans : List TypeDeclaration}
    (rests : Rests engine pass (.generating beans)) :
    Rests engine (beans.foldl (GenerationPass.addBean window) pass) (.generating []) := by
  induction beans generalizing pass with
  | nil => exact rests
  | cons bean beans ih =>
      have own := (rests.window_eq serves).trans limit.symm
      have positive : 0 < window :=
        limit ▸ Configuration.maxPendingJobs_pos_of_validate serves.accepted
      -- A full window is given room by the oldest target, and then the next bean is started.
      obtain ⟨roomy, room⟩ : Rests engine
          (if pass.inFlight.length = window then pass.finishOldest else pass)
            (.generating (bean :: beans)) ∧
          (if pass.inFlight.length = window then pass.finishOldest else pass).inFlight.length ≠
            window := by
        split
        case isFalse room => exact ⟨rests, room⟩
        case isTrue full =>
          have waiting : pass.inFlight ≠ [] := List.length_pos_iff.1 (full ▸ positive)
          refine ⟨rests.finishOldest serves waiting fun _ => if_pos (full.trans own.symm), ?_⟩
          rw [inFlight_finishOldest, List.length_tail]
          omega
      have limited := (roomy.window_eq serves).trans limit.symm
      exact ih (roomy.start serves fun _ => if_neg fun full => room (full.trans limited))

/-- When no bean is left to be started, the targets in flight are finished. -/
theorem Rests.finishAll (serves : engine.Serves) (rests : Rests engine pass (.generating [])) :
    Rests engine (GenerationPass.finishAll pass.inFlight.length pass) (.generating []) ∧
      (GenerationPass.finishAll pass.inFlight.length pass).inFlight = [] := by
  induction count : pass.inFlight.length generalizing pass with
  | zero => exact ⟨rests, List.length_eq_zero_iff.1 count⟩
  | succ count ih =>
      have waiting : pass.inFlight ≠ [] := List.length_pos_iff.1 (by omega)
      refine ih (rests.finishOldest serves waiting fun _ => if_neg waiting) ?_
      rw [inFlight_finishOldest, List.length_tail]
      omega

/-- When nothing is in flight any more, the pass is closed. -/
theorem Rests.close (rests : Rests engine pass (.generating [])) (none : pass.inFlight = []) :
    ∃ requests, Reachable engine { pass := pass.close, stage := .finished, requests } :=
  rests.movePass fun _ => if_pos none

/-- The call that generates all targets ends as a pass does, with the same report and the same
engine, or it is stopped where that pass is aborted. -/
theorem exists_run_generateAll (serves : engine.Serves)
    (idle : engine.run.scheduler.tasks = []) :
    ∃ run, Reachable engine run ∧ run.pass.engine = engine.generateAll.2 ∧
      (run.stage = .finished ∧ engine.generateAll.1 = .ok run.pass.report ∨
        run.stage = .aborted ∧ engine.generateAll.1 = .error .unrepresentable) := by
  have loaded := rests_generateLoader serves idle
  generalize scan : (GenerationPass.generateLoader engine).scan = scanned
  have kept : (GenerationPass.generateLoader engine).engine.configuration =
      engine.configuration := by
    obtain ⟨requests, reached⟩ := loaded.reached
    exact reached.configuration_eq serves
  -- The call decides by the window after its scan, as the run does.
  have call : engine.generateAll =
      if GenerationPass.maximalWindow < scanned.2.window then
        (.error .unrepresentable, scanned.2.engine)
      else
        (.ok (scanned.2.generateBeans scanned.1).report,
          (scanned.2.generateBeans scanned.1).close.engine) := by
    rw [← scan, GenerationPass.scan, kept]
    rfl
  have rests : Rests engine scanned.2 (.afterScan scanned.2.window scanned.1) := by
    rw [← scan]
    exact ⟨loaded.idle, loaded.movePass fun _ => rfl⟩
  rw [call]
  unfold PassStage.afterScan at rests
  split at rests
  case isTrue exceeded =>
    obtain ⟨requests, reached⟩ := rests.reached
    rw [if_pos exceeded]
    exact ⟨_, reached, rfl, .inr ⟨rfl, rfl⟩⟩
  case isFalse fits =>
    have started := rests.addBeans serves (rests.window_eq serves)
    obtain ⟨finished, none⟩ := started.finishAll serves
    obtain ⟨requests, reached⟩ := finished.close none
    rw [if_neg fits]
    exact ⟨_, reached, rfl, .inl ⟨rfl, rfl⟩⟩

end PassRun

end BusBridge
