/-
This file holds runs of a sink in which any number of callers create classes and commit the
handles that they were given, in any order of their steps. Each step on the reservations is made
as a whole, and so is each step on the sources or the files.
-/

import BusBridge.Proofs.Store.SinkFiles

namespace BusBridge

/-- A commit has marked its class, has opened the directory, or failed to write. -/
inductive CommitStage where
  | marked
  | opened
  | spoiled (cause : FileFailure)
  deriving DecidableEq, Repr

/-- A commit that has not returned. -/
structure SinkCommit where
  handle : WriteHandle
  source : String
  stage : CommitStage := .marked
  deriving DecidableEq, Repr

/-- A commit goes on to a stage, or returns. -/
inductive CommitProgress where
  | goesOn (stage : CommitStage)
  | returns (result : Except StoreFailure String)

namespace SinkCommit

/-- A source in memory needs no directory, and a class is released after its write failed. -/
def advance (sink : Sink) (files : Files) (commit : SinkCommit)
    (fault : Option Files.ReplaceFault) : CommitProgress × Sink × Files :=
  match commit.stage with
  | .marked =>
      match sink.storage with
      | .memory sources =>
          let stored := sources.insert commit.handle.className.qualified commit.source
          (.returns (.ok commit.handle.path), { sink with storage := .memory stored }, files)
      | .directory _ =>
          match files.createDirectories (Path.parent commit.handle.path) with
          | (.error cause, created) => (.goesOn (.spoiled cause), sink, created)
          | (.ok (), created) => (.goesOn .opened, sink, created)
  | .opened =>
      match files.replace commit.handle.path commit.source.toUTF8 fault with
      | (.ok (), changed) => (.returns (.ok commit.handle.path), sink, changed)
      | (.error cause, changed) => (.goesOn (.spoiled cause), sink, changed)
  | .spoiled cause =>
      (.returns (.error (.io cause)), sink.release commit.handle.className, files)

/-- Only a commit whose write failed changes the reservations. -/
theorem advance_cases (sink : Sink) (files : Files) (commit : SinkCommit)
    (fault : Option Files.ReplaceFault) :
    (∃ stage left, commit.advance sink files fault = (.goesOn stage, sink, left)) ∨
    (∃ path storage left,
      commit.advance sink files fault = (.returns (.ok path), { sink with storage }, left)) ∨
    ∃ cause, commit.advance sink files fault =
      (.returns (.error (.io cause)), sink.release commit.handle.className, files) := by
  obtain ⟨storage, reservations⟩ := sink
  unfold advance
  cases commit.stage with
  | marked =>
      cases storage with
      | memory sources => exact .inr (.inl ⟨_, _, _, rfl⟩)
      | directory path =>
          dsimp only
          generalize files.createDirectories (Path.parent commit.handle.path) = opening
          obtain ⟨cause | _, created⟩ := opening
          · exact .inl ⟨.spoiled cause, created, rfl⟩
          · exact .inl ⟨.opened, created, rfl⟩
  | opened =>
      dsimp only
      generalize files.replace commit.handle.path commit.source.toUTF8 fault = replaced
      obtain ⟨cause | _, changed⟩ := replaced
      · exact .inl ⟨.spoiled cause, changed, rfl⟩
      · exact .inr (.inl ⟨commit.handle.path, storage, changed, rfl⟩)
  | spoiled cause => exact .inr (.inr ⟨cause, rfl⟩)

/-- A commit that goes on has opened its directory, or its write failed. -/
theorem advance_goesOn {sink changed : Sink} {files left : Files} {commit : SinkCommit}
    {fault : Option Files.ReplaceFault} {stage : CommitStage}
    (worked : commit.advance sink files fault = (.goesOn stage, changed, left)) :
    (stage = .opened → sink.inMemory = false) ∧
      (left = (files.createDirectories (Path.parent commit.handle.path)).2 ∨
        left = (files.replace commit.handle.path commit.source.toUTF8 fault).2 ∧
          (files.replace commit.handle.path commit.source.toUTF8 fault).1 ≠ .ok ()) := by
  obtain ⟨storage, reservations⟩ := sink
  unfold advance at worked
  split at worked
  case h_1 =>
    cases storage with
    | memory sources => cases worked
    | directory path =>
        dsimp only at worked
        split at worked
        case h_1 opened => cases worked; exact ⟨nofun, .inl (by rw [opened])⟩
        case h_2 opened => cases worked; exact ⟨fun _ => rfl, .inl (by rw [opened])⟩
  case h_2 =>
    split at worked
    case h_1 => cases worked
    case h_2 replaced => cases worked; exact ⟨nofun, .inr (by rw [replaced]; exact ⟨rfl, nofun⟩)⟩
  case h_3 => cases worked

/-- A commit succeeds by keeping its source in memory, or by replacing its file. -/
theorem advance_returns_ok {sink changed : Sink} {files left : Files} {commit : SinkCommit}
    {fault : Option Files.ReplaceFault} {path : String}
    (worked : commit.advance sink files fault = (.returns (.ok path), changed, left)) :
    (∃ sources, sink.storage = .memory sources ∧
      changed.storage =
        .memory (sources.insert commit.handle.className.qualified commit.source)) ∨
    commit.stage = .opened ∧ changed = sink ∧
      files.replace commit.handle.path commit.source.toUTF8 fault = (.ok (), left) := by
  obtain ⟨storage, reservations⟩ := sink
  unfold advance at worked
  split at worked
  case h_1 =>
    cases storage with
    | memory sources =>
        cases worked
        exact .inl ⟨sources, rfl, rfl⟩
    | directory path =>
        dsimp only at worked
        split at worked <;> cases worked
  case h_2 stage =>
    split at worked
    case h_1 replaced => cases worked; exact .inr ⟨stage, rfl, replaced⟩
    case h_2 => cases worked
  case h_3 => cases worked

/-- A commit that succeeds leaves the places of the classes. -/
theorem pathFor_of_returns_ok {sink changed : Sink} {files left : Files} {commit : SinkCommit}
    {fault : Option Files.ReplaceFault} {path : String}
    (worked : commit.advance sink files fault = (.returns (.ok path), changed, left)) :
    changed.pathFor = sink.pathFor ∧ changed.inMemory = sink.inMemory := by
  rcases advance_returns_ok worked with ⟨sources, memory, stored⟩ | ⟨-, rfl, -⟩
  · refine ⟨funext fun className => ?_, ?_⟩
    · simp only [Sink.pathFor, stored, memory]
    · simp only [Sink.inMemory, stored, memory]
  · exact ⟨rfl, rfl⟩

end SinkCommit

/-- A call that has returned: it asked for a handle, or it had one to commit. -/
inductive SinkEvent where
  | created (className : ClassName) (given : Bool)
  | committed (className : ClassName) (source : String) (result : Except StoreFailure String)
  deriving DecidableEq

namespace SinkEvent

def className : SinkEvent → ClassName
  | .created className _ | .committed className _ _ => className

/-- The class and the source of a commit that succeeded. -/
def stored? : SinkEvent → Option (ClassName × String)
  | .committed className source (.ok _) => some (className, source)
  | _ => none

end SinkEvent

/-- The handles are those that no commit has used. The latest event is the first one. -/
structure SinkRun where
  sink : Sink
  files : Files
  handles : List WriteHandle := []
  commits : List SinkCommit := []
  events : List SinkEvent := []
  deriving DecidableEq

/-- Handles and commits are chosen by their place in the run. -/
inductive SinkAction where
  | create (className : ClassName)
  | commit (place : Nat) (source : String)
  | advance (place : Nat) (fault : Option Files.ReplaceFault)

namespace SinkRun

def create (run : SinkRun) (className : ClassName) : SinkRun :=
  let (handle, sink) := run.sink.tryCreate className
  { run with
    sink
    handles := handle.toList ++ run.handles
    events := .created className handle.isSome :: run.events }

/-- A commit uses its handle up, also when it finds the class committed. -/
def begin (run : SinkRun) (handle : WriteHandle) (source : String) : SinkRun :=
  match run.sink.reservations.commit handle.className with
  | .error failure =>
      { run with events := .committed handle.className source (.error failure) :: run.events }
  | .ok reservations =>
      { run with
        sink := { run.sink with reservations }
        commits := { handle, source } :: run.commits }

def move (run : SinkRun) (commit : SinkCommit) (fault : Option Files.ReplaceFault) : SinkRun :=
  match commit.advance run.sink run.files fault with
  | (.goesOn stage, sink, files) =>
      { run with sink, files, commits := { commit with stage } :: run.commits }
  | (.returns result, sink, files) =>
      { run with
        sink, files
        events := .committed commit.handle.className commit.source result :: run.events }

def step? (run : SinkRun) : SinkAction → Option SinkRun
  | .create className => some (run.create className)
  | .commit place source =>
      (run.handles[place]?).map fun handle =>
        { run with handles := run.handles.eraseIdx place }.begin handle source
  | .advance place fault =>
      (run.commits[place]?).map fun commit =>
        { run with commits := run.commits.eraseIdx place }.move commit fault

/-- What a run can come to from a new sink and the given files. -/
inductive Reachable (storage : SinkStorage) (files : Files) : SinkRun → Prop where
  | start : Reachable storage files { sink := ⟨storage, {}⟩, files }
  | step {run next : SinkRun} {action : SinkAction} (reached : Reachable storage files run)
      (stepped : run.step? action = some next) : Reachable storage files next

/-- The run that takes the given actions, when each of them is possible. -/
def perform? (run : SinkRun) (actions : List SinkAction) : Option SinkRun :=
  actions.foldlM step? run

/-- Actions that are possible keep to reachable runs. -/
theorem Reachable.perform {storage : SinkStorage} {files : Files} {run next : SinkRun}
    {actions : List SinkAction} (reached : Reachable storage files run)
    (performed : run.perform? actions = some next) : Reachable storage files next := by
  induction actions generalizing run with
  | nil =>
      cases performed
      exact reached
  | cons action rest ih =>
      rw [perform?, List.foldlM_cons] at performed
      obtain ⟨middle, stepped, performed⟩ := Option.bind_eq_some_iff.1 performed
      exact ih (reached.step stepped) performed

/-- The commits that succeeded. -/
def stored (run : SinkRun) : List (ClassName × String) :=
  run.events.filterMap SinkEvent.stored?

/-- The last call for a class that has returned. -/
def latest? (run : SinkRun) (className : ClassName) : Option SinkEvent :=
  run.events.find? (·.className = className)

/-- The classes that are given away: each has a handle, a commit under way or a source. -/
def classes (run : SinkRun) : List ClassName :=
  run.handles.map (·.className) ++ run.commits.map (·.handle.className) ++
    run.stored.map Prod.fst

/-- The classes that are marked as committed: a commit is under way or has succeeded. -/
def marked (run : SinkRun) : List ClassName :=
  run.commits.map (·.handle.className) ++ run.stored.map Prod.fst

/-- What a step can do. The places of handles and commits in the run do not matter. -/
inductive Change (run : SinkRun) : SinkRun → Prop where
  | refused (className : ClassName) (taken : run.sink.isCreated className = true) :
      Change run { run with events := .created className false :: run.events }
  | given (className : ClassName) (free : ¬ run.sink.isCreated className = true) :
      Change run { run with
        sink := { run.sink with reservations := { run.sink.reservations with
          reserved := className :: run.sink.reservations.reserved } }
        handles := ⟨className, run.sink.pathFor className⟩ :: run.handles
        events := .created className true :: run.events }
  | repeated (handle : WriteHandle) (source : String) (rest : List WriteHandle)
      (failure : StoreFailure) (used : run.handles.Perm (handle :: rest))
      (old : handle.className ∈ run.sink.reservations.committed) :
      Change run { run with
        handles := rest
        events := .committed handle.className source (.error failure) :: run.events }
  | marks (handle : WriteHandle) (source : String) (rest : List WriteHandle)
      (used : run.handles.Perm (handle :: rest))
      (new : handle.className ∉ run.sink.reservations.committed) :
      Change run { run with
        sink := { run.sink with reservations := { run.sink.reservations with
          committed := handle.className :: run.sink.reservations.committed } }
        handles := rest
        commits := { handle, source } :: run.commits }
  | goesOn (commit : SinkCommit) (stage : CommitStage) (rest : List SinkCommit) (files : Files)
      (fault : Option Files.ReplaceFault) (held : run.commits.Perm (commit :: rest))
      (worked : commit.advance run.sink run.files fault = (.goesOn stage, run.sink, files)) :
      Change run { run with files, commits := { commit with stage } :: rest }
  | stores (commit : SinkCommit) (rest : List SinkCommit) (path : String) (storage : SinkStorage)
      (files : Files) (fault : Option Files.ReplaceFault)
      (held : run.commits.Perm (commit :: rest))
      (worked : commit.advance run.sink run.files fault =
        (.returns (.ok path), { run.sink with storage }, files)) :
      Change run { run with
        sink := { run.sink with storage }
        files
        commits := rest
        events := .committed commit.handle.className commit.source (.ok path) :: run.events }
  | releases (commit : SinkCommit) (rest : List SinkCommit) (cause : FileFailure)
      (held : run.commits.Perm (commit :: rest)) :
      Change run { run with
        sink := run.sink.release commit.handle.className
        commits := rest
        events := .committed commit.handle.className commit.source (.error (.io cause)) ::
          run.events }

/-- An item may be taken from its place to the front. -/
theorem perm_eraseIdx {α : Type} {items : List α} {item : α} {place : Nat}
    (known : items[place]? = some item) : items.Perm (item :: items.eraseIdx place) := by
  obtain ⟨inside, rfl⟩ := List.getElem?_eq_some_iff.1 known
  exact (List.getElem_cons_eraseIdx_perm inside).symm

/-- A request for a class is a change. -/
theorem Change.create (run : SinkRun) (className : ClassName) :
    Change run (run.create className) := by
  unfold SinkRun.create Sink.tryCreate Reservations.reserve?
  by_cases taken : run.sink.reservations.isReserved className = true
  · rw [if_pos taken]
    exact .refused className taken
  · rw [if_neg taken]
    exact .given className taken

/-- A commit begins with a handle, which is used up. -/
theorem Change.begin {run : SinkRun} {handle : WriteHandle} {rest : List WriteHandle}
    (source : String) (used : run.handles.Perm (handle :: rest)) :
    Change run ({ run with handles := rest }.begin handle source) := by
  unfold SinkRun.begin Reservations.commit
  dsimp only
  by_cases old : run.sink.reservations.committed.contains handle.className = true
  · rw [if_pos old]
    exact .repeated handle source rest _ used (List.contains_iff_mem.1 old)
  · rw [if_neg old]
    exact .marks handle source rest used (mt List.contains_iff_mem.2 old)

/-- A commit takes its next step. -/
theorem Change.move {run : SinkRun} {commit : SinkCommit} {rest : List SinkCommit}
    (fault : Option Files.ReplaceFault) (held : run.commits.Perm (commit :: rest)) :
    Change run ({ run with commits := rest }.move commit fault) := by
  unfold SinkRun.move
  rcases commit.advance_cases run.sink run.files fault with
    ⟨stage, left, worked⟩ | ⟨path, storage, left, worked⟩ | ⟨cause, worked⟩
  · simp only [worked]
    exact .goesOn commit stage rest left fault held worked
  · simp only [worked]
    exact .stores commit rest path storage left fault held worked
  · simp only [worked]
    exact .releases commit rest cause held

/-- A possible step of a sink is one of the changes. -/
theorem Change.of_step? {run next : SinkRun} {action : SinkAction}
    (stepped : run.step? action = some next) : Change run next := by
  cases action with
  | create className =>
      cases stepped
      exact .create run className
  | commit place source =>
      obtain ⟨handle, known, rfl⟩ := Option.map_eq_some_iff.1 stepped
      exact .begin source (perm_eraseIdx known)
  | advance place fault =>
      obtain ⟨commit, known, rfl⟩ := Option.map_eq_some_iff.1 stepped
      exact .move fault (perm_eraseIdx known)

/-- Events are never taken back. -/
theorem Change.events {run next : SinkRun} (change : Change run next) {event : SinkEvent}
    (member : event ∈ run.events) : event ∈ next.events := by
  cases change with
  | marks | goesOn => exact member
  | _ => exact List.mem_cons_of_mem _ member

/-- The steps of one commit follow one another. -/
theorem perform?_advance (run : SinkRun) (commit : SinkCommit)
    (fault : Option Files.ReplaceFault) (steps : List SinkAction) :
    perform? { run with commits := [commit] } (.advance 0 fault :: steps) =
      perform? ({ run with commits := [] }.move commit fault) steps := rfl

/-- The run in which a commit has returned. -/
def conclude (run : SinkRun) (commit : SinkCommit) (result : Except StoreFailure String) :
    SinkRun :=
  { run with
    commits := []
    events := .committed commit.handle.className commit.source result :: run.events }

/-- A commit whose write failed releases its class in one more step. -/
theorem perform?_spoiled (run : SinkRun) (commit : SinkCommit) (cause : FileFailure)
    (failed : commit.stage = .spoiled cause) :
    perform? { run with commits := [commit] } [.advance 0 none] =
      some (conclude { run with sink := run.sink.release commit.handle.className } commit
        (.error (.io cause))) := by
  rw [perform?_advance, move, SinkCommit.advance, failed]
  rfl

/-- The steps of a write to a file make up the whole write. -/
theorem perform?_writeSource (run : SinkRun) {directory : String} {handle : WriteHandle}
    {source : String} {fault : Option Files.ReplaceFault} {written : Except FileFailure Unit}
    {left : Files} (disk : run.sink.storage = .directory directory)
    (whole : Sink.writeSource run.files handle source fault = (written, left)) :
    ∃ steps, perform? { run with commits := [{ handle, source }] } steps =
      some (match written with
        | .ok () => conclude { run with files := left } { handle, source } (.ok handle.path)
        | .error cause => conclude { run with
            sink := run.sink.release handle.className, files := left } { handle, source }
              (.error (.io cause))) := by
  unfold Sink.writeSource at whole
  split at whole
  case h_1 cause created opening =>
    cases whole
    refine ⟨[.advance 0 none, .advance 0 none], ?_⟩
    rw [perform?_advance, move, SinkCommit.advance]
    simp only [disk, opening]
    exact perform?_spoiled { run with files := left } ⟨handle, source, .spoiled cause⟩ cause rfl
  case h_2 created opening =>
    have opened : ∀ steps, perform? { run with commits := [{ handle, source }] }
        (.advance 0 none :: .advance 0 fault :: steps) =
        perform? (move { run with files := created, commits := [] }
          ⟨handle, source, .opened⟩ fault) steps := by
      intro steps
      rw [perform?_advance, move, SinkCommit.advance]
      simp only [disk, opening]
      rfl
    cases written with
    | ok =>
        refine ⟨[.advance 0 none, .advance 0 fault], ?_⟩
        rw [opened, move, SinkCommit.advance]
        simp only [whole]
        rfl
    | error cause =>
        refine ⟨[.advance 0 none, .advance 0 fault, .advance 0 none], ?_⟩
        rw [opened, move, SinkCommit.advance]
        simp only [whole]
        exact perform?_spoiled { run with files := left } ⟨handle, source, .spoiled cause⟩ cause rfl

/-- The steps of a commit that no other call comes between make up the whole commit. -/
theorem perform?_commit {run : SinkRun} {handle : WriteHandle} {rest : List WriteHandle}
    {source : String} {fault : Option Files.ReplaceFault} {result : Except StoreFailure String}
    {changed : Sink} {left : Files} (alone : run.commits = [])
    (used : run.handles = handle :: rest)
    (whole : run.sink.commit run.files handle source fault = (result, changed, left)) :
    ∃ steps, run.perform? (.commit 0 source :: steps) = some { run with
      sink := changed
      files := left
      handles := rest
      events := .committed handle.className source result :: run.events } := by
  obtain ⟨⟨storage, reservations⟩, files, handles, commits, events⟩ := run
  cases alone
  cases used
  have first : ∀ steps, perform? ⟨⟨storage, reservations⟩, files, handle :: rest, [], events⟩
      (.commit 0 source :: steps) = perform? (begin
        ⟨⟨storage, reservations⟩, files, rest, [], events⟩ handle source) steps := fun _ => rfl
  simp only [first]
  unfold begin
  unfold Sink.commit at whole
  dsimp only at whole ⊢
  -- The whole commit and its first step mark the class alike.
  generalize reservations.commit handle.className = marking at whole ⊢
  cases marking with
  | error failure =>
      cases whole
      exact ⟨[], rfl⟩
  | ok marked =>
      dsimp only at whole ⊢
      cases storage with
      | memory sources =>
          cases whole
          exact ⟨[.advance 0 none], rfl⟩
      | directory path =>
          dsimp only at whole
          cases writing : Sink.writeSource files handle source fault with
          | mk written reached =>
              rw [writing] at whole
              obtain ⟨steps, performed⟩ := perform?_writeSource
                ⟨⟨.directory path, marked⟩, files, rest, [], events⟩ rfl writing
              cases written <;> cases whole <;> exact ⟨steps, performed⟩

end SinkRun

end BusBridge
