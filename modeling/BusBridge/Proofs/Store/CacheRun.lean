/-
This file holds runs of a cache in which any number of calls take their steps in any order. A call
may fail at a step, or take no more steps.
-/

import BusBridge.Proofs.Store.CacheEntry

namespace BusBridge

/-- A call stores an artifact for a target, or takes the entry of a target away. -/
inductive CacheCall where
  | write (target : Target) (artifact : Artifact)
  | invalidate (target : Target)
  deriving DecidableEq, Repr

/-- A write opens the directory of the cache first. -/
inductive CallStage where
  | begun
  | opened
  | sourced
  | completed
  | failed (failure : StoreFailure)
  deriving DecidableEq, Repr

namespace CallStage

def ofResult : Except StoreFailure α → CallStage
  | .ok _ => .completed
  | .error failure => .failed failure

def after : EntryPart → CallStage
  | .source => .sourced
  | .sidecar => .completed

/-- The artifact of a write was found to be of the target's class. -/
def isChecked : CallStage → Bool
  | .begun | .failed _ => false
  | .opened | .sourced | .completed => true

end CallStage

namespace CacheCall

def target : CacheCall → Target
  | .write target _ => target
  | .invalidate target => target

/-- What a call leaves in a file of its entry. -/
def content? : CacheCall → EntryPart → Option ByteArray
  | .write _ artifact, .source => some artifact.source.toUTF8
  | .write target artifact, .sidecar =>
      some (ArtifactCache.sidecar target artifact.source).print.toUTF8
  | .invalidate _, _ => none

def source? : CacheCall → Option String
  | .write _ artifact => some artifact.source
  | .invalidate _ => none

def hasOwnClass : CacheCall → Prop
  | .write target artifact => artifact.className = target.className
  | .invalidate _ => True

/-- The file that a call is about to change. -/
def due? : CacheCall → CallStage → Option EntryPart
  | .write .., .opened | .invalidate _, .begun => some .source
  | _, .sourced => some .sidecar
  | _, _ => none

/-- The directory is opened for an artifact of the target's own class only. -/
def begin (cache : ArtifactCache) (files : Files) (target : Target) (artifact : Artifact) :
    CallStage × Files :=
  if artifact.className = target.className then
    match files.createDirectories cache.directory with
    | (.error cause, opened) => (.failed (.io cause), opened)
    | (.ok (), opened) => (.opened, opened)
  else
    (.failed (.classMismatch target.display target.className.qualified
      artifact.className.qualified), files)

/-- A file that is not there needs no removal. -/
def remove (cache : ArtifactCache) (files : Files) (target : Target) (part : EntryPart) :
    Except FileFailure Unit × Files :=
  match ArtifactCache.removeEntry files (cache.partPath target part) with
  | .error cause => (.error cause, files)
  | .ok (_, changed) => (.ok (), changed)

/-- A file of the entry is replaced or removed in one step. -/
def change (cache : ArtifactCache) (files : Files) (call : CacheCall) (part : EntryPart)
    (fault : Option Files.ReplaceFault) : Except FileFailure Unit × Files :=
  match call, part with
  | .write target artifact, .source => cache.storeSource files target artifact.source fault
  | .write target artifact, .sidecar => cache.storeSidecar files target artifact.source fault
  | .invalidate target, part => remove cache files target part

/-- A change that fails is the last step of its call. -/
def changeStep (cache : ArtifactCache) (files : Files) (call : CacheCall) (part : EntryPart)
    (fault : Option Files.ReplaceFault) : CallStage × Files × Option EntryPart :=
  match call.change cache files part fault with
  | (.ok (), changed) => (.after part, changed, some part)
  | (.error cause, changed) => (.failed (.io cause), changed, none)

/-- A step opens the directory or changes one file of the entry. -/
def advance? (cache : ArtifactCache) (files : Files) (call : CacheCall) (stage : CallStage)
    (fault : Option Files.ReplaceFault) : Option (CallStage × Files × Option EntryPart) :=
  match call, stage with
  | .write target artifact, .begun =>
      let (stage, opened) := begin cache files target artifact
      some (stage, opened, none)
  | _, _ => (call.due? stage).map fun part => call.changeStep cache files part fault

/-- A call takes its steps while no other call does. -/
def advanceAlone (cache : ArtifactCache) (call : CacheCall) :
    List (Option Files.ReplaceFault) → CallStage × Files → CallStage × Files
  | [], state => state
  | fault :: rest, (stage, files) =>
      match call.advance? cache files stage fault with
      | none => (stage, files)
      | some (next, changed, _) => advanceAlone cache call rest (next, changed)

variable {cache : ArtifactCache} {files : Files}

/-- A file that is due is changed. -/
theorem advance?_due {call : CacheCall} {stage : CallStage} {part : EntryPart}
    (due : call.due? stage = some part) (fault : Option Files.ReplaceFault) :
    call.advance? cache files stage fault = some (call.changeStep cache files part fault) := by
  unfold advance?
  split
  case h_1 => cases due
  case h_2 => rw [due, Option.map_some]

/-- A call that failed takes no more steps. -/
theorem advanceAlone_failed (call : CacheCall) (failure : StoreFailure)
    (faults : List (Option Files.ReplaceFault)) :
    advanceAlone cache call faults (.failed failure, files) = (.failed failure, files) := by
  cases faults with
  | nil => rfl
  | cons fault rest => cases call <;> rfl

/-- A file that is changed is followed by the steps after it. -/
theorem advanceAlone_changed {call : CacheCall} {stage : CallStage} {part : EntryPart}
    {fault : Option Files.ReplaceFault} {changed : Files} (due : call.due? stage = some part)
    (done : call.change cache files part fault = (.ok (), changed))
    (rest : List (Option Files.ReplaceFault)) :
    advanceAlone cache call (fault :: rest) (stage, files) =
      advanceAlone cache call rest (.after part, changed) := by
  rw [advanceAlone, advance?_due due, changeStep, done]

/-- The change of a file is the last step when it fails. -/
theorem advanceAlone_unchanged {call : CacheCall} {stage : CallStage} {part : EntryPart}
    {fault : Option Files.ReplaceFault} {changed : Files} {cause : FileFailure}
    (due : call.due? stage = some part)
    (failed : call.change cache files part fault = (.error cause, changed))
    (rest : List (Option Files.ReplaceFault)) :
    advanceAlone cache call (fault :: rest) (stage, files) = (.failed (.io cause), changed) := by
  rw [advanceAlone, advance?_due due, changeStep, failed]
  exact advanceAlone_failed ..

/-- A write stores its source. -/
theorem change_write_source (target : Target) (artifact : Artifact)
    (fault : Option Files.ReplaceFault) :
    change cache files (.write target artifact) .source fault =
      cache.storeSource files target artifact.source fault := rfl

/-- A write stores its sidecar. -/
theorem change_write_sidecar (target : Target) (artifact : Artifact)
    (fault : Option Files.ReplaceFault) :
    change cache files (.write target artifact) .sidecar fault =
      cache.storeSidecar files target artifact.source fault := rfl

/-- An invalidation removes either file. -/
theorem change_invalidate (target : Target) (part : EntryPart)
    (fault : Option Files.ReplaceFault) :
    change cache files (.invalidate target) part fault = remove cache files target part := by
  cases part <;> rfl

/-- A removal leaves what the tree is without the file. -/
theorem remove_ok {target : Target} {part : EntryPart} {removed : Bool} {changed : Files}
    (done : ArtifactCache.removeEntry files (cache.partPath target part) = .ok (removed, changed)) :
    remove cache files target part = (.ok (), changed) := by
  unfold remove
  rw [done]

/-- A removal that fails leaves the tree. -/
theorem remove_error {target : Target} {part : EntryPart} {cause : FileFailure}
    (failed : ArtifactCache.removeEntry files (cache.partPath target part) = .error cause) :
    remove cache files target part = (.error cause, files) := by
  unfold remove
  rw [failed]

/-- The steps of a write make up the whole write. -/
theorem advanceAlone_write {target : Target} {artifact : Artifact}
    {faults : ArtifactCache.WriteFaults} {result : Except StoreFailure String} {changed : Files}
    (written : cache.write files target artifact faults = (result, changed)) :
    advanceAlone cache (.write target artifact) [none, faults.source, faults.sidecar]
      (.begun, files) = (.ofResult result, changed) := by
  unfold ArtifactCache.write at written
  rw [advanceAlone, advance?]
  unfold begin
  by_cases own : artifact.className = target.className
  case neg =>
    rw [if_pos own] at written
    rw [if_neg own]
    cases written
    exact advanceAlone_failed ..
  rw [if_neg (not_not.2 own)] at written
  rw [if_pos own]
  generalize files.createDirectories cache.directory = opening at written ⊢
  obtain ⟨outcome, opened⟩ := opening
  cases outcome with
  | error cause =>
    cases written
    exact advanceAlone_failed ..
  | ok =>
    unfold ArtifactCache.store at written
    simp only [] at written ⊢
    split at written
    case h_1 cause changed failed =>
      cases written
      split at failed
      case h_1 other left broken =>
        cases failed
        rw [advanceAlone_unchanged rfl ((change_write_source ..).trans broken)]
        rfl
      case h_2 sourced stored =>
        rw [advanceAlone_changed rfl ((change_write_source ..).trans stored),
          advanceAlone_unchanged rfl ((change_write_sidecar ..).trans failed)]
        rfl
    case h_2 changed stored =>
      cases written
      split at stored
      case h_1 => cases stored
      case h_2 sourced replaced =>
        rw [advanceAlone_changed rfl ((change_write_source ..).trans replaced),
          advanceAlone_changed rfl ((change_write_sidecar ..).trans stored)]
        rfl

/-- The steps of an invalidation make up the whole invalidation. -/
theorem advanceAlone_invalidate {target : Target} {result : Except StoreFailure Bool}
    {changed : Files} (removed : cache.invalidate files target = (result, changed)) :
    advanceAlone cache (.invalidate target) [none, none] (.begun, files) =
      (.ofResult result, changed) := by
  unfold ArtifactCache.invalidate at removed
  simp only [ArtifactCache.sourcePath_eq, ArtifactCache.sidecarPath_eq] at removed
  split at removed
  case h_1 cause failed =>
    cases removed
    exact advanceAlone_unchanged rfl ((change_invalidate ..).trans (remove_error failed)) _
  case h_2 hadSource withoutSource done =>
    rw [advanceAlone_changed rfl ((change_invalidate ..).trans (remove_ok done))]
    split at removed
    case h_1 cause failed =>
      cases removed
      exact advanceAlone_unchanged rfl ((change_invalidate ..).trans (remove_error failed)) _
    case h_2 hadSidecar withoutBoth done =>
      cases removed
      exact advanceAlone_changed rfl ((change_invalidate ..).trans (remove_ok done)) _

end CacheCall

/-- A step that changed a file of an entry. -/
structure CacheEvent where
  caller : Nat
  call : CacheCall
  part : EntryPart
  deriving DecidableEq, Repr

/-- The latest event is the first one. -/
structure CacheRun where
  files : Files
  calls : List (CacheCall × CallStage) := []
  events : List CacheEvent := []
  deriving DecidableEq

inductive CacheAction where
  | call (call : CacheCall)
  | advance (caller : Nat) (fault : Option Files.ReplaceFault)

namespace CacheRun

def advance? (cache : ArtifactCache) (run : CacheRun) (caller : Nat)
    (fault : Option Files.ReplaceFault) : Option CacheRun :=
  match run.calls[caller]? with
  | none => none
  | some (call, stage) =>
      (call.advance? cache run.files stage fault).map fun (next, changed, part) => {
        files := changed
        calls := run.calls.set caller (call, next)
        events := (part.map fun part => ⟨caller, call, part⟩).toList ++ run.events }

def step? (cache : ArtifactCache) (run : CacheRun) : CacheAction → Option CacheRun
  | .call call => some { run with calls := run.calls ++ [(call, .begun)] }
  | .advance caller fault => run.advance? cache caller fault

/-- What a run can come to from the given files. -/
inductive Reachable (cache : ArtifactCache) (files : Files) : CacheRun → Prop where
  | start : Reachable cache files { files }
  | step {run next : CacheRun} {action : CacheAction} (reached : Reachable cache files run)
      (stepped : run.step? cache action = some next) : Reachable cache files next

/-- The run that takes the given actions, when each of them is possible. -/
def perform? (cache : ArtifactCache) (run : CacheRun) (actions : List CacheAction) :
    Option CacheRun :=
  actions.foldlM (step? cache) run

/-- Actions that are possible keep to reachable runs. -/
theorem Reachable.perform {cache : ArtifactCache} {files : Files} {run next : CacheRun}
    {actions : List CacheAction} (reached : Reachable cache files run)
    (performed : run.perform? cache actions = some next) : Reachable cache files next := by
  induction actions generalizing run with
  | nil =>
      cases performed
      exact reached
  | cons action rest ih =>
      rw [perform?, List.foldlM_cons] at performed
      obtain ⟨middle, stepped, performed⟩ := Option.bind_eq_some_iff.1 performed
      exact ih (reached.step stepped) performed

/-- The calls in the order in which they were made. -/
def requests (run : CacheRun) : List CacheCall :=
  run.calls.map Prod.fst

/-- The sources that are written, or were to be. -/
def sources (run : CacheRun) : List String :=
  run.requests.filterMap CacheCall.source?

/-- The latest step on a file of the target's entry, of whichever target the call was. -/
def latest? (cache : ArtifactCache) (run : CacheRun) (target : Target) (part : EntryPart) :
    Option CacheEvent :=
  run.events.find? fun event =>
    event.part = part && cache.partPath event.call.target part = cache.partPath target part

end CacheRun

end BusBridge
