/-
This file proves what a lookup finds after any interleaving of writes and removals of entries: an
artifact is found exactly when the latest sidecar and the latest source of its entry belong
together.
-/

import BusBridge.Proofs.Files.Replacement
import BusBridge.Proofs.Store.CacheRun

namespace BusBridge

open Files (Changes)

variable {cache : ArtifactCache} {files changed : Files} {target : Target} {part : EntryPart}
  {call : CacheCall} {artifact : Artifact}

/-- A file can be reached when there is one. -/
def Files.Reaches (files : Files) (path : String) : Prop :=
  files.content? (files.destination path) ≠ none → ∃ location, files.locate path = .ok location

/-- A removal changes its own file alone. -/
theorem changes_removeEntry {path : String} {removed : Bool}
    (done : ArtifactCache.removeEntry files path = .ok (removed, changed)) :
    Changes [files.destination path] files changed ∧
      (files.Reaches path → changed.content? (files.destination path) = none) := by
  unfold ArtifactCache.removeEntry at done
  split at done
  case h_1 left gone =>
    cases done
    obtain ⟨touched, empty⟩ := Files.changes_remove gone
    exact ⟨touched, fun _ => empty⟩
  case h_2 missing =>
    cases done
    refine ⟨.refl files, fun reaches => ?_⟩
    by_contra held
    obtain ⟨location, reached⟩ := reaches held
    exact held (Files.content?_of_remove_notFound missing reached)
  case h_3 => cases done

namespace CacheCall

/-- A change of a file is made as a whole, or every entry stays as it was. -/
structure ChangeResult (cache : ArtifactCache) (files : Files) (call : CacheCall)
    (part : EntryPart) (result : Except FileFailure Unit) (changed : Files) : Prop where
  touched : Changes [files.destination (files.temporaryPath (cache.partPath call.target part)),
    files.destination (cache.partPath call.target part)] files changed
  untouched : result ≠ .ok () →
    Changes [files.destination (files.temporaryPath (cache.partPath call.target part))] files
      changed
  content : result = .ok () → files.Reaches (cache.partPath call.target part) →
    changed.content? (files.destination (cache.partPath call.target part)) = call.content? part
  located : result = .ok () → call.content? part ≠ none →
    ∃ location, changed.locate (cache.partPath call.target part) = .ok location

/-- A replacement of a file of an entry. -/
theorem ChangeResult.of_replace {content : ByteArray} {fault : Option Files.ReplaceFault}
    {result : Except FileFailure Unit} (leaves : call.content? part = some content)
    (replaced : files.replace (cache.partPath call.target part) content fault = (result, changed)) :
    ChangeResult cache files call part result changed := by
  obtain ⟨success, failure⟩ := Files.changes_replace replaced
  by_cases done : result = .ok ()
  · obtain ⟨touched, content, located⟩ := success done
    exact ⟨touched, fun failed => absurd done failed, fun _ _ => content.trans leaves.symm,
      fun _ _ => located⟩
  · have untouched := failure done
    exact ⟨untouched.mono (by simp), fun _ => untouched, fun succeeded => absurd succeeded done,
      fun succeeded => absurd succeeded done⟩

/-- Each change of a file is made as a whole or not at all. -/
theorem changeResult_change {fault : Option Files.ReplaceFault} {result : Except FileFailure Unit}
    (done : call.change cache files part fault = (result, changed)) :
    ChangeResult cache files call part result changed := by
  cases call with
  | write target artifact =>
      cases part with
      | source => exact .of_replace rfl done
      | sidecar => exact .of_replace rfl done
  | invalidate target =>
      rw [change_invalidate] at done
      unfold remove at done
      split at done
      case h_1 cause failed =>
        cases done
        exact ⟨.refl files, fun _ => .refl files, nofun, nofun⟩
      case h_2 removed left gone =>
        cases done
        obtain ⟨touched, empty⟩ := changes_removeEntry gone
        exact ⟨touched.mono (List.subset_cons_self ..), fun failed => absurd rfl failed,
          fun _ => empty, fun _ leaves => absurd rfl leaves⟩

end CacheCall

namespace CacheRun

variable {run next : CacheRun} {action : CacheAction} {caller : Nat} {stage : CallStage}

/-- A step of a run adds a call, or is a step of one of the calls. -/
theorem step?_eq_some (stepped : run.step? cache action = some next) :
    (∃ call, next = { run with calls := run.calls ++ [(call, .begun)] }) ∨
      ∃ caller fault call stage after changed touched, run.calls[caller]? = some (call, stage) ∧
        call.advance? cache run.files stage fault = some (after, changed, touched) ∧
        next = {
          files := changed
          calls := run.calls.set caller (call, after)
          events := (touched.map fun part => ⟨caller, call, part⟩).toList ++ run.events } := by
  cases action with
  | call call => exact .inl ⟨call, (Option.some.inj stepped).symm⟩
  | advance caller fault =>
      right
      rw [step?, advance?] at stepped
      split at stepped
      case h_1 => cases stepped
      case h_2 call stage known =>
        rw [Option.map_eq_some_iff] at stepped
        obtain ⟨⟨after, changed, touched⟩, advanced, rfl⟩ := stepped
        exact ⟨caller, fault, call, stage, after, changed, touched, known, advanced, rfl⟩

end CacheRun

namespace CacheCall

variable {stage after : CallStage} {fault : Option Files.ReplaceFault}
  {touched : Option EntryPart}

/-- A write leaves its source. -/
theorem content?_source : call.content? .source = call.source?.map String.toUTF8 := by
  cases call <;> rfl

/-- A source that was left is that of a write. -/
theorem content?_source_eq_some {content : ByteArray}
    (held : call.content? .source = some content) :
    ∃ source, call.source? = some source ∧ content = source.toUTF8 := by
  rw [content?_source, Option.map_eq_some_iff] at held
  obtain ⟨source, isSource, rfl⟩ := held
  exact ⟨source, isSource, rfl⟩

/-- A sidecar that was left is that of a write. -/
theorem content?_sidecar_eq_some {content : ByteArray}
    (held : call.content? .sidecar = some content) :
    ∃ target artifact, call = .write target artifact ∧
      content = (ArtifactCache.sidecar target artifact.source).print.toUTF8 := by
  cases call with
  | write target artifact => exact ⟨target, artifact, rfl, (Option.some.inj held).symm⟩
  | invalidate target => cases held

/-- A step opens the directory, changes a file, or fails to change it. -/
theorem advance?_eq_some
    (advanced : call.advance? cache files stage fault = some (after, changed, touched)) :
    (∃ target artifact, call = .write target artifact ∧ touched = none ∧
      begin cache files target artifact = (after, changed)) ∨
    (∃ part, touched = some part ∧ call.due? stage = some part ∧
      call.change cache files part fault = (.ok (), changed)) ∨
    (∃ part cause, after = .failed (.io cause) ∧ touched = none ∧
      call.change cache files part fault = (.error cause, changed)) := by
  unfold advance? at advanced
  split at advanced
  case h_1 target artifact =>
    left
    cases advanced
    exact ⟨target, artifact, rfl, rfl, rfl⟩
  case h_2 =>
    right
    rw [Option.map_eq_some_iff] at advanced
    obtain ⟨part, due, done⟩ := advanced
    unfold changeStep at done
    split at done
    case h_1 left done' =>
      cases done
      exact .inl ⟨part, rfl, due, done'⟩
    case h_2 cause left failed =>
      cases done
      exact .inr ⟨part, cause, rfl, rfl, failed⟩

/-- The directory is opened without a change of any file. -/
theorem changes_begin {target : Target} {artifact : Artifact}
    (begun : begin cache files target artifact = (after, changed)) :
    Changes [] files changed := by
  unfold begin at begun
  by_cases own : artifact.className = target.className
  · rw [if_pos own] at begun
    have opening := Files.changes_createDirectories files cache.directory
    split at begun
    case h_1 cause opened failed =>
      cases begun
      rwa [failed] at opening
    case h_2 opened done =>
      cases begun
      rwa [done] at opening
  · rw [if_neg own] at begun
    cases begun
    exact .refl files

/-- No later step has an artifact of another class. -/
theorem hasOwnClass_of_begin {target : Target} {artifact : Artifact}
    (begun : begin cache files target artifact = (after, changed)) (checked : after.isChecked) :
    artifact.className = target.className := by
  by_contra foreign
  unfold begin at begun
  rw [if_neg foreign] at begun
  cases begun
  cases checked

/-- A call that changes a file was found to have its own class. -/
theorem hasOwnClass_of_due (due : call.due? stage = some part)
    (checked : stage.isChecked → call.hasOwnClass) : call.hasOwnClass := by
  cases call with
  | write target artifact =>
      cases stage with
      | opened => exact checked rfl
      | sourced => exact checked rfl
      | begun => cases due
      | completed => cases due
      | failed failure => cases due
  | invalidate target => trivial

end CacheCall

namespace CacheRun

variable {run next : CacheRun} {action : CacheAction} {touched : List Location}

/-- A file of the target's entry holds what the latest step on it left. -/
structure Mirrors (cache : ArtifactCache) (target : Target) (part : EntryPart) (run : CacheRun) :
    Prop where
  content : run.files.content? (run.files.destination (cache.partPath target part)) =
    (run.latest? cache target part).bind fun event => event.call.content? part
  reaches : run.files.Reaches (cache.partPath target part)

/-- A change of other files keeps what the entry holds. -/
theorem Mirrors.frame (mirrors : Mirrors cache target part run)
    (change : Changes touched run.files next.files)
    (beside : run.files.destination (cache.partPath target part) ∉ touched)
    (same : next.latest? cache target part = run.latest? cache target part) :
    Mirrors cache target part next := by
  have kept : next.files.content? (next.files.destination (cache.partPath target part)) =
      run.files.content? (run.files.destination (cache.partPath target part)) := by
    rw [change.destination_eq, change.contents _ beside]
  constructor
  case content => rw [kept, same, mirrors.content]
  case reaches =>
    intro held
    rw [kept] at held
    obtain ⟨location, reached⟩ := mirrors.reaches held
    exact ⟨location, change.locate reached⟩

/-- A step on the entry becomes the latest one. -/
theorem Mirrors.replaced (mirrors : Mirrors cache target part run)
    (done : CacheCall.ChangeResult cache run.files call part (.ok ()) next.files)
    (same : cache.partPath call.target part = cache.partPath target part)
    (latest : (next.latest? cache target part).map (·.call) = some call) :
    Mirrors cache target part next := by
  obtain ⟨event, first, rfl⟩ := Option.map_eq_some_iff.1 latest
  have left : next.files.content? (next.files.destination (cache.partPath target part)) =
      event.call.content? part := by
    rw [done.touched.destination_eq, ← same]
    apply done.content rfl
    rw [same]
    exact mirrors.reaches
  constructor
  case content => rw [left, first, Option.bind_some]
  case reaches =>
    intro held
    rw [left] at held
    rw [← same]
    exact done.located rfl held

/-- An event is the latest one of its own file, and leaves those of the others. -/
theorem latest?_event {caller : Nat} {other : EntryPart} {calls : List (CacheCall × CallStage)} :
    latest? cache { files := changed, calls, events := ⟨caller, call, other⟩ :: run.events }
        target part =
      if other = part ∧ cache.partPath call.target part = cache.partPath target part then
        some ⟨caller, call, other⟩
      else run.latest? cache target part := by
  by_cases on : other = part ∧ cache.partPath call.target part = cache.partPath target part
  · rw [if_pos on, latest?, List.find?_cons_of_pos]
    simpa using on
  · rw [if_neg on, latest?, List.find?_cons_of_neg, latest?]
    simpa using on

/-- Whatever step comes next, the entry holds what the latest step on it left. -/
theorem Mirrors.step (mirrors : Mirrors cache target part run) (targetPlain : target.IsPlain)
    (plain : ∀ call ∈ run.requests, call.target.IsPlain)
    (stepped : run.step? cache action = some next) : Mirrors cache target part next := by
  obtain ⟨call, rfl⟩ | ⟨caller, fault, call, stage, after, changed, due, known, advanced, rfl⟩ :=
    step?_eq_some stepped
  · exact mirrors.frame (.refl run.files : Changes [] run.files run.files) (by simp) rfl
  have callPlain : call.target.IsPlain :=
    plain _ (List.mem_map_of_mem (List.mem_of_getElem? known))
  have notTemporary (other : EntryPart) :
      run.files.destination (cache.partPath target part) ≠
        run.files.destination (run.files.temporaryPath (cache.partPath call.target other)) :=
    ArtifactCache.destination_ne_temporaryPath targetPlain callPlain
  obtain ⟨written, artifact, rfl, rfl, begun⟩ | ⟨other, rfl, -, done⟩ |
      ⟨other, cause, -, rfl, failed⟩ :=
    CacheCall.advance?_eq_some advanced
  · exact mirrors.frame (CacheCall.changes_begin begun) (by simp) rfl
  · have result := CacheCall.changeResult_change done
    by_cases on : other = part ∧ cache.partPath call.target part = cache.partPath target part
    · obtain ⟨rfl, same⟩ := on
      refine mirrors.replaced result same ?_
      simp [latest?_event, same]
    · refine mirrors.frame result.touched ?_ ?_
      · rw [List.mem_pair]
        rintro (temporary | replaced)
        · exact notTemporary other temporary
        · obtain ⟨rfl, same⟩ :=
            ArtifactCache.destination_partPath_inj targetPlain callPlain replaced
          exact on ⟨rfl, same.symm⟩
      · exact latest?_event.trans (if_neg on)
  · have result := CacheCall.changeResult_change failed
    refine mirrors.frame (result.untouched nofun) ?_ rfl
    rw [List.mem_singleton]
    exact notTemporary other

/-- Every event is a step of one of the calls, for an artifact of the target's own class. -/
structure Consistent (run : CacheRun) : Prop where
  checked : ∀ (caller : Nat) (call : CacheCall) (stage : CallStage),
    run.calls[caller]? = some (call, stage) → stage.isChecked → call.hasOwnClass
  known : ∀ event ∈ run.events, event.call.hasOwnClass ∧
    ∃ stage, run.calls[event.caller]? = some (event.call, stage)

/-- A new call has made no step. -/
theorem Consistent.add (consistent : Consistent run) (call : CacheCall) :
    Consistent { run with calls := run.calls ++ [(call, .begun)] } where
  checked caller other stage found checked := by
    rw [List.getElem?_append] at found
    split at found
    case isTrue => exact consistent.checked caller other stage found checked
    case isFalse =>
      have added := List.mem_of_getElem? found
      rw [List.mem_singleton] at added
      cases added
      cases checked
  known event member := by
    obtain ⟨own, stage, found⟩ := consistent.known event member
    have inside : event.caller < run.calls.length := (List.getElem?_eq_some_iff.1 found).1
    exact ⟨own, stage, by rw [List.getElem?_append_left inside, found]⟩

/-- A call keeps its place and what it is for. -/
theorem Consistent.advance {caller : Nat} {stage after : CallStage} {due : Option EntryPart}
    (consistent : Consistent run) (found : run.calls[caller]? = some (call, stage))
    (checked : after.isChecked → call.hasOwnClass) (own : due ≠ none → call.hasOwnClass) :
    Consistent {
      files := changed
      calls := run.calls.set caller (call, after)
      events := (due.map fun part => ⟨caller, call, part⟩).toList ++ run.events } := by
  have inside : caller < run.calls.length := (List.getElem?_eq_some_iff.1 found).1
  have lookup (other : Nat) : (run.calls.set caller (call, after))[other]? =
      if other = caller then some (call, after) else run.calls[other]? := by
    rw [List.getElem?_set]
    by_cases same : caller = other
    · subst same
      simp [inside]
    · simp [same, Ne.symm same]
  constructor
  case checked =>
    intro other otherCall otherStage known passed
    rw [lookup] at known
    split at known
    case isTrue =>
      cases known
      exact checked passed
    case isFalse => exact consistent.checked other otherCall otherStage known passed
  case known =>
    intro event member
    rcases List.mem_append.1 member with added | member
    · cases due with
      | none => cases added
      | some part =>
          rw [Option.map_some, Option.toList_some, List.mem_singleton] at added
          subst added
          exact ⟨own nofun, after, by simp [lookup]⟩
    · obtain ⟨own, held, known⟩ := consistent.known event member
      refine ⟨own, ?_⟩
      by_cases same : event.caller = caller
      · rw [same] at known ⊢
        rw [found] at known
        cases known
        exact ⟨after, by simp [lookup]⟩
      · exact ⟨held, by rw [lookup, if_neg same, known]⟩

/-- Each step keeps the events consistent with the calls. -/
theorem Consistent.step (consistent : Consistent run)
    (stepped : run.step? cache action = some next) : Consistent next := by
  obtain ⟨call, rfl⟩ | ⟨caller, fault, call, stage, after, changed, due, found, advanced, rfl⟩ :=
    step?_eq_some stepped
  · exact consistent.add call
  obtain ⟨written, artifact, rfl, rfl, begun⟩ | ⟨part, rfl, due, done⟩ |
      ⟨part, cause, rfl, rfl, -⟩ :=
    CacheCall.advance?_eq_some advanced
  · exact consistent.advance found (CacheCall.hasOwnClass_of_begin begun) nofun
  · have own := CacheCall.hasOwnClass_of_due due (consistent.checked caller call stage found)
    exact consistent.advance found (fun _ => own) (fun _ => own)
  · exact consistent.advance found nofun nofun

/-- The events of a run are steps of its calls. -/
theorem Reachable.consistent (reached : Reachable cache files run) : Consistent run := by
  induction reached with
  | start => exact ⟨nofun, nofun⟩
  | step _ stepped ih => exact ih.step stepped

/-- No call is forgotten. -/
theorem requests_step (stepped : run.step? cache action = some next) :
    run.requests ⊆ next.requests := by
  obtain ⟨call, rfl⟩ | ⟨caller, fault, call, stage, after, changed, due, found, -, rfl⟩ :=
    step?_eq_some stepped
  · simp [requests]
  · have inside : caller < run.calls.length := (List.getElem?_eq_some_iff.1 found).1
    have same : run.requests[caller]? = some call := by simp [requests, found]
    obtain ⟨within, here⟩ := List.getElem?_eq_some_iff.1 same
    have kept : (run.calls.set caller (call, after)).map Prod.fst = run.requests := by
      have whole := List.set_getElem_self within
      rw [here] at whole
      rw [List.map_set]
      exact whole
    rw [requests, requests, kept]
    exact List.Subset.refl _

/-- An entry that is empty at first holds what the latest step left. -/
theorem Reachable.mirrors (reached : Reachable cache files run) (targetPlain : target.IsPlain)
    (plain : ∀ call ∈ run.requests, call.target.IsPlain)
    (fresh : files.content? (files.destination (cache.partPath target part)) = none) :
    Mirrors cache target part run := by
  induction reached with
  | start => exact ⟨fresh, fun held => absurd fresh held⟩
  | step earlier stepped ih =>
      have earlierPlain := fun call member => plain call (requests_step stepped member)
      exact (ih earlierPlain).step targetPlain earlierPlain stepped

/-- A file is read as the latest step on it left it. -/
theorem Mirrors.read_eq_ok_iff {bytes : ByteArray} (mirrors : Mirrors cache target part run) :
    run.files.read (cache.partPath target part) = .ok bytes ↔
      ((run.latest? cache target part).bind fun event => event.call.content? part) =
        some bytes := by
  rw [Files.read_eq_ok_iff, ← mirrors.content]
  constructor
  · exact fun read => read.2
  · intro held
    exact ⟨mirrors.reaches (by simp [held]), held⟩

/-- A sidecar is read as the latest step on it wrote it. -/
theorem Mirrors.read_sidecar (mirrors : Mirrors cache target .sidecar run)
    (latest : (run.latest? cache target .sidecar).map (·.call) = some (.write target artifact)) :
    run.files.read (cache.sidecarPath target) =
      .ok (ArtifactCache.sidecar target artifact.source).print.toUTF8 := by
  obtain ⟨event, first, isWrite⟩ := Option.map_eq_some_iff.1 latest
  rw [ArtifactCache.sidecarPath_eq, mirrors.read_eq_ok_iff, first, Option.bind_some, isWrite]
  rfl

/-- A source is read as the latest step on it stored it. -/
theorem Mirrors.read_source {source : String} (mirrors : Mirrors cache target .source run)
    (latest : ((run.latest? cache target .source).bind fun event => event.call.source?) =
      some source) :
    run.files.read (cache.sourcePath target) = .ok source.toUTF8 := by
  obtain ⟨event, first, isSource⟩ := Option.bind_eq_some_iff.1 latest
  rw [ArtifactCache.sourcePath_eq, mirrors.read_eq_ok_iff, first, Option.bind_some,
    CacheCall.content?_source, isSource, Option.map_some]

/-- The latest event is one of the events. -/
theorem mem_of_latest? {event : CacheEvent} (latest : run.latest? cache target part = some event) :
    event ∈ run.events :=
  List.mem_of_find?_eq_some latest

/-- A source that some step wrote is one of the sources of the run. -/
theorem Consistent.mem_sources {event : CacheEvent} {source : String}
    (consistent : Consistent run) (member : event ∈ run.events)
    (written : event.call.source? = some source) : source ∈ run.sources := by
  obtain ⟨-, stage, found⟩ := consistent.known event member
  exact List.mem_filterMap.2
    ⟨event.call, List.mem_map_of_mem (List.mem_of_getElem? found), written⟩

/-- An artifact is found exactly when the latest sidecar step wrote its sidecar, and the latest
source step its source. -/
theorem lookup_eq_ok_iff_latest (reached : Reachable cache files run)
    (targetPlain : target.IsPlain) (plain : ∀ call ∈ run.requests, call.target.IsPlain)
    (fresh : ∀ part, files.content? (files.destination (cache.partPath target part)) = none)
    (separates : Digest.Separates run.sources) :
    cache.lookup run.files target = .ok artifact ↔
      (run.latest? cache target .sidecar).map (·.call) = some (.write target artifact) ∧
      ((run.latest? cache target .source).bind fun event => event.call.source?) =
        some artifact.source := by
  have consistent := reached.consistent
  have sidecars := reached.mirrors targetPlain plain (fresh .sidecar)
  have sources := reached.mirrors targetPlain plain (fresh .source)
  constructor
  · intro found
    obtain ⟨-, bytes, content, -, sidecarRead, sourceRead, -⟩ :=
      ArtifactCache.lookup_eq_ok_iff.1 found
    obtain ⟨event, latest, recorded⟩ :=
      Option.bind_eq_some_iff.1 (sidecars.read_eq_ok_iff.1 sidecarRead)
    obtain ⟨other, latestSource, held⟩ :=
      Option.bind_eq_some_iff.1 (sources.read_eq_ok_iff.1 sourceRead)
    obtain ⟨second, written, isWrite, rfl⟩ := CacheCall.content?_sidecar_eq_some recorded
    obtain ⟨source, isSource, rfl⟩ := CacheCall.content?_source_eq_some held
    obtain ⟨rfl, sameClass, sameDigest, decoded⟩ :=
      ArtifactCache.lookup_of_sidecar found sidecarRead sourceRead
    rw [Text.fromUTF8?_toUTF8] at decoded
    cases decoded
    have own : written.className = second.className := by
      have checked := (consistent.known event (mem_of_latest? latest)).1
      rwa [isWrite] at checked
    -- The digest in the sidecar fits both sources, and digests do not collide here.
    have sameSource : artifact.source = written.source :=
      separates _ (consistent.mem_sources (mem_of_latest? latestSource) isSource) _
        (consistent.mem_sources (mem_of_latest? latest) (by rw [isWrite]; rfl)) sameDigest
    have same : artifact = written := by
      rw [Artifact.mk.injEq, sameClass, own, sameSource]
      exact ⟨rfl, rfl⟩
    rw [latest, latestSource, Option.map_some, isWrite, same, Option.bind_some, isSource,
      sameSource]
    exact ⟨rfl, rfl⟩
  · rintro ⟨latest, latestSource⟩
    obtain ⟨event, first, isWrite⟩ := Option.map_eq_some_iff.1 latest
    have own : artifact.className = target.className := by
      have checked := (consistent.known event (mem_of_latest? first)).1
      rwa [isWrite] at checked
    rw [ArtifactCache.lookup_of_written (sidecars.read_sidecar latest)
      (sources.read_source latestSource), ← own]

/-- With the sidecar of a write, an entry that holds another source is a mismatch. -/
theorem lookup_eq_checksumMismatch {stored : String} (reached : Reachable cache files run)
    (targetPlain : target.IsPlain) (plain : ∀ call ∈ run.requests, call.target.IsPlain)
    (fresh : ∀ part, files.content? (files.destination (cache.partPath target part)) = none)
    (separates : Digest.Separates run.sources)
    (recorded : (run.latest? cache target .sidecar).map (·.call) = some (.write target artifact))
    (replaced : ((run.latest? cache target .source).bind fun event => event.call.source?) =
      some stored)
    (other : stored ≠ artifact.source) :
    cache.lookup run.files target = .error (.checksumMismatch (cache.sourcePath target)
      (Digest.checksum artifact.source.toUTF8) (Digest.checksum stored.toUTF8)) := by
  have consistent := reached.consistent
  have sidecars := reached.mirrors targetPlain plain (fresh .sidecar)
  have sources := reached.mirrors targetPlain plain (fresh .source)
  obtain ⟨event, latest, isWrite⟩ := Option.map_eq_some_iff.1 recorded
  obtain ⟨another, latestSource, isSource⟩ := Option.bind_eq_some_iff.1 replaced
  have sidecarRead : run.files.read (cache.sidecarPath target) =
      .ok (ArtifactCache.sidecar target artifact.source).print.toUTF8 :=
    sidecars.read_sidecar recorded
  have sourceRead : run.files.read (cache.sourcePath target) = .ok stored.toUTF8 :=
    sources.read_source replaced
  refine ArtifactCache.lookup_of_other_digest sidecarRead sourceRead fun same => other ?_
  exact separates _ (consistent.mem_sources (mem_of_latest? latestSource) isSource) _
    (consistent.mem_sources (mem_of_latest? latest) (by rw [isWrite]; rfl)) same

/-- An artifact is found exactly when the latest sidecar step is that of its write and the latest
source step stored the same source, whichever call that was. A write whose two steps are the latest
ones on the entry is found, and a source that another write put in place is a mismatch. -/
theorem lookup_after_interleaving (reached : Reachable cache files run)
    (targetPlain : target.IsPlain) (plain : ∀ call ∈ run.requests, call.target.IsPlain)
    (fresh : ∀ part, files.content? (files.destination (cache.partPath target part)) = none)
    (separates : Digest.Separates run.sources) :
    (∀ artifact, cache.lookup run.files target = .ok artifact ↔
      (run.latest? cache target .sidecar).map (·.call) = some (.write target artifact) ∧
      ((run.latest? cache target .source).bind fun event => event.call.source?) =
        some artifact.source) ∧
    (∀ caller artifact, run.calls[caller]? = some (.write target artifact, .completed) →
      (∀ part, (run.latest? cache target part).map (·.caller) = some caller) →
      cache.lookup run.files target = .ok artifact) ∧
    (∀ artifact stored,
      (run.latest? cache target .sidecar).map (·.call) = some (.write target artifact) →
      ((run.latest? cache target .source).bind fun event => event.call.source?) = some stored →
      stored ≠ artifact.source →
      cache.lookup run.files target = .error (.checksumMismatch (cache.sourcePath target)
        (Digest.checksum artifact.source.toUTF8) (Digest.checksum stored.toUTF8))) := by
  have usable (artifact : Artifact) := @lookup_eq_ok_iff_latest cache files target artifact run
    reached targetPlain plain fresh separates
  refine ⟨usable, ?_, fun artifact stored => lookup_eq_checksumMismatch reached targetPlain plain
    fresh separates⟩
  intro caller artifact completed latest
  have own (part : EntryPart) :
      (run.latest? cache target part).map (·.call) = some (.write target artifact) := by
    obtain ⟨event, first, rfl⟩ := Option.map_eq_some_iff.1 (latest part)
    obtain ⟨-, stage, known⟩ := reached.consistent.known event (mem_of_latest? first)
    rw [completed] at known
    rw [first, Option.map_some, (Prod.mk.inj (Option.some.inj known)).1]
  refine (usable artifact).2 ⟨own .sidecar, ?_⟩
  obtain ⟨event, first, isWrite⟩ := Option.map_eq_some_iff.1 (own .source)
  rw [first, Option.bind_some, isWrite]
  rfl

/-- Two writes of one target, of which the first to store its source stores its sidecar last. -/
def overtaken (target : Target) : List CacheAction :=
  [.call (.write target ⟨target.className, "first"⟩),
    .call (.write target ⟨target.className, "second"⟩),
    .advance 0 none, .advance 1 none, .advance 0 none, .advance 1 none, .advance 0 none]

/-- An empty tree has no entry. -/
theorem fresh_of_no_files (part : EntryPart) :
    Files.content? {} (Files.destination {}
      (ArtifactCache.partPath ⟨"cache"⟩ (.loader "Calls") part)) = none := by
  cases part with
  | source => decide +kernel
  | sidecar => decide +kernel

/-- The second write is found once it has stored its sidecar too. -/
theorem lookup_after_overtaken : ∃ run, Reachable ⟨"cache"⟩ {} run ∧
    (Target.loader "Calls").IsPlain ∧ (∀ call ∈ run.requests, call.target.IsPlain) ∧
    Digest.Separates run.sources ∧
    ArtifactCache.lookup ⟨"cache"⟩ run.files (.loader "Calls") =
      .ok ⟨⟨"", "CallsImpl"⟩, "second"⟩ := by
  have performed : (perform? ⟨"cache"⟩ { files := {} }
      (overtaken (.loader "Calls") ++ [.advance 1 none])).map
      (fun run => (run.sources, run.calls,
        (run.latest? ⟨"cache"⟩ (.loader "Calls") .source).map (·.caller),
        (run.latest? ⟨"cache"⟩ (.loader "Calls") .sidecar).map (·.caller))) =
      some (["first", "second"],
        [(.write (.loader "Calls") ⟨⟨"", "CallsImpl"⟩, "first"⟩, .completed),
          (.write (.loader "Calls") ⟨⟨"", "CallsImpl"⟩, "second"⟩, .completed)],
        some 1, some 1) := by
    decide +kernel
  obtain ⟨run, reached, facts⟩ := Option.map_eq_some_iff.1 performed
  simp only [Prod.mk.injEq] at facts
  obtain ⟨sources, calls, latestSource, latestSidecar⟩ := facts
  have reached : Reachable ⟨"cache"⟩ {} run := Reachable.start.perform reached
  have plain : ∀ call ∈ run.requests, call.target.IsPlain := by
    rw [requests, calls]
    decide
  have separates : Digest.Separates run.sources := by
    rw [sources]
    decide +kernel
  have found := (lookup_after_interleaving reached (by decide) plain fresh_of_no_files
    separates).2.1 1 ⟨⟨"", "CallsImpl"⟩, "second"⟩ (by rw [calls]; rfl) (by
      intro part
      cases part with
      | source => exact latestSource
      | sidecar => exact latestSidecar)
  exact ⟨run, reached, by decide, plain, separates, found⟩

/-- The first write is not found, though it is complete and nothing came after it. -/
theorem overtaken_not_found : ∃ run, Reachable ⟨"cache"⟩ {} run ∧
    (Target.loader "Calls").IsPlain ∧ (∀ call ∈ run.requests, call.target.IsPlain) ∧
    (∀ part, Files.content? {} (Files.destination {}
      (ArtifactCache.partPath ⟨"cache"⟩ (.loader "Calls") part)) = none) ∧
    Digest.Separates run.sources ∧
    run.calls[0]? = some (.write (.loader "Calls") ⟨⟨"", "CallsImpl"⟩, "first"⟩, .completed) ∧
    run.events.head? =
      some ⟨0, .write (.loader "Calls") ⟨⟨"", "CallsImpl"⟩, "first"⟩, .sidecar⟩ ∧
    ArtifactCache.lookup ⟨"cache"⟩ run.files (.loader "Calls") ≠
      .ok ⟨⟨"", "CallsImpl"⟩, "first"⟩ := by
  have performed : (perform? ⟨"cache"⟩ { files := {} } (overtaken (.loader "Calls"))).map
      (fun run => (run.sources, run.calls, run.events.head?,
        (run.latest? ⟨"cache"⟩ (.loader "Calls") .source).bind (·.call.source?))) =
      some (["first", "second"],
        [(.write (.loader "Calls") ⟨⟨"", "CallsImpl"⟩, "first"⟩, .completed),
          (.write (.loader "Calls") ⟨⟨"", "CallsImpl"⟩, "second"⟩, .sourced)],
        some ⟨0, .write (.loader "Calls") ⟨⟨"", "CallsImpl"⟩, "first"⟩, .sidecar⟩,
        some "second") := by
    decide +kernel
  obtain ⟨run, reached, facts⟩ := Option.map_eq_some_iff.1 performed
  simp only [Prod.mk.injEq] at facts
  obtain ⟨sources, calls, latest, latestSource⟩ := facts
  have reached : Reachable ⟨"cache"⟩ {} run := Reachable.start.perform reached
  have plain : ∀ call ∈ run.requests, call.target.IsPlain := by
    rw [requests, calls]
    decide
  have separates : Digest.Separates run.sources := by
    rw [sources]
    decide +kernel
  refine ⟨run, reached, by decide, plain, fresh_of_no_files, separates, by rw [calls]; rfl,
    latest, ?_⟩
  intro found
  have stored :=
    ((lookup_eq_ok_iff_latest reached (by decide) plain fresh_of_no_files separates).1 found).2
  rw [latestSource] at stored
  exact absurd stored (by decide)

end CacheRun

end BusBridge
