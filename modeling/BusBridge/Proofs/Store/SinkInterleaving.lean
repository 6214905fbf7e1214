/-
This file proves what the reservations of a sink are after any interleaving of its calls: every
class has one handle, one commit under way or one source at most, and a class is reserved exactly
when it has one of them.
-/

import BusBridge.Proofs.Store.SinkRun

namespace BusBridge

/-- A released class is free, and the others are as they were. -/
theorem Sink.isCreated_release (sink : Sink) (released asked : ClassName) :
    (sink.release released).isCreated asked = true ↔
      asked ≠ released ∧ sink.isCreated asked = true := by
  simp [release, isCreated, Reservations.release, Reservations.isReserved, and_comm]

/-- A released class is not committed, and the others are as they were. -/
theorem Sink.mem_committed_release (sink : Sink) (released asked : ClassName) :
    asked ∈ (sink.release released).reservations.committed ↔
      asked ≠ released ∧ asked ∈ sink.reservations.committed := by
  simp [release, Reservations.release, and_comm]

namespace SinkRun

variable {run next : SinkRun}

/-- What every step keeps. -/
structure IsConsistent (run : SinkRun) : Prop where
  apart : run.classes.Nodup
  reserved : ∀ className, run.sink.isCreated className = true ↔ className ∈ run.classes
  committed : ∀ className,
    className ∈ run.sink.reservations.committed ↔ className ∈ run.marked
  known : ∀ className ∈ run.classes, .created className true ∈ run.events
  accepted : ∀ className source failure,
    .committed className source (.error failure) ∈ run.events → ∃ cause, failure = .io cause
  freed : ∀ className source failure,
    run.latest? className = some (.committed className source (.error failure)) →
      className ∉ run.classes

/-- The places of the handles and of the commits do not matter. -/
theorem IsConsistent.congr {handles : List WriteHandle} {commits : List SinkCommit}
    (consistent : run.IsConsistent) (sameHandles : run.handles.Perm handles)
    (sameCommits : run.commits.Perm commits) :
    IsConsistent { run with handles, commits } := by
  have marks : run.marked.Perm (marked { run with handles, commits }) :=
    (sameCommits.map _).append (.refl _)
  have perm : run.classes.Perm (classes { run with handles, commits }) :=
    ((sameHandles.map _).append (sameCommits.map _)).append (.refl _)
  constructor
  case apart => exact perm.nodup_iff.1 consistent.apart
  case reserved => exact fun className => (consistent.reserved className).trans perm.mem_iff
  case committed => exact fun className => (consistent.committed className).trans marks.mem_iff
  case known => exact fun className member => consistent.known className (perm.mem_iff.2 member)
  case accepted => exact consistent.accepted
  case freed =>
    exact fun className source failure ended =>
      mt perm.mem_iff.2 (consistent.freed className source failure ended)

/-- Nothing is reserved at the start. -/
theorem IsConsistent.start (storage : SinkStorage) (files : Files) :
    IsConsistent { sink := ⟨storage, {}⟩, files } where
  apart := .nil
  reserved className := by
    simp [Sink.isCreated, Reservations.isReserved, classes, stored]
  committed className := by
    simp [marked, stored]
  known := nofun
  accepted := nofun
  freed := nofun

/-- A refused reservation changes nothing. -/
theorem IsConsistent.refused (consistent : run.IsConsistent) (className : ClassName) :
    IsConsistent { run with events := .created className false :: run.events } where
  apart := consistent.apart
  reserved := consistent.reserved
  committed := consistent.committed
  known asked member := List.mem_cons_of_mem _ (consistent.known asked member)
  accepted asked source failure member :=
    consistent.accepted asked source failure ((List.mem_cons.1 member).resolve_left nofun)
  freed asked source failure ended := by
    rw [latest?, List.find?_cons] at ended
    split at ended
    case h_1 => cases ended
    case h_2 => exact consistent.freed asked source failure ended

/-- A class that was free may be reserved. -/
theorem IsConsistent.given (consistent : run.IsConsistent) {className : ClassName} (path : String)
    (free : ¬ run.sink.isCreated className = true) :
    IsConsistent { run with
      sink := { run.sink with reservations := { run.sink.reservations with
        reserved := className :: run.sink.reservations.reserved } }
      handles := ⟨className, path⟩ :: run.handles
      events := .created className true :: run.events } where
  apart := List.nodup_cons.2 ⟨mt (consistent.reserved className).2 free, consistent.apart⟩
  reserved asked := by
    have before := consistent.reserved asked
    rw [Sink.isCreated, Reservations.isReserved, List.contains_iff_mem] at before ⊢
    exact List.mem_cons.trans ((or_congr_right before).trans List.mem_cons.symm)
  committed := consistent.committed
  known asked member := by
    rcases List.mem_cons.1 member with rfl | earlier
    · exact List.mem_cons_self
    · exact List.mem_cons_of_mem _ (consistent.known asked earlier)
  accepted asked source failure member :=
    consistent.accepted asked source failure ((List.mem_cons.1 member).resolve_left nofun)
  freed asked source failure ended := by
    rw [latest?, List.find?_cons] at ended
    split at ended
    case h_1 => cases ended
    case h_2 other =>
      have different : asked ≠ className := fun same => by simp [SinkEvent.className, same] at other
      exact fun member => (List.mem_cons.1 member).elim different
        (consistent.freed asked source failure ended)

/-- A class with a handle is not marked. -/
theorem IsConsistent.not_mem_marked {handle : WriteHandle} {rest : List WriteHandle}
    (consistent : run.IsConsistent) (used : run.handles = handle :: rest) :
    handle.className ∉ run.marked := by
  intro marked
  have apart := consistent.apart
  rw [classes, used, List.append_assoc] at apart
  exact (List.nodup_cons.1 apart).1 (List.mem_append_right _ marked)

/-- A handle is used up by its commit. -/
theorem IsConsistent.marks {handle : WriteHandle} {rest : List WriteHandle}
    (consistent : run.IsConsistent) (used : run.handles = handle :: rest) (source : String) :
    IsConsistent { run with
      sink := { run.sink with reservations := { run.sink.reservations with
        committed := handle.className :: run.sink.reservations.committed } }
      handles := rest
      commits := { handle, source } :: run.commits } := by
  have perm : run.classes.Perm (classes { run with
      handles := rest, commits := { handle, source } :: run.commits }) := by
    rw [classes, used]
    exact List.perm_middle.symm.append_right _
  constructor
  case apart => exact perm.nodup_iff.1 consistent.apart
  case reserved => exact fun asked => (consistent.reserved asked).trans perm.mem_iff
  case committed =>
    intro asked
    exact List.mem_cons.trans ((or_congr_right (consistent.committed asked)).trans
      List.mem_cons.symm)
  case known => exact fun asked member => consistent.known asked (perm.mem_iff.2 member)
  case accepted => exact consistent.accepted
  case freed =>
    exact fun asked source failure ended =>
      mt perm.mem_iff.2 (consistent.freed asked source failure ended)

/-- A commit goes on without a change of the reservations. -/
theorem IsConsistent.goesOn {commit : SinkCommit} {rest : List SinkCommit}
    (consistent : run.IsConsistent) (held : run.commits = commit :: rest) (stage : CommitStage)
    (files : Files) :
    IsConsistent { run with files, commits := { commit with stage } :: rest } := by
  obtain ⟨sink, before, handles, commits, events⟩ := run
  cases held
  exact ⟨consistent.apart, consistent.reserved, consistent.committed, consistent.known,
    consistent.accepted, consistent.freed⟩

/-- A commit that stores its source is done. -/
theorem IsConsistent.stores {commit : SinkCommit} {rest : List SinkCommit}
    (consistent : run.IsConsistent) (held : run.commits = commit :: rest) (path : String)
    (storage : SinkStorage) (files : Files) :
    IsConsistent { run with
      sink := { run.sink with storage }
      files
      commits := rest
      events := .committed commit.handle.className commit.source (.ok path) :: run.events } := by
  have marks : run.marked.Perm (marked { run with
      commits := rest
      events := .committed commit.handle.className commit.source (.ok path) :: run.events }) := by
    rw [marked, held]
    exact List.perm_middle.symm
  have perm : run.classes.Perm (classes { run with
      commits := rest
      events := .committed commit.handle.className commit.source (.ok path) :: run.events }) := by
    rw [classes, classes, List.append_assoc, List.append_assoc]
    exact (List.Perm.refl _).append marks
  constructor
  case apart => exact perm.nodup_iff.1 consistent.apart
  case reserved => exact fun asked => (consistent.reserved asked).trans perm.mem_iff
  case committed => exact fun asked => (consistent.committed asked).trans marks.mem_iff
  case known =>
    exact fun asked member =>
      List.mem_cons_of_mem _ (consistent.known asked (perm.mem_iff.2 member))
  case accepted =>
    exact fun asked source failure member =>
      consistent.accepted asked source failure ((List.mem_cons.1 member).resolve_left nofun)
  case freed =>
    intro asked source failure ended
    rw [latest?, List.find?_cons] at ended
    split at ended
    case h_1 => cases ended
    case h_2 => exact mt perm.mem_iff.2 (consistent.freed asked source failure ended)

/-- A commit that fails releases its class. -/
theorem IsConsistent.releases {commit : SinkCommit} {rest : List SinkCommit}
    (consistent : run.IsConsistent) (held : run.commits = commit :: rest) (cause : FileFailure) :
    IsConsistent { run with
      sink := run.sink.release commit.handle.className
      commits := rest
      events := .committed commit.handle.className commit.source (.error (.io cause)) ::
        run.events } := by
  have marks : run.marked = commit.handle.className :: marked { run with commits := rest } := by
    rw [marked, held]
    rfl
  have perm : run.classes.Perm
      (commit.handle.className :: classes { run with commits := rest }) := by
    rw [classes, classes, held, List.append_assoc, List.append_assoc]
    exact List.perm_middle
  obtain ⟨gone, apart⟩ := List.nodup_cons.1 (perm.nodup_iff.1 consistent.apart)
  have others : ∀ asked, asked ≠ commit.handle.className → (asked ∈ run.classes ↔
      asked ∈ classes { run with commits := rest }) := fun asked different =>
    perm.mem_iff.trans (List.mem_cons.trans (or_iff_right different))
  constructor
  case apart => exact apart
  case reserved =>
    intro asked
    rw [Sink.isCreated_release, consistent.reserved asked]
    constructor
    · exact fun ⟨different, member⟩ => (others asked different).1 member
    · intro member
      have different : asked ≠ commit.handle.className := by
        rintro rfl
        exact gone member
      exact ⟨different, (others asked different).2 member⟩
  case committed =>
    intro asked
    rw [Sink.mem_committed_release, consistent.committed asked, marks, List.mem_cons]
    constructor
    · exact fun ⟨different, member⟩ => member.resolve_left different
    · intro member
      refine ⟨?_, .inr member⟩
      rintro rfl
      rw [classes, List.append_assoc, List.mem_append] at gone
      exact gone (.inr member)
  case known =>
    intro asked member
    have before := perm.mem_iff.2 (List.mem_cons_of_mem _ member)
    exact List.mem_cons_of_mem _ (consistent.known asked before)
  case accepted =>
    intro asked source failure member
    rcases List.mem_cons.1 member with same | earlier
    · cases same
      exact ⟨cause, rfl⟩
    · exact consistent.accepted asked source failure earlier
  case freed =>
    intro asked source failure ended
    rw [latest?, List.find?_cons] at ended
    split at ended
    case h_1 own =>
      rw [← of_decide_eq_true own]
      exact gone
    case h_2 =>
      have free := consistent.freed asked source failure ended
      exact fun member => free (perm.mem_iff.2 (List.mem_cons_of_mem _ member))

/-- Each change keeps the reservations consistent with the events. -/
theorem IsConsistent.change (consistent : run.IsConsistent) (change : Change run next) :
    next.IsConsistent := by
  cases change with
  | refused className taken => exact consistent.refused className
  | given className free => exact consistent.given _ free
  | repeated handle source rest failure used old =>
      have used := consistent.congr used (.refl _)
      exact absurd ((used.committed _).1 old) (used.not_mem_marked rfl)
  | marks handle source rest used new =>
      exact (consistent.congr used (.refl _)).marks rfl source
  | goesOn commit stage rest files fault held worked =>
      exact (consistent.congr (.refl _) held).goesOn rfl stage files
  | stores commit rest path storage files fault held worked =>
      exact (consistent.congr (.refl _) held).stores rfl path storage files
  | releases commit rest cause held =>
      exact (consistent.congr (.refl _) held).releases rfl cause

/-- The reservations tell what the events were. -/
theorem Reachable.isConsistent {storage : SinkStorage} {files : Files}
    (reached : Reachable storage files run) : run.IsConsistent := by
  induction reached with
  | start => exact .start storage files
  | step _ stepped ih => exact ih.change (.of_step? stepped)

end SinkRun

/-- The text that stands where a sink keeps the source of a class. -/
def SinkStorage.text? (storage : SinkStorage) (files : Files) (className : ClassName) :
    Option String :=
  match storage with
  | .memory sources => sources.find? className.qualified
  | .directory path => (files.readText (Sink.filePath path className)).toOption

/-- A committed class is stored as the storage has it. -/
theorem Sink.stored?_eq_text? {sink : Sink} {files : Files} {className : ClassName}
    (committed : className ∈ sink.reservations.committed) :
    sink.stored? files className = sink.storage.text? files className :=
  if_pos committed

/-- In a directory the source of a class is a file. -/
theorem SinkStorage.text?_directory {files : Files} {path text : String} {className : ClassName} :
    (SinkStorage.directory path).text? files className = some text ↔
      files.readText (Sink.filePath path className) = .ok text :=
  toOption_eq_some_iff

namespace SinkCommit

variable {sink changed : Sink} {files left : Files} {commit : SinkCommit}
  {fault : Option Files.ReplaceFault} {stage : CommitStage} {path text : String}
  {other : ClassName}

/-- A commit that goes on leaves the sources that the sink keeps. -/
theorem text?_of_goesOn (own : commit.handle.path = sink.pathFor commit.handle.className)
    (declarable : commit.handle.className.IsDeclarable) (otherDeclarable : other.IsDeclarable)
    (worked : commit.advance sink files fault = (.goesOn stage, changed, left))
    (held : sink.storage.text? files other = some text) :
    sink.storage.text? left other = some text := by
  cases storage : sink.storage with
  | memory sources =>
      rw [storage] at held
      exact held
  | directory directory =>
      rw [storage, SinkStorage.text?_directory] at held
      rw [SinkStorage.text?_directory]
      rw [Sink.pathFor, storage] at own
      rcases (advance_goesOn worked).2 with rfl | ⟨rfl, broken⟩
      · exact Files.readText_createDirectories held _
      · generalize replaced : files.replace commit.handle.path commit.source.toUTF8 fault =
          pair at broken ⊢
        obtain ⟨result, changed⟩ := pair
        rw [own] at replaced
        obtain ⟨-, kept⟩ := Files.changes_replace replaced
        exact (kept broken).readText held fun member => absurd (List.mem_singleton.1 member)
          (Sink.destination_filePath_ne_temporaryPath otherDeclarable declarable)

/-- A commit that succeeds leaves its source, and those of the other classes. -/
theorem text?_of_returns_ok (own : commit.handle.path = sink.pathFor commit.handle.className)
    (onDisk : commit.stage = .opened → sink.inMemory = false)
    (declarable : commit.handle.className.IsDeclarable)
    (worked : commit.advance sink files fault = (.returns (.ok path), changed, left)) :
    changed.storage.text? left commit.handle.className = some commit.source ∧
      ∀ other text, other.IsDeclarable → other ≠ commit.handle.className →
        sink.storage.text? files other = some text →
          changed.storage.text? left other = some text := by
  rcases advance_returns_ok worked with ⟨sources, memory, stored⟩ | ⟨opened, rfl, replaced⟩
  · rw [stored, memory]
    refine ⟨NameMap.find?_insert.trans (if_pos rfl), ?_⟩
    intro other text otherDeclarable different held
    have apart : other.qualified ≠ commit.handle.className.qualified := fun same =>
      different (otherDeclarable.qualified_inj declarable same)
    exact (NameMap.find?_insert.trans (if_neg apart)).trans held
  · have disk := onDisk opened
    rw [Sink.inMemory] at disk
    split at disk
    case h_1 => cases disk
    case h_2 directory storage =>
      rw [Sink.pathFor, storage] at own
      rw [own] at replaced
      simp only [storage, SinkStorage.text?_directory]
      refine ⟨Files.readText_of_replace_ok replaced, ?_⟩
      intro other text otherDeclarable different held
      have otherPlace : files.destination (Sink.filePath directory other) ≠
          files.destination (Sink.filePath directory commit.handle.className) := fun same =>
        different (Sink.destination_filePath_inj otherDeclarable declarable same)
      have kept : (files.replace (Sink.filePath directory commit.handle.className)
          commit.source.toUTF8 fault).2.readText (Sink.filePath directory other) = .ok text :=
        Files.readText_replace held
          (Sink.destination_filePath_ne_temporaryPath otherDeclarable declarable)
          (absurd · otherPlace) fault
      rwa [replaced] at kept

end SinkCommit

namespace SinkRun

variable {run next : SinkRun}

/-- Every handle leads to the place of its class, and the sources of commits that succeeded stand
in theirs. -/
structure KeepsSources (run : SinkRun) : Prop where
  handles : ∀ handle ∈ run.handles, handle.path = run.sink.pathFor handle.className
  commits : ∀ commit ∈ run.commits,
    commit.handle.path = run.sink.pathFor commit.handle.className
  opened : ∀ commit ∈ run.commits, commit.stage = .opened → run.sink.inMemory = false
  sources : ∀ className source, (className, source) ∈ run.stored →
    run.sink.storage.text? run.files className = some source

/-- Each change keeps the sources that were committed. -/
theorem KeepsSources.change (keeps : run.KeepsSources) (consistent : run.IsConsistent)
    (declarable : ∀ className ∈ run.classes, className.IsDeclarable) (change : Change run next) :
    next.KeepsSources := by
  have listed : ∀ entry ∈ run.stored, entry.1 ∈ run.classes := fun entry member =>
    List.mem_append_right _ (List.mem_map_of_mem member)
  cases change with
  | refused => exact ⟨keeps.handles, keeps.commits, keeps.opened, keeps.sources⟩
  | given =>
      exact ⟨List.forall_mem_cons.2 ⟨rfl, keeps.handles⟩, keeps.commits, keeps.opened,
        keeps.sources⟩
  | repeated handle source rest failure used =>
      refine ⟨fun other member => ?_, keeps.commits, keeps.opened, keeps.sources⟩
      exact keeps.handles other (used.mem_iff.2 (List.mem_cons_of_mem _ member))
  | marks handle source rest used =>
      constructor
      case handles =>
        exact fun other member =>
          keeps.handles other (used.mem_iff.2 (List.mem_cons_of_mem _ member))
      case commits =>
        exact List.forall_mem_cons.2
          ⟨keeps.handles handle (used.mem_iff.2 List.mem_cons_self), keeps.commits⟩
      case opened => exact List.forall_mem_cons.2 ⟨nofun, keeps.opened⟩
      case sources => exact keeps.sources
  | goesOn commit stage rest files fault held worked =>
      have own := held.mem_iff.2 List.mem_cons_self
      have others : ∀ other ∈ rest, other ∈ run.commits := fun other member =>
        held.mem_iff.2 (List.mem_cons_of_mem _ member)
      have named : commit.handle.className ∈ run.classes :=
        List.mem_append_left _ (List.mem_append_right _ (List.mem_map_of_mem own))
      constructor
      case handles => exact keeps.handles
      case commits =>
        exact List.forall_mem_cons.2
          ⟨keeps.commits commit own, fun other member => keeps.commits other (others other member)⟩
      case opened =>
        exact List.forall_mem_cons.2 ⟨(SinkCommit.advance_goesOn worked).1,
          fun other member => keeps.opened other (others other member)⟩
      case sources =>
        intro className source member
        exact SinkCommit.text?_of_goesOn (keeps.commits commit own) (declarable _ named)
          (declarable _ (listed _ member)) worked (keeps.sources className source member)
  | stores commit rest path storage files fault held worked =>
      have own := held.mem_iff.2 List.mem_cons_self
      have others : ∀ other ∈ rest, other ∈ run.commits := fun other member =>
        held.mem_iff.2 (List.mem_cons_of_mem _ member)
      have named : commit.handle.className ∈ run.classes :=
        List.mem_append_left _ (List.mem_append_right _ (List.mem_map_of_mem own))
      obtain ⟨samePlaces, sameKind⟩ := SinkCommit.pathFor_of_returns_ok worked
      obtain ⟨stands, kept⟩ := SinkCommit.text?_of_returns_ok (keeps.commits commit own)
        (keeps.opened commit own) (declarable _ named) worked
      constructor
      case handles => exact fun other member => samePlaces ▸ keeps.handles other member
      case commits =>
        exact fun other member => samePlaces ▸ keeps.commits other (others other member)
      case opened =>
        exact fun other member => sameKind ▸ keeps.opened other (others other member)
      case sources =>
        intro className source member
        rcases List.mem_cons.1 member with same | earlier
        · cases same
          exact stands
        -- A class that has its source has no commit under way.
        · have different : className ≠ commit.handle.className := by
            rintro rfl
            have apart := (consistent.congr (.refl _) held).apart
            have settled : commit.handle.className ∈ run.stored.map Prod.fst :=
              List.mem_map_of_mem earlier
            exact (List.nodup_append.1 apart).2.2 _
              (List.mem_append_right _ List.mem_cons_self) _ settled rfl
          exact kept className source (declarable _ (listed _ earlier)) different
            (keeps.sources className source earlier)
  | releases commit rest cause held =>
      have others : ∀ other ∈ rest, other ∈ run.commits := fun other member =>
        held.mem_iff.2 (List.mem_cons_of_mem _ member)
      exact ⟨keeps.handles, fun other member => keeps.commits other (others other member),
        fun other member => keeps.opened other (others other member), keeps.sources⟩

/-- Each source that was committed stays in the sink. -/
theorem Reachable.keepsSources {storage : SinkStorage} {files : Files}
    (reached : Reachable storage files run)
    (declarable : ∀ className, .created className true ∈ run.events → className.IsDeclarable) :
    run.KeepsSources := by
  induction reached with
  | start => exact ⟨nofun, nofun, nofun, nofun⟩
  | @step run next _ reached stepped ih =>
      have change := Change.of_step? stepped
      have consistent := reached.isConsistent
      have earlier : ∀ className, .created className true ∈ run.events → className.IsDeclarable :=
        fun className member => declarable className (change.events member)
      exact (ih earlier).change consistent
        (fun className member => earlier className (consistent.known className member)) change

/-- What the reservations of a sink promise in every state. -/
structure IsSound (run : SinkRun) : Prop where
  reserved : ∀ className ∈ run.sink.reservations.committed,
    run.sink.isCreated className = true
  single : (run.handles.map (·.className)).Nodup
  once : (run.stored.map Prod.fst).Nodup
  accepted : ∀ className source name,
    .committed className source (.error (.alreadyCommitted name)) ∉ run.events
  settled : ∀ className source, (className, source) ∈ run.stored →
    run.sink.isCreated className = true ∧
    (∀ handle ∈ run.handles, handle.className ≠ className) ∧
    ∀ commit ∈ run.commits, commit.handle.className ≠ className
  kept : (∀ className, .created className true ∈ run.events → className.IsDeclarable) →
    ∀ className source, (className, source) ∈ run.stored →
      run.sink.stored? run.files className = some source
  freed : ∀ className source failure,
    run.latest? className = some (.committed className source (.error failure)) →
      run.sink.isCreated className = false ∧
        ∃ path, (run.sink.tryCreate className).1 = some ⟨className, path⟩

/-- Whatever the order of the steps is, and whichever writes fail: a class that is committed is
reserved, has one handle at most and is stored once at most, and a class whose commit failed can
be created again. -/
theorem sound_of_reachable {storage : SinkStorage} {files : Files}
    (reached : Reachable storage files run) : run.IsSound := by
  have consistent := reached.isConsistent
  obtain ⟨front, settled, between⟩ := List.nodup_append.1 consistent.apart
  have listed : ∀ className source, (className, source) ∈ run.stored →
      className ∈ run.stored.map Prod.fst := fun className source member =>
    List.mem_map_of_mem (f := Prod.fst) member
  constructor
  case reserved =>
    intro className member
    apply (consistent.reserved className).2
    rw [classes, List.append_assoc]
    exact List.mem_append_right _ ((consistent.committed className).1 member)
  case single => exact (List.nodup_append.1 front).1
  case once => exact settled
  case accepted =>
    intro className source name member
    obtain ⟨cause, same⟩ := consistent.accepted className source _ member
    cases same
  case settled =>
    intro className source member
    have stored := listed className source member
    refine ⟨(consistent.reserved className).2 (List.mem_append_right _ stored), ?_, ?_⟩
    · intro handle held same
      exact between _ (List.mem_append_left _ (List.mem_map_of_mem held)) _ stored same
    · intro commit held same
      exact between _ (List.mem_append_right _ (List.mem_map_of_mem held)) _ stored same
  case kept =>
    intro declarable className source member
    have marked := (consistent.committed className).2
      (List.mem_append_right _ (listed className source member))
    rw [Sink.stored?_eq_text? marked]
    exact (reached.keepsSources declarable).sources className source member
  case freed =>
    intro className source failure ended
    have free : ¬ run.sink.reservations.isReserved className = true :=
      mt (consistent.reserved className).1 (consistent.freed className source failure ended)
    refine ⟨Bool.eq_false_iff.2 free, run.sink.pathFor className, ?_⟩
    unfold Sink.tryCreate Reservations.reserve?
    rw [if_neg free]

/-- One caller's write fails, another caller asks for the class before and after it is released,
and writes it. -/
def retried (className : ClassName) : List SinkAction :=
  [.create className, .commit 0 "first", .advance 0 none, .create className,
    .advance 0 (some .beforeRenaming), .create className, .advance 0 none, .create className,
    .commit 0 "second", .advance 0 none, .advance 0 none, .create className]

/-- The class is refused until the failed commit has released it, and then stored. -/
theorem sound_after_retried : ∃ run, Reachable (.directory "out") {} run ∧ run.IsSound ∧
    run.events.reverse =
      [.created ⟨"shop", "Cart"⟩ true, .created ⟨"shop", "Cart"⟩ false,
        .created ⟨"shop", "Cart"⟩ false,
        .committed ⟨"shop", "Cart"⟩ "first" (.error (.io .writeFailed)),
        .created ⟨"shop", "Cart"⟩ true,
        .committed ⟨"shop", "Cart"⟩ "second" (.ok "out/shop/Cart.java"),
        .created ⟨"shop", "Cart"⟩ false] := by
  have performed : (perform? { sink := ⟨.directory "out", {}⟩, files := {} }
      (retried ⟨"shop", "Cart"⟩)).map (fun run => run.events.reverse) =
      some [.created ⟨"shop", "Cart"⟩ true, .created ⟨"shop", "Cart"⟩ false,
        .created ⟨"shop", "Cart"⟩ false,
        .committed ⟨"shop", "Cart"⟩ "first" (.error (.io .writeFailed)),
        .created ⟨"shop", "Cart"⟩ true,
        .committed ⟨"shop", "Cart"⟩ "second" (.ok "out/shop/Cart.java"),
        .created ⟨"shop", "Cart"⟩ false] := by
    decide +kernel
  obtain ⟨run, reached, events⟩ := Option.map_eq_some_iff.1 performed
  have reached : Reachable (.directory "out") {} run := Reachable.start.perform reached
  exact ⟨run, reached, sound_of_reachable reached, events⟩

end SinkRun

end BusBridge
