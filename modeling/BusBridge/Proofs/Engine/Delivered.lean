/-
This file proves what an engine has delivered after it finished some targets: the sink has the
sources that were made for them, and nothing else is reserved, committed or cached.
-/

import BusBridge.Proofs.Engine.LoneCaller
import BusBridge.Proofs.Engine.SharedClass
import BusBridge.Proofs.Engine.Yielding

namespace BusBridge

/-- The sink or the cache could not store an artifact. -/
def Failure.isOfStore : Failure → Bool
  | .cache _ | .sink _ => true
  | .scan _ | .model _ | .synthesis .. | .scheduler _ | .config _ => false

/-- A failure of a store is known as one. -/
theorem StoreFailure.isOfStore_toFailure (failure : StoreFailure) :
    failure.toFailure.isOfStore = true := by
  cases failure <;> rfl

/-- Each target has a class of its own, and no other one has the simple name of a class without
package. -/
structure Target.KeepApart (plan : List Target) : Prop where
  classes : ∀ first ∈ plan, ∀ second ∈ plan, first.className = second.className → first = second
  rootless : ∀ first ∈ plan, ∀ second ∈ plan, second.className.package = "" →
    first.className.simple = second.className.simple → first = second

/-- The file that stands where a cache has a part of an entry. -/
def ArtifactCache.part? (cache : ArtifactCache) (files : Files) (target : Target)
    (part : EntryPart) : Option ByteArray :=
  files.content? (files.destination (cache.partPath target part))

namespace Engine

variable {types : Universe} {engine next : Engine} {target : Target} {artifact : Artifact}
  {plan done : List Target} {pending : PendingTarget}

/-- An update of the cache leaves the sink. -/
theorem updateCache_stores (engine : Engine) (target : Target) (artifact : Artifact)
    (faults : ArtifactCache.WriteFaults) :
    (engine.updateCache target artifact faults).sink = engine.sink ∧
      (engine.updateCache target artifact faults).files =
        (engine.cache.write engine.files target artifact faults).2 := by
  unfold updateCache
  generalize engine.cache.write engine.files target artifact faults = written
  exact ⟨rfl, rfl⟩

/-- A class is reserved and committed, and its artifact alone comes to the files. -/
structure Takes (target : Target) (artifact : Artifact) (engine next : Engine) : Prop where
  reserved : next.sink.reservations.reserved =
    artifact.className :: engine.sink.reservations.reserved
  committed : next.sink.reservations.committed =
    artifact.className :: engine.sink.reservations.committed
  gains : Files.Gains [artifact.source.toUTF8,
    (ArtifactCache.sidecar target artifact.source).print.toUTF8] engine.files next.files

/-- The source of a class is stored, and those of the other classes are left. -/
structure Stores (target : Target) (artifact : Artifact) (engine next : Engine) : Prop extends
    Takes target artifact engine next where
  own : next.sink.stored? next.files artifact.className = some artifact.source
  others : ∀ className text, className.IsDeclarable → className ≠ artifact.className →
    (target.className.package = "" → className.simple ≠ target.className.simple) →
      engine.sink.stored? engine.files className = some text →
        next.sink.stored? next.files className = some text

def cached? (engine : Engine) (target : Target) (part : EntryPart) : Option ByteArray :=
  engine.cache.part? engine.files target part

def sidecar? (engine : Engine) (target : Target) : Option Sidecar :=
  (engine.cached? target .sidecar).bind Sidecar.ofBytes?

/-- A sidecar is known when its bytes can be decoded. -/
theorem sidecar?_eq_some_iff {sidecar : Sidecar} : engine.sidecar? target = some sidecar ↔
    ∃ bytes, engine.files.content? (engine.files.destination (engine.cache.sidecarPath target)) =
      some bytes ∧ Sidecar.ofBytes? bytes = some sidecar :=
  Option.bind_eq_some_iff

/-- A class that is taken brings its own two files alone. -/
theorem Takes.cached?_cases (takes : Takes target artifact engine next)
    (same : next.cache = engine.cache) {other : Target} {part : EntryPart} {content : ByteArray}
    (held : next.cached? other part = some content) :
    engine.cached? other part = some content ∨ content = artifact.source.toUTF8 ∨
      content = (ArtifactCache.sidecar target artifact.source).print.toUTF8 := by
  rw [cached?, same, ArtifactCache.part?, takes.gains.destination_eq] at held
  refine (takes.gains.held _ content held).imp_right fun brought => ?_
  simpa using brought

/-- A class that is taken brings no other sidecar than its own. -/
theorem Takes.sidecar?_cases (takes : Takes target artifact engine next)
    (same : next.cache = engine.cache) (declared : artifact.IsDeclared) {other : Target}
    {sidecar : Sidecar} (found : next.sidecar? other = some sidecar) :
    engine.sidecar? other = some sidecar ∨
      sidecar = ArtifactCache.sidecar target artifact.source := by
  obtain ⟨bytes, held, decoded⟩ := Option.bind_eq_some_iff.1 found
  rcases takes.cached?_cases same held with old | rfl | rfl
  · exact .inl (Option.bind_eq_some_iff.2 ⟨bytes, old, decoded⟩)
  · obtain ⟨others, starts⟩ := declared.starts
    rw [Sidecar.ofBytes?_eq_none starts] at decoded
    cases decoded
  · rw [Sidecar.ofBytes?_print] at decoded
    exact .inr (Option.some.inj decoded).symm

/-- No commit fails in memory, and this one does not fail anywhere else. -/
def Unfailing (sink : Sink) {α : Type} (result : Except Failure α) : Prop :=
  sink.inMemory = true ∨ ∀ failure, result = .error failure → failure.isOfStore = false

/-- A commit of a class that is not reserved writes to the sink and then to the cache, unless it
fails. -/
theorem exists_commit (free : engine.sink.isCreated artifact.className = false)
    (uncommitted : artifact.className ∉ engine.sink.reservations.committed)
    (unfailing : Unfailing engine.sink (engine.commit target artifact {}).1) :
    (engine.commit target artifact {}).1 = .ok () ∧ ∃ reserved path changed left,
      reserved = { engine.sink with reservations := { engine.sink.reservations with
        reserved := artifact.className :: engine.sink.reservations.reserved } } ∧
      reserved.commit engine.files ⟨artifact.className, reserved.pathFor artifact.className⟩
        artifact.source none = (.ok path, changed, left) ∧
      (engine.commit target artifact {}).2.sink = changed ∧
      (engine.commit target artifact {}).2.files =
        (engine.cache.write left target artifact {}).2 := by
  have created : engine.sink.tryCreate artifact.className =
      (some ⟨artifact.className, engine.sink.pathFor artifact.className⟩,
        { engine.sink with reservations := { engine.sink.reservations with
            reserved := artifact.className :: engine.sink.reservations.reserved } }) := by
    have free : engine.sink.reservations.isReserved artifact.className = false := free
    simp [Sink.tryCreate, Reservations.reserve?, free]
  unfold commit at unfailing ⊢
  simp only [created] at unfailing ⊢
  generalize reservation : Sink.mk engine.sink.storage _ = reserved at unfailing ⊢
  have placed : reserved.pathFor = engine.sink.pathFor := by
    funext className
    rw [← reservation, Sink.pathFor, Sink.pathFor]
  rw [← placed] at unfailing ⊢
  generalize stored : reserved.commit engine.files
    ⟨artifact.className, reserved.pathFor artifact.className⟩ artifact.source none =
      committed at unfailing ⊢
  obtain ⟨failure | path, changed, left⟩ := committed
  case error =>
    rcases unfailing with memory | unfailing
    · have memory : reserved.inMemory = true := reservation ▸ memory
      have new : artifact.className ∉ reserved.reservations.committed := reservation ▸ uncommitted
      exact absurd (congrArg Prod.fst stored) (Sink.commit_ne_error memory new)
    · have failed := unfailing failure.toFailure rfl
      rw [failure.isOfStore_toFailure] at failed
      cases failed
  case ok =>
    dsimp only
    generalize middle : Engine.report _ _ = stocked
    obtain ⟨sink, files⟩ := updateCache_stores stocked target artifact {}
    have cache : stocked.cache = engine.cache := by rw [← middle]; rfl
    have earlier : stocked.files = left := by rw [← middle]; rfl
    rw [cache, earlier] at files
    exact ⟨rfl, reserved, path, changed, left, rfl, stored,
      sink.trans (by rw [← middle]; rfl), files⟩

/-- A commit that fails in no store takes its class. -/
theorem takes_of_commit (free : engine.sink.isCreated artifact.className = false)
    (uncommitted : artifact.className ∉ engine.sink.reservations.committed)
    (unfailing : Unfailing engine.sink (engine.commit target artifact {}).1) :
    (engine.commit target artifact {}).1 = .ok () ∧
      Takes target artifact engine (engine.commit target artifact {}).2 := by
  obtain ⟨succeeded, reserved, path, changed, left, reservation, stored, sink, files⟩ :=
    exists_commit free uncommitted unfailing
  obtain ⟨marked, -⟩ := Sink.eq_of_commit_ok stored
  have brought := Sink.gains_commit reserved engine.files
    ⟨artifact.className, reserved.pathFor artifact.className⟩ artifact.source
  rw [stored] at brought
  refine ⟨succeeded, ?_⟩
  constructor
  case reserved => rw [sink, marked, reservation]
  case committed => rw [sink, marked, reservation]
  case gains =>
    rw [files]
    exact (brought.mono (by simp)).trans (ArtifactCache.gains_write engine.cache left target _)

/-- A class that is not reserved is stored, unless its commit fails. -/
theorem stores_of_commit (free : engine.sink.isCreated artifact.className = false)
    (uncommitted : artifact.className ∉ engine.sink.reservations.committed)
    (declared : artifact.IsDeclared) (own : artifact.className = target.className)
    (unfailing : Unfailing engine.sink (engine.commit target artifact {}).1) :
    (engine.commit target artifact {}).1 = .ok () ∧
      Stores target artifact engine (engine.commit target artifact {}).2 := by
  obtain ⟨succeeded, takes⟩ := takes_of_commit free uncommitted unfailing
  obtain ⟨-, reserved, path, changed, left, reservation, stored, sink, files⟩ :=
    exists_commit free uncommitted unfailing
  obtain ⟨taken, kept⟩ := Sink.stored?_of_commit_ok declared.className stored
  have plain : target.IsPlain := Target.isPlain_of_isDeclarable (own ▸ declared.className)
  refine ⟨succeeded, ?_⟩
  constructor
  case toTakes => exact takes
  case own =>
    rw [sink, files]
    exact ArtifactCache.stored?_write declared.className plain (fun _ _ => rfl) taken
  case others =>
    intro className text declarable different unshared held
    have before : reserved.stored? engine.files className = some text := by
      rw [Sink.stored?_eq_some_iff] at held ⊢
      rw [reservation]
      exact held
    rw [sink, files]
    exact ArtifactCache.stored?_write declarable plain
      (fun default simple => absurd simple (unshared default))
      (kept className text declarable different before)

/-- The class of an artifact that is published first is stored, and its gate is kept. -/
theorem publish_of_free
    (unknown : engine.commits.current? artifact.className.qualified = none)
    (free : engine.sink.isCreated artifact.className = false)
    (uncommitted : artifact.className ∉ engine.sink.reservations.committed)
    (own : artifact.className = target.className)
    (unfailing : Unfailing engine.sink (engine.publish target artifact {}).1) :
    (engine.publish target artifact {}).1 = .ok () ∧
      (engine.publish target artifact {}).2.commits.current =
        (engine.commits.opened artifact.className.qualified).current ∧
      Takes target artifact engine (engine.publish target artifact {}).2 ∧
      (artifact.IsDeclared →
        Stores target artifact engine (engine.publish target artifact {}).2) := by
  rw [publish_of_unknown unknown] at unfailing ⊢
  generalize opening : ({ engine with commits := engine.commits.opened _ } : Engine) = opened
    at unfailing ⊢
  have sink : opened.sink = engine.sink := by rw [← opening]
  have files : opened.files = engine.files := by rw [← opening]
  have commits : (opened.commit target artifact {}).2.commits =
      engine.commits.opened artifact.className.qualified := by
    rw [sameRun_commit.2, ← opening]
  rw [← sink] at free uncommitted unfailing
  dsimp only at unfailing ⊢
  obtain ⟨succeeded, takes⟩ := takes_of_commit free uncommitted unfailing
  have stores (declared : artifact.IsDeclared) :=
    (stores_of_commit free uncommitted declared own unfailing).2
  rw [succeeded]
  generalize opened.commit target artifact {} = committed at commits takes stores ⊢
  have taken : Takes target artifact engine
      (committed.2.conclude artifact.className.qualified engine.commits.gates.length (.ok ())) :=
    ⟨sink ▸ takes.reserved, sink ▸ takes.committed, files ▸ takes.gains⟩
  have current : committed.2.commits.current =
      (engine.commits.opened artifact.className.qualified).current := by rw [commits]
  refine ⟨rfl, current, taken, fun declared => ⟨taken, ?_, ?_⟩⟩
  · exact (stores declared).own
  · intro className text declarable different unshared held
    rw [← sink, ← files] at held
    exact (stores declared).others className text declarable different unshared held

/-- The sink holds what was made for the finished targets. Nothing else is reserved or committed,
and the cache has a sidecar for no other target. -/
structure HasDelivered (types : Universe) (done : List Target) (engine : Engine) : Prop where
  reserved : ∀ className ∈ engine.sink.reservations.reserved,
    ∃ target ∈ done, target.className = className
  committed : ∀ className ∈ engine.sink.reservations.committed, ∃ target ∈ done, ∃ artifact,
    Pipeline.made engine.configuration types target = .ok artifact ∧ artifact.className = className
  gates : ∀ entry ∈ engine.commits.current, ∃ target ∈ done, target.className.qualified = entry.1
  stored : ∀ target ∈ done, ∀ artifact,
    Pipeline.made engine.configuration types target = .ok artifact →
      engine.sink.stored? engine.files artifact.className = some artifact.source
  unsaved : ∀ target ∉ done, ∀ bytes sidecar,
    engine.files.content? (engine.files.destination (engine.cache.sidecarPath target)) =
      some bytes → Sidecar.ofBytes? bytes = some sidecar → sidecar.target ≠ target

/-- What is stored is known from the targets that were finished. -/
theorem HasDelivered.stored?_eq_some_iff (delivered : engine.HasDelivered types done)
    {className : ClassName} {source : String} :
    engine.sink.stored? engine.files className = some source ↔
      ∃ target ∈ done, Pipeline.made engine.configuration types target =
        .ok ⟨className, source⟩ := by
  constructor
  · intro held
    obtain ⟨target, member, artifact, made, rfl⟩ :=
      delivered.committed className (Sink.stored?_eq_some_iff.1 held).1
    have stored := delivered.stored target member artifact made
    rw [stored] at held
    cases held
    exact ⟨target, member, made⟩
  · rintro ⟨target, member, made⟩
    exact delivered.stored target member _ made

/-- What was delivered depends on the stores alone. -/
theorem HasDelivered.congr (delivered : engine.HasDelivered types done)
    (configuration : next.configuration = engine.configuration) (cache : next.cache = engine.cache)
    (sink : next.sink = engine.sink) (files : next.files = engine.files)
    (commits : next.commits = engine.commits) : next.HasDelivered types done := by
  constructor
  case reserved => exact sink ▸ delivered.reserved
  case committed =>
    rw [sink, configuration]
    exact delivered.committed
  case gates => exact commits ▸ delivered.gates
  case stored =>
    rw [sink, configuration, files]
    exact delivered.stored
  case unsaved =>
    rw [files, cache]
    exact delivered.unsaved

/-- Nothing is delivered at the start. -/
theorem HasDelivered.start {configuration : Configuration} {source : UniverseSource}
    {files : Files} {sink : Sink} (started : start configuration source files sink = .ok engine)
    (fresh : engine.sink.reservations = {})
    (uncached : ∀ target,
      engine.files.content? (engine.files.destination (engine.cache.sidecarPath target)) = none) :
    engine.HasDelivered types [] := by
  obtain ⟨-, scheduler, -, rfl⟩ := start_eq_ok started
  constructor
  case reserved => exact fresh ▸ nofun
  case committed => exact fresh ▸ nofun
  case gates | stored => exact nofun
  case unsaved =>
    intro target _ bytes sidecar held
    rw [uncached target] at held
    cases held

/-- A target that is handed in leaves the stores as they are. -/
theorem handIn_stores (engine : Engine) (target : Target) :
    (engine.handIn target).2.cache = engine.cache ∧ (engine.handIn target).2.sink = engine.sink ∧
      (engine.handIn target).2.files = engine.files ∧
        (engine.handIn target).2.source = engine.source := by
  have handed := handsIn_handIn engine target
  revert handed
  generalize engine.handIn target = pair
  rintro (⟨-, records⟩ | ⟨-, -, records⟩ | ⟨-, -, records⟩)
  all_goals exact ⟨rfl, rfl, rfl, rfl⟩

/-- A target that is handed in delivers nothing. -/
theorem HasDelivered.handIn (delivered : engine.HasDelivered types done) (target : Target) :
    (engine.handIn target).2.HasDelivered types done := by
  obtain ⟨configuration, commits, -⟩ := handIn_cases engine target
  obtain ⟨cache, sink, files, -⟩ := handIn_stores engine target
  exact delivered.congr configuration cache sink files commits

/-- A target that needs no class of the finished ones is still to be generated. -/
theorem HasDelivered.isCreated_eq (delivered : engine.HasDelivered types done)
    (separate : Target.KeepApart plan) (within : done ⊆ plan) (member : target ∈ plan)
    (new : target ∉ done) : engine.sink.isCreated target.className = false := by
  rw [Sink.isCreated, Reservations.isReserved, ← Bool.not_eq_true, List.contains_iff_mem]
  intro reserved
  obtain ⟨other, finished, same⟩ := delivered.reserved _ reserved
  rw [separate.classes other (within finished) target member same] at finished
  exact new finished

/-- An artifact is used again when its sidecar tells its target. -/
theorem exists_sidecar_of_reusable? (found : engine.reusable? target = some artifact) :
    ∃ sidecar content, engine.sidecar? target = some sidecar ∧ sidecar.target = target ∧
      engine.cached? target .source = some content ∧
      Digest.verifies content sidecar.checksum ∧
      String.fromUTF8? content = some artifact.source := by
  obtain ⟨-, bytes, content, sidecar, read, sourceRead, decoded, own, -, verified, text⟩ :=
    ArtifactCache.lookup_eq_ok_iff.1 (reusable?_eq_some_iff.1 found).2
  exact ⟨sidecar, content,
    sidecar?_eq_some_iff.2 ⟨bytes, (Files.read_eq_ok_iff.1 read).2, decoded⟩, own,
    (Files.read_eq_ok_iff.1 sourceRead).2, verified, text⟩

/-- No entry of the cache is of a target that is not finished. -/
theorem HasDelivered.reusable?_eq_none (delivered : engine.HasDelivered types done)
    (new : target ∉ done) : engine.reusable? target = none := by
  rw [Option.eq_none_iff_forall_ne_some]
  intro artifact found
  obtain ⟨sidecar, -, known, own, -⟩ := exists_sidecar_of_reusable? found
  obtain ⟨bytes, held, decoded⟩ := sidecar?_eq_some_iff.1 known
  exact delivered.unsaved target new bytes sidecar held decoded own

/-- A target that is not finished gets a job. -/
theorem HasDelivered.state_handIn (delivered : engine.HasDelivered types done)
    (separate : Target.KeepApart plan) (within : done ⊆ plan) (member : target ∈ plan)
    (new : target ∉ done) : ∃ job, (engine.handIn target).1 = ⟨target, .running job⟩ := by
  have free := delivered.isCreated_eq separate within member new
  have unsaved := delivered.reusable?_eq_none new
  have handed := handsIn_handIn engine target
  revert handed
  generalize engine.handIn target = pair
  rintro (⟨known, records⟩ | ⟨-, found, records⟩ | ⟨-, -, records⟩)
  · rw [Sink.shouldGenerate, free] at known
    cases known
  · rw [unsaved] at found
    cases found
  · exact ⟨_, rfl⟩

/-- A target without an artifact leaves nothing behind. -/
theorem HasDelivered.skip (delivered : engine.HasDelivered types done) {failure : Failure}
    (failed : Pipeline.made engine.configuration types target = .error failure) :
    engine.HasDelivered types (done ++ [target]) := by
  have before {other : Target} : other ∈ done → other ∈ done ++ [target] :=
    List.mem_append_left [target]
  constructor
  case reserved =>
    intro className reserved
    obtain ⟨other, finished, same⟩ := delivered.reserved className reserved
    exact ⟨other, before finished, same⟩
  case committed =>
    intro className committed
    obtain ⟨other, finished, made⟩ := delivered.committed className committed
    exact ⟨other, before finished, made⟩
  case gates =>
    intro entry current
    obtain ⟨other, finished, same⟩ := delivered.gates entry current
    exact ⟨other, before finished, same⟩
  case stored =>
    intro other finished artifact made
    rcases List.mem_append.1 finished with old | own
    · exact delivered.stored other old artifact made
    · rw [List.mem_singleton.1 own, failed] at made
      cases made
  case unsaved => exact fun other new => delivered.unsaved other (mt before new)

/-- A class that is stored joins those that are delivered. -/
theorem HasDelivered.store (delivered : engine.HasDelivered types done)
    (separate : Target.KeepApart plan) (within : done ⊆ plan) (member : target ∈ plan)
    (new : target ∉ done)
    (made : Pipeline.made engine.configuration types target = .ok artifact)
    (stores : Stores target artifact engine next) (same : engine.SameRun next)
    (commits : ∀ entry ∈ next.commits.current, entry ∈ engine.commits.current ∨
      entry.1 = artifact.className.qualified) :
    next.HasDelivered types (done ++ [target]) := by
  obtain ⟨own, declared⟩ := Pipeline.isDeclared_of_made made
  have before {other : Target} : other ∈ done → other ∈ done ++ [target] :=
    List.mem_append_left [target]
  have itself : target ∈ done ++ [target] := List.mem_append_right done (List.mem_singleton_self _)
  constructor
  case reserved =>
    intro className reserved
    rw [stores.reserved] at reserved
    rcases List.mem_cons.1 reserved with rfl | reserved
    · exact ⟨target, itself, own.symm⟩
    · obtain ⟨other, finished, same⟩ := delivered.reserved className reserved
      exact ⟨other, before finished, same⟩
  case committed =>
    intro className committed
    rw [same.configuration]
    rw [stores.committed] at committed
    rcases List.mem_cons.1 committed with rfl | committed
    · exact ⟨target, itself, artifact, made, rfl⟩
    · obtain ⟨other, finished, made⟩ := delivered.committed className committed
      exact ⟨other, before finished, made⟩
  case gates =>
    intro entry current
    rcases commits entry current with old | named
    · obtain ⟨other, finished, same⟩ := delivered.gates entry old
      exact ⟨other, before finished, same⟩
    · exact ⟨target, itself, by rw [named, own]⟩
  case stored =>
    intro other finished product returned
    rw [same.configuration] at returned
    rcases List.mem_append.1 finished with old | again
    · obtain ⟨otherOwn, otherDeclared⟩ := Pipeline.isDeclared_of_made returned
      -- Two targets of the plan have neither a class nor a path in common.
      have different : other ≠ target := fun same => new (same ▸ old)
      refine stores.others _ _ otherDeclared.className (fun same => different ?_)
        (fun default simple => different ?_) (delivered.stored other old product returned)
      · exact separate.classes other (within old) target member
          (otherOwn.symm.trans (same.trans own))
      · exact separate.rootless other (within old) target member default (otherOwn ▸ simple)
    · rw [List.mem_singleton.1 again, made] at returned
      cases returned
      exact stores.own
  case unsaved =>
    intro other unfinished bytes sidecar held decoded
    rcases stores.sidecar?_cases same.cache declared
      (sidecar?_eq_some_iff.2 ⟨bytes, held, decoded⟩) with found | rfl
    · obtain ⟨content, earlier, read⟩ := sidecar?_eq_some_iff.1 found
      exact delivered.unsaved other (mt before unfinished) content sidecar earlier read
    · rintro rfl
      exact unfinished itself

/-- No gate stands before the class of a target that is still to be finished. -/
theorem HasDelivered.current?_eq_none (delivered : engine.HasDelivered types done)
    (separate : Target.KeepApart plan) (within : done ⊆ plan) (member : target ∈ plan)
    (new : target ∉ done) : engine.commits.current? target.className.qualified = none := by
  refine List.lookup_eq_none_iff.2 fun entry current => bne_iff_ne.2 fun same => new ?_
  obtain ⟨other, finished, named⟩ := delivered.gates entry current
  have classes := Target.qualified_className_inj.1 (named.trans same.symm)
  rwa [separate.classes other (within finished) target member classes] at finished

/-- An artifact is published behind a gate of its own. -/
theorem HasDelivered.publish (delivered : engine.HasDelivered types done)
    (separate : Target.KeepApart plan) (within : done ⊆ plan) (member : target ∈ plan)
    (new : target ∉ done)
    (made : Pipeline.made engine.configuration types target = .ok artifact)
    (unfailing : Unfailing engine.sink (engine.publish target artifact {}).1) :
    (engine.publish target artifact {}).1 = .ok () ∧
      (engine.publish target artifact {}).2.HasDelivered types (done ++ [target]) := by
  obtain ⟨own, declared⟩ := Pipeline.isDeclared_of_made made
  have unknown : engine.commits.current? artifact.className.qualified = none := by
    rw [own]
    exact delivered.current?_eq_none separate within member new
  have free : engine.sink.isCreated artifact.className = false := by
    rw [own]
    exact delivered.isCreated_eq separate within member new
  have uncommitted : artifact.className ∉ engine.sink.reservations.committed := by
    intro committed
    obtain ⟨other, finished, product, returned, same⟩ := delivered.committed _ committed
    have classes := (Pipeline.isDeclared_of_made returned).1.symm.trans (same.trans own)
    rw [separate.classes other (within finished) target member classes] at finished
    exact new finished
  obtain ⟨succeeded, current, -, stores⟩ := publish_of_free unknown free uncommitted own unfailing
  refine ⟨succeeded, delivered.store separate within member new made (stores declared)
    sameRun_publish fun entry inGates => ?_⟩
  rw [current] at inGates
  exact (List.mem_append.1 inGates).imp_right fun gate =>
    congrArg Prod.fst (List.mem_singleton.1 gate)

/-- Whatever becomes of a target, the sink stays where it stores. -/
theorem inMemory_finishTarget :
    (engine.finishTarget pending {}).2.sink.inMemory = engine.sink.inMemory := by
  have committed (engine : Engine) (artifact : Artifact) :
      (engine.commit pending.target artifact {}).2.sink.inMemory = engine.sink.inMemory := by
    unfold commit
    dsimp only
    split
    case h_1 => rfl
    case h_2 handle reserved created =>
      have placed : reserved.inMemory = engine.sink.inMemory := by
        unfold Sink.tryCreate at created
        split at created <;> cases created
        rfl
      have kept := Sink.inMemory_commit reserved engine.files handle artifact.source none
      generalize reserved.commit engine.files handle artifact.source none = stored at kept ⊢
      obtain ⟨failure | path, changed, left⟩ := stored
      · exact kept.trans placed
      · rw [(updateCache_stores _ _ _ _).1]
        exact kept.trans placed
  have published (artifact : Artifact) :
      (engine.publish pending.target artifact {}).2.sink.inMemory = engine.sink.inMemory := by
    unfold publish
    dsimp only
    split
    case h_1 => rfl
    case h_2 opened _ =>
      have kept := committed { engine with commits := opened } artifact
      split <;> exact kept
  unfold finishTarget
  dsimp only
  split
  case h_1 => rfl
  case h_2 =>
    have kept : (engine.publishPending pending {}).2.sink.inMemory = engine.sink.inMemory := by
      unfold publishPending
      split
      case h_1 => rfl
      case h_2 => exact published _
    generalize engine.publishPending pending {} = finished at kept ⊢
    obtain ⟨failure | name, after⟩ := finished <;> exact kept

/-- The target that is finished gets what was made for it, and its source joins those that are
delivered. -/
theorem HasDelivered.finishTarget (delivered : engine.HasDelivered types done)
    (separate : Target.KeepApart plan) (within : done ⊆ plan) (member : pending.target ∈ plan)
    (new : pending.target ∉ done) (waits : pending.state ≠ .alreadyGenerated)
    (received : engine.artifactOf pending.state =
      Pipeline.made engine.configuration types pending.target)
    (unfailing : Unfailing engine.sink (engine.finishTarget pending {}).1) :
    (engine.finishTarget pending {}).1 =
        (Pipeline.made engine.configuration types pending.target).map
          (fun _ => pending.target.className.qualified) ∧
      (engine.finishTarget pending {}).2.HasDelivered types (done ++ [pending.target]) := by
  have agrees : (engine.publishPending pending {}).2.Agrees (engine.finishTarget pending {}).2 :=
    agrees_finishTarget waits
  rw [finishTarget_fst waits] at unfailing ⊢
  suffices published : (engine.publishPending pending {}).1 =
        (Pipeline.made engine.configuration types pending.target).map
          (fun _ => pending.target.className.qualified) ∧
      (engine.publishPending pending {}).2.HasDelivered types (done ++ [pending.target]) from
    ⟨published.1, published.2.congr agrees.configuration.symm agrees.cache.symm agrees.sink.symm
      agrees.files.symm agrees.commits.symm⟩
  unfold publishPending at unfailing ⊢
  rw [received] at unfailing ⊢
  cases made : Pipeline.made engine.configuration types pending.target with
  | error failure => exact ⟨rfl, delivered.skip made⟩
  | ok artifact =>
      simp only [made] at unfailing ⊢
      obtain ⟨succeeded, after⟩ := delivered.publish separate within member new made
        (unfailing.imp_right fun unfailing failure failed =>
          unfailing failure (map_eq_error_iff.2 failed))
      rw [succeeded]
      exact ⟨rfl, after⟩

end Engine

end BusBridge
