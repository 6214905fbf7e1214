/-
This file proves where a file sink keeps the source of a class, and that storing one class, in the
sink or in the cache, leaves the sources of the others as they are. Classes have paths of their own
below the directory of a sink or of a cache.
-/

import BusBridge.Proofs.Files.Gains
import BusBridge.Proofs.Store.CacheEntry
import BusBridge.Proofs.Store.Sink
import BusBridge.Proofs.Text.Segments
import BusBridge.Proofs.Universe.Directory

namespace BusBridge

open Java (isIdentifier isQualifiedName)

namespace ClassName

variable {className other : ClassName}

/-- Source can declare the class in its package. -/
structure IsDeclarable (className : ClassName) : Prop where
  package : className.package = "" ∨ isQualifiedName className.package = true
  simple : isIdentifier className.simple = true

def fileName (className : ClassName) : String :=
  className.simple ++ ArtifactCache.sourceExtension

/-- The directories of a class in a file sink. -/
def directories (className : ClassName) : List String :=
  (Text.split '.' className.package).filter (· != "")

/-- Classes with one file name have one simple name. -/
theorem fileName_inj (same : className.fileName = other.fileName) :
    className.simple = other.simple := by
  have texts := congrArg String.toList same
  rw [fileName, fileName, String.toList_append, String.toList_append] at texts
  exact String.toList_inj.1 (List.append_cancel_right texts)

/-- The file of a class ends as a source file does. -/
theorem getLast?_fileName (className : ClassName) :
    className.fileName.toList.getLast? = some 'a' := by
  have ending : ArtifactCache.sourceExtension.toList.getLast? = some 'a' := by decide
  rw [fileName, String.toList_append, List.getLast?_append, ending]
  rfl

/-- A temporary file holds no class. -/
theorem fileName_ne_temporaryName (className : ClassName) (process number : Nat) (name : String) :
    className.fileName ≠ Files.temporaryName process number name := by
  intro same
  have ending := congrArg (fun name => name.toList.getLast?) same
  simp only [getLast?_fileName, Files.getLast?_temporaryName] at ending
  cases ending

namespace IsDeclarable

/-- A simple name has no dot. -/
theorem not_mem_simple (declarable : className.IsDeclarable) : '.' ∉ className.simple.toList :=
  Java.not_mem_of_isIdentifier declarable.simple (by decide)

/-- A declarable class is known by its qualified name. -/
theorem qualified_inj (declarable : className.IsDeclarable) (otherDeclarable : other.IsDeclarable)
    (same : className.qualified = other.qualified) : className = other := by
  rw [← parse_qualified declarable.not_mem_simple, same,
    parse_qualified otherDeclarable.not_mem_simple]

/-- Only a class of the default package is called by its simple name alone. -/
theorem of_qualified_eq (declarable : className.IsDeclarable)
    (same : className.simple = other.qualified) :
    other.package = "" ∧ className.simple = other.simple := by
  rw [qualified] at same
  split at same
  case isTrue default => exact ⟨default, same⟩
  case isFalse =>
    refine absurd ?_ declarable.not_mem_simple
    rw [same]
    simp

/-- The file of a declarable class has a plain name. -/
theorem isFileName (declarable : className.IsDeclarable) : Path.IsFileName className.fileName := by
  have ending := getLast?_fileName className
  have named : ∀ name : String, name.toList.getLast? ≠ some 'a' → className.fileName ≠ name := by
    rintro name other rfl
    exact other ending
  have plain : '/' ∉ className.simple.toList :=
    Java.not_mem_of_isIdentifier declarable.simple (by decide)
  have extension : '/' ∉ ArtifactCache.sourceExtension.toList := by decide
  refine ⟨?_, named _ (by decide), named _ (by decide), named _ (by decide)⟩
  rw [fileName, String.toList_append, List.mem_append]
  exact not_or.2 ⟨plain, extension⟩

/-- A class of the default package stands in the directory of the sink. -/
theorem directories_eq (declarable : className.IsDeclarable) :
    className.directories =
      if className.package = "" then [] else Text.split '.' className.package := by
  rw [directories]
  split
  case isTrue default =>
    rw [default]
    decide
  case isFalse named =>
    have identifiers : ∀ segment ∈ Text.split '.' className.package, isIdentifier segment = true :=
      List.all_eq_true.1 (declarable.package.resolve_left named)
    refine List.filter_eq_self.2 fun segment member => bne_iff_ne.2 fun empty => ?_
    rw [empty] at member
    exact absurd (identifiers "" member) (by decide)

/-- The directories of a declarable class have plain names. -/
theorem isFileName_of_mem_directories (declarable : className.IsDeclarable) :
    ∀ name ∈ className.directories, Path.IsFileName name := by
  rw [declarable.directories_eq]
  split
  case isTrue => exact nofun
  case isFalse named =>
    have identifiers : ∀ segment ∈ Text.split '.' className.package, isIdentifier segment = true :=
      List.all_eq_true.1 (declarable.package.resolve_left named)
    exact fun name member => Path.isFileName_of_isIdentifier (identifiers name member)

/-- A package is known by its directories. -/
theorem directories_inj (declarable : className.IsDeclarable) (otherDeclarable : other.IsDeclarable)
    (same : className.directories = other.directories) : className.package = other.package := by
  rw [declarable.directories_eq, otherDeclarable.directories_eq] at same
  split at same <;> split at same
  case isTrue.isTrue default otherDefault => rw [default, otherDefault]
  case isTrue.isFalse => exact absurd same.symm (Text.split_ne_nil _ _)
  case isFalse.isTrue => exact absurd same (Text.split_ne_nil _ _)
  case isFalse.isFalse => exact Text.split_inj.1 same

/-- All names on the way to the file of a declarable class are plain. -/
theorem isFileName_of_mem_names (declarable : className.IsDeclarable) :
    ∀ name ∈ className.directories ++ [className.fileName], Path.IsFileName name := by
  rw [List.forall_mem_append, List.forall_mem_singleton]
  exact ⟨declarable.isFileName_of_mem_directories, declarable.isFileName⟩

/-- A declarable class is known by its directories and its file. -/
theorem names_inj (declarable : className.IsDeclarable) (otherDeclarable : other.IsDeclarable)
    (same : className.directories ++ [className.fileName] =
      other.directories ++ [other.fileName]) : className = other := by
  obtain ⟨directories, names⟩ := List.append_inj' same rfl
  have package := declarable.directories_inj otherDeclarable directories
  have simple := ClassName.fileName_inj (List.singleton_inj.1 names)
  rw [ClassName.mk.injEq]
  exact ⟨package, simple⟩

end IsDeclarable

end ClassName

/-- A class that source can declare has no directory in its name. -/
theorem Target.isPlain_of_isDeclarable {target : Target}
    (declarable : target.className.IsDeclarable) : target.IsPlain := by
  refine isPlain_iff.2 ⟨?_, Java.not_mem_of_isIdentifier declarable.simple (by decide)⟩
  rcases declarable.package with default | named
  · rw [default]
    exact List.not_mem_nil
  · intro slash
    exact absurd (Java.continues_of_isQualifiedName named '/' slash) (by decide)

namespace Sink

variable {files : Files} {directory : String} {className other : ClassName}

/-- The file of a class lies in the directory of its package. -/
theorem filePath_eq_join (directory : String) (className : ClassName) :
    filePath directory className =
      Path.join (Path.descend directory className.directories) className.fileName := rfl

/-- The file of a declarable class lies below the directory of the sink. -/
theorem isBelow_filePath (declarable : className.IsDeclarable) :
    Path.IsBelow directory (className.directories ++ [className.fileName])
      (filePath directory className) := by
  rw [filePath_eq_join, ← Path.descend_concat]
  exact .descend (List.append_ne_nil_of_right_ne_nil _ (List.cons_ne_nil _ _))
    declarable.isFileName_of_mem_names

/-- The file of a declarable class stands where its package and its name lead. -/
theorem destination_filePath (declarable : className.IsDeclarable) :
    files.destination (filePath directory className) =
      files.place directory ++ className.directories ++ [className.fileName] := by
  rw [(isBelow_filePath declarable).destination, List.append_assoc]

/-- The temporary file stands beside the file of the class. -/
theorem destination_temporaryPath_filePath (declarable : className.IsDeclarable) :
    files.destination (files.temporaryPath (filePath directory className)) =
      files.place directory ++ className.directories ++
        [Files.temporaryName files.process files.temporaries className.fileName] := by
  rw [filePath_eq_join, Files.destination_temporaryPath declarable.isFileName,
    Files.place_descend declarable.isFileName_of_mem_directories]

/-- No two declarable classes share a file. -/
theorem destination_filePath_inj (declarable : className.IsDeclarable)
    (otherDeclarable : other.IsDeclarable)
    (same : files.destination (filePath directory className) =
      files.destination (filePath directory other)) : className = other := by
  rw [(isBelow_filePath declarable).destination,
    (isBelow_filePath otherDeclarable).destination] at same
  exact declarable.names_inj otherDeclarable (List.append_cancel_left same)

/-- No temporary file of a class takes the place of a class. -/
theorem destination_filePath_ne_temporaryPath (declarable : className.IsDeclarable)
    (otherDeclarable : other.IsDeclarable) :
    files.destination (filePath directory className) ≠
      files.destination (files.temporaryPath (filePath directory other)) := by
  rw [destination_filePath declarable, destination_temporaryPath_filePath otherDeclarable]
  intro same
  exact ClassName.fileName_ne_temporaryName _ _ _ _
    (List.singleton_inj.1 (List.append_inj' same rfl).2)

/-- A file of the cache holds a class of the sink only as the source of a class without package. -/
theorem eq_source_of_destination {cache : ArtifactCache} {target : Target} {part : EntryPart}
    (declarable : className.IsDeclarable) (plain : target.IsPlain)
    (same : files.destination (filePath directory className) =
      files.destination (cache.partPath target part)) :
    part = .source ∧ target.className.package = "" ∧
      className.simple = target.className.simple := by
  rw [destination_filePath declarable, ArtifactCache.destination_partPath plain] at same
  have names := List.singleton_inj.1 (List.append_inj' same rfl).2
  have parts : part = .source := by
    have ending := congrArg (fun name => name.toList.getLast?) names
    simp only [ClassName.getLast?_fileName, EntryPart.getLast?_fileName] at ending
    cases part with
    | source => rfl
    | sidecar => cases ending
  subst parts
  have texts := congrArg String.toList names
  rw [ClassName.fileName, EntryPart.fileName, String.toList_append, String.toList_append] at texts
  exact ⟨rfl, declarable.of_qualified_eq (String.toList_inj.1 (List.append_cancel_right texts))⟩

/-- No temporary file of the cache takes the place of a class. -/
theorem destination_filePath_ne_temporaryPath_part {cache : ArtifactCache} {target : Target}
    {part : EntryPart} (declarable : className.IsDeclarable) (plain : target.IsPlain) :
    files.destination (filePath directory className) ≠
      files.destination (files.temporaryPath (cache.partPath target part)) := by
  rw [destination_filePath declarable, ArtifactCache.partPath,
    Files.destination_temporaryPath (EntryPart.isFileName plain)]
  intro same
  exact ClassName.fileName_ne_temporaryName _ _ _ _
    (List.singleton_inj.1 (List.append_inj' same rfl).2)

/-- The source that a sink has for a class, once the class is committed. -/
def stored? (sink : Sink) (files : Files) (className : ClassName) : Option String :=
  if className ∈ sink.reservations.committed then
    match sink.storage with
    | .memory sources => sources.find? className.qualified
    | .directory path => (files.readText (filePath path className)).toOption
  else none

variable {sink changed : Sink} {left : Files} {source path text : String}

/-- A committed class is stored in memory or in its file. -/
theorem stored?_eq_some_iff : sink.stored? files className = some text ↔
    className ∈ sink.reservations.committed ∧
      match sink.storage with
      | .memory sources => sources.find? className.qualified = some text
      | .directory path => files.readText (filePath path className) = .ok text := by
  unfold stored?
  split
  case isTrue committed =>
    cases sink.storage with
    | memory sources => simp [committed]
    | directory path =>
        simp only [committed, true_and]
        exact toOption_eq_some_iff
  case isFalse => simp [*]

/-- A text that is written to the file of a class is read there. -/
theorem readText_writeSource {handle : WriteHandle}
    (own : handle.path = filePath directory className)
    (written : writeSource files handle source none = (.ok (), left)) :
    left.readText (filePath directory className) = .ok source := by
  unfold writeSource at written
  split at written
  case h_1 => cases written
  case h_2 created made =>
    rw [own] at written
    exact Files.readText_of_replace_ok written

/-- Writing one class leaves the files of the others. -/
theorem readText_writeSource_of_ne {handle : WriteHandle} (declarable : className.IsDeclarable)
    (otherDeclarable : other.IsDeclarable) (different : other ≠ className)
    (own : handle.path = filePath directory className)
    (read : files.readText (filePath directory other) = .ok text) :
    (writeSource files handle source none).2.readText (filePath directory other) = .ok text := by
  have created := Files.readText_createDirectories read (Path.parent handle.path)
  unfold writeSource
  split
  case h_1 made => rwa [made] at created
  case h_2 made =>
    rw [made] at created
    rw [own]
    exact Files.readText_replace created
      (destination_filePath_ne_temporaryPath otherDeclarable declarable)
      (fun same => absurd (destination_filePath_inj otherDeclarable declarable same) different) none

/-- A commit that succeeds stores the source of its class, and leaves those of the others. -/
theorem stored?_of_commit_ok (declarable : className.IsDeclarable)
    (stored : sink.commit files ⟨className, sink.pathFor className⟩ source none =
      (.ok path, changed, left)) :
    changed.stored? left className = some source ∧
      ∀ other text, other.IsDeclarable → other ≠ className →
        sink.stored? files other = some text → changed.stored? left other = some text := by
  obtain ⟨reservations, -⟩ := eq_of_commit_ok stored
  have marked : className ∈ changed.reservations.committed := by
    rw [reservations]
    exact List.mem_cons_self
  have kept : ∀ other ∈ sink.reservations.committed, other ∈ changed.reservations.committed := by
    intro other member
    rw [reservations]
    exact List.mem_cons_of_mem _ member
  simp only [stored?_eq_some_iff, marked, true_and]
  unfold commit at stored
  split at stored
  case h_1 => cases stored
  case h_2 =>
    cases storage : sink.storage with
    | memory sources =>
        simp only [storage] at stored
        cases stored
        refine ⟨by simp [NameMap.find?_insert], fun other text otherDeclarable different held => ?_⟩
        refine ⟨kept other held.1, ?_⟩
        have apart : other.qualified ≠ className.qualified := fun same =>
          different (otherDeclarable.qualified_inj declarable same)
        exact (NameMap.find?_insert.trans (if_neg apart)).trans held.2
    | directory place =>
        have own : sink.pathFor className = filePath place className := by
          rw [pathFor, storage]
        simp only [storage] at stored
        generalize written : writeSource files ⟨className, sink.pathFor className⟩ source none =
          pair at stored
        obtain ⟨result, rest⟩ := pair
        cases result <;> cases stored
        refine ⟨readText_writeSource own written,
          fun other text otherDeclarable different held => ⟨kept other held.1, ?_⟩⟩
        have read : (writeSource files ⟨className, sink.pathFor className⟩ source none).2.readText
            (filePath place other) = .ok text :=
          readText_writeSource_of_ne declarable otherDeclarable different own held.2
        rwa [written] at read

/-- A commit brings its source to the files and nothing else. -/
theorem gains_commit (sink : Sink) (files : Files) (handle : WriteHandle) (source : String) :
    Files.Gains [source.toUTF8] files (sink.commit files handle source none).2.2 := by
  have written : Files.Gains [source.toUTF8] files (writeSource files handle source none).2 := by
    have created : Files.Gains [source.toUTF8] files
        (files.createDirectories (Path.parent handle.path)).2 :=
      (Files.changes_createDirectories files (Path.parent handle.path)).gains
    unfold writeSource
    split
    case h_1 made => rwa [made] at created
    case h_2 made =>
      rw [made] at created
      exact created.trans (Files.gains_replace _ _ _)
  unfold commit
  split
  case h_1 => exact .refl files
  case h_2 =>
    split
    case h_1 => exact .refl files
    case h_2 =>
      dsimp only
      generalize writeSource files handle source none = pair at written ⊢
      obtain ⟨result, changed⟩ := pair
      cases result <;> exact written

end Sink

namespace ArtifactCache

open Sink (filePath)

variable {cache : ArtifactCache} {files : Files} {target : Target} {artifact : Artifact}
  {className : ClassName} {directory text source : String} {sink : Sink}

/-- The two files of an entry, stored one after the other or only in part. -/
theorem readText_store (declarable : className.IsDeclarable) (plain : target.IsPlain)
    (shared : target.className.package = "" → className.simple = target.className.simple →
      source = text)
    (read : files.readText (filePath directory className) = .ok text) :
    (cache.store files target source {}).2.readText (filePath directory className) = .ok text := by
  have first : (cache.storeSource files target source none).2.readText
      (filePath directory className) = .ok text := by
    rw [storeSource, sourcePath_eq]
    refine Files.readText_replace read
      (Sink.destination_filePath_ne_temporaryPath_part declarable plain) (fun same => ?_) none
    obtain ⟨-, default, simple⟩ := Sink.eq_source_of_destination declarable plain same
    rw [shared default simple]
  unfold store
  dsimp only
  generalize cache.storeSource files target source none = stored at first ⊢
  obtain ⟨_ | _, changed⟩ := stored
  case error => exact first
  case ok =>
    dsimp only
    rw [storeSidecar, sidecarPath_eq]
    refine Files.readText_replace first
      (Sink.destination_filePath_ne_temporaryPath_part declarable plain) (fun same => ?_) none
    obtain ⟨part, -⟩ := Sink.eq_source_of_destination declarable plain same
    cases part

/-- What is written to the cache leaves the sources of a sink. -/
theorem stored?_write (declarable : className.IsDeclarable) (plain : target.IsPlain)
    (shared : target.className.package = "" → className.simple = target.className.simple →
      artifact.source = text)
    (held : sink.stored? files className = some text) :
    sink.stored? (cache.write files target artifact {}).2 className = some text := by
  rw [Sink.stored?_eq_some_iff] at held ⊢
  refine ⟨held.1, ?_⟩
  obtain ⟨-, held⟩ := held
  split
  case h_1 storage => simpa only [storage] using held
  case h_2 directory storage =>
    simp only [storage] at held
    have created := Files.readText_createDirectories held cache.directory
    unfold write
    dsimp only
    split
    case isTrue => exact held
    case isFalse =>
      split
      case h_1 made => rwa [made] at created
      case h_2 made =>
        rw [made] at created
        have kept : (cache.store _ target artifact.source {}).2.readText _ = .ok text :=
          readText_store declarable plain shared created
        generalize cache.store _ target artifact.source {} = stored at kept ⊢
        obtain ⟨_ | _, changed⟩ := stored <;> exact kept

/-- The files of an entry lie directly below the directory of the cache. -/
theorem isBelow_partPath {part : EntryPart} (plain : target.IsPlain) :
    Path.IsBelow cache.directory [part.fileName target] (cache.partPath target part) := by
  rw [partPath, ← Path.descend_singleton]
  exact .descend (List.cons_ne_nil _ _) (List.forall_mem_singleton.2 (EntryPart.isFileName plain))

/-- A write of the cache brings a source and its sidecar, and nothing else. -/
theorem gains_write (cache : ArtifactCache) (files : Files) (target : Target)
    (artifact : Artifact) :
    Files.Gains [artifact.source.toUTF8, (sidecar target artifact.source).print.toUTF8] files
      (cache.write files target artifact {}).2 := by
  have stored (files : Files) :
      Files.Gains [artifact.source.toUTF8, (sidecar target artifact.source).print.toUTF8] files
        (cache.store files target artifact.source {}).2 := by
    have first : Files.Gains [artifact.source.toUTF8] files
        (cache.storeSource files target artifact.source none).2 := by
      rw [storeSource]
      exact Files.gains_replace _ _ _
    unfold store
    dsimp only
    generalize cache.storeSource files target artifact.source none = stored at first ⊢
    obtain ⟨_ | _, middle⟩ := stored
    case error => exact first.mono (by simp)
    case ok =>
      have second : Files.Gains [(sidecar target artifact.source).print.toUTF8] middle
          (cache.storeSidecar middle target artifact.source none).2 := by
        rw [storeSidecar]
        exact Files.gains_replace _ _ _
      exact (first.mono (by simp)).trans (second.mono (by simp))
  have created : Files.Gains
      [artifact.source.toUTF8, (sidecar target artifact.source).print.toUTF8] files
        (files.createDirectories cache.directory).2 :=
    (Files.changes_createDirectories files cache.directory).gains
  unfold write
  dsimp only
  split
  case isTrue => exact .refl files
  case isFalse =>
    split
    case h_1 made => rwa [made] at created
    case h_2 middle made =>
      rw [made] at created
      have kept := created.trans (stored middle)
      generalize cache.store middle target artifact.source {} = stored at kept ⊢
      obtain ⟨_ | _, changed⟩ := stored <;> exact kept

end ArtifactCache

section Placement

variable {sink : Sink} {directory : String} {cache other : ArtifactCache}
  {className otherClass : ClassName} {target second : Target} {part secondPart : EntryPart}

/-- No two declarable classes share a path of the sink. -/
theorem Sink.pathFor_inj (stored : sink.storage = .directory directory)
    (declarable : className.IsDeclarable) (otherDeclarable : otherClass.IsDeclarable)
    (same : Path.segments (sink.pathFor className) = Path.segments (sink.pathFor otherClass)) :
    className = otherClass := by
  simp only [pathFor, stored] at same
  exact declarable.names_inj otherDeclarable
    ((isBelow_filePath declarable).inner_eq (isBelow_filePath otherDeclarable) same)

/-- Entries share a path only for the same part of the same class. -/
theorem ArtifactCache.partPath_inj (declarable : target.className.IsDeclarable)
    (secondDeclarable : second.className.IsDeclarable)
    (same : Path.segments (cache.partPath target part) =
      Path.segments (cache.partPath second secondPart)) :
    part = secondPart ∧ target.className = second.className := by
  have names := (isBelow_partPath (Target.isPlain_of_isDeclarable declarable)).inner_eq
    (isBelow_partPath (Target.isPlain_of_isDeclarable secondDeclarable)) same
  obtain ⟨parts, qualified⟩ := EntryPart.fileName_inj (List.singleton_inj.1 names)
  exact ⟨parts, declarable.qualified_inj secondDeclarable qualified⟩

/-- Two caches may keep their entries in directories that lie one in the other. -/
theorem ArtifactCache.sidecarPath_ne_sourcePath (plain : target.IsPlain)
    (secondPlain : second.IsPlain) :
    Path.segments (cache.sidecarPath target) ≠ Path.segments (other.sourcePath second) := by
  rw [sidecarPath_eq, sourcePath_eq]
  intro same
  have names := (isBelow_partPath plain).getLast?_eq (isBelow_partPath secondPlain) same
  cases (EntryPart.fileName_inj (Option.some.inj names)).1

/-- No sidecar is found at the path of a class. -/
theorem ArtifactCache.sidecarPath_ne_pathFor (stored : sink.storage = .directory directory)
    (declarable : className.IsDeclarable) (plain : target.IsPlain) :
    Path.segments (cache.sidecarPath target) ≠ Path.segments (sink.pathFor className) := by
  rw [sidecarPath_eq, Sink.pathFor, stored]
  intro same
  have names := (isBelow_partPath plain).getLast?_eq (Sink.isBelow_filePath declarable) same
  rw [List.getLast?_singleton, List.getLast?_concat] at names
  have ending := congrArg (fun name => name.toList.getLast?) (Option.some.inj names)
  simp only [EntryPart.getLast?_fileName, ClassName.getLast?_fileName] at ending
  cases ending

/-- Classes that source can declare have paths of their own, in a file sink as in a cache. A path
goes down from the directory of the sink, through one directory for each segment of the package, or
stands in the directory of the cache. No sidecar has the path of a source. -/
theorem declarable_paths_apart (sink : Sink) (cache other : ArtifactCache)
    (stored : sink.storage = .directory directory)
    (declarable : className.IsDeclarable) (otherDeclarable : otherClass.IsDeclarable)
    (targetDeclarable : target.className.IsDeclarable)
    (secondDeclarable : second.className.IsDeclarable) :
    (Path.segments (sink.pathFor className) = Path.segments (sink.pathFor otherClass) →
      className = otherClass) ∧
    (∀ part secondPart : EntryPart,
      Path.segments (cache.entryPath target part.extension) =
        Path.segments (cache.entryPath second secondPart.extension) →
      part = secondPart ∧ target.className = second.className) ∧
    Path.IsBelow directory
      ((if className.package = "" then [] else Text.split '.' className.package) ++
        [className.simple ++ ArtifactCache.sourceExtension])
      (sink.pathFor className) ∧
    (∀ part : EntryPart,
      Path.IsBelow cache.directory [target.className.qualified ++ part.extension]
        (cache.entryPath target part.extension)) ∧
    Path.segments (cache.sidecarPath target) ≠ Path.segments (other.sourcePath second) ∧
    Path.segments (cache.sidecarPath target) ≠ Path.segments (sink.pathFor className) := by
  have plain := Target.isPlain_of_isDeclarable targetDeclarable
  have secondPlain := Target.isPlain_of_isDeclarable secondDeclarable
  refine ⟨Sink.pathFor_inj stored declarable otherDeclarable,
    fun _ _ same => ArtifactCache.partPath_inj targetDeclarable secondDeclarable same, ?_,
    fun _ => ArtifactCache.isBelow_partPath plain,
    ArtifactCache.sidecarPath_ne_sourcePath plain secondPlain,
    ArtifactCache.sidecarPath_ne_pathFor stored declarable plain⟩
  rw [Sink.pathFor, stored, ← declarable.directories_eq]
  exact Sink.isBelow_filePath declarable

/-- The loader of a nested interface does not get in the way of that of the interface around it. -/
theorem nestedLoader_paths_apart :
    let sink := Sink.files "out"
    let cache : ArtifactCache := ⟨"cache"⟩
    let calls : Target := .loader "com.acme.Calls"
    let nested : Target := .loader "com.acme.Calls$Remote"
    sink.pathFor calls.className = "out/com/acme/CallsImpl.java" ∧
      cache.sidecarPath calls = "cache/com.acme.CallsImpl.meta.json" ∧
      cache.sourcePath nested = "cache/com.acme.Calls_RemoteImpl.java" ∧
      Path.IsBelow "out" ["com", "acme", "CallsImpl.java"] (sink.pathFor calls.className) ∧
      Path.segments (sink.pathFor calls.className) ≠
        Path.segments (sink.pathFor nested.className) ∧
      Path.segments (cache.sidecarPath calls) ≠ Path.segments (cache.sourcePath nested) := by
  intro sink cache calls nested
  have declarable : calls.className.IsDeclarable := ⟨.inr (by decide +kernel), by decide +kernel⟩
  have nestedDeclarable : nested.className.IsDeclarable :=
    ⟨.inr (by decide +kernel), by decide +kernel⟩
  have names : (if calls.className.package = "" then [] else
      Text.split '.' calls.className.package) ++
        [calls.className.simple ++ ArtifactCache.sourceExtension] =
      ["com", "acme", "CallsImpl.java"] := by decide +kernel
  obtain ⟨unique, -, below, -, apart, -⟩ := declarable_paths_apart sink cache cache rfl declarable
    nestedDeclarable declarable nestedDeclarable
  rw [names] at below
  exact ⟨by decide +kernel, by decide +kernel, by decide +kernel, below,
    mt unique (by decide +kernel), apart⟩

end Placement

end BusBridge
