/-
This file proves what the operations on files change.
-/

import BusBridge.Proofs.Files.Path

namespace BusBridge.Files

variable {files changed : Files} {path temporary : String} {content : ByteArray}
  {location : Location} {names : List String}

/-- A file can be written at a path: directories lead there, and no directory stands there. -/
structure Accepts (files : Files) (path : String) : Prop where
  located : ∃ location, files.locate path = .ok location
  free : files.find? (files.destination path) ≠ some .directory

/-- A path that is accepted is located. -/
theorem Accepts.locate (accepts : files.Accepts path) :
    files.locate path = .ok (files.destination path) := by
  obtain ⟨location, located⟩ := accepts.located
  rw [located, locate_eq_ok located]

/-- The root accepts no file. -/
theorem Accepts.inside (accepts : files.Accepts path) : files.destination path ≠ [] :=
  ne_nil_of_not_directory accepts.free

/-- An entry is found at the place of its path. -/
theorem entryAt_eq_ok_iff {entry : FileEntry} :
    files.entryAt path = .ok entry ↔
      ∃ location, files.locate path = .ok location ∧ files.find? location = some entry := by
  simp only [entryAt, bind_eq_ok_iff]
  refine exists_congr fun location => and_congr_right fun _ => ?_
  split
  case h_1 other found => simp [found, pure, Except.pure]
  case h_2 missing => simp [missing, throw, throwThe, MonadExceptOf.throw]

/-- What is read is the content of the file where the path leads. -/
theorem read_eq_ok_iff :
    files.read path = .ok content ↔
      (∃ location, files.locate path = .ok location) ∧
        files.content? (files.destination path) = some content := by
  simp only [read, bind_eq_ok_iff, entryAt_eq_ok_iff, content?_eq_some_iff]
  constructor
  · rintro ⟨entry, ⟨location, located, found⟩, value⟩
    cases entry with
    | directory => cases value
    | file held =>
        cases value
        exact ⟨⟨location, located⟩, locate_eq_ok located ▸ found⟩
  · rintro ⟨⟨location, located⟩, found⟩
    exact ⟨.file content, ⟨location, located, locate_eq_ok located ▸ found⟩, rfl⟩

/-- A file is written exactly where its path is accepted. -/
theorem write_eq_ok_iff :
    files.write path content = .ok changed ↔
      files.Accepts path ∧ changed = files.put (files.destination path) (.file content) := by
  constructor
  · intro written
    simp only [write, bind_eq_ok_iff] at written
    obtain ⟨location, located, written⟩ := written
    obtain rfl := locate_eq_ok located
    split at written
    case h_1 => cases written
    case h_2 free =>
      cases written
      exact ⟨⟨⟨_, located⟩, free⟩, rfl⟩
  · rintro ⟨accepts, rfl⟩
    rw [write, bind_eq_ok_iff]
    refine ⟨_, accepts.locate, ?_⟩
    split
    case h_1 directory => exact absurd directory accepts.free
    case h_2 => rfl

/-- A rename moves an entry to a path that is accepted. -/
theorem rename_eq_ok (renamed : files.rename temporary path = .ok changed) :
    files.Accepts path ∧ ∃ entry, files.find? (files.destination temporary) = some entry ∧
      changed = (files.erase (files.destination temporary)).put (files.destination path) entry := by
  simp only [rename, bind_eq_ok_iff] at renamed
  obtain ⟨source, locatedSource, target, locatedTarget, renamed⟩ := renamed
  obtain rfl := locate_eq_ok locatedSource
  obtain rfl := locate_eq_ok locatedTarget
  split at renamed
  case h_1 => cases renamed
  case h_2 => cases renamed
  case h_3 entry found free =>
    cases renamed
    exact ⟨⟨⟨_, locatedTarget⟩, free⟩, entry, found, rfl⟩

/-- A removal erases what is no directory. -/
theorem remove_eq_ok (removed : files.remove path = .ok changed) :
    files.find? (files.destination path) ≠ some .directory ∧
      changed = files.erase (files.destination path) := by
  simp only [remove, bind_eq_ok_iff] at removed
  obtain ⟨location, located, removed⟩ := removed
  obtain rfl := locate_eq_ok located
  split at removed
  case h_1 => cases removed
  case h_2 => cases removed
  case h_3 held found =>
    cases removed
    exact ⟨by simp [found], rfl⟩

/-- A file that can be reached can be removed. -/
theorem remove_of_file (located : files.locate path = .ok location)
    (held : files.find? location = some (.file content)) :
    files.remove path = .ok (files.erase location) := by
  rw [remove, bind_eq_ok_iff]
  refine ⟨location, located, ?_⟩
  rw [held]
  rfl

/-- A file that can be reached is not missed by a removal. -/
theorem content?_of_remove_notFound (missing : files.remove path = .error .notFound)
    (located : files.locate path = .ok location) :
    files.content? (files.destination path) = none := by
  rcases bind_eq_error_iff.1 missing with unlocated | ⟨place, known, unremoved⟩
  · rw [located] at unlocated
    cases unlocated
  · obtain rfl := locate_eq_ok known
    split at unremoved
    case h_1 free => simp [content?, free]
    case h_2 => cases unremoved
    case h_3 => cases unremoved

/-- A removal changes its own place alone. -/
theorem changes_remove (removed : files.remove path = .ok changed) :
    Changes [files.destination path] files changed ∧
      changed.content? (files.destination path) = none := by
  obtain ⟨free, rfl⟩ := remove_eq_ok removed
  exact ⟨changes_erase free, content?_erase (ne_nil_of_not_directory free)⟩

/-- Directories are put only where nothing stands. -/
theorem changes_createAlong (files : Files) (location : Location) (names : List String) :
    Changes [] files (files.createAlong location names).2 := by
  induction names generalizing files location with
  | nil => exact .refl files
  | cons name rest ih =>
      rw [createAlong]
      split
      case h_1 => exact .refl files
      case h_2 next stepped =>
        split
        case h_1 => exact ih files next
        case h_2 => exact .refl files
        case h_3 free => exact (changes_put_directory free).trans (ih _ next)

/-- New directories change no file. -/
theorem changes_createAbove (files : Files) (path : String) :
    Changes [] files (files.createAbove path).2 := by
  unfold createAbove
  split
  case h_1 failure above created =>
    have change := changes_createAlong files (files.start path) (Path.segments path).dropLast
    rwa [created] at change
  case h_2 above created =>
    have change := changes_createAlong files (files.start path) (Path.segments path).dropLast
    rwa [created] at change

/-- New directories change no file. -/
theorem changes_createDirectories (files : Files) (path : String) :
    Changes [] files (files.createDirectories path).2 := by
  unfold createDirectories
  split
  case isTrue => exact .refl files
  case isFalse =>
    split
    case h_1 => exact .refl files
    case h_2 =>
      split
      · exact changes_createAbove ..
      · exact changes_createAlong ..

end BusBridge.Files
