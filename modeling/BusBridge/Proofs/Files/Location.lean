/-
This file proves where paths lead in a tree, and what a change of the tree leaves as it was.
-/

import BusBridge.Files.Operations
import BusBridge.Proofs.Outcome

namespace BusBridge.Files

variable {files middle changed : Files} {location other found : Location} {entry : FileEntry}
  {names : List String} {path : String}

/-- Where names lead, whatever stands on the way. -/
def follow (location : Location) (names : List String) : Location :=
  names.foldl (fun reached name =>
    if name = "." then reached else if name = ".." then reached.dropLast else reached ++ [name])
    location

/-- Where a path leads, whether or not it can be walked. -/
def destination (files : Files) (path : String) : Location :=
  follow (files.start path) (Path.steps path)

/-- Names are followed one after the other. -/
theorem follow_append (location : Location) (names rest : List String) :
    follow location (names ++ rest) = follow (follow location names) rest := by
  simp [follow]

/-- A name that is no dot leads one level down. -/
theorem follow_name {name : String} (notHere : name ≠ ".") (notUp : name ≠ "..") :
    follow location [name] = location ++ [name] := by
  simp [follow, notHere, notUp]

/-- Single dots lead nowhere. -/
theorem follow_filter (location : Location) (names : List String) :
    follow location (names.filter (· != ".")) = follow location names := by
  induction names generalizing location with
  | nil => rfl
  | cons name rest ih =>
      by_cases here : name = "."
      · rw [List.filter_cons_of_neg (by simp [here]), ih]
        simp [follow, here]
      · rw [List.filter_cons_of_pos (by simpa using here)]
        exact ih _

/-- A step goes to the place that its name leads to. -/
theorem step_eq_ok {name : String} (stepped : step location name = .ok found) :
    found = follow location [name] := by
  simp only [step] at stepped
  split at stepped
  case isTrue here =>
    cases stepped
    simp [follow, here]
  case isFalse notHere =>
    split at stepped
    case isTrue up =>
      cases stepped
      simp [follow, up]
    case isFalse notUp =>
      split at stepped
      case isTrue => cases stepped
      case isFalse =>
        cases stepped
        exact (follow_name notHere notUp).symm

/-- A walk goes on only through directories. -/
theorem walk_cons_eq_ok_iff {name : String} {rest : List String} :
    files.walk location (name :: rest) = .ok found ↔
      files.find? location = some .directory ∧
        ∃ next, step location name = .ok next ∧ files.walk next rest = .ok found := by
  rw [walk]
  split
  case h_1 missing => simp [missing]
  case h_2 content file => simp [file]
  case h_3 failure directory failed => simp [failed]
  case h_4 next directory stepped => simp [directory, stepped]

/-- A walk ends where its names lead. -/
theorem walk_eq_ok (walked : files.walk location names = .ok found) :
    found = follow location names := by
  induction names generalizing location with
  | nil =>
      cases walked
      rfl
  | cons name rest ih =>
      obtain ⟨-, next, stepped, walked⟩ := walk_cons_eq_ok_iff.1 walked
      rw [ih walked, step_eq_ok stepped, ← follow_append]
      rfl

/-- A path is located when it is usable and can be walked. -/
theorem locate_eq_ok_iff :
    files.locate path = .ok location ↔
      pathFailure? path = none ∧
        files.walk (files.start path) (Path.steps path) = .ok location := by
  rw [locate]
  split
  case h_1 failure failed => simp [failed]
  case h_2 fine => simp [fine]

/-- A path is located at its destination. -/
theorem locate_eq_ok (located : files.locate path = .ok location) :
    location = files.destination path :=
  walk_eq_ok (locate_eq_ok_iff.1 located).2

/-- What is taken out of a list is not found there, and the rest is. -/
theorem lookup_filter_ne {entries : List (Location × FileEntry)} (location other : Location) :
    (entries.filter fun entry => entry.1 != location).lookup other =
      if other = location then none else entries.lookup other := by
  induction entries with
  | nil => simp
  | cons head rest ih =>
      by_cases removed : head.1 = location
      · rw [List.filter_cons_of_neg (by simp [removed]), ih]
        split
        case isTrue => rfl
        case isFalse different =>
          have passed : (other == head.1) = false := by
            rw [removed]
            exact beq_eq_false_iff_ne.2 different
          rw [List.lookup_cons, passed]
      · rw [List.filter_cons_of_pos (by simpa using removed), List.lookup_cons, List.lookup_cons,
          ih]
        by_cases here : other = head.1
        · subst here
          simp [removed]
        · simp [beq_eq_false_iff_ne.2 here]

@[simp] theorem find?_nil : files.find? [] = some .directory := rfl

/-- An erased place holds nothing, and the others keep what they held. -/
theorem find?_erase (inside : location ≠ []) :
    (files.erase location).find? other = if other = location then none else files.find? other := by
  simp only [find?, erase, lookup_filter_ne]
  by_cases root : other = []
  · simp [root, Ne.symm inside]
  · simp [root]

/-- A place holds what was put there, and the others keep what they held. -/
theorem find?_put (inside : location ≠ []) :
    (files.put location entry).find? other =
      if other = location then some entry else files.find? other := by
  simp only [find?, put, List.lookup_append, lookup_filter_ne]
  by_cases root : other = []
  · simp [root, Ne.symm inside]
  · by_cases here : other = location
    · subst here
      simp [inside]
    · simp [root, here, List.lookup_cons, beq_eq_false_iff_ne.2 here]

/-- The root is a directory. -/
theorem ne_nil_of_not_directory (free : files.find? location ≠ some .directory) :
    location ≠ [] := by
  rintro rfl
  exact free rfl

/-- The content of the file at a location. -/
def content? (files : Files) (location : Location) : Option ByteArray :=
  match files.find? location with
  | some (.file content) => some content
  | _ => none

/-- An empty tree holds no file. -/
theorem content?_empty (location : Location) : ({} : Files).content? location = none := by
  cases location <;> rfl

/-- Only files have a content. -/
theorem content?_eq_some_iff {content : ByteArray} :
    files.content? location = some content ↔ files.find? location = some (.file content) := by
  unfold content?
  split
  case h_1 held found => simp [found]
  case h_2 other =>
    constructor
    · intro impossible
      cases impossible
    · intro found
      exact absurd found (other content)

/-- A place that holds the same has the same content. -/
theorem content?_congr (same : changed.find? other = files.find? other) :
    changed.content? other = files.content? other := by
  unfold content?
  rw [same]

/-- Directories stay, and so do the contents of files beside those that are touched. -/
structure Changes (touched : List Location) (files changed : Files) : Prop where
  workingDirectory : changed.workingDirectory = files.workingDirectory
  directories : ∀ location, files.find? location = some .directory →
    changed.find? location = some .directory
  contents : ∀ location, location ∉ touched →
    changed.content? location = files.content? location

namespace Changes

variable {touched more : List Location}

/-- Nothing is changed by doing nothing. -/
theorem refl (files : Files) : Changes touched files files :=
  ⟨rfl, fun _ directory => directory, fun _ _ => rfl⟩

/-- Changes at some places are changes at more places. -/
theorem mono (change : Changes touched files changed) (within : touched ⊆ more) :
    Changes more files changed :=
  ⟨change.workingDirectory, change.directories,
    fun location outside => change.contents location fun member => outside (within member)⟩

/-- Changes may follow one another. -/
theorem trans (first : Changes touched files middle) (second : Changes touched middle changed) :
    Changes touched files changed where
  workingDirectory := second.workingDirectory.trans first.workingDirectory
  directories location directory :=
    second.directories location (first.directories location directory)
  contents location outside :=
    (second.contents location outside).trans (first.contents location outside)

/-- Paths lead to the same places after a change. -/
theorem destination_eq (change : Changes touched files changed) (path : String) :
    changed.destination path = files.destination path := by
  simp only [destination, start, change.workingDirectory]

/-- What could be walked can still be walked. -/
theorem walk (change : Changes touched files changed)
    (walked : files.walk location names = .ok found) :
    changed.walk location names = .ok found := by
  induction names generalizing location with
  | nil => exact walked
  | cons name rest ih =>
      obtain ⟨directory, next, stepped, walked⟩ := walk_cons_eq_ok_iff.1 walked
      exact walk_cons_eq_ok_iff.2
        ⟨change.directories location directory, next, stepped, ih walked⟩

/-- What could be located before a change is located after it. -/
theorem locate (change : Changes touched files changed)
    (located : files.locate path = .ok location) : changed.locate path = .ok location := by
  obtain ⟨fine, walked⟩ := locate_eq_ok_iff.1 located
  have start : changed.start path = files.start path := by
    simp only [Files.start, change.workingDirectory]
  exact locate_eq_ok_iff.2 ⟨fine, start ▸ change.walk walked⟩

end Changes

/-- A file may take the place of anything but a directory. -/
theorem changes_put_file {content : ByteArray} (free : files.find? location ≠ some .directory) :
    Changes [location] files (files.put location (.file content)) := by
  have inside : location ≠ [] := ne_nil_of_not_directory free
  constructor
  case workingDirectory => rfl
  case directories =>
    intro other directory
    have different : other ≠ location := by
      rintro rfl
      exact free directory
    rw [find?_put inside, if_neg different]
    exact directory
  case contents =>
    intro other outside
    have different : other ≠ location := by simpa using outside
    exact content?_congr (by rw [find?_put inside, if_neg different])

/-- A file has the content that it was written with. -/
theorem content?_put_file {content : ByteArray} (inside : location ≠ []) :
    (files.put location (.file content)).content? location = some content :=
  content?_eq_some_iff.2 (by rw [find?_put inside, if_pos rfl])

/-- Erasing a file changes its own place alone. -/
theorem changes_erase (free : files.find? location ≠ some .directory) :
    Changes [location] files (files.erase location) := by
  have inside : location ≠ [] := ne_nil_of_not_directory free
  constructor
  case workingDirectory => rfl
  case directories =>
    intro other directory
    have different : other ≠ location := by
      rintro rfl
      exact free directory
    rw [find?_erase inside, if_neg different]
    exact directory
  case contents =>
    intro other outside
    have different : other ≠ location := by simpa using outside
    exact content?_congr (by rw [find?_erase inside, if_neg different])

/-- An erased place has no content. -/
theorem content?_erase (inside : location ≠ []) :
    (files.erase location).content? location = none := by
  simp [content?, find?_erase inside]

/-- A new directory takes the place of nothing. -/
theorem changes_put_directory (free : files.find? location = none) :
    Changes [] files (files.put location .directory) := by
  have inside : location ≠ [] := by
    rintro rfl
    cases free
  constructor
  case workingDirectory => rfl
  case directories =>
    intro other directory
    rw [find?_put inside]
    split
    · rfl
    · exact directory
  case contents =>
    intro other _
    by_cases here : other = location
    · simp [content?, find?_put inside, here, free]
    · exact content?_congr (by rw [find?_put inside, if_neg here])

end BusBridge.Files
