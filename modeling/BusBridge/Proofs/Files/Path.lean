/-
This file proves where the path of a file in a directory leads, and where the temporary file
leads that stands in for it.
-/

import BusBridge.Proofs.Files.Location

namespace BusBridge

namespace Path

variable {directory name : String}

/-- A name that stands for a file of a directory. -/
structure IsFileName (name : String) : Prop where
  plain : '/' ∉ name.toList
  notEmpty : name ≠ ""
  notHere : name ≠ "."
  notUp : name ≠ ".."

/-- The names on the way to a directory. -/
def names (directory : String) : List String :=
  (Text.split '/' directory).filter (· != "")

/-- A plain name is a relative path. -/
theorem isAbsolute_of_plain (plain : '/' ∉ name.toList) : isAbsolute name = false := by
  rw [isAbsolute]
  cases shape : name.toList with
  | nil => rfl
  | cons first rest =>
      have different : first ≠ '/' := by
        rintro rfl
        exact plain (by simp [shape])
      simpa using different

/-- A plain name is one segment. -/
theorem split_of_plain (plain : '/' ∉ name.toList) : Text.split '/' name = [name] := by
  rw [Text.split, List.splitOn_eq_singleton plain]
  simp

/-- A plain name after a slash is the last part. -/
theorem split_append_plain {front : String} (plain : '/' ∉ name.toList) :
    Text.split '/' (front ++ "/" ++ name) = Text.split '/' front ++ [name] := by
  have cut : (front ++ "/" ++ name).toList = front.toList ++ '/' :: name.toList := by simp
  rw [Text.split, cut, List.splitOn_append_cons_self, List.splitOn_eq_singleton plain]
  simp [Text.split]

/-- A slash at the end adds an empty segment. -/
theorem split_ofList_append_slash (front : List Char) :
    Text.split '/' (String.ofList (front ++ ['/'])) =
      Text.split '/' (String.ofList front) ++ [""] := by
  rw [Text.split, Text.split, String.toList_ofList, String.toList_ofList,
    List.splitOn_append_cons_self]
  simp

/-- A directory is the empty path, or ends in a slash, or has one put after it. -/
theorem names_split_join (directory : String) (file : IsFileName name) :
    (Text.split '/' (join directory name)).filter (· != "") = names directory ++ [name] ∧
      (Text.split '/' (join directory name)).getLast? = some name := by
  have kept : [name].filter (· != "") = [name] := by simp [file.notEmpty]
  have relative : isAbsolute name = false := isAbsolute_of_plain file.plain
  by_cases empty : directory = ""
  · have joined : join directory name = name := by simp [join, relative, empty]
    rw [joined, split_of_plain file.plain, kept, names, empty]
    exact ⟨by simp [Text.split], rfl⟩
  · by_cases ends : directory.toList.getLast? = some '/'
    · obtain ⟨front, shape⟩ := List.getLast?_eq_some_iff.1 ends
      have whole : directory = String.ofList front ++ "/" := by
        rw [← String.ofList_toList (s := directory), shape]
        simp
      have joined : join directory name = String.ofList front ++ "/" ++ name := by
        simp [join, relative, ends, ← whole]
      have parts : Text.split '/' directory = Text.split '/' (String.ofList front) ++ [""] := by
        rw [← split_ofList_append_slash, ← shape, String.ofList_toList]
      rw [joined, split_append_plain file.plain, names, parts]
      simp [file.notEmpty]
    · have joined : join directory name = directory ++ "/" ++ name := by
        simp [join, relative, empty, ends]
      rw [joined, split_append_plain file.plain, List.filter_append, kept]
      exact ⟨rfl, by simp⟩

/-- A joined path leads through the names of the directory to the file. -/
theorem steps_join (file : IsFileName name) :
    steps (join directory name) = names directory ++ [name] := by
  obtain ⟨parts, last⟩ := names_split_join directory file
  have dotless : (some name = some "") = False := by simp [file.notEmpty]
  simp only [steps, parts, last, dotless, if_false, List.append_nil]

/-- A joined path is absolute when its directory is. -/
theorem isAbsolute_join (file : IsFileName name) :
    isAbsolute (join directory name) = isAbsolute directory := by
  have relative : isAbsolute name = false := isAbsolute_of_plain file.plain
  by_cases empty : directory = ""
  · simp [join, relative, empty, show isAbsolute "" = false from rfl]
  · obtain ⟨first, rest, shape⟩ : ∃ first rest, directory.toList = first :: rest := by
      cases shape : directory.toList with
      | nil => exact absurd (String.toList_eq_nil_iff.1 shape) empty
      | cons first rest => exact ⟨first, rest, rfl⟩
    unfold join
    rw [if_neg (by simp [relative])]
    split <;> simp [isAbsolute, shape]

/-- A dot is no segment of a path. -/
theorem segments_eq_filter (path : String) :
    segments path = (names path).filter (· != ".") := by
  simp [segments, names, List.filter_filter, Bool.and_comm]

/-- The segments of a joined path end with the name of the file. -/
theorem segments_join (file : IsFileName name) :
    segments (join directory name) = (names directory).filter (· != ".") ++ [name] := by
  have parts : names (join directory name) = names directory ++ [name] :=
    (names_split_join directory file).1
  rw [segments_eq_filter, parts, List.filter_append]
  simp [file.notHere]

/-- A joined path has the name of its file. -/
theorem fileName?_join (file : IsFileName name) : fileName? (join directory name) = some name := by
  have last : (segments (join directory name)).getLast? = some name := by
    rw [segments_join file, List.getLast?_concat]
  rw [fileName?, last]
  split
  case h_1 up => exact absurd (Option.some.inj up) file.notUp
  case h_2 => rfl

/-- The name of a file is the last segment of its path, and leads nowhere up. -/
theorem getLast?_segments {path : String} (named : fileName? path = some name) :
    (segments path).getLast? = some name ∧ name ≠ ".." := by
  unfold fileName? at named
  split at named
  case h_1 => cases named
  case h_2 other =>
    refine ⟨named, ?_⟩
    rintro rfl
    exact other named

/-- No part of a text that is split holds the separator. -/
theorem not_mem_of_mem_splitOn {separator : Char} {characters part : List Char}
    (member : part ∈ characters.splitOn separator) : separator ∉ part := by
  induction characters generalizing part with
  | nil =>
      rw [List.splitOn_nil, List.mem_singleton] at member
      subst member
      exact List.not_mem_nil
  | cons first rest ih =>
      rw [List.splitOn_cons_eq_if_modifyHead] at member
      obtain ⟨head, tail, shape⟩ := List.exists_cons_of_ne_nil (List.splitOn_ne_nil separator rest)
      rw [shape] at member ih
      split at member
      case isTrue =>
        rcases List.mem_cons.1 member with rfl | member
        · exact List.not_mem_nil
        · exact ih member
      case isFalse different =>
        rcases List.mem_cons.1 member with rfl | member
        · have first : first ≠ separator := by simpa using different
          exact fun inside => (List.mem_cons.1 inside).elim (fun same => first same.symm)
            (ih (List.mem_cons_self ..))
        · exact ih (List.mem_cons_of_mem _ member)

/-- The names on the way to a directory hold no slash and are not empty. -/
theorem plain_of_mem_names (member : name ∈ names directory) :
    '/' ∉ name.toList ∧ name ≠ "" := by
  obtain ⟨inside, notEmpty⟩ := List.mem_filter.1 member
  obtain ⟨characters, part, rfl⟩ := List.mem_map.1 inside
  rw [String.toList_ofList]
  exact ⟨not_mem_of_mem_splitOn part, by simpa using notEmpty⟩

/-- A segment is a plain name. -/
theorem plain_of_mem_segments {path : String} (member : name ∈ segments path) :
    '/' ∉ name.toList ∧ name ≠ "" := by
  rw [segments_eq_filter] at member
  exact plain_of_mem_names (List.mem_filter.1 member).1

/-- The names of a path are those that it was made of. -/
theorem split_intercalate {parts : List String} (made : parts ≠ [])
    (plain : ∀ part ∈ parts, '/' ∉ part.toList) :
    Text.split '/' ("/".intercalate parts) = parts := by
  have separate : ∀ part ∈ parts.map String.toList, '/' ∉ part := by
    intro part member
    obtain ⟨text, inside, rfl⟩ := List.mem_map.1 member
    exact plain text inside
  rw [Text.split, String.toList_intercalate]
  change (([ '/' ].intercalate (parts.map String.toList)).splitOn '/').map String.ofList = parts
  rw [List.splitOn_intercalate '/' separate (by simpa using made), List.map_map]
  simp [Function.comp_def]

/-- A path that is put together from plain names has these names. -/
theorem names_along {path : String} {parts : List String}
    (plain : ∀ part ∈ parts, '/' ∉ part.toList ∧ part ≠ "") :
    names (along path parts) = parts := by
  have kept : parts.filter (· != "") = parts :=
    List.filter_eq_self.2 fun part member => by simpa using (plain part member).2
  have relative : names ("/".intercalate parts) = parts := by
    by_cases made : parts = []
    · subst made
      decide
    · rw [names, split_intercalate made fun part member => (plain part member).1, kept]
  rw [along]
  split
  case isFalse => simpa using relative
  case isTrue =>
    have cut : Text.split '/' ("/" ++ "/".intercalate parts) =
        "" :: Text.split '/' ("/".intercalate parts) := by
      have front := List.splitOn_append_cons_self (a := '/') [] ("/".intercalate parts).toList
      simp only [List.nil_append, List.splitOn_nil, List.singleton_append] at front
      rw [Text.split, Text.split, String.toList_append]
      change (('/' :: ("/".intercalate parts).toList).splitOn '/').map String.ofList = _
      rw [front]
      rfl
    rw [names, cut, List.filter_cons_of_neg (by simp)]
    exact relative

/-- A path that is put together starts where the path it follows does. -/
theorem isAbsolute_along {path : String} {parts : List String}
    (plain : ∀ part ∈ parts, '/' ∉ part.toList ∧ part ≠ "") :
    isAbsolute (along path parts) = isAbsolute path := by
  rw [along]
  split
  case isTrue absolute =>
    rw [absolute, isAbsolute, String.toList_append]
    rfl
  case isFalse relative =>
    rw [Bool.eq_false_iff.2 relative, String.empty_append]
    cases parts with
    | nil => rfl
    | cons first rest =>
        have start := plain first (List.mem_cons_self ..)
        have notAbsolute := isAbsolute_of_plain start.1
        obtain ⟨character, others, shape⟩ : ∃ character others,
            first.toList = character :: others := by
          cases shape : first.toList with
          | nil => exact absurd (String.toList_eq_nil_iff.1 shape) start.2
          | cons character others => exact ⟨character, others, rfl⟩
        cases rest with
        | nil => simpa using notAbsolute
        | cons second others =>
            rw [String.intercalate_cons_cons]
            simpa [isAbsolute, shape] using notAbsolute

end Path

namespace Files

variable {files : Files} {directory name : String}

/-- Where a directory stands. -/
def place (files : Files) (directory : String) : Location :=
  follow (files.start directory) (Path.names directory)

/-- Paths of one kind start at one place. -/
theorem start_congr {first second : String}
    (same : Path.isAbsolute first = Path.isAbsolute second) :
    files.start first = files.start second := by
  rw [start, start, same]

/-- A joined path leads to a place in the place of its directory. -/
theorem destination_join (file : Path.IsFileName name) :
    files.destination (Path.join directory name) = files.place directory ++ [name] := by
  rw [destination, Path.steps_join file, follow_append, follow_name file.notHere file.notUp,
    start_congr (Path.isAbsolute_join file), place]

/-- The name of a temporary file holds two numbers in decimal digits. -/
theorem toList_temporaryName (process number : Nat) (name : String) :
    (temporaryName process number name).toList = '.' :: name.toList ++ '.' ::
      Nat.toDigits 10 process ++ '.' :: Nat.toDigits 10 number ++ ".tmp".toList := by
  simp [temporaryName]

/-- No digit is a slash. -/
theorem notMem_toDigits (number : Nat) : '/' ∉ Nat.toDigits 10 number := by
  intro member
  have digit : Char.isDigit '/' = true :=
    Nat.isDigit_of_mem_toDigits (by decide) (by decide) member
  exact absurd digit (by decide)

/-- The numbers of a temporary file lead to no other directory. -/
theorem isFileName_temporaryName (process number : Nat) (plain : '/' ∉ name.toList) :
    Path.IsFileName (temporaryName process number name) where
  plain := by simp [toList_temporaryName, plain, notMem_toDigits]
  notEmpty same := by
    have letters := congrArg String.toList same
    simp [toList_temporaryName] at letters
  notHere same := by
    have letters := congrArg String.toList same
    simp [toList_temporaryName] at letters
  notUp same := by
    have letters := congrArg (fun text => text.toList.length) same
    simp only [toList_temporaryName, List.length_append, List.length_cons] at letters
    have more : "..".toList.length < ".tmp".toList.length := by decide
    omega

/-- A temporary file has another name than the file that it replaces. -/
theorem temporaryName_ne (process number : Nat) (name : String) :
    temporaryName process number name ≠ name := by
  intro same
  have letters := congrArg (fun text => text.toList.length) same
  simp only [toList_temporaryName, List.length_append, List.length_cons] at letters
  omega

/-- A temporary file ends with a letter of its own. -/
theorem getLast?_temporaryName (process number : Nat) (name : String) :
    (temporaryName process number name).toList.getLast? = some 'p' := by
  have ending : ".tmp".toList.getLast? = some 'p' := by decide
  rw [toList_temporaryName, List.getLast?_append, ending]
  rfl

/-- A directory is found by following the segments of its path. -/
theorem place_eq_follow (files : Files) (directory : String) :
    files.place directory = follow (files.start directory) (Path.segments directory) := by
  rw [place, Path.segments_eq_filter, follow_filter]

/-- Dots and slashes at the end of a path lead nowhere. -/
theorem destination_eq_place (files : Files) (path : String) :
    files.destination path = files.place path := by
  have kept : (Path.steps path).filter (· != ".") = Path.segments path := by
    rw [Path.segments_eq_filter, Path.steps, List.filter_append]
    split <;> simp [Path.names]
  rw [destination, ← follow_filter, kept, place_eq_follow]

/-- A path that names a file leads to it from the path before. -/
theorem destination_of_fileName? {path : String} (named : Path.fileName? path = some name) :
    files.destination path = files.place (Path.parent path) ++ [name] := by
  obtain ⟨last, notUp⟩ := Path.getLast?_segments named
  obtain ⟨front, shape⟩ := List.getLast?_eq_some_iff.1 last
  have plain : ∀ part ∈ front, '/' ∉ part.toList ∧ part ≠ "" := fun part member =>
    Path.plain_of_mem_segments (shape ▸ List.mem_append_left _ member)
  have notHere : name ≠ "." := by
    have member : name ∈ Path.segments path := by simp [shape]
    rw [Path.segments_eq_filter] at member
    exact bne_iff_ne.1 (List.mem_filter.1 member).2
  have parent : Path.parent path = Path.along path front := by
    rw [Path.parent, shape, List.dropLast_concat]
  rw [destination_eq_place, place_eq_follow, shape, follow_append, follow_name notHere notUp, place,
    parent, Path.names_along plain, start_congr (Path.isAbsolute_along plain)]

/-- A temporary file stands beside the file that it will replace. -/
theorem destination_temporaryPath_of_fileName? {path : String}
    (named : Path.fileName? path = some name) :
    files.destination (files.temporaryPath path) = files.place (Path.parent path) ++
      [temporaryName files.process files.temporaries name] := by
  have member : name ∈ Path.segments path :=
    List.mem_of_getLast? (Path.getLast?_segments named).1
  rw [temporaryPath, Path.withFileName, named, Option.isSome_some, if_pos rfl, Option.getD_some,
    destination_join (isFileName_temporaryName _ _ (Path.plain_of_mem_segments member).1)]

/-- A temporary file stands in the directory of the file that it replaces. -/
theorem destination_temporaryPath (file : Path.IsFileName name) :
    files.destination (files.temporaryPath (Path.join directory name)) =
      files.place directory ++ [temporaryName files.process files.temporaries name] := by
  have named : Path.fileName? (Path.join directory name) = some name := Path.fileName?_join file
  have beside : files.place (Path.parent (Path.join directory name)) = files.place directory :=
    (List.append_left_inj [name]).1
      ((destination_of_fileName? named).symm.trans (destination_join file))
  rw [destination_temporaryPath_of_fileName? named, beside]

/-- Where a path leads, its temporary file does not stand. -/
theorem destination_ne_temporaryPath (files : Files) (path : String) :
    files.destination path ≠ files.destination (files.temporaryPath path) := by
  cases named : Path.fileName? path with
  | none =>
      have below : files.destination (files.temporaryPath path) = files.destination path ++
          [temporaryName files.process files.temporaries ""] := by
        rw [temporaryPath, Path.withFileName, named, Option.isSome_none, if_neg Bool.false_ne_true,
          Option.getD_none, destination_join (isFileName_temporaryName _ _ (by decide)),
          destination_eq_place]
      rw [below]
      simp
  | some name =>
      rw [destination_of_fileName? named, destination_temporaryPath_of_fileName? named]
      simpa using (temporaryName_ne _ _ name).symm

end Files

end BusBridge
