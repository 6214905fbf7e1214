/-
This file proves where the path of a nested directory or of a file in it leads, which is below the
directory that it starts from, and that the directories on the way to what can be reached can be
reached themselves.
-/

import Mathlib.Data.List.Induction
import Mathlib.Data.List.Nodup
import Mathlib.Data.List.Perm.Subperm
import BusBridge.Proofs.Files.Operations
import BusBridge.Proofs.NameMap
import BusBridge.Proofs.Text.Basic

namespace BusBridge

namespace Path

variable {directory name : String} {inner : List String}

/-- The path that leads from a directory through some names. -/
def descend (directory : String) (inner : List String) : String :=
  inner.foldl join directory

@[simp] theorem descend_nil (directory : String) : descend directory [] = directory := rfl

/-- One name is joined to the directory. -/
theorem descend_singleton (directory name : String) :
    descend directory [name] = join directory name := rfl

/-- The last name is joined to the directory that the others lead to. -/
theorem descend_concat (directory : String) (inner : List String) (name : String) :
    descend directory (inner ++ [name]) = join (descend directory inner) name := by
  rw [descend, List.foldl_append]
  rfl

/-- The names of a nested path are those of its directory and the inner ones. -/
theorem names_descend (plain : ∀ name ∈ inner, IsFileName name) :
    names (descend directory inner) = names directory ++ inner := by
  induction inner using List.reverseRecOn with
  | nil => simp
  | append_singleton front name ih =>
      rw [List.forall_mem_append, List.forall_mem_singleton] at plain
      have last : names (join (descend directory front) name) =
          names (descend directory front) ++ [name] := (names_split_join _ plain.2).1
      rw [descend_concat, last, ih plain.1, List.append_assoc]

/-- The segments of a nested path are those of its directory and the inner ones. -/
theorem segments_descend (plain : ∀ name ∈ inner, IsFileName name) :
    segments (descend directory inner) = segments directory ++ inner := by
  have kept : inner.filter (· != ".") = inner :=
    List.filter_eq_self.2 fun name member => bne_iff_ne.2 (plain name member).notHere
  rw [segments_eq_filter, names_descend plain, List.filter_append, kept, ← segments_eq_filter]

/-- A nested path is absolute when its directory is. -/
theorem isAbsolute_descend (plain : ∀ name ∈ inner, IsFileName name) :
    isAbsolute (descend directory inner) = isAbsolute directory := by
  induction inner using List.reverseRecOn with
  | nil => rfl
  | append_singleton front name ih =>
      rw [List.forall_mem_append, List.forall_mem_singleton] at plain
      rw [descend_concat, isAbsolute_join plain.2, ih plain.1]

/-- A path that ends in a name has no step after it. -/
theorem steps_descend (inside : inner ≠ []) (plain : ∀ name ∈ inner, IsFileName name) :
    steps (descend directory inner) = names directory ++ inner := by
  obtain ⟨front, name, rfl⟩ : ∃ front name, inner = front ++ [name] :=
    ⟨_, _, (List.dropLast_concat_getLast inside).symm⟩
  rw [List.forall_mem_append, List.forall_mem_singleton] at plain
  rw [descend_concat, steps_join plain.2, names_descend plain.1, List.append_assoc]

/-- A nested path is not empty. -/
theorem descend_ne_empty (inside : inner ≠ []) (plain : ∀ name ∈ inner, IsFileName name) :
    descend directory inner ≠ "" := by
  intro empty
  have nameless : names "" = [] := by decide
  have through : names (descend directory inner) = names directory ++ inner := names_descend plain
  rw [empty, nameless] at through
  exact inside (List.append_eq_nil_iff.1 through.symm).2

/-- A path grows while it descends. -/
theorem prefix_descend (front : List String) {back : List String}
    (plain : ∀ name ∈ back, IsFileName name) :
    (descend directory front).toList <+: (descend directory (front ++ back)).toList := by
  induction back using List.reverseRecOn with
  | nil => simp
  | append_singleton others name ih =>
      rw [List.forall_mem_append, List.forall_mem_singleton] at plain
      rw [← List.append_assoc, descend_concat]
      refine (ih plain.1).trans ?_
      rw [join, isAbsolute_of_plain plain.2.plain, if_neg Bool.false_ne_true]
      split <;> simp

end Path

namespace Files

open BusBridge.Path (descend IsFileName)

variable {files : Files} {directory path : String} {location found : Location}
  {inner front back : List String} {entry : FileEntry}

/-- A path is usable unless it is empty, too long or holds a zero character. -/
theorem pathFailure?_eq_none_iff :
    pathFailure? path = none ↔
      '\x00' ∉ path.toList ∧ path.utf8ByteSize ≤ maximalPathLength ∧ path ≠ "" := by
  unfold pathFailure?
  split
  case isTrue zero => simp_all
  case isFalse nonzero =>
    rw [List.contains_iff_mem] at nonzero
    split
    case isTrue long => simp [Nat.not_le.2 long]
    case isFalse short => simp [nonzero, Nat.not_lt.1 short]

/-- What fails for a path, fails for what goes on after it. -/
theorem pathFailure?_of_prefix {longer : String} (begins : path.toList <+: longer.toList)
    (given : path ≠ "") (fine : pathFailure? longer = none) : pathFailure? path = none := by
  rw [pathFailure?_eq_none_iff] at fine ⊢
  obtain ⟨rest, whole⟩ := begins
  have longer_eq : longer = path ++ String.ofList rest := by
    rw [← String.toList_inj, String.toList_append, String.toList_ofList, whole]
  have sizes : longer.utf8ByteSize = path.utf8ByteSize + (String.ofList rest).utf8ByteSize := by
    rw [longer_eq, String.utf8ByteSize_append]
  refine ⟨fun zero => fine.1 ?_, by omega, given⟩
  rw [← whole]
  exact List.mem_append_left _ zero

/-- A walk can be made in two parts. -/
theorem walk_append_eq_ok_iff {names rest : List String} :
    files.walk location (names ++ rest) = .ok found ↔
      ∃ middle, files.walk location names = .ok middle ∧ files.walk middle rest = .ok found := by
  induction names generalizing location with
  | nil => simp [walk]
  | cons name others ih =>
      rw [List.cons_append, walk_cons_eq_ok_iff]
      simp only [walk_cons_eq_ok_iff, ih]
      tauto

/-- File names are followed one below the other. -/
theorem follow_fileNames (plain : ∀ name ∈ inner, IsFileName name) :
    follow location inner = location ++ inner := by
  induction inner using List.reverseRecOn with
  | nil => simp [follow]
  | append_singleton front name ih =>
      rw [List.forall_mem_append, List.forall_mem_singleton] at plain
      rw [follow_append, ih plain.1, follow_name plain.2.notHere plain.2.notUp, List.append_assoc]

/-- A nested path is located by a walk from the start of its directory. -/
theorem locate_descend_eq_ok_iff (inside : inner ≠ []) (plain : ∀ name ∈ inner, IsFileName name) :
    files.locate (descend directory inner) = .ok location ↔
      pathFailure? (descend directory inner) = none ∧
        files.walk (files.start directory) (Path.names directory ++ inner) = .ok location := by
  rw [locate_eq_ok_iff, Path.steps_descend inside plain,
    start_congr (Path.isAbsolute_descend plain)]

/-- The place of a nested path lies below the place of its directory. -/
theorem place_descend (plain : ∀ name ∈ inner, IsFileName name) :
    files.place (descend directory inner) = files.place directory ++ inner := by
  rw [place, Path.names_descend plain, follow_append, follow_fileNames plain,
    start_congr (Path.isAbsolute_descend plain), place]

/-- The destination of a nested path lies below the place of its directory. -/
theorem destination_descend (inside : inner ≠ []) (plain : ∀ name ∈ inner, IsFileName name) :
    files.destination (descend directory inner) = files.place directory ++ inner := by
  rw [destination, Path.steps_descend inside plain, follow_append, follow_fileNames plain,
    start_congr (Path.isAbsolute_descend plain), place]

/-- Names that are no dots lead down, one level each. -/
theorem locate_descend (inside : inner ≠ []) (plain : ∀ name ∈ inner, IsFileName name)
    (located : files.locate (descend directory inner) = .ok location) :
    location = files.place directory ++ inner := by
  rw [walk_eq_ok ((locate_descend_eq_ok_iff inside plain).1 located).2, follow_append,
    follow_fileNames plain, place]

/-- On the way to what can be reached are directories that can be reached. -/
theorem directory_of_locate_descend (inside : front ≠ []) (further : back ≠ [])
    (plain : ∀ name ∈ front ++ back, IsFileName name)
    (located : files.locate (descend directory (front ++ back)) = .ok location) :
    files.locate (descend directory front) = .ok (files.place directory ++ front) ∧
      files.find? (files.place directory ++ front) = some .directory := by
  have plainFront : ∀ name ∈ front, IsFileName name := fun name member =>
    plain name (List.mem_append_left _ member)
  have plainBack : ∀ name ∈ back, IsFileName name := fun name member =>
    plain name (List.mem_append_right _ member)
  have whole : front ++ back ≠ [] := List.append_ne_nil_of_left_ne_nil inside back
  obtain ⟨fine, walked⟩ := (locate_descend_eq_ok_iff whole plain).1 located
  rw [← List.append_assoc, walk_append_eq_ok_iff] at walked
  obtain ⟨middle, reached, onward⟩ := walked
  have fineFront : pathFailure? (descend directory front) = none :=
    pathFailure?_of_prefix (Path.prefix_descend front plainBack)
      (Path.descend_ne_empty inside plainFront) fine
  have locatedFront : files.locate (descend directory front) = .ok middle :=
    (locate_descend_eq_ok_iff inside plainFront).2 ⟨fineFront, reached⟩
  obtain rfl := locate_descend inside plainFront locatedFront
  refine ⟨locatedFront, ?_⟩
  obtain ⟨next, rest, rfl⟩ := List.exists_cons_of_ne_nil further
  exact (walk_cons_eq_ok_iff.1 onward).1

/-- A path names a directory exactly when it is located at one. -/
theorem isDirectory_eq_true_iff :
    files.isDirectory path = true ↔
      ∃ location, files.locate path = .ok location ∧ files.find? location = some .directory := by
  rw [← entryAt_eq_ok_iff, isDirectory]
  split
  case h_1 entered => simp [entered]
  case h_2 other => exact iff_of_false Bool.false_ne_true other

/-- A text is read from a file only. -/
theorem readText_eq_ok {text : String} (read : files.readText path = .ok text) :
    ∃ location content, files.locate path = .ok location ∧
      files.find? location = some (.file content) := by
  obtain ⟨content, got, -⟩ := bind_eq_ok_iff.1 read
  obtain ⟨⟨location, located⟩, held⟩ := read_eq_ok_iff.1 got
  rw [← locate_eq_ok located, content?_eq_some_iff] at held
  exact ⟨location, content, located, held⟩

/-- A file that holds a text is read as this text. -/
theorem readText_eq_ok_of_file {text : String} (located : files.locate path = .ok location)
    (found : files.find? location = some (.file text.toUTF8)) : files.readText path = .ok text := by
  have entered : files.entryAt path = .ok (.file text.toUTF8) :=
    entryAt_eq_ok_iff.2 ⟨location, located, found⟩
  rw [readText, read, entered]
  simp only [bind, Except.bind, pure, Except.pure, Text.fromUTF8?_toUTF8]

/-- A directory lists its children. -/
theorem list_eq_ok (located : files.locate path = .ok location)
    (directory : files.find? location = some .directory) :
    files.list path = .ok (files.children location) := by
  rw [list, located]
  simp only [bind, Except.bind, directory]
  rfl

/-- The children of a place are the entries one level below it. -/
theorem mem_children_iff {name : String} :
    (name, entry) ∈ files.children location ↔ (location ++ [name], entry) ∈ files.entries := by
  rw [children, List.mem_filterMap]
  constructor
  · rintro ⟨⟨other, held⟩, member, listed⟩
    cases ends : other.getLast? with
    | none => simp [ends] at listed
    | some last =>
        simp only [ends, Option.ite_none_right_eq_some, Option.some.injEq, Prod.mk.injEq] at listed
        obtain ⟨here, rfl, rfl⟩ := listed
        exact here ▸ member
  · intro member
    exact ⟨_, member, by simp⟩

/-- What stands at a location below the root is an entry. -/
theorem mem_entries_of_find? (inside : location ≠ [])
    (found : files.find? location = some entry) : (location, entry) ∈ files.entries := by
  rw [find?, if_neg inside] at found
  exact NameMap.mem_of_lookup found

/-- The locations that some names lead to, one after the other. -/
def along (location : Location) (names : List String) : List Location :=
  (List.range names.length).map fun depth => location ++ names.take (depth + 1)

/-- A walk passes no place twice. -/
theorem nodup_along (location : Location) (names : List String) : (along location names).Nodup := by
  refine List.Nodup.map_on (fun first inFirst second inSecond same => ?_) List.nodup_range
  rw [List.mem_range] at inFirst inSecond
  have lengths := congrArg List.length same
  simp only [List.length_append, List.length_take] at lengths
  omega

/-- Names that lead from one entry to the next are no more than there are entries. -/
theorem length_le_length_entries {names : List String}
    (present : ∀ front ≠ [], front <+: names →
      ∃ entry, files.find? (location ++ front) = some entry) :
    names.length ≤ files.entries.length := by
  have listed : along location names ⊆ files.entries.map Prod.fst := by
    intro other member
    obtain ⟨depth, within, rfl⟩ := List.mem_map.1 member
    have some : names.take (depth + 1) ≠ [] := by
      have more : names ≠ [] := List.length_pos_iff.1 (Nat.zero_lt_of_lt (List.mem_range.1 within))
      simp [more]
    obtain ⟨entry, found⟩ := present _ some (List.take_prefix _ _)
    exact List.mem_map.2 ⟨_, mem_entries_of_find? (by simp [some]) found, rfl⟩
  simpa [along] using (List.subperm_of_subset (nodup_along location names) listed).length_le

end Files

/-- The path goes down from a directory through some names, and leads to the place below it. -/
structure Path.IsBelow (directory : String) (inner : List String) (path : String) : Prop where
  start : Path.isAbsolute path = Path.isAbsolute directory
  segments : Path.segments path = Path.segments directory ++ inner
  inside : inner ≠ []
  plain : ∀ name ∈ inner, Path.IsFileName name
  destination : ∀ files : Files, files.destination path = files.place directory ++ inner

namespace Path.IsBelow

variable {directory other path second : String} {inner front back : List String}

/-- The path that the inner names lead to is below the directory. -/
theorem descend (inside : inner ≠ []) (plain : ∀ name ∈ inner, IsFileName name) :
    IsBelow directory inner (Path.descend directory inner) :=
  ⟨isAbsolute_descend plain, segments_descend plain, inside, plain,
    fun _ => Files.destination_descend inside plain⟩

/-- Paths with the same segments are below a directory by the same names. -/
theorem inner_eq (below : IsBelow directory front path)
    (secondBelow : IsBelow directory back second)
    (same : Path.segments path = Path.segments second) : front = back := by
  rw [below.segments, secondBelow.segments] at same
  exact List.append_cancel_left same

/-- The last segment of a path below a directory is its last inner name. -/
theorem getLast?_segments (below : IsBelow directory front path) :
    (Path.segments path).getLast? = front.getLast? := by
  rw [below.segments, List.getLast?_append_of_ne_nil _ below.inside]

/-- Below different directories only the last names on the way to a path agree for sure. -/
theorem getLast?_eq (below : IsBelow directory front path) (secondBelow : IsBelow other back second)
    (same : Path.segments path = Path.segments second) : front.getLast? = back.getLast? := by
  rw [← below.getLast?_segments, same, secondBelow.getLast?_segments]

end Path.IsBelow

end BusBridge
