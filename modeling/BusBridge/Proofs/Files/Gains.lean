/-
This file proves which contents the operations on files bring. A replacement brings its own content
and no other one, and the text of a file that is not touched is read as before.
-/

import BusBridge.Proofs.Files.Nested
import BusBridge.Proofs.Files.Replacement

namespace BusBridge.Files

variable {files middle changed : Files} {path text : String} {content : ByteArray}
  {location : Location} {contents more : List ByteArray} {touched : List Location}

/-- Whatever a file holds, it held before, or it is one of the contents. -/
structure Gains (contents : List ByteArray) (files changed : Files) : Prop where
  workingDirectory : changed.workingDirectory = files.workingDirectory
  held : ∀ location bytes, changed.content? location = some bytes →
    files.content? location = some bytes ∨ bytes ∈ contents

namespace Gains

/-- Nothing is gained by doing nothing. -/
theorem refl (files : Files) : Gains contents files files :=
  ⟨rfl, fun _ _ held => .inl held⟩

/-- Gains of some contents are gains of more contents. -/
theorem mono (gains : Gains contents files changed) (within : contents ⊆ more) :
    Gains more files changed :=
  ⟨gains.workingDirectory, fun location bytes held =>
    (gains.held location bytes held).imp_right (within ·)⟩

/-- Gains may follow one another. -/
theorem trans (first : Gains contents files middle) (second : Gains contents middle changed) :
    Gains contents files changed where
  workingDirectory := second.workingDirectory.trans first.workingDirectory
  held location bytes held := by
    rcases second.held location bytes held with before | new
    · exact first.held location bytes before
    · exact .inr new

/-- Paths lead to the same places after a gain. -/
theorem destination_eq (gains : Gains contents files changed) (path : String) :
    changed.destination path = files.destination path := by
  simp only [destination, start, gains.workingDirectory]

end Gains

/-- New directories bring no content. -/
theorem Changes.gains (change : Changes [] files changed) : Gains contents files changed where
  workingDirectory := change.workingDirectory
  held location bytes held := by
    rw [change.contents location nofun] at held
    exact .inl held

/-- An erased place gains nothing. -/
theorem gains_erase (inside : location ≠ []) : Gains contents files (files.erase location) where
  workingDirectory := rfl
  held other bytes held := by
    by_cases same : other = location
    · rw [same, content?_erase inside] at held
      cases held
    · rw [content?_congr ((find?_erase inside).trans (if_neg same))] at held
      exact .inl held

/-- An entry brings the content that it holds, if it is a file. -/
theorem gains_put {entry : FileEntry} (inside : location ≠ [])
    (own : ∀ bytes, entry = .file bytes → bytes ∈ contents) :
    Gains contents files (files.put location entry) where
  workingDirectory := rfl
  held other bytes held := by
    by_cases same : other = location
    · rw [content?_eq_some_iff, find?_put inside, if_pos same] at held
      exact .inr (own bytes (Option.some.inj held))
    · rw [content?_congr ((find?_put inside).trans (if_neg same))] at held
      exact .inl held

/-- A replacement brings no other content than its own, whether or not it succeeds. -/
theorem gains_replace (files : Files) (path : String) (content : ByteArray) :
    Gains [content] files (files.replace path content none).2 := by
  have own : ∀ bytes, FileEntry.file content = .file bytes → bytes ∈ [content] := by
    rintro _ ⟨⟩
    exact List.mem_singleton_self content
  have gone (opened : files.OpensTemporary path none) :
      Gains [content] files (files.withoutTemporary path content) :=
    ((changes_countTemporary files).gains.trans (gains_put opened.accepts.inside own)).trans
      (gains_erase opened.accepts.inside)
  generalize outcome : files.replace path content none = pair
  have effect := replace_effect files path content none
  rw [outcome] at effect
  obtain ⟨result, changed⟩ := pair
  cases effect with
  | unopened failure closed => exact (changes_countTemporary files).gains
  | cut written opened partly => cases partly
  | undone failure opened wholly => exact gone opened
  | renamed opened wholly located free =>
      exact (gone opened).trans (gains_put (ne_nil_of_not_directory free) own)

/-- A text is read when its path leads to its bytes. -/
theorem readText_eq_ok_iff :
    files.readText path = .ok text ↔ (∃ location, files.locate path = .ok location) ∧
      ∃ bytes, files.content? (files.destination path) = some bytes ∧
        String.fromUTF8? bytes = some text := by
  simp only [readText, bind_eq_ok_iff, read_eq_ok_iff, and_assoc, exists_and_left]
  refine and_congr_right fun _ => exists_congr fun bytes => and_congr_right fun _ => ?_
  split
  case h_1 valid => simp [valid, pure, Except.pure]
  case h_2 invalid => simp [invalid, throw, throwThe, MonadExceptOf.throw]

/-- A text is read again when its file was not touched, or holds it again. -/
theorem Changes.readText (change : Changes touched files changed)
    (read : files.readText path = .ok text)
    (kept : files.destination path ∈ touched →
      changed.content? (files.destination path) = some text.toUTF8) :
    changed.readText path = .ok text := by
  obtain ⟨⟨location, located⟩, bytes, held, decoded⟩ := readText_eq_ok_iff.1 read
  refine readText_eq_ok_iff.2 ⟨⟨location, change.locate located⟩, ?_⟩
  rw [change.destination_eq]
  by_cases member : files.destination path ∈ touched
  · exact ⟨_, kept member, Text.fromUTF8?_toUTF8 text⟩
  · exact ⟨bytes, (change.contents _ member).trans held, decoded⟩

/-- A replacement leaves the texts of other files, and a text that it writes again. -/
theorem readText_replace {other : String} (read : files.readText path = .ok text)
    (beside : files.destination path ≠ files.destination (files.temporaryPath other))
    (own : files.destination path = files.destination other → content = text.toUTF8)
    (fault : Option ReplaceFault) :
    (files.replace other content fault).2.readText path = .ok text := by
  generalize replaced : files.replace other content fault = pair
  obtain ⟨result, changed⟩ := pair
  obtain ⟨whole, broken⟩ := changes_replace replaced
  by_cases done : result = .ok ()
  case pos =>
    obtain ⟨change, put, -⟩ := whole done
    refine change.readText read fun member => ?_
    rcases List.mem_cons.1 member with same | last
    · exact absurd same beside
    · have same := List.mem_singleton.1 last
      rw [same, put, own same]
  case neg =>
    exact (broken done).readText read fun member => absurd (List.mem_singleton.1 member) beside

/-- A text that took the place of another one is read there. -/
theorem readText_of_replace_ok {fault : Option ReplaceFault}
    (replaced : files.replace path text.toUTF8 fault = (.ok (), changed)) :
    changed.readText path = .ok text := by
  obtain ⟨whole, -⟩ := changes_replace replaced
  obtain ⟨change, put, located⟩ := whole rfl
  exact readText_eq_ok_iff.2 ⟨located, _, by rw [change.destination_eq]; exact put,
    Text.fromUTF8?_toUTF8 text⟩

/-- New directories leave what could be read. -/
theorem readText_createDirectories (read : files.readText path = .ok text) (directory : String) :
    (files.createDirectories directory).2.readText path = .ok text :=
  (changes_createDirectories files directory).readText read nofun

end BusBridge.Files
