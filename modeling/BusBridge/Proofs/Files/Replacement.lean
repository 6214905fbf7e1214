/-
This file proves how a replacement ends: the whole content is in place, or every place holds what
it held before, except for a temporary file whose writing was cut off.
-/

import BusBridge.Proofs.Files.Operations

namespace BusBridge.Files

variable {files changed : Files} {path : String} {content : ByteArray} {other : Location}
  {fault : Option ReplaceFault} {result : Except FileFailure Unit}

/-- The tree in which the temporary file of a replacement holds some content. -/
def withTemporary (files : Files) (path : String) (bytes : ByteArray) : Files :=
  files.countTemporary.put (files.destination (files.temporaryPath path)) (.file bytes)

/-- The tree from which the temporary file has gone again. -/
def withoutTemporary (files : Files) (path : String) (bytes : ByteArray) : Files :=
  (files.withTemporary path bytes).erase (files.destination (files.temporaryPath path))

/-- The temporary file of a call is created, whether or not it is written whole. -/
structure OpensTemporary (files : Files) (path : String) (fault : Option ReplaceFault) : Prop where
  started : fault ≠ some .beforeWriting
  accepts : files.Accepts (files.temporaryPath path)

/-- How a replacement can end, with what it leaves of the tree. -/
inductive ReplaceEffect (files : Files) (path : String) (content : ByteArray)
    (fault : Option ReplaceFault) : Except FileFailure Unit → Files → Prop
  | unopened (failure : FileFailure) (closed : ¬files.OpensTemporary path fault) :
      ReplaceEffect files path content fault (.error failure) files.countTemporary
  | cut (written : ByteArray) (opened : files.OpensTemporary path fault)
      (partly : fault = some (.whileWriting written)) :
      ReplaceEffect files path content fault (.error .writeFailed)
        (files.withTemporary path written)
  | undone (failure : FileFailure) (opened : files.OpensTemporary path fault)
      (wholly : ∀ written, fault ≠ some (.whileWriting written)) :
      ReplaceEffect files path content fault (.error failure)
        (files.withoutTemporary path content)
  | renamed (opened : files.OpensTemporary path fault)
      (wholly : ∀ written, fault ≠ some (.whileWriting written))
      (located : ∃ location, (files.withTemporary path content).locate path = .ok location)
      (free : files.find? (files.destination path) ≠ some .directory) :
      ReplaceEffect files path content fault (.ok ())
        ((files.withoutTemporary path content).put (files.destination path) (.file content))

/-- A number that is taken changes nothing in the tree. -/
theorem changes_countTemporary (files : Files) : Changes [] files files.countTemporary :=
  ⟨rfl, fun _ directory => directory, fun _ _ => rfl⟩

/-- A number that is taken keeps what can be written. -/
theorem Accepts.countTemporary {other : String} (accepts : files.Accepts other) :
    files.countTemporary.Accepts other :=
  ⟨⟨_, (changes_countTemporary files).locate accepts.locate⟩, accepts.free⟩

/-- A number that is taken makes nothing writable. -/
theorem Accepts.of_countTemporary {other : String} (accepts : files.countTemporary.Accepts other) :
    files.Accepts other := by
  have back : Changes [] files.countTemporary files :=
    ⟨rfl, fun _ directory => directory, fun _ _ => rfl⟩
  exact ⟨⟨_, back.locate accepts.locate⟩, accepts.free⟩

/-- The temporary file changes its own place alone. -/
theorem changes_withTemporary (accepts : files.Accepts (files.temporaryPath path))
    (bytes : ByteArray) :
    Changes [files.destination (files.temporaryPath path)] files (files.withTemporary path bytes) :=
  ((changes_countTemporary files).mono (List.nil_subset _)).trans (changes_put_file accepts.free)

/-- The temporary file is there, and the rest is as it was. -/
theorem find?_withTemporary (accepts : files.Accepts (files.temporaryPath path))
    (bytes : ByteArray) :
    (files.withTemporary path bytes).find? other =
      if other = files.destination (files.temporaryPath path) then some (.file bytes)
      else files.find? other :=
  find?_put accepts.inside

/-- The removal of the temporary file changes its own place alone. -/
theorem changes_withoutTemporary (accepts : files.Accepts (files.temporaryPath path))
    (bytes : ByteArray) :
    Changes [files.destination (files.temporaryPath path)] (files.withTemporary path bytes)
      (files.withoutTemporary path bytes) := by
  apply changes_erase
  rw [find?_withTemporary accepts, if_pos rfl]
  exact nofun

/-- The temporary file is gone, and the rest is as it was. -/
theorem find?_withoutTemporary (accepts : files.Accepts (files.temporaryPath path))
    (bytes : ByteArray) :
    (files.withoutTemporary path bytes).find? other =
      if other = files.destination (files.temporaryPath path) then none else files.find? other := by
  rw [withoutTemporary, find?_erase accepts.inside]
  split
  case isTrue => rfl
  case isFalse beside => rw [find?_withTemporary accepts, if_neg beside]

/-- A temporary file that is accepted is written. -/
theorem write_temporary (accepts : files.Accepts (files.temporaryPath path)) (bytes : ByteArray) :
    files.countTemporary.write (files.temporaryPath path) bytes =
      .ok (files.withTemporary path bytes) :=
  write_eq_ok_iff.2 ⟨accepts.countTemporary, rfl⟩

/-- A temporary file that was written can be removed. -/
theorem remove_temporary (accepts : files.Accepts (files.temporaryPath path)) (bytes : ByteArray) :
    (files.withTemporary path bytes).remove (files.temporaryPath path) =
      .ok (files.withoutTemporary path bytes) := by
  apply remove_of_file ((changes_withTemporary accepts bytes).locate accepts.locate)
  rw [find?_withTemporary accepts, if_pos rfl]

/-- Renaming puts the content of the temporary file in place. -/
theorem effect_of_rename (opened : files.OpensTemporary path fault)
    (wholly : ∀ written, fault ≠ some (.whileWriting written))
    (renamed :
      (files.withTemporary path content).rename (files.temporaryPath path) path = .ok changed) :
    ReplaceEffect files path content fault (.ok ()) changed := by
  have change := changes_withTemporary opened.accepts content
  obtain ⟨⟨located, free⟩, entry, found, rfl⟩ := rename_eq_ok renamed
  rw [change.destination_eq] at free found ⊢
  rw [change.destination_eq]
  rw [find?_withTemporary opened.accepts, if_neg (destination_ne_temporaryPath files path)] at free
  rw [find?_withTemporary opened.accepts, if_pos rfl] at found
  cases found
  exact .renamed opened wholly located free

/-- Without a temporary file nothing is changed. -/
theorem writeTemporary_of_closed (closed : ¬files.OpensTemporary path fault)
    (content : ByteArray) :
    ∃ failure, files.countTemporary.writeTemporary (files.temporaryPath path) content fault =
      (.error failure, files.countTemporary) := by
  have refused (bytes : ByteArray) (started : fault ≠ some .beforeWriting) :
      ∃ failure, files.countTemporary.write (files.temporaryPath path) bytes = .error failure := by
    cases written : files.countTemporary.write (files.temporaryPath path) bytes with
    | error failure => exact ⟨failure, rfl⟩
    | ok stored =>
        have accepts := (write_eq_ok_iff.1 written).1.of_countTemporary
        exact absurd ⟨started, accepts⟩ closed
  unfold writeTemporary
  split
  case h_1 => exact ⟨_, rfl⟩
  case h_2 written =>
    obtain ⟨failure, failed⟩ := refused written nofun
    exact ⟨failure, by rw [failed]⟩
  case h_3 started _ =>
    obtain ⟨failure, failed⟩ := refused content started
    exact ⟨failure, by rw [failed]⟩

/-- A temporary file is written whole unless its writing is cut off. -/
theorem writeTemporary_of_wholly (opened : files.OpensTemporary path fault)
    (wholly : ∀ written, fault ≠ some (.whileWriting written)) (content : ByteArray) :
    files.countTemporary.writeTemporary (files.temporaryPath path) content fault =
      (.ok (), files.withTemporary path content) := by
  unfold writeTemporary
  split
  case h_1 => exact absurd rfl opened.started
  case h_2 written => exact absurd rfl (wholly written)
  case h_3 => rw [write_temporary opened.accepts]

/-- Every replacement ends in one of these ways. -/
theorem replace_effect (files : Files) (path : String) (content : ByteArray)
    (fault : Option ReplaceFault) :
    ReplaceEffect files path content fault (files.replace path content fault).1
      (files.replace path content fault).2 := by
  by_cases opened : files.OpensTemporary path fault
  case neg =>
    obtain ⟨failure, failed⟩ := writeTemporary_of_closed opened content
    simp only [replace, failed]
    exact .unopened failure opened
  case pos =>
    by_cases partly : ∃ written, fault = some (.whileWriting written)
    case pos =>
      obtain ⟨written, rfl⟩ := partly
      simp only [replace, writeTemporary, write_temporary opened.accepts]
      exact .cut written opened rfl
    case neg =>
      have wholly : ∀ written, fault ≠ some (.whileWriting written) := not_exists.1 partly
      simp only [replace, writeTemporary_of_wholly opened wholly]
      split
      case h_1 changed renamed =>
        unfold renameTemporary at renamed
        split at renamed
        case isTrue => cases renamed
        case isFalse => exact effect_of_rename opened wholly renamed
      case h_2 failure failed =>
        rw [remove_temporary opened.accepts]
        exact .undone failure opened wholly

/-- Nothing but the temporary file is touched by a replacement that fails. -/
theorem ReplaceEffect.find?_of_error
    (effect : ReplaceEffect files path content fault result changed)
    (failed : result ≠ .ok ()) (beside : other ≠ files.destination (files.temporaryPath path)) :
    changed.find? other = files.find? other := by
  cases effect with
  | unopened failure closed => rfl
  | cut written opened partly => rw [find?_withTemporary opened.accepts, if_neg beside]
  | undone failure opened wholly => rw [find?_withoutTemporary opened.accepts, if_neg beside]
  | renamed opened wholly located free => exact absurd rfl failed

/-- A replacement that succeeds touches the file and the place of its temporary file, and one that
fails touches only that place. -/
theorem changes_replace (replaced : files.replace path content fault = (result, changed)) :
    (result = .ok () →
      Changes [files.destination (files.temporaryPath path), files.destination path] files changed ∧
        changed.content? (files.destination path) = some content ∧
        ∃ location, changed.locate path = .ok location) ∧
    (result ≠ .ok () → Changes [files.destination (files.temporaryPath path)] files changed) := by
  have effect := replace_effect files path content fault
  rw [replaced] at effect
  cases effect with
  | unopened failure closed =>
      exact ⟨nofun, fun _ => (changes_countTemporary files).mono (List.nil_subset _)⟩
  | cut written opened partly =>
      exact ⟨nofun, fun _ => changes_withTemporary opened.accepts written⟩
  | undone failure opened wholly =>
      have written := changes_withTemporary opened.accepts content
      exact ⟨nofun, fun _ => written.trans (changes_withoutTemporary opened.accepts content)⟩
  | renamed opened wholly located free =>
      have written := changes_withTemporary opened.accepts content
      have cleared := changes_withoutTemporary opened.accepts content
      have put : Changes [files.destination path] (files.withoutTemporary path content)
          ((files.withoutTemporary path content).put (files.destination path) (.file content)) := by
        apply changes_put_file
        rwa [find?_withoutTemporary opened.accepts,
          if_neg (destination_ne_temporaryPath files path)]
      refine ⟨fun _ => ⟨?_, content?_put_file (ne_nil_of_not_directory free), ?_⟩,
        fun failed => absurd rfl failed⟩
      · exact ((written.trans cleared).mono (by simp)).trans (put.mono (by simp))
      · obtain ⟨location, located⟩ := located
        exact ⟨location, put.locate (cleared.locate located)⟩

/-- What a successful replacement has written is read. -/
theorem read_of_replace_ok (replaced : files.replace path content fault = (.ok (), changed)) :
    changed.read path = .ok content := by
  obtain ⟨whole, -⟩ := changes_replace replaced
  obtain ⟨change, held, located⟩ := whole rfl
  rw [read_eq_ok_iff, change.destination_eq]
  exact ⟨located, held⟩

/-- The temporary file of a call is still there. -/
def LeavesTemporary (files : Files) (path : String) (fault : Option ReplaceFault)
    (changed : Files) : Prop :=
  files.OpensTemporary path fault ∧
    changed.find? (files.destination (files.temporaryPath path)) ≠ none

/-- A temporary file is left exactly when its writing was cut off. -/
theorem ReplaceEffect.leavesTemporary_iff
    (effect : ReplaceEffect files path content fault result changed) :
    files.LeavesTemporary path fault changed ↔
      files.Accepts (files.temporaryPath path) ∧
        ∃ written, fault = some (.whileWriting written) := by
  cases effect with
  | unopened failure closed =>
      refine iff_of_false (fun left => closed left.1) ?_
      rintro ⟨accepts, written, rfl⟩
      exact closed ⟨nofun, accepts⟩
  | cut written opened partly =>
      refine iff_of_true ⟨opened, ?_⟩ ⟨opened.accepts, written, partly⟩
      rw [find?_withTemporary opened.accepts, if_pos rfl]
      exact nofun
  | undone failure opened wholly =>
      refine iff_of_false (fun left => left.2 ?_) fun cut => not_exists.2 wholly cut.2
      rw [find?_withoutTemporary opened.accepts, if_pos rfl]
  | renamed opened wholly located free =>
      refine iff_of_false (fun left => left.2 ?_) fun cut => not_exists.2 wholly cut.2
      rw [find?_put (ne_nil_of_not_directory free),
        if_neg (destination_ne_temporaryPath files path).symm,
        find?_withoutTemporary opened.accepts, if_pos rfl]

/-- A replacement whose writing was cut off has failed. -/
theorem ReplaceEffect.failed_of_partly
    (effect : ReplaceEffect files path content fault result changed)
    (partly : ∃ written, fault = some (.whileWriting written)) : result ≠ .ok () := by
  rintro rfl
  cases effect with
  | renamed opened wholly located free => exact not_exists.2 wholly partly

/-- A replacement puts the whole content in place, or it leaves what was there and takes its
temporary file away. -/
structure IsAtomic (files : Files) (path : String) (content : ByteArray)
    (fault : Option ReplaceFault) (outcome : Except FileFailure Unit × Files) : Prop where
  whole : outcome.1 = .ok () → outcome.2.read path = .ok content
  kept : outcome.1 ≠ .ok () →
    outcome.2.find? (files.destination path) = files.find? (files.destination path)
  tidy : outcome.1 ≠ .ok () → ¬files.LeavesTemporary path fault outcome.2

/-- A replacement is atomic unless the device fails while the temporary file is written, which then
stays with the part that was written. The file itself and all others are never half replaced. -/
theorem replace_isAtomic_iff (files : Files) (path : String) (content : ByteArray)
    (fault : Option ReplaceFault) :
    (files.IsAtomic path content fault (files.replace path content fault) ↔
      ¬(files.Accepts (files.temporaryPath path) ∧
        ∃ written, fault = some (.whileWriting written))) ∧
    ((files.replace path content fault).1 = .ok () →
      (files.replace path content fault).2.read path = .ok content) ∧
    ((files.replace path content fault).1 ≠ .ok () →
      ∀ location ≠ files.destination (files.temporaryPath path),
        (files.replace path content fault).2.find? location = files.find? location) := by
  have effect := replace_effect files path content fault
  have whole : (files.replace path content fault).1 = .ok () →
      (files.replace path content fault).2.read path = .ok content := fun succeeded =>
    read_of_replace_ok (Prod.ext succeeded rfl)
  have kept : (files.replace path content fault).1 ≠ .ok () →
      ∀ location ≠ files.destination (files.temporaryPath path),
        (files.replace path content fault).2.find? location = files.find? location :=
    fun failed location beside => effect.find?_of_error failed beside
  refine ⟨⟨fun atomic cut => ?_, fun uncut => ?_⟩, whole, kept⟩
  · exact atomic.tidy (effect.failed_of_partly cut.2) (effect.leavesTemporary_iff.2 cut)
  · constructor
    case whole => exact whole
    case kept => exact fun failed => kept failed _ (destination_ne_temporaryPath files path)
    case tidy => exact fun _ left => uncut (effect.leavesTemporary_iff.1 left)

/-- A failing device does no harm before the temporary file is there and once it is whole. -/
theorem failedRename_isAtomic :
    let files : Files :=
      { entries := [(["out"], .directory), (["out", "Loader.java"], .file "// old".toUTF8)] }
    let content := "// new source".toUTF8
    (files.replace "out/Loader.java" content (some .beforeRenaming)).1 = .error .writeFailed ∧
      ∀ fault ∈ [some ReplaceFault.beforeWriting, some .beforeRenaming, none],
        files.IsAtomic "out/Loader.java" content fault
          (files.replace "out/Loader.java" content fault) := by
  intro files content
  refine ⟨by decide +kernel, fun fault member => (replace_isAtomic_iff ..).1.2 ?_⟩
  rintro ⟨-, written, rfl⟩
  simp at member

/-- A device that is full in the middle of the writing leaves the part that was written under the
name of the temporary file. -/
theorem cutWriting_not_isAtomic :
    let files : Files :=
      { entries := [(["out"], .directory), (["out", "Loader.java"], .file "// old".toUTF8)] }
    let content := "// new source".toUTF8
    let fault := some (ReplaceFault.whileWriting "// new".toUTF8)
    let outcome := files.replace "out/Loader.java" content fault
    outcome.1 = .error .writeFailed ∧ outcome.2.read "out/Loader.java" = .ok "// old".toUTF8 ∧
      files.entryAt "out/.Loader.java.0.0.tmp" = .error .notFound ∧
      outcome.2.read "out/.Loader.java.0.0.tmp" = .ok "// new".toUTF8 ∧
      ¬files.IsAtomic "out/Loader.java" content fault outcome := by
  intro files content fault outcome
  have failed : outcome.1 = .error .writeFailed := by decide +kernel
  have accepts : files.Accepts (files.temporaryPath "out/Loader.java") :=
    ⟨⟨["out", ".Loader.java.0.0.tmp"], by decide +kernel⟩, by decide +kernel⟩
  refine ⟨failed, by decide +kernel, by decide +kernel, by decide +kernel, fun atomic => ?_⟩
  exact atomic.tidy (by simp [failed]) ⟨⟨by decide, accepts⟩, by decide +kernel⟩

end BusBridge.Files
