/-
This file proves where the two files of a cache entry stand, that the sidecar is read back from the
bytes it is stored as and never from those of a source, and which files make the entry usable.
-/

import BusBridge.Proofs.Digest.Checksum
import BusBridge.Proofs.Files.Operations
import BusBridge.Proofs.Json.ReadBack
import BusBridge.Proofs.Target
import BusBridge.Store.Cache

namespace BusBridge

/-- The name of a strategy is read back. -/
theorem Strategy.ofJson?_name (strategy : Strategy) :
    Strategy.ofJson? (.text strategy.name) = some strategy := by
  cases strategy <;> decide

/-- A target is read back. -/
theorem Target.ofJson?_toJson (target : Target) : Target.ofJson? target.toJson = some target := by
  have fields : target.toJson.record? ["type_name", "strategy"] =
      some [some (.text target.typeName), some (.text target.strategy.name)] := rfl
  simp [ofJson?, fields, Json.required, Json.text?, Strategy.ofJson?_name]

namespace Sidecar

/-- A sidecar is read back. -/
theorem ofJson?_toJson (sidecar : Sidecar) : ofJson? sidecar.toJson = some sidecar := by
  have fields : sidecar.toJson.record? ["format_version", "target", "class_name", "checksum"] =
      some [some (.text sidecar.formatVersion), some sidecar.target.toJson,
        some (.text sidecar.className), some (.text sidecar.checksum)] := rfl
  simp [ofJson?, fields, Json.required, Json.text?, Target.ofJson?_toJson]

/-- Whatever names a sidecar holds, it is read back from its bytes. -/
theorem ofBytes?_print (sidecar : Sidecar) :
    ofBytes? sidecar.print.toUTF8 = some sidecar := by
  have textual : sidecar.toJson.isTextual := rfl
  rw [ofBytes?, print, Json.parseBytes?_print textual]
  exact ofJson?_toJson sidecar

end Sidecar

/-- No value starts with the letter that every generated source starts with. -/
theorem Json.parseBytes?_eq_none {text : String} {others : List Char}
    (starts : text.toList = 'p' :: others) : parseBytes? text.toUTF8 = none := by
  have unread : readNumberAhead (some 'p' :: others.map some) = none := by
    have ahead : isNumeric (some 'p') = false := by decide
    rw [readNumberAhead, List.takeWhile_cons_of_neg (by simp [ahead])]
    rfl
  have visible : skipSpace (some 'p' :: others.map some) = some 'p' :: others.map some :=
    skipSpace_of_head (by decide) _
  rw [parseBytes?, Text.decode_toUTF8, starts, List.map_cons, parseSymbols?, readValue, visible]
  simp [unread]

/-- A text that starts like a package is no sidecar. -/
theorem Sidecar.ofBytes?_eq_none {text : String} {others : List Char}
    (starts : text.toList = 'p' :: others) : ofBytes? text.toUTF8 = none := by
  rw [ofBytes?, Json.parseBytes?_eq_none starts, Option.bind_none]

/-- The name of the type has no directory in it. -/
def Target.IsPlain (target : Target) : Prop :=
  '/' ∉ target.typeName.toList

instance (target : Target) : Decidable target.IsPlain :=
  inferInstanceAs (Decidable (_ ∉ _))

/-- A class name keeps every character but the dots. -/
theorem ClassName.mem_parse_iff {separator : Char} {text : String} (other : separator ≠ '.') :
    separator ∈ text.toList ↔
      separator ∈ (parse text).package.toList ∨ separator ∈ (parse text).simple.toList := by
  unfold parse
  split
  case h_1 package simple cut => simp [(Text.splitLast?_eq_some cut).1, other]
  case h_2 => simp

/-- The strategy adds no slash, and the replacement of dollar signs neither adds nor takes one. -/
theorem Target.isPlain_iff {target : Target} :
    target.IsPlain ↔
      '/' ∉ target.className.package.toList ∧ '/' ∉ target.className.simple.toList := by
  have added : '/' ∉ (suffix target.strategy).toList := by
    cases target.strategy <;> decide
  have replaced : ∀ characters : List Char,
      '/' ∈ characters.map (fun character => if character = '$' then '_' else character) ↔
        '/' ∈ characters := by
    intro characters
    constructor
    · intro member
      obtain ⟨character, inside, same⟩ := List.mem_map.1 member
      split at same
      case isTrue => cases same
      case isFalse => exact same ▸ inside
    · exact fun inside => List.mem_map.2 ⟨'/', inside, by decide⟩
  rw [IsPlain, ClassName.mem_parse_iff (by decide), not_or]
  simp only [className, String.toList_append, Java.toList_replace, List.mem_append, replaced,
    added, or_false]

/-- The class of a plain target has no directory in its name. -/
theorem Target.IsPlain.qualified {target : Target} (plain : target.IsPlain) :
    '/' ∉ target.className.qualified.toList := by
  obtain ⟨package, simple⟩ := isPlain_iff.1 plain
  rw [ClassName.qualified]
  split
  case isTrue => exact simple
  case isFalse =>
    rw [String.toList_append, String.toList_append, List.mem_append, List.mem_append]
    rintro ((member | member) | member)
    · exact package member
    · exact absurd member (by decide)
    · exact simple member

/-- An entry consists of two files. -/
inductive EntryPart where
  | source
  | sidecar
  deriving DecidableEq, Repr

namespace EntryPart

def extension : EntryPart → String
  | .source => ArtifactCache.sourceExtension
  | .sidecar => ArtifactCache.sidecarExtension

def fileName (part : EntryPart) (target : Target) : String :=
  target.className.qualified ++ part.extension

variable {part other : EntryPart} {target second : Target}

/-- The two files of an entry end with different letters. -/
theorem getLast?_fileName (part : EntryPart) (target : Target) :
    (part.fileName target).toList.getLast? =
    some (match part with | .source => 'a' | .sidecar => 'n') := by
  rw [fileName, String.toList_append]
  cases part with
  | source =>
      have ending : source.extension.toList.getLast? = some 'a' := by decide
      simp [List.getLast?_append, ending]
  | sidecar =>
      have ending : sidecar.extension.toList.getLast? = some 'n' := by decide
      simp [List.getLast?_append, ending]

/-- The endings tell the parts of an entry apart. -/
theorem fileName_inj (same : part.fileName target = other.fileName second) :
    part = other ∧ target.className.qualified = second.className.qualified := by
  have ending := congrArg (fun name => name.toList.getLast?) same
  simp only [getLast?_fileName] at ending
  have parts : part = other := by
    cases part <;> cases other <;> first | rfl | cases ending
  subst parts
  have names := congrArg String.toList same
  rw [fileName, fileName, String.toList_append, String.toList_append] at names
  exact ⟨rfl, String.toList_inj.1 (List.append_cancel_right names)⟩

/-- A temporary file is no part of any entry. -/
theorem fileName_ne_temporaryName (process number : Nat) (name : String) :
    part.fileName target ≠ Files.temporaryName process number name := by
  intro same
  have ending := congrArg (fun name => name.toList.getLast?) same
  simp only [getLast?_fileName, Files.getLast?_temporaryName] at ending
  cases part <;> cases ending

/-- The files of a plain target have plain names. -/
theorem isFileName (plain : target.IsPlain) : Path.IsFileName (part.fileName target) where
  plain := by
    have extension : '/' ∉ part.extension.toList := by cases part <;> decide
    rw [fileName, String.toList_append, List.mem_append]
    rintro (member | member)
    · exact plain.qualified member
    · exact extension member
  notEmpty same := by
    have ending := getLast?_fileName part target
    rw [same] at ending
    cases part <;> cases ending
  notHere same := by
    have ending := getLast?_fileName part target
    rw [same] at ending
    cases part <;> cases ending
  notUp same := by
    have ending := getLast?_fileName part target
    rw [same] at ending
    cases part <;> cases ending

end EntryPart

namespace ArtifactCache

variable {cache : ArtifactCache} {files : Files} {target second : Target} {part other : EntryPart}
  {artifact : Artifact}

def partPath (cache : ArtifactCache) (target : Target) (part : EntryPart) : String :=
  Path.join cache.directory (part.fileName target)

/-- The source is one of the two parts of an entry. -/
theorem sourcePath_eq : cache.sourcePath target = cache.partPath target .source := rfl

/-- The sidecar is the other part of an entry. -/
theorem sidecarPath_eq : cache.sidecarPath target = cache.partPath target .sidecar := rfl

/-- The files of an entry stand in the directory of the cache. -/
theorem destination_partPath (plain : target.IsPlain) :
    files.destination (cache.partPath target part) =
      files.place cache.directory ++ [part.fileName target] :=
  Files.destination_join (EntryPart.isFileName plain)

/-- A temporary file leaves every entry as it is. -/
theorem destination_ne_temporaryPath (plain : target.IsPlain) (secondPlain : second.IsPlain) :
    files.destination (cache.partPath target part) ≠
      files.destination (files.temporaryPath (cache.partPath second other)) := by
  rw [destination_partPath plain, partPath,
    Files.destination_temporaryPath (EntryPart.isFileName secondPlain)]
  intro same
  exact EntryPart.fileName_ne_temporaryName _ _ _ (List.cons.inj (List.append_cancel_left same)).1

/-- Two entries share a file exactly when their classes have one name. -/
theorem destination_partPath_inj (plain : target.IsPlain) (secondPlain : second.IsPlain)
    (same : files.destination (cache.partPath target part) =
      files.destination (cache.partPath second other)) :
    part = other ∧ cache.partPath target part = cache.partPath second other := by
  rw [destination_partPath plain, destination_partPath secondPlain] at same
  have names := (List.cons.inj (List.append_cancel_left same)).1
  exact ⟨(EntryPart.fileName_inj names).1, by rw [partPath, partPath, names]⟩

/-- A file of an entry is read like any file. -/
theorem readEntry_eq_ok_iff {path : String} {content : ByteArray} :
    readEntry files path target = .ok content ↔ files.read path = .ok content := by
  unfold readEntry
  split
  case h_1 read => simp [read]
  case h_2 missing => simp [missing]
  case h_3 cause failed => simp [failed]

/-- A sidecar is read when its bytes can be decoded. -/
theorem readSidecar_eq_ok_iff {content : ByteArray} {sidecar : Sidecar} :
    readSidecar content = .ok sidecar ↔ Sidecar.ofBytes? content = some sidecar := by
  unfold readSidecar
  split
  case h_1 read => simp [read]
  case h_2 malformed => simp [malformed]

/-- An entry is usable exactly when both files are there and belong together. -/
theorem lookup_eq_ok_iff :
    cache.lookup files target = .ok artifact ↔
      artifact.className = target.className ∧
      ∃ bytes content sidecar, files.read (cache.sidecarPath target) = .ok bytes ∧
        files.read (cache.sourcePath target) = .ok content ∧
        Sidecar.ofBytes? bytes = some sidecar ∧ sidecar.target = target ∧
        sidecar.className = target.className.qualified ∧
        Digest.verifies content sidecar.checksum ∧
        String.fromUTF8? content = some artifact.source := by
  simp only [lookup, bind_eq_ok_iff, check_eq_ok_iff, readEntry_eq_ok_iff, readSidecar_eq_ok_iff]
  constructor
  · rintro ⟨bytes, sidecarRead, sidecar, decoded, own, content, sourceRead, verified, text⟩
    split at text
    case h_1 source valid =>
      cases text
      obtain ⟨sameTarget, sameClass⟩ := not_or.1 own
      exact ⟨rfl, bytes, content, sidecar, sidecarRead, sourceRead, decoded,
        not_ne_iff.1 sameTarget, not_ne_iff.1 sameClass, by simpa using verified, valid⟩
    case h_2 => cases text
  · rintro ⟨sameClass, bytes, content, sidecar, sidecarRead, sourceRead, decoded, sameTarget,
      sameName, verified, text⟩
    refine ⟨bytes, sidecarRead, sidecar, decoded, by simp [sameTarget, sameName], content,
      sourceRead, by simp [verified], ?_⟩
    rw [text, ← sameClass]
    rfl

/-- The two files of a write make a usable entry. -/
theorem lookup_of_written {source : String}
    (sidecarRead : files.read (cache.sidecarPath target) =
      .ok (sidecar target source).print.toUTF8)
    (sourceRead : files.read (cache.sourcePath target) = .ok source.toUTF8) :
    cache.lookup files target = .ok ⟨target.className, source⟩ :=
  lookup_eq_ok_iff.2 ⟨rfl, _, _, sidecar target source, sidecarRead, sourceRead,
    Sidecar.ofBytes?_print _, rfl, rfl, Digest.verifies_checksum_iff.2 rfl,
    Text.fromUTF8?_toUTF8 source⟩

/-- The sidecar of a write turns down a source of another digest. -/
theorem lookup_of_other_digest {source : String} {content : ByteArray}
    (sidecarRead : files.read (cache.sidecarPath target) =
      .ok (sidecar target source).print.toUTF8)
    (sourceRead : files.read (cache.sourcePath target) = .ok content)
    (other : Digest.sha256 content ≠ Digest.sha256 source.toUTF8) :
    cache.lookup files target = .error (.checksumMismatch (cache.sourcePath target)
      (Digest.checksum source.toUTF8) (Digest.checksum content)) := by
  have unverified : ¬Digest.verifies content (sidecar target source).checksum = true :=
    fun verified => other (Digest.verifies_checksum_iff.1 verified)
  refine bind_eq_error_iff.2 (.inr ⟨_, readEntry_eq_ok_iff.2 sidecarRead, ?_⟩)
  refine bind_eq_error_iff.2 (.inr ⟨_, readSidecar_eq_ok_iff.2 (Sidecar.ofBytes?_print _), ?_⟩)
  dsimp only
  split
  case isTrue foreign => simp [sidecar] at foreign
  case isFalse =>
    refine bind_eq_error_iff.2 (.inr ⟨_, readEntry_eq_ok_iff.2 sourceRead, ?_⟩)
    split
    case isTrue => rfl
    case isFalse verified => exact absurd (by simpa using verified) unverified

/-- A sidecar of a write gives no more than a source of the written digest. -/
theorem lookup_of_sidecar {source : String} {content : ByteArray}
    (found : cache.lookup files target = .ok artifact)
    (sidecarRead : files.read (cache.sidecarPath target) =
      .ok (sidecar second source).print.toUTF8)
    (sourceRead : files.read (cache.sourcePath target) = .ok content) :
    second = target ∧ artifact.className = target.className ∧
      Digest.sha256 content = Digest.sha256 source.toUTF8 ∧
      String.fromUTF8? content = some artifact.source := by
  obtain ⟨sameClass, bytes, held, recorded, read, heldRead, decoded, own, -, verified, text⟩ :=
    lookup_eq_ok_iff.1 found
  rw [sidecarRead] at read
  rw [sourceRead] at heldRead
  cases read
  cases heldRead
  rw [Sidecar.ofBytes?_print] at decoded
  cases decoded
  exact ⟨own, sameClass, Digest.verifies_checksum_iff.1 verified, text⟩

/-- The two files of a target belong to it and to each other, whatever version the sidecar has. -/
structure Keeps (cache : ArtifactCache) (files : Files) (target : Target) (sidecar : Sidecar)
    (source : String) : Prop where
  recorded : ∃ bytes, files.read (cache.sidecarPath target) = .ok bytes ∧
    Sidecar.ofBytes? bytes = some sidecar
  stored : files.read (cache.sourcePath target) = .ok source.toUTF8
  own : sidecar.target = target
  named : sidecar.className = target.className.qualified
  checksum : Digest.Names sidecar.checksum source.toUTF8

/-- The files of a target determine what is kept for it. -/
theorem Keeps.unique {sidecar another : Sidecar} {source text : String}
    (keeps : cache.Keeps files target sidecar source)
    (alsoKeeps : cache.Keeps files target another text) : sidecar = another ∧ source = text := by
  obtain ⟨bytes, read, decoded⟩ := keeps.recorded
  obtain ⟨same, alsoRead, alsoDecoded⟩ := alsoKeeps.recorded
  have sources := keeps.stored.symm.trans alsoKeeps.stored
  rw [read] at alsoRead
  cases alsoRead
  rw [decoded] at alsoDecoded
  exact ⟨Option.some.inj alsoDecoded, String.toByteArray_inj.1 (Except.ok.inj sources)⟩

/-- An artifact is found exactly when the files keep its source. -/
theorem lookup_eq_ok_iff_keeps :
    cache.lookup files target = .ok artifact ↔
      artifact.className = target.className ∧
        ∃ sidecar, cache.Keeps files target sidecar artifact.source := by
  rw [lookup_eq_ok_iff]
  refine and_congr_right fun _ => ?_
  constructor
  · rintro ⟨bytes, content, sidecar, read, stored, decoded, own, named, verified, text⟩
    rw [Text.fromUTF8?_eq_some_iff] at text
    subst text
    exact ⟨sidecar, ⟨bytes, read, decoded⟩, stored, own, named, Digest.verifies_iff.1 verified⟩
  · rintro ⟨sidecar, ⟨bytes, read, decoded⟩, stored, own, named, checksum⟩
    exact ⟨bytes, _, sidecar, read, stored, decoded, own, named, Digest.verifies_iff.2 checksum,
      Text.fromUTF8?_toUTF8 _⟩

/-- All queries of a target give the source that is kept for it with an accepted sidecar, and
without one they all give a miss. -/
structure Answers (cache : ArtifactCache) (files : Files) (target : Target)
    (accepted : Sidecar → Prop) : Prop where
  lookup : ∀ artifact, cache.lookup files target = .ok artifact ↔
    ∃ sidecar, accepted sidecar ∧ cache.Keeps files target sidecar artifact.source ∧
      artifact.className = target.className
  hit : ∀ artifact, cache.lookup files target = .ok artifact →
    cache.read files target = some artifact ∧ cache.has files target = true ∧
      cache.shouldGenerate files target = false
  miss : (¬ ∃ sidecar source, accepted sidecar ∧ cache.Keeps files target sidecar source) →
    (∃ failure, cache.lookup files target = .error failure) ∧ cache.read files target = none ∧
      cache.has files target = false ∧ cache.shouldGenerate files target = true

/-- All queries answer as the lookup does. -/
theorem queries_of_lookup {found : Except StoreFailure Artifact}
    (looked : cache.lookup files target = found) :
    cache.read files target = found.toOption ∧
      cache.has files target = found.toOption.isSome ∧
      cache.shouldGenerate files target = found.toOption.isNone := by
  subst looked
  exact ⟨rfl, rfl, Option.not_isSome ..⟩

/-- The queries answer by a condition on sidecars exactly when each sidecar with a kept source
satisfies it. -/
theorem answers_iff {accepted : Sidecar → Prop} :
    cache.Answers files target accepted ↔
      ∀ sidecar source, cache.Keeps files target sidecar source → accepted sidecar := by
  constructor
  · intro answers sidecar source keeps
    have found : cache.lookup files target = .ok ⟨target.className, source⟩ :=
      lookup_eq_ok_iff_keeps.2 ⟨rfl, sidecar, keeps⟩
    obtain ⟨another, fine, alsoKeeps, -⟩ := (answers.lookup _).1 found
    rwa [(keeps.unique alsoKeeps).1]
  · intro accepts
    refine ⟨fun artifact => ?_, fun artifact found => queries_of_lookup found, fun none => ?_⟩
    · rw [lookup_eq_ok_iff_keeps]
      constructor
      · rintro ⟨named, sidecar, keeps⟩
        exact ⟨sidecar, accepts _ _ keeps, keeps, named⟩
      · rintro ⟨sidecar, -, keeps, named⟩
        exact ⟨named, sidecar, keeps⟩
    · cases looked : cache.lookup files target with
      | error failure => exact ⟨⟨failure, rfl⟩, queries_of_lookup looked⟩
      | ok artifact =>
          obtain ⟨-, sidecar, keeps⟩ := lookup_eq_ok_iff_keeps.1 looked
          exact absurd ⟨sidecar, _, accepts _ _ keeps, keeps⟩ none

/-- Whatever the files hold, the queries of a target agree on what is kept for it. They do not look
at the version of a sidecar, so they answer by it only where no other version is kept. -/
theorem answers_of_any_version (cache : ArtifactCache) (files : Files) (target : Target) :
    cache.Answers files target (fun _ => True) ∧
      (cache.Answers files target (fun sidecar => sidecar.formatVersion = formatVersion) ↔
        ∀ sidecar source, cache.Keeps files target sidecar source →
          sidecar.formatVersion = formatVersion) :=
  ⟨answers_iff.2 fun _ _ _ => trivial, answers_iff⟩

/-- What the cache writes for a loader, in some version of the layout. -/
def versionedSidecar (version : String) : Sidecar :=
  { sidecar (.loader "Calls") "// calls" with formatVersion := version }

def versionedFiles (version : String) : Files where
  entries := [(["cache"], .directory),
    (["cache", "CallsImpl.java"], .file "// calls".toUTF8),
    (["cache", "CallsImpl.meta.json"], .file (versionedSidecar version).print.toUTF8)]

/-- The files keep the source whatever version the sidecar has. -/
theorem keeps_versionedFiles (version : String) :
    Keeps ⟨"cache"⟩ (versionedFiles version) (.loader "Calls") (versionedSidecar version)
      "// calls" where
  recorded := ⟨_, rfl, Sidecar.ofBytes?_print _⟩
  stored := rfl
  own := rfl
  named := rfl
  checksum := Digest.verifies_iff.1 (Digest.verifies_checksum_iff.2 rfl)

/-- An entry of the current version is answered. -/
theorem current_version_answers :
    Answers ⟨"cache"⟩ (versionedFiles formatVersion) (.loader "Calls")
      (fun sidecar => sidecar.formatVersion = formatVersion) := by
  refine (answers_of_any_version _ _ _).2.2 fun sidecar source keeps => ?_
  rw [(keeps.unique (keeps_versionedFiles formatVersion)).1]
  rfl

/-- The entry is found, although its version is not the current one. -/
theorem former_version_found :
    lookup ⟨"cache"⟩ (versionedFiles "0") (.loader "Calls") =
        .ok ⟨⟨"", "CallsImpl"⟩, "// calls"⟩ ∧
      ¬ Answers ⟨"cache"⟩ (versionedFiles "0") (.loader "Calls")
        (fun sidecar => sidecar.formatVersion = formatVersion) := by
  have keeps := keeps_versionedFiles "0"
  refine ⟨lookup_eq_ok_iff_keeps.2 ⟨rfl, _, keeps⟩, ?_⟩
  rw [answers_iff]
  intro current
  exact absurd (current _ _ keeps) (by decide)

end ArtifactCache

end BusBridge
