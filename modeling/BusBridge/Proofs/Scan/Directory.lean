/-
This file proves that types are found alike in a directory that holds them and in memory.
-/

import BusBridge.Proofs.Declaration.ReadBack
import BusBridge.Proofs.Scan.InMemory
import BusBridge.Proofs.Universe.Directory

namespace BusBridge

open Java (isQualifiedName)

namespace DirectoryUniverse

variable {visible : DirectoryUniverse} {files : Files} {declarations : List TypeDeclaration}
  {packagePrefix : String}

theorem leadsToType_iff_covers (qualified : isQualifiedName packagePrefix = true) :
    LeadsToType declarations (Text.split '.' packagePrefix) ↔
      ∃ declaration ∈ declarations, Covers packagePrefix declaration.package := by
  simp only [LeadsToType, Covers, qualified, true_and]

/-- A prefix is refused when its directory is not there. -/
theorem Holds.refusal?_eq (holds : visible.Holds files declarations)
    (packaged : ∀ declaration ∈ declarations, declaration.IsPackaged) :
    (visible.toUniverse files).refusal? = prefixWarning? declarations := by
  funext packagePrefix
  rw [Universe.refusal?, Scanner.packagesOf, prefixWarning?]
  by_cases qualified : isQualifiedName packagePrefix = true
  · rw [if_pos qualified, Java.prefixProblem?_eq_none_iff.2 qualified]
    have directory := holds.isDirectory_iff packaged qualified
    rw [leadsToType_iff_covers qualified] at directory
    simp only [toUniverse, packagesUnder, ← directory]
    by_cases present : files.isDirectory (visible.packageDirectory packagePrefix) = true
    · simp only [if_pos present]
    · simp only [if_neg present]
      rfl
  · obtain ⟨problem, found⟩ :=
      Option.ne_none_iff_exists'.1 (mt Java.prefixProblem?_eq_none_iff.1 qualified)
    rw [if_neg qualified, found]
    rfl

theorem Holds.shows (holds : visible.Holds files declarations)
    (packaged : ∀ declaration ∈ declarations, declaration.IsPackaged) :
    (visible.toUniverse files).Shows declarations := by
  have listed : ∀ packagePrefix packages,
      Scanner.packagesOf (visible.toUniverse files) packagePrefix = .ok packages →
        isQualifiedName packagePrefix = true ∧ ∀ package, package ∈ packages ↔
          Text.split '.' packagePrefix <+: Text.split '.' package ∧
            LeadsToType declarations (Text.split '.' package) := by
    intro packagePrefix packages found
    obtain ⟨qualified, listed⟩ := Scanner.packagesOf_eq_ok_iff.1 found
    exact ⟨qualified, fun package => holds.packagesUnder_eq_ok packaged qualified listed⟩
  constructor
  case refusals => exact holds.refusal?_eq packaged
  case within =>
    intro packagePrefix packages found package inside
    obtain ⟨qualified, members⟩ := listed _ _ found
    exact ⟨qualified, ((members package).1 inside).1⟩
  case complete =>
    intro packagePrefix packages found declaration member covers
    obtain ⟨-, members⟩ := listed _ _ found
    exact (members _).2 ⟨covers.2, declaration, member, List.prefix_rfl⟩
  case contents =>
    intro packagePrefix packages found package inside
    obtain ⟨-, members⟩ := listed _ _ found
    exact holds.typesIn_eq_ok packaged ((members package).1 inside).2

end DirectoryUniverse

/-- Types with different dotted names are found alike in a directory that holds nothing else and
in memory, whatever the two scanners were called for before: a request finds the same types, in
an order that may differ, and gives the same warnings. -/
theorem scan_directory_as_memory {visible : DirectoryUniverse} {files : Files}
    {declarations : List TypeDeclaration}
    (packaged : ∀ declaration ∈ declarations, declaration.IsPackaged)
    (distinct : (declarations.map TypeDeclaration.name).Nodup)
    (holds : visible.Holds files declarations) (calls others : List Scanner.Call)
    (request : ScanRequest) :
    let stored := visible.toUniverse files
    let inserted := (MemoryUniverse.ofTypes declarations).toUniverse
    let found := ((Scanner.after stored calls).scan stored request).1
    let expected := ((Scanner.after inserted others).scan inserted request).1
    found.types.Perm expected.types ∧ found.warnings = expected.warnings := by
  intro stored inserted found expected
  have shown : stored.Shows declarations := holds.shows packaged
  have known : inserted.Shows declarations := MemoryUniverse.shows_ofTypes declarations
  have surveyed : found = stored.survey request := Scanner.scan_after ..
  have answered : expected = inserted.survey request := Scanner.scan_after ..
  rw [surveyed, answered]
  constructor
  · rw [List.perm_ext_iff_of_nodup (Universe.nodup_typeNames_survey stored request).of_map
      (Universe.nodup_typeNames_survey inserted request).of_map]
    intro declaration
    rw [shown.mem_types_survey_iff distinct, known.mem_types_survey_iff distinct]
  · rw [shown.warnings_survey, known.warnings_survey]

/-- Types in a package below one that holds none, and in a package beside it. -/
def storedTypes : List TypeDeclaration :=
  ["shop.events.Placed", "tools.Audit"].map fun name =>
    ⟨name, .classType, [⟨"Event", .empty, false⟩], []⟩

/-- The directory in which the types are written as they are. -/
def storedFiles : Files where
  entries :=
    [["types"], ["types", "shop"], ["types", "shop", "events"], ["types", "tools"]].map
        (fun location => (location, .directory)) ++
      storedTypes.map fun declaration =>
        ("types" :: declaration.filePlace, .file declaration.toJson.print.toUTF8)

theorem holds_storedFiles : DirectoryUniverse.Holds ⟨"types"⟩ storedFiles storedTypes := by
  constructor
  case written =>
    intro declaration member
    have located : ∀ declaration ∈ storedTypes,
        storedFiles.locate (DirectoryUniverse.descriptorPath ⟨"types"⟩ declaration) =
          .ok ("types" :: declaration.filePlace) := by decide +kernel
    refine ⟨declaration.toJson.print, ?_, TypeDeclaration.parse?_print declaration⟩
    refine Files.readText_eq_ok_of_file (located declaration member) ?_
    simp only [storedTypes, List.map_cons, List.map_nil, List.mem_cons, List.not_mem_nil, or_false]
      at member
    rcases member with rfl | rfl <;> rfl
  case alone =>
    intro names inside entry found
    have led : ∀ entry ∈ storedFiles.entries, entry.1.tail ≠ [] →
        ∃ declaration ∈ storedTypes, entry.1.tail <+: declaration.filePlace := by decide +kernel
    have root : storedFiles.place "types" = ["types"] := by decide +kernel
    rw [root] at found
    exact led _ (Files.mem_entries_of_find? (by simp) found) inside
  case listed =>
    intro entry member
    simp only [storedFiles, List.map_cons, List.map_nil, String.toUTF8_eq_toByteArray, storedTypes,
      List.cons_append, List.nil_append, List.mem_cons, List.not_mem_nil, or_false] at member
    rcases member with rfl | rfl | rfl | rfl | rfl | rfl <;> rfl

/-- One prefix covers no package, and one covers a package that another one covers too. -/
theorem scan_storedFiles_as_memory :
    let stored := DirectoryUniverse.toUniverse ⟨"types"⟩ storedFiles
    let inserted := (MemoryUniverse.ofTypes storedTypes).toUniverse
    let request : ScanRequest := ⟨"Event", ["shop", "absent", "tools", "shop.events"]⟩
    let found := (({} : Scanner).scan stored request).1
    let expected := (({} : Scanner).scan inserted request).1
    (found.types.Perm expected.types ∧ found.warnings = expected.warnings) ∧
      expected.typeNames = ["shop.events.Placed", "tools.Audit"] ∧
      expected.warnings = [.unreadablePackage "absent" "package not found: absent"] :=
  ⟨scan_directory_as_memory (by decide +kernel) (by decide +kernel) holds_storedFiles [] [] _,
    by decide +kernel, by decide +kernel⟩

end BusBridge
