/-
This file proves what a universe in a directory lists and reads when the files under its root are
those of some types, each in the directory of its package.
-/

import BusBridge.Proofs.Files.Nested
import BusBridge.Proofs.Target
import BusBridge.Proofs.Universe.Prefix
import BusBridge.Universe.Directory

namespace BusBridge

open Java (isIdentifier isQualifiedName)
open BusBridge.Path (IsFileName descend)

/-- An identifier is the name of a file. -/
theorem Path.isFileName_of_isIdentifier {name : String} (identifier : isIdentifier name = true) :
    IsFileName name := by
  have dotless : '.' ∉ name.toList := Java.not_mem_of_isIdentifier identifier (by decide)
  constructor
  case plain => exact Java.not_mem_of_isIdentifier identifier (by decide)
  case notEmpty =>
    rintro rfl
    exact absurd identifier (by decide)
  case notHere =>
    rintro rfl
    exact dotless (by simp)
  case notUp =>
    rintro rfl
    exact dotless (by simp)

namespace TypeDeclaration

/-- The name of the file that holds a type. -/
def fileName (declaration : TypeDeclaration) : String :=
  (ClassName.parse declaration.name).simple ++ ".json"

/-- The names that lead from the root to the file that holds a type. -/
def filePlace (declaration : TypeDeclaration) : Location :=
  Text.split '.' declaration.package ++ [declaration.fileName]

/-- The type has a dotted name in a package of its own. -/
structure IsPackaged (declaration : TypeDeclaration) : Prop where
  qualified : isQualifiedName declaration.name = true
  packaged : declaration.package ≠ ""

instance (declaration : TypeDeclaration) : Decidable declaration.IsPackaged :=
  decidable_of_iff (isQualifiedName declaration.name = true ∧ declaration.package ≠ "")
    ⟨fun both => ⟨both.1, both.2⟩, fun packaged => ⟨packaged.qualified, packaged.packaged⟩⟩

namespace IsPackaged

variable {declaration : TypeDeclaration}

/-- The simple name of a packaged type is an identifier. -/
theorem isIdentifier_simple (packaged : declaration.IsPackaged) :
    isIdentifier (ClassName.parse declaration.name).simple = true :=
  (ClassName.parse_of_isQualifiedName packaged.qualified).2

/-- The segments of a package are identifiers. -/
theorem isIdentifier_segment (packaged : declaration.IsPackaged) :
    ∀ segment ∈ Text.split '.' declaration.package, isIdentifier segment = true :=
  have qualified := (ClassName.parse_of_isQualifiedName packaged.qualified).1.resolve_left
    packaged.packaged
  List.all_eq_true.1 qualified

/-- All names on the way to a descriptor are plain. -/
theorem isFileName (packaged : declaration.IsPackaged) :
    ∀ name ∈ declaration.filePlace, IsFileName name := by
  rw [filePlace, List.forall_mem_append, List.forall_mem_singleton]
  refine ⟨fun segment member =>
    Path.isFileName_of_isIdentifier (packaged.isIdentifier_segment segment member), ?_⟩
  have simple := (Path.isFileName_of_isIdentifier packaged.isIdentifier_simple).plain
  have longer : ∀ short : String, short.toList.length < 5 → declaration.fileName ≠ short := by
    rintro short few rfl
    have ending : ".json".toList.length = 5 := by decide
    rw [fileName, String.toList_append, List.length_append, ending] at few
    omega
  exact ⟨by simp [fileName, simple], longer _ (by decide), longer _ (by decide),
    longer _ (by decide)⟩

/-- The ending makes a file a descriptor. -/
theorem extension?_fileName (packaged : declaration.IsPackaged) :
    Path.extension? declaration.fileName = some "json" := by
  have file : IsFileName declaration.fileName :=
    packaged.isFileName _ (List.mem_append_right _ (List.mem_singleton_self _))
  have joined : Path.join "" declaration.fileName = declaration.fileName := by
    simp [Path.join, Path.isAbsolute_of_plain file.plain]
  have whole : Path.fileName? declaration.fileName = some declaration.fileName := by
    rw [← joined, Path.fileName?_join file, joined]
  have cut : Text.splitLast? '.' declaration.fileName =
      some ((ClassName.parse declaration.name).simple, "json") := by
    have text : declaration.fileName = String.ofList
        ((ClassName.parse declaration.name).simple.toList ++ '.' :: "json".toList) :=
      String.toList_inj.1 (by simp [fileName])
    rw [text, Text.splitLast?_append (by decide)]
    simp
  have named : (ClassName.parse declaration.name).simple ≠ "" :=
    (Path.isFileName_of_isIdentifier packaged.isIdentifier_simple).notEmpty
  rw [Path.extension?, whole, Option.bind_some, cut]
  split
  case h_1 empty => simp_all
  case h_2 => rfl

end IsPackaged

end TypeDeclaration

namespace DirectoryUniverse

/-- The file of a type stands in the directory of its package. -/
def descriptorPath (visible : DirectoryUniverse) (declaration : TypeDeclaration) : String :=
  Path.join (visible.packageDirectory declaration.package) declaration.fileName

/-- The file of each type holds a text that is read back as the type, nothing else stands under
the root, and a directory lists just what stands in it. -/
structure Holds (visible : DirectoryUniverse) (files : Files)
    (declarations : List TypeDeclaration) : Prop where
  written : ∀ declaration ∈ declarations, ∃ text,
    files.readText (visible.descriptorPath declaration) = .ok text ∧
      TypeDeclaration.parse? text = some declaration
  alone : ∀ names ≠ [], ∀ entry, files.find? (files.place visible.root ++ names) = some entry →
    ∃ declaration ∈ declarations, names <+: declaration.filePlace
  listed : ∀ entry ∈ files.entries, files.find? entry.1 = some entry.2

variable {visible : DirectoryUniverse} {files : Files} {declarations : List TypeDeclaration}
  {names : List String} {package : String}

/-- The directory of a package is found segment by segment. -/
theorem packageDirectory_eq_descend (visible : DirectoryUniverse) (package : String) :
    visible.packageDirectory package = descend visible.root (Text.split '.' package) := rfl

/-- The descriptor of a type lies in the directory of its package. -/
theorem descriptorPath_eq_descend (visible : DirectoryUniverse) (declaration : TypeDeclaration) :
    visible.descriptorPath declaration = descend visible.root declaration.filePlace := by
  rw [descriptorPath, packageDirectory_eq_descend, ← Path.descend_concat]
  rfl

/-- A descriptor has a file of its own. -/
theorem filePlace_ne_nil (declaration : TypeDeclaration) : declaration.filePlace ≠ [] := by
  simp [TypeDeclaration.filePlace]

/-- The names are the first segments of the package of some type. -/
def LeadsToType (declarations : List TypeDeclaration) (names : List String) : Prop :=
  ∃ declaration ∈ declarations, names <+: Text.split '.' declaration.package

/-- What leads to a type leads there from its beginning. -/
theorem LeadsToType.mono {begun : List String} (led : LeadsToType declarations names)
    (begins : begun <+: names) : LeadsToType declarations begun :=
  led.imp fun _ => And.imp_right begins.trans

/-- The name of a package below another one is its last segment. -/
theorem split_child (packaged : ∀ declaration ∈ declarations, declaration.IsPackaged)
    {name : String} (led : LeadsToType declarations (Text.split '.' package ++ [name])) :
    Text.split '.' (package ++ "." ++ name) = Text.split '.' package ++ [name] := by
  obtain ⟨declaration, member, begins⟩ := led
  have identifier := (packaged declaration member).isIdentifier_segment name
    (begins.subset (by simp))
  exact Text.split_append (by simp) (Java.not_mem_of_isIdentifier identifier (by decide))

namespace Holds

/-- What stands under the root is listed in its directory. -/
theorem mem_children_iff (holds : visible.Holds files declarations) {name : String}
    {entry : FileEntry} :
    (name, entry) ∈ files.children (files.place visible.root ++ names) ↔
      files.find? (files.place visible.root ++ (names ++ [name])) = some entry := by
  rw [Files.mem_children_iff, ← List.append_assoc]
  exact ⟨fun member => holds.listed _ member, Files.mem_entries_of_find? (by simp)⟩

/-- A descriptor is read as the type that it was written for. -/
theorem readDescriptor_fileName (holds : visible.Holds files declarations)
    {declaration : TypeDeclaration} (member : declaration ∈ declarations) :
    readDescriptor files declaration.package
        (Path.join (visible.packageDirectory declaration.package) declaration.fileName) =
      .ok declaration := by
  obtain ⟨text, read, parsed⟩ := holds.written declaration member
  rw [readDescriptor, ← descriptorPath, read]
  simp only [parsed, if_true]

section Places

variable (holds : visible.Holds files declarations)
  (packaged : ∀ declaration ∈ declarations, declaration.IsPackaged)

include holds packaged

/-- Each type of the universe has its file. -/
theorem file {declaration : TypeDeclaration} (member : declaration ∈ declarations) :
    files.locate (visible.descriptorPath declaration) =
        .ok (files.place visible.root ++ declaration.filePlace) ∧
      ∃ content, files.find? (files.place visible.root ++ declaration.filePlace) =
        some (.file content) := by
  obtain ⟨text, read, -⟩ := holds.written declaration member
  obtain ⟨location, content, located, found⟩ := Files.readText_eq_ok read
  obtain rfl := Files.locate_descend (filePlace_ne_nil declaration)
    (packaged declaration member).isFileName (descriptorPath_eq_descend visible _ ▸ located)
  exact ⟨located, content, found⟩

/-- The directories on the way to the file of a type can be reached. -/
theorem directory (inside : names ≠ []) (led : LeadsToType declarations names) :
    files.locate (descend visible.root names) = .ok (files.place visible.root ++ names) ∧
      files.find? (files.place visible.root ++ names) = some .directory := by
  obtain ⟨declaration, member, rest, whole⟩ := led
  have place : declaration.filePlace = names ++ (rest ++ [declaration.fileName]) := by
    rw [TypeDeclaration.filePlace, ← whole, List.append_assoc]
  have located := (holds.file packaged member).1
  rw [descriptorPath_eq_descend, place] at located
  refine Files.directory_of_locate_descend inside (by simp) ?_ located
  rw [← place]
  exact (packaged declaration member).isFileName

/-- Under the root are the directories of packages that lead to types. -/
theorem find?_directory_iff (inside : names ≠ []) :
    files.find? (files.place visible.root ++ names) = some .directory ↔
      LeadsToType declarations names := by
  refine ⟨fun found => ?_, fun led => (holds.directory packaged inside led).2⟩
  obtain ⟨declaration, member, led⟩ := holds.alone names inside _ found
  rcases List.prefix_concat_iff.1 led with whole | led
  · obtain ⟨-, content, file⟩ := holds.file packaged member
    rw [TypeDeclaration.filePlace, ← whole, found] at file
    cases file
  · exact ⟨declaration, member, led⟩

/-- Under the root are the files of types. -/
theorem eq_filePlace (inside : names ≠ []) {content : ByteArray}
    (found : files.find? (files.place visible.root ++ names) = some (.file content)) :
    ∃ declaration ∈ declarations, names = declaration.filePlace := by
  obtain ⟨declaration, member, led⟩ := holds.alone names inside _ found
  rcases List.prefix_concat_iff.1 led with whole | led
  · exact ⟨declaration, member, whole⟩
  · rw [(holds.directory packaged inside ⟨declaration, member, led⟩).2] at found
    cases found

/-- A package is a directory exactly when it leads to a type. -/
theorem isDirectory_iff (qualified : isQualifiedName package = true) :
    files.isDirectory (visible.packageDirectory package) = true ↔
      LeadsToType declarations (Text.split '.' package) := by
  have inside := Text.split_ne_nil '.' package
  have plain : ∀ segment ∈ Text.split '.' package, IsFileName segment := fun segment member =>
    Path.isFileName_of_isIdentifier (List.all_eq_true.1 qualified segment member)
  rw [Files.isDirectory_eq_true_iff, packageDirectory_eq_descend]
  constructor
  · rintro ⟨location, located, found⟩
    obtain rfl := Files.locate_descend inside plain located
    exact (holds.find?_directory_iff packaged inside).1 found
  · exact fun led => ⟨_, holds.directory packaged inside led⟩

/-- The directory of a package lists its files and inner packages. -/
theorem list_packageDirectory (led : LeadsToType declarations (Text.split '.' package)) :
    files.list (visible.packageDirectory package) =
      .ok (files.children (files.place visible.root ++ Text.split '.' package)) := by
  obtain ⟨located, directory⟩ := holds.directory packaged (Text.split_ne_nil '.' package) led
  exact Files.list_eq_ok located directory

/-- The packages below a package are the directories in its directory. -/
theorem mem_childPackages_iff (led : LeadsToType declarations (Text.split '.' package))
    {child childDirectory : String} :
    (child, childDirectory) ∈
        childPackages files package (visible.packageDirectory package) ↔
      childDirectory = visible.packageDirectory child ∧
        (∃ name, Text.split '.' child = Text.split '.' package ++ [name]) ∧
          LeadsToType declarations (Text.split '.' child) := by
  have listed : ∀ name, name ∈ sortedNames ((files.children (files.place visible.root ++
        Text.split '.' package)).filter fun entry => entry.2 == .directory) ↔
      LeadsToType declarations (Text.split '.' package ++ [name]) := by
    intro name
    rw [← holds.find?_directory_iff packaged (by simp), ← holds.mem_children_iff]
    simp [sortedNames]
  rw [childPackages, holds.list_packageDirectory packaged led]
  simp only [List.mem_map, listed, Prod.mk.injEq]
  constructor
  · rintro ⟨name, onWay, rfl, rfl⟩
    rw [packageDirectory_eq_descend, packageDirectory_eq_descend, split_child packaged onWay,
      Path.descend_concat]
    exact ⟨rfl, ⟨name, rfl⟩, onWay⟩
  · rintro ⟨rfl, ⟨name, shape⟩, onWay⟩
    rw [shape] at onWay
    refine ⟨name, onWay, ?_, ?_⟩
    · exact Text.split_inj.1 ((split_child packaged onWay).trans shape.symm)
    · rw [packageDirectory_eq_descend, packageDirectory_eq_descend, shape, Path.descend_concat]

/-- To a given depth, the packages on the way to types are listed. -/
theorem mem_packagesBelow_iff (depth : Nat) {other : String}
    (led : LeadsToType declarations (Text.split '.' package)) :
    other ∈ packagesBelow files depth package (visible.packageDirectory package) ↔
      Text.split '.' package <+: Text.split '.' other ∧
        (Text.split '.' other).length ≤ (Text.split '.' package).length + depth ∧
          LeadsToType declarations (Text.split '.' other) := by
  induction depth generalizing package with
  | zero =>
      rw [packagesBelow, List.mem_singleton]
      constructor
      · rintro rfl
        exact ⟨List.prefix_rfl, le_rfl, led⟩
      · rintro ⟨begins, short, -⟩
        exact (Text.split_inj.1 (begins.eq_of_length_le short)).symm
  | succ depth ih =>
      rw [packagesBelow, List.mem_cons, List.mem_flatMap]
      constructor
      · rintro (rfl | ⟨⟨child, childDirectory⟩, listed, below⟩)
        · exact ⟨List.prefix_rfl, Nat.le_add_right _ _, led⟩
        · obtain ⟨rfl, ⟨name, shape⟩, onWay⟩ :=
            (holds.mem_childPackages_iff packaged led).1 listed
          obtain ⟨begins, short, further⟩ := (ih onWay).1 below
          rw [shape] at begins short
          rw [List.length_append, List.length_singleton] at short
          exact ⟨(List.prefix_append _ _).trans begins, by omega, further⟩
      · rintro ⟨⟨rest, whole⟩, short, onWay⟩
        -- What is left of the other path begins with the name of a child, if anything is left.
        cases rest with
        | nil =>
            rw [List.append_nil] at whole
            exact .inl (Text.split_inj.1 whole).symm
        | cons name rest =>
            have further : Text.split '.' package ++ [name] <+: Text.split '.' other :=
              ⟨rest, by rw [← whole, List.append_assoc]; rfl⟩
            have childOnWay := onWay.mono further
            have shape := split_child packaged childOnWay
            rw [← shape] at further childOnWay
            refine .inr ⟨(package ++ "." ++ name, _),
              (holds.mem_childPackages_iff packaged led).2 ⟨rfl, ⟨name, shape⟩, childOnWay⟩, ?_⟩
            refine (ih childOnWay).2 ⟨further, ?_, onWay⟩
            rw [shape, List.length_append, List.length_singleton]
            omega

/-- No package is nested deeper than there are entries. -/
theorem length_split_le (led : LeadsToType declarations (Text.split '.' package)) :
    (Text.split '.' package).length ≤ files.entries.length :=
  Files.length_le_length_entries fun _ some begins =>
    ⟨_, (holds.directory packaged some (led.mono begins)).2⟩

/-- A prefix is listed when it is on the way to a type, with every package below it that is. -/
theorem packagesUnder_eq_ok (qualified : isQualifiedName package = true) {packages : List String}
    (listed : visible.packagesUnder files package = .ok packages) {other : String} :
    other ∈ packages ↔ Text.split '.' package <+: Text.split '.' other ∧
      LeadsToType declarations (Text.split '.' other) := by
  rw [packagesUnder] at listed
  split at listed
  case isFalse => cases listed
  case isTrue directory =>
    cases listed
    have led := (holds.isDirectory_iff packaged qualified).1 directory
    rw [holds.mem_packagesBelow_iff packaged _ led]
    refine and_congr_right fun _ => and_iff_right_of_imp fun onWay => ?_
    have bounded := holds.length_split_le packaged onWay
    omega

/-- The descriptors in the directory of a package are the files of its types. -/
theorem mem_descriptors_iff {name : String} :
    name ∈ sortedNames ((files.children (files.place visible.root ++
        Text.split '.' package)).filter fun (name, entry) => isDescriptor name entry) ↔
      ∃ declaration ∈ declarations, declaration.package = package ∧
        name = declaration.fileName := by
  simp only [sortedNames, List.mem_mergeSort, List.mem_map, List.mem_filter, Prod.exists,
    exists_and_right, exists_eq_right, holds.mem_children_iff]
  constructor
  · rintro ⟨entry, found, descriptor⟩
    cases entry with
    | directory => simp [isDescriptor] at descriptor
    | file content =>
        obtain ⟨declaration, member, place⟩ := holds.eq_filePlace packaged (by simp) found
        obtain ⟨same, named⟩ := List.append_inj' place rfl
        exact ⟨declaration, member, (Text.split_inj.1 same).symm, List.singleton_inj.1 named⟩
  · rintro ⟨declaration, member, rfl, rfl⟩
    obtain ⟨-, content, found⟩ := holds.file packaged member
    refine ⟨.file content, found, ?_⟩
    simp [isDescriptor, (packaged declaration member).extension?_fileName]

/-- A package on the way to a type holds the types that name it. -/
theorem typesIn_eq_ok (led : LeadsToType declarations (Text.split '.' package)) :
    ∃ found, visible.typesIn files package = .ok found ∧
      ∀ declaration, declaration ∈ found ↔
        declaration ∈ declarations ∧ declaration.package = package := by
  have directory : files.isDirectory (visible.packageDirectory package) = true :=
    Files.isDirectory_eq_true_iff.2
      ⟨_, holds.directory packaged (Text.split_ne_nil '.' package) led⟩
  have listed := holds.list_packageDirectory packaged led
  have each : ∀ name ∈ sortedNames ((files.children (files.place visible.root ++
      Text.split '.' package)).filter fun (name, entry) => isDescriptor name entry),
      ∃ declaration ∈ declarations, declaration.package = package ∧
        readDescriptor files package (Path.join (visible.packageDirectory package) name) =
          .ok declaration := by
    intro name member
    obtain ⟨declaration, stored, rfl, rfl⟩ := (holds.mem_descriptors_iff packaged).1 member
    exact ⟨declaration, stored, rfl, holds.readDescriptor_fileName stored⟩
  obtain ⟨found, read⟩ := mapM_isOk_iff.2 fun name member =>
    (each name member).imp fun _ made => made.2.2
  refine ⟨found, by rw [typesIn, directory, listed]; exact read, fun declaration => ?_⟩
  constructor
  · intro member
    obtain ⟨name, named, made⟩ := exists_of_mem_mapM read declaration member
    obtain ⟨other, stored, placed, same⟩ := each name named
    obtain rfl : other = declaration := Except.ok.inj (same.symm.trans made)
    exact ⟨stored, placed⟩
  · rintro ⟨stored, rfl⟩
    exact mem_of_mapM read ((holds.mem_descriptors_iff packaged).2 ⟨declaration, stored, rfl, rfl⟩)
      (holds.readDescriptor_fileName stored)

end Places

end Holds

end DirectoryUniverse

end BusBridge
