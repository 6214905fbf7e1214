/-
This file proves which packages a scan visits, which types it takes from them, and what it passes
over when all of them can be read.
-/

import BusBridge.Proofs.Scan.Survey

namespace BusBridge

namespace ScanStop

variable {visible : Universe} {marker : String}

/-- A package offers the types that it declares and that carry the marker. -/
theorem mem_offered_package_iff {package : String} {declaration : TypeDeclaration} :
    declaration ∈ (ScanStop.package package).offered visible marker ↔
      ∃ declarations, visible.typesIn package = .ok declarations ∧ declaration ∈ declarations ∧
        declaration.carries marker = true := by
  simp only [offered, Scanner.packageEntry]
  cases visible.typesIn package with
  | error failure => simp
  | ok declarations => simp

/-- A package that can be read is not skipped. -/
theorem skip?_package_eq_none {package : String} {declarations : List TypeDeclaration}
    (read : visible.typesIn package = .ok declarations) :
    (ScanStop.package package).skip? visible = none := by
  simp only [skip?, Scanner.packageEntry, read]

/-- Only packages offer types. -/
theorem flatMap_offered (stops : List ScanStop) :
    stops.flatMap (ScanStop.offered visible marker) =
      (stops.filterMap package?).flatMap fun package =>
        (ScanStop.package package).offered visible marker := by
  induction stops with
  | nil => rfl
  | cons stop rest ih =>
      rw [List.flatMap_cons, ih]
      cases stop <;> rfl

end ScanStop

namespace Universe

variable {visible : Universe} {prefixes : List String} {request : ScanRequest} {package : String}

/-- The packages that a scan visits, in the order of its visits. -/
def packagesOn (visible : Universe) (prefixes : List String) : List String :=
  (visible.route prefixes).filterMap ScanStop.package?

/-- No package is visited twice. -/
theorem nodup_packagesOn (visible : Universe) (prefixes : List String) :
    (visible.packagesOn prefixes).Nodup :=
  nodup_keys_firstsBy ..

/-- Below a prefix those packages are visited that the universe lists. -/
theorem mem_packages_stopsOf_iff {packagePrefix : String} :
    package ∈ (visible.stopsOf packagePrefix).filterMap ScanStop.package? ↔
      ∃ packages, Scanner.packagesOf visible packagePrefix = .ok packages ∧
        package ∈ packages := by
  rw [stopsOf]
  cases Scanner.packagesOf visible packagePrefix with
  | error failure => simp
  | ok packages => simp

/-- A package is visited when some prefix lists it. -/
theorem mem_packagesOn_iff :
    package ∈ visible.packagesOn prefixes ↔
      ∃ packagePrefix ∈ prefixes, ∃ packages,
        Scanner.packagesOf visible packagePrefix = .ok packages ∧ package ∈ packages := by
  rw [packagesOn, route, mem_keys_firstsBy_iff, List.filterMap_flatMap, List.mem_flatMap]
  simp only [mem_packages_stopsOf_iff, List.not_mem_nil, not_false_eq_true, and_true]

/-- A survey has the first type of each name. -/
theorem types_survey (visible : Universe) (request : ScanRequest) :
    (visible.survey request).types =
      firstsBy (fun declaration : TypeDeclaration => some declaration.name) []
        ((visible.packagesOn request.prefixes).flatMap fun package =>
          (ScanStop.package package).offered visible request.marker) := by
  rw [survey, ScanStop.flatMap_offered, packagesOn]

/-- A survey names no type twice. -/
theorem nodup_typeNames_survey (visible : Universe) (request : ScanRequest) :
    (visible.survey request).typeNames.Nodup :=
  nodup_map_firstsBy ..

/-- Whatever a scan finds was offered by a package that it visited. -/
theorem offered_of_mem_survey {declaration : TypeDeclaration}
    (found : declaration ∈ (visible.survey request).types) :
    ∃ package ∈ visible.packagesOn request.prefixes,
      declaration ∈ (ScanStop.package package).offered visible request.marker := by
  rw [types_survey] at found
  exact List.mem_flatMap.1 ((firstsBy_sublist ..).mem found)

/-- A name is found when a visited package offers a type with this name. -/
theorem mem_typeNames_survey_iff {name : String} :
    name ∈ (visible.survey request).typeNames ↔
      ∃ package ∈ visible.packagesOn request.prefixes, ∃ declaration,
        declaration ∈ (ScanStop.package package).offered visible request.marker ∧
          declaration.name = name := by
  rw [ScanOutcome.typeNames, types_survey, mem_map_firstsBy_iff]
  simp only [List.mem_map, List.mem_flatMap, List.not_mem_nil, not_false_eq_true, and_true]
  constructor
  · rintro ⟨declaration, ⟨package, visited, offered⟩, named⟩
    exact ⟨package, visited, declaration, offered, named⟩
  · rintro ⟨package, visited, declaration, offered, named⟩
    exact ⟨declaration, ⟨package, visited, offered⟩, named⟩

/-- Why a whole prefix is passed over, if it is. -/
def refusal? (visible : Universe) (packagePrefix : String) : Option ScanFailure :=
  match Scanner.packagesOf visible packagePrefix with
  | .error failure => some failure
  | .ok _ => none

/-- While every visited package can be read, only whole prefixes are passed over. -/
theorem skips_survey (readable : ∀ package ∈ visible.packagesOn request.prefixes,
      ∃ declarations, visible.typesIn package = .ok declarations) :
    (visible.survey request).skips = request.prefixes.filterMap fun packagePrefix =>
      (visible.refusal? packagePrefix).map (.wholePrefix packagePrefix) := by
  have passed : ∀ stop ∈ request.prefixes.flatMap visible.stopsOf,
      stop.package? ≠ none → stop.skip? visible = none := by
    intro stop member keyed
    cases stop with
    | refusal text failure => exact absurd rfl keyed
    | package name =>
        have visited : name ∈ visible.packagesOn request.prefixes := by
          rw [packagesOn, route, mem_keys_firstsBy_iff]
          exact ⟨List.mem_filterMap.2 ⟨_, member, rfl⟩, List.not_mem_nil⟩
        obtain ⟨declarations, read⟩ := readable name visited
        exact ScanStop.skip?_package_eq_none read
  rw [survey, route, filterMap_firstsBy passed, List.filterMap_flatMap,
    List.filterMap_eq_flatMap_toList]
  refine List.flatMap_congr fun packagePrefix member => ?_
  have listed := fun stop inside => passed stop (List.mem_flatMap.2 ⟨packagePrefix, member, inside⟩)
  rw [stopsOf] at listed ⊢
  rw [refusal?]
  cases found : Scanner.packagesOf visible packagePrefix with
  | error failure => rfl
  | ok packages =>
      rw [found] at listed
      simp only [List.mem_map, forall_exists_index, and_imp, forall_apply_eq_imp_iff₂] at listed
      rw [List.filterMap_map]
      simpa using fun name inside => listed name inside (Option.some_ne_none name)

/-- Where all packages can be read, only refused prefixes are warned of. -/
theorem warnings_survey (readable : ∀ package ∈ visible.packagesOn request.prefixes,
      ∃ declarations, visible.typesIn package = .ok declarations) :
    (visible.survey request).warnings = request.prefixes.filterMap visible.refusal? := by
  rw [ScanOutcome.warnings, skips_survey readable, List.map_filterMap]
  refine List.filterMap_congr fun packagePrefix _ => ?_
  rw [Option.map_map]
  exact Option.map_id'

end Universe

end BusBridge
