/-
This file proves what a scan of types in memory finds, in which order, and which prefixes it
warns about.
-/

import BusBridge.Proofs.Scan.Calls
import BusBridge.Proofs.Scan.Shown
import BusBridge.Proofs.Text.ByteOrder
import BusBridge.Proofs.Universe.Memory

namespace BusBridge

open Java (isQualifiedName)

/-- The place of the first prefix that covers a package. -/
def coverPlace (prefixes : List String) (package : String) : Nat :=
  prefixes.findIdx fun packagePrefix => Covers packagePrefix package

/-- Packages are visited in the order of the prefixes that first cover them, then by the bytes of
their names. -/
def VisitedBefore (prefixes : List String) (first second : String) : Prop :=
  coverPlace prefixes first < coverPlace prefixes second ∨
    coverPlace prefixes first = coverPlace prefixes second ∧ Text.bytes first < Text.bytes second

/-- Types of one package are found in the order of their insertion. -/
def FoundBefore (declarations : List TypeDeclaration) (prefixes : List String)
    (first second : TypeDeclaration) : Prop :=
  VisitedBefore prefixes first.package second.package ∨
    first.package = second.package ∧ declarations.idxOf first < declarations.idxOf second

section Places

variable {prefixes : List String} {packagePrefix package : String}

/-- A package that the first prefix covers is found there. -/
theorem coverPlace_cons_of_covers (covered : Covers packagePrefix package) :
    coverPlace (packagePrefix :: prefixes) package = 0 := by
  simp [coverPlace, List.findIdx_cons, covered]

/-- A package that the first prefix does not cover is found later. -/
theorem coverPlace_cons_of_not_covers (uncovered : ¬Covers packagePrefix package) :
    coverPlace (packagePrefix :: prefixes) package = coverPlace prefixes package + 1 := by
  simp [coverPlace, List.findIdx_cons, uncovered]

/-- A prefix that covers neither of two packages keeps their order. -/
theorem VisitedBefore.cons {first second : String} (before : VisitedBefore prefixes first second)
    (notFirst : ¬Covers packagePrefix first) (notSecond : ¬Covers packagePrefix second) :
    VisitedBefore (packagePrefix :: prefixes) first second := by
  rw [VisitedBefore, coverPlace_cons_of_not_covers notFirst,
    coverPlace_cons_of_not_covers notSecond]
  exact before.imp Nat.succ_lt_succ (And.imp_left (congrArg Nat.succ))

/-- What only later prefixes cover comes later. -/
theorem visitedBefore_of_not_covers {first second : String} (covered : Covers packagePrefix first)
    (uncovered : ¬Covers packagePrefix second) :
    VisitedBefore (packagePrefix :: prefixes) first second := by
  refine .inl ?_
  rw [coverPlace_cons_of_covers covered, coverPlace_cons_of_not_covers uncovered]
  exact Nat.succ_pos _

/-- What the first prefix covers is visited by name. -/
theorem visitedBefore_of_lt {first second : String} (firstCovered : Covers packagePrefix first)
    (secondCovered : Covers packagePrefix second) (less : first < second) :
    VisitedBefore (packagePrefix :: prefixes) first second := by
  refine .inr ⟨?_, Text.bytes_lt_iff.2 less⟩
  rw [coverPlace_cons_of_covers firstCovered, coverPlace_cons_of_covers secondCovered]

end Places

/-- What a scan of some inserted types has to find: each name once, if some type with this name
carries the marker below a well-formed prefix, and then the first such type. -/
structure ScanOutcome.Answers (outcome : ScanOutcome) (declarations : List TypeDeclaration)
    (request : ScanRequest) : Prop where
  once : outcome.typeNames.Nodup
  found : ∀ name, name ∈ outcome.typeNames ↔
    ∃ declaration ∈ declarations, declaration.name = name ∧
      declaration.carries request.marker = true ∧
        ∃ packagePrefix ∈ request.prefixes, Covers packagePrefix declaration.package
  first : ∀ declaration ∈ outcome.types,
    declarations.find? (fun other =>
      other.carries request.marker && other.name == declaration.name) = some declaration
  ordered : outcome.types.Pairwise (FoundBefore declarations request.prefixes)
  warned : outcome.warnings = request.prefixes.filterMap (prefixWarning? declarations)

namespace MemoryUniverse

variable {declarations : List TypeDeclaration} {prefixes : List String} {package : String}
  {packagePrefix : String} {marker : String}

/-- A prefix leads to no package exactly when it covers no type. -/
theorem packagesWithin_eq_nil_iff (qualified : isQualifiedName packagePrefix = true) :
    packagesWithin declarations packagePrefix = [] ↔
      ¬∃ declaration ∈ declarations, Covers packagePrefix declaration.package := by
  rw [List.eq_nil_iff_forall_not_mem]
  simp only [mem_packagesWithin_iff, covers_iff, qualified, true_and]
  constructor
  · rintro none ⟨declaration, member, covered⟩
    exact none declaration.package ⟨⟨declaration, member, rfl⟩, covered⟩
  · rintro none package ⟨⟨declaration, member, rfl⟩, covered⟩
    exact none ⟨declaration, member, covered⟩

/-- A prefix lists the packages within it, unless it is warned about. -/
theorem packagesOf_ofTypes (declarations : List TypeDeclaration) (packagePrefix : String) :
    Scanner.packagesOf (ofTypes declarations).toUniverse packagePrefix =
      match prefixWarning? declarations packagePrefix with
      | some failure => .error failure
      | none => .ok (packagesWithin declarations packagePrefix) := by
  rw [Scanner.packagesOf, prefixWarning?]
  by_cases qualified : isQualifiedName packagePrefix = true
  · have empty : packagesWithin declarations packagePrefix = [] ↔ _ :=
      packagesWithin_eq_nil_iff qualified
    rw [if_pos qualified, Java.prefixProblem?_eq_none_iff.2 qualified, packagesUnder_ofTypes]
    by_cases none : packagesWithin declarations packagePrefix = []
    · rw [if_pos none, if_neg (empty.1 none)]
      rfl
    · rw [if_neg none, if_pos (not_not.1 (mt empty.2 none))]
  · obtain ⟨problem, found⟩ :=
      Option.ne_none_iff_exists'.1 (mt Java.prefixProblem?_eq_none_iff.1 qualified)
    rw [if_neg qualified, found]
    rfl

/-- A universe in memory refuses the prefixes that are ill formed or cover no types. -/
theorem refusal?_ofTypes (declarations : List TypeDeclaration) :
    (ofTypes declarations).toUniverse.refusal? = prefixWarning? declarations := by
  funext packagePrefix
  rw [Universe.refusal?, packagesOf_ofTypes]
  cases prefixWarning? declarations packagePrefix <;> rfl

/-- A universe in memory shows the types that it was made of. -/
theorem shows_ofTypes (declarations : List TypeDeclaration) :
    (ofTypes declarations).toUniverse.Shows declarations := by
  have listed : ∀ packagePrefix packages,
      Scanner.packagesOf (ofTypes declarations).toUniverse packagePrefix = .ok packages →
        isQualifiedName packagePrefix = true ∧
          packages = packagesWithin declarations packagePrefix := by
    intro packagePrefix packages found
    have qualified := (Scanner.packagesOf_eq_ok_iff.1 found).1
    rw [packagesOf_ofTypes] at found
    split at found
    case h_1 => cases found
    case h_2 => exact ⟨qualified, (Except.ok.inj found).symm⟩
  constructor
  case refusals => exact refusal?_ofTypes declarations
  case within =>
    intro packagePrefix packages found package inside
    obtain ⟨qualified, rfl⟩ := listed _ _ found
    exact covers_iff.2 ⟨qualified, (mem_packagesWithin_iff.1 inside).2⟩
  case complete =>
    intro packagePrefix packages found declaration member covers
    obtain ⟨-, rfl⟩ := listed _ _ found
    exact mem_packagesWithin_iff.2 ⟨⟨declaration, member, rfl⟩, (covers_iff.1 covers).2⟩
  case contents =>
    intro packagePrefix packages found package inside
    obtain ⟨-, rfl⟩ := listed _ _ found
    exact ⟨_, typesIn_ofTypes (mem_packagesWithin_iff.1 inside).1, fun _ => mem_declaredIn_iff⟩

/-- The packages at the stops of a prefix are those that it covers, in the order of their names. -/
theorem packages_stopsOf_ofTypes (declarations : List TypeDeclaration) (packagePrefix : String) :
    ((ofTypes declarations).toUniverse.stopsOf packagePrefix).filterMap ScanStop.package? =
      if isQualifiedName packagePrefix = true then packagesWithin declarations packagePrefix
      else [] := by
  rw [Universe.stopsOf, packagesOf_ofTypes, prefixWarning?]
  by_cases qualified : isQualifiedName packagePrefix = true
  · rw [if_pos qualified, if_pos qualified]
    by_cases none : packagesWithin declarations packagePrefix = []
    · rw [if_neg ((packagesWithin_eq_nil_iff qualified).1 none), none]
      rfl
    · rw [if_pos (not_not.1 (mt (packagesWithin_eq_nil_iff qualified).2 none))]
      simp [List.filterMap_map, Function.comp_def]
  · rw [if_neg qualified, if_neg qualified]
    rfl

/-- The packages below a prefix are visited in the order of their names. -/
theorem packages_stopsOf_sorted (declarations : List TypeDeclaration) (packagePrefix : String) :
    (((ofTypes declarations).toUniverse.stopsOf packagePrefix).filterMap
      ScanStop.package?).Pairwise (· < ·) := by
  rw [packages_stopsOf_ofTypes]
  split
  case isTrue => exact packagesWithin_sorted declarations packagePrefix
  case isFalse => exact .nil

/-- Below a prefix the packages with types are visited that it covers. -/
theorem mem_packages_stopsOf_ofTypes_iff :
    package ∈ ((ofTypes declarations).toUniverse.stopsOf packagePrefix).filterMap
        ScanStop.package? ↔
      (∃ declaration ∈ declarations, declaration.package = package) ∧
        Covers packagePrefix package := by
  rw [packages_stopsOf_ofTypes, covers_iff]
  split
  case isTrue qualified => simp [mem_packagesWithin_iff, qualified]
  case isFalse unqualified => simp [unqualified]

/-- The packages with types are visited that some prefix covers. -/
theorem mem_packagesOn_ofTypes_iff :
    package ∈ (ofTypes declarations).toUniverse.packagesOn prefixes ↔
      (∃ declaration ∈ declarations, declaration.package = package) ∧
        ∃ packagePrefix ∈ prefixes, Covers packagePrefix package := by
  rw [Universe.packagesOn, Universe.route, mem_keys_firstsBy_iff, List.filterMap_flatMap,
    List.mem_flatMap]
  simp only [mem_packages_stopsOf_ofTypes_iff, List.not_mem_nil, not_false_eq_true, and_true]
  tauto

/-- A package offers the marked types that it holds. -/
theorem offered_ofTypes (filled : ∃ declaration ∈ declarations, declaration.package = package) :
    (ScanStop.package package).offered (ofTypes declarations).toUniverse marker =
      declarations.filter fun declaration =>
        declaration.carries marker && declaration.package == package := by
  simp only [ScanStop.offered, Scanner.packageEntry, typesIn_ofTypes filled, declaredIn,
    List.filter_filter]

/-- The packages of one prefix are visited by name, and before those that only later prefixes
cover. -/
theorem packages_sorted (declarations : List TypeDeclaration) (prefixes seen : List String) :
    ((firstsBy ScanStop.package? seen (prefixes.flatMap
      (ofTypes declarations).toUniverse.stopsOf)).filterMap ScanStop.package?).Pairwise
        (VisitedBefore prefixes) := by
  induction prefixes generalizing seen with
  | nil => exact .nil
  | cons packagePrefix rest ih =>
      have covered : ∀ package ∈ (firstsBy ScanStop.package? seen
          ((ofTypes declarations).toUniverse.stopsOf packagePrefix)).filterMap ScanStop.package?,
          Covers packagePrefix package := fun package member =>
        (mem_packages_stopsOf_ofTypes_iff.1 (mem_keys_firstsBy_iff.1 member).1).2
      have uncovered : ∀ package ∈ (firstsBy ScanStop.package?
          (((ofTypes declarations).toUniverse.stopsOf packagePrefix).filterMap ScanStop.package? ++
            seen) (rest.flatMap (ofTypes declarations).toUniverse.stopsOf)).filterMap
              ScanStop.package?, ¬Covers packagePrefix package := by
        intro package member covered
        obtain ⟨listed, new⟩ := mem_keys_firstsBy_iff.1 member
        rw [List.filterMap_flatMap, List.mem_flatMap] at listed
        obtain ⟨later, -, stopped⟩ := listed
        refine new (List.mem_append_left _ (mem_packages_stopsOf_ofTypes_iff.2 ⟨?_, covered⟩))
        exact (mem_packages_stopsOf_ofTypes_iff.1 stopped).1
      rw [List.flatMap_cons, firstsBy_append, List.filterMap_append, List.pairwise_append]
      refine ⟨?_, ?_, fun package here other there =>
        visitedBefore_of_not_covers (covered package here) (uncovered other there)⟩
      · have sorted := packages_stopsOf_sorted declarations packagePrefix
        exact (sorted.sublist ((firstsBy_sublist ..).filterMap _)).imp_of_mem
          fun {first second} inFirst inSecond =>
            visitedBefore_of_lt (covered first inFirst) (covered second inSecond)
      · exact (ih _).imp_of_mem fun {first second} inFirst inSecond before =>
          before.cons (uncovered first inFirst) (uncovered second inSecond)

/-- The types that a package offers, each name by its first type. -/
def foundIn (declarations : List TypeDeclaration) (marker package : String) :
    List TypeDeclaration :=
  firstsBy (fun declaration : TypeDeclaration => some declaration.name) []
    (declarations.filter fun declaration =>
      declaration.carries marker && declaration.package == package)

/-- A type is found in its own package. -/
theorem package_of_mem_foundIn {declaration : TypeDeclaration}
    (member : declaration ∈ foundIn declarations marker package) :
    declaration.package = package := by
  have kept := (List.mem_filter.1 ((firstsBy_sublist ..).mem member)).2
  rw [Bool.and_eq_true, beq_iff_eq] at kept
  exact kept.2

/-- Types of different packages have different names, so the packages are searched one by one. -/
theorem types_survey_ofTypes (declarations : List TypeDeclaration) (request : ScanRequest) :
    ((ofTypes declarations).toUniverse.survey request).types =
      ((ofTypes declarations).toUniverse.packagesOn request.prefixes).flatMap
        (foundIn declarations request.marker) := by
  have offered : ((ofTypes declarations).toUniverse.packagesOn request.prefixes).flatMap
      (fun package => (ScanStop.package package).offered (ofTypes declarations).toUniverse
        request.marker) =
      ((ofTypes declarations).toUniverse.packagesOn request.prefixes).flatMap fun package =>
        declarations.filter fun declaration =>
          declaration.carries request.marker && declaration.package == package :=
    List.flatMap_congr fun package visited =>
      offered_ofTypes (mem_packagesOn_ofTypes_iff.1 visited).1
  have apart : ((ofTypes declarations).toUniverse.packagesOn request.prefixes).Pairwise
      fun first second => ∀ left ∈ declarations.filter (fun declaration =>
          declaration.carries request.marker && declaration.package == first),
        ∀ right ∈ declarations.filter (fun declaration =>
          declaration.carries request.marker && declaration.package == second),
          left.name ≠ right.name := by
    refine (Universe.nodup_packagesOn _ request.prefixes).imp ?_
    intro first second different left inFirst right inSecond same
    simp only [List.mem_filter, Bool.and_eq_true, beq_iff_eq] at inFirst inSecond
    refine different ?_
    rw [← inFirst.2.2, ← inSecond.2.2, TypeDeclaration.package, TypeDeclaration.package, same]
  rw [Universe.types_survey, offered, firstsBy_flatMap apart (by simp)]
  rfl

/-- Of the marked types with one name, the first that was inserted is found. -/
theorem find?_of_mem_survey {request : ScanRequest} {declaration : TypeDeclaration}
    (found : declaration ∈ ((ofTypes declarations).toUniverse.survey request).types) :
    declarations.find? (fun other =>
      other.carries request.marker && other.name == declaration.name) = some declaration := by
  rw [types_survey_ofTypes, List.mem_flatMap] at found
  obtain ⟨package, visited, inside⟩ := found
  rw [← find?_of_mem_firstsBy inside]
  congr 1
  funext other
  by_cases same : other.name = declaration.name
  · have placed : other.package = package := by
      rw [← package_of_mem_foundIn inside, TypeDeclaration.package, same]
      rfl
    simp [same, placed]
  · have different : (other.name == declaration.name) = false := beq_false_of_ne same
    rw [different, Bool.and_false, Bool.and_false]

/-- The types of a survey are in the order of the visits. -/
theorem foundBefore_survey (declarations : List TypeDeclaration) (request : ScanRequest) :
    ((ofTypes declarations).toUniverse.survey request).types.Pairwise
      (FoundBefore declarations request.prefixes) := by
  rw [types_survey_ofTypes, List.pairwise_flatMap]
  constructor
  · intro package visited
    refine pairwise_idxOf_firstsBy.imp_of_mem fun {first second} inFirst inSecond before => ?_
    refine .inr ⟨?_, before⟩
    rw [package_of_mem_foundIn inFirst, package_of_mem_foundIn inSecond]
  · refine (packages_sorted declarations request.prefixes []).imp ?_
    intro first second before left inFirst right inSecond
    refine .inl ?_
    rwa [package_of_mem_foundIn inFirst, package_of_mem_foundIn inSecond]

end MemoryUniverse

/-- The scan of types in memory answers any request, whatever the scanner was called for before:
it finds the types that carry the marker below a well-formed prefix, in the order of the prefixes,
of the packages and of the insertions, and warns about the prefixes that offer nothing. -/
theorem scan_memory_answers (declarations : List TypeDeclaration) (calls : List Scanner.Call)
    (request : ScanRequest) :
    let visible := (MemoryUniverse.ofTypes declarations).toUniverse
    (((Scanner.after visible calls).scan visible request).1).Answers declarations request := by
  intro visible
  rw [Scanner.scan_after]
  have shows : visible.Shows declarations := MemoryUniverse.shows_ofTypes declarations
  exact {
    once := Universe.nodup_typeNames_survey visible request
    found := fun _ => shows.mem_typeNames_survey_iff
    first := fun _ => MemoryUniverse.find?_of_mem_survey
    ordered := MemoryUniverse.foundBefore_survey declarations request
    warned := shows.warnings_survey request }

end BusBridge
