/-
This file proves what a scan loses when one package becomes unreadable: the types of the package,
and nothing else.
-/

import BusBridge.Proofs.Scan.Calls
import BusBridge.Proofs.Scan.Route
import BusBridge.Proofs.Universe.Memory

namespace BusBridge

namespace Universe

/-- The second universe is the first one, but for a package that cannot be read any more. -/
structure LosesPackage (first second : Universe) (package : String) (failure : UniverseFailure) :
    Prop where
  listed : ∀ packagePrefix,
    second.packagesUnder packagePrefix = first.packagesUnder packagePrefix
  others : ∀ other, other ≠ package → second.typesIn other = first.typesIn other
  readable : ∃ declarations, first.typesIn package = .ok declarations
  unreadable : second.typesIn package = .error failure

/-- Every type lies in the package that its name says. -/
def IsPlaced (visible : Universe) : Prop :=
  ∀ package declarations, visible.typesIn package = .ok declarations →
    ∀ declaration ∈ declarations, declaration.package = package

/-- A well-formed prefix that can be listed leads to the package. -/
def Reaches (visible : Universe) (prefixes : List String) (package : String) : Prop :=
  ∃ packagePrefix ∈ prefixes, Java.isQualifiedName packagePrefix = true ∧
    ∃ packages, visible.packagesUnder packagePrefix = .ok packages ∧ package ∈ packages

/-- A scan visits the packages that its prefixes reach. -/
theorem mem_packagesOn_iff_reaches {visible : Universe} {prefixes : List String}
    {package : String} :
    package ∈ visible.packagesOn prefixes ↔ visible.Reaches prefixes package := by
  simp only [mem_packagesOn_iff, Reaches, Scanner.packagesOf_eq_ok_iff, and_assoc,
    exists_and_left]

namespace LosesPackage

variable {first second : Universe} {package : String} {failure : UniverseFailure}
  {prefixes : List String} {request : ScanRequest} {marker : String}

/-- A package that is lost keeps its place on the route. -/
theorem route_eq (loses : first.LosesPackage second package failure) (prefixes : List String) :
    second.route prefixes = first.route prefixes := by
  have stops : second.stopsOf = first.stopsOf := by
    funext packagePrefix
    rw [stopsOf, stopsOf, Scanner.packagesOf, Scanner.packagesOf, loses.listed]
  rw [route, route, stops]

/-- The other packages show what they showed. -/
theorem entry_of_ne (loses : first.LosesPackage second package failure) {other : String}
    (different : other ≠ package) :
    Scanner.packageEntry second other = Scanner.packageEntry first other := by
  rw [Scanner.packageEntry, Scanner.packageEntry, loses.others other different]

/-- A package offers what it offered, unless it is the lost one. -/
theorem offered_eq (loses : first.LosesPackage second package failure) (placed : first.IsPlaced)
    (other : String) :
    (ScanStop.package other).offered second marker =
      ((ScanStop.package other).offered first marker).filter (·.package != package) := by
  have inside : ∀ declaration ∈ (ScanStop.package other).offered first marker,
      declaration.package = other := by
    intro declaration member
    obtain ⟨declarations, read, held, -⟩ := ScanStop.mem_offered_package_iff.1 member
    exact placed other declarations read declaration held
  by_cases lost : other = package
  · subst lost
    have nothing : (ScanStop.package other).offered second marker = [] := by
      simp only [ScanStop.offered, Scanner.packageEntry, loses.unreadable]
    rw [nothing, eq_comm, List.filter_eq_nil_iff]
    intro declaration member
    simp [inside declaration member]
  · have same : (ScanStop.package other).offered second marker =
        (ScanStop.package other).offered first marker := by
      simp only [ScanStop.offered, loses.entry_of_ne lost]
    rw [same, eq_comm, List.filter_eq_self]
    intro declaration member
    simpa [inside declaration member] using lost

/-- The lost package takes its types along. Their names stand for no other type, so none comes
to light that they hid. -/
theorem types_eq (loses : first.LosesPackage second package failure) (placed : first.IsPlaced)
    (request : ScanRequest) :
    (second.survey request).types =
      (first.survey request).types.filter (·.package != package) := by
  have byName : ∀ left right : TypeDeclaration, some left.name = some right.name →
      (left.package != package) = (right.package != package) := by
    intro left right same
    rw [TypeDeclaration.package, TypeDeclaration.package, Option.some.inj same]
  have visited : second.packagesOn request.prefixes = first.packagesOn request.prefixes := by
    rw [packagesOn, packagesOn, loses.route_eq]
  rw [types_survey, types_survey, visited, filter_firstsBy byName, List.filter_flatMap]
  simp only [loses.offered_eq placed]

/-- The other stops are skipped as they were. -/
theorem skip?_of_ne (loses : first.LosesPackage second package failure) {stop : ScanStop}
    (different : stop ≠ .package package) : stop.skip? second = stop.skip? first := by
  cases stop with
  | refusal text cause => rfl
  | package other =>
      have other : other ≠ package := fun same => different (same ▸ rfl)
      simp only [ScanStop.skip?, loses.entry_of_ne other]

/-- A route beside the lost package skips what it skipped. -/
theorem skips_of_not_mem (loses : first.LosesPackage second package failure) {stops : List ScanStop}
    (absent : ScanStop.package package ∉ stops) :
    stops.filterMap (ScanStop.skip? second) = stops.filterMap (ScanStop.skip? first) :=
  List.filterMap_congr fun _ member =>
    loses.skip?_of_ne (ne_of_mem_of_not_mem member absent)

/-- A package is on the route when it is visited. -/
theorem mem_route_iff (visible : Universe) (prefixes : List String) :
    ScanStop.package package ∈ visible.route prefixes ↔
      package ∈ visible.packagesOn prefixes := by
  rw [packagesOn, List.mem_filterMap]
  constructor
  · exact fun member => ⟨_, member, rfl⟩
  · rintro ⟨stop, member, named⟩
    cases stop with
    | refusal text cause => cases named
    | package other =>
        cases named
        exact member

/-- The lost package is passed over where its types were taken before. -/
theorem skips_of_reached (loses : first.LosesPackage second package failure)
    (reached : package ∈ first.packagesOn prefixes) :
    ∃ front back,
      (first.route prefixes).filterMap (ScanStop.skip? first) = front ++ back ∧
        (first.route prefixes).filterMap (ScanStop.skip? second) =
          front ++ .onePackage package (.unreadablePackage package failure.message) :: back := by
  obtain ⟨before, behind, whole⟩ := List.append_of_mem ((mem_route_iff first prefixes).2 reached)
  have once : (first.packagesOn prefixes).Nodup := nodup_packagesOn first prefixes
  rw [packagesOn, whole, List.filterMap_append,
    List.filterMap_cons_some (ScanStop.package?_package package)] at once
  have apart := List.nodup_append.1 once
  have keyed : ∀ {stops : List ScanStop}, ScanStop.package package ∈ stops →
      package ∈ stops.filterMap ScanStop.package? :=
    fun member => List.mem_filterMap.2 ⟨_, member, rfl⟩
  have notBefore : ScanStop.package package ∉ before := fun member =>
    apart.2.2 package (keyed member) package List.mem_cons_self rfl
  have notBehind : ScanStop.package package ∉ behind := fun member =>
    (List.nodup_cons.1 apart.2.1).1 (keyed member)
  obtain ⟨declarations, read⟩ := loses.readable
  have kept : (ScanStop.package package).skip? first = none :=
    ScanStop.skip?_package_eq_none read
  have lost : (ScanStop.package package).skip? second =
      some (.onePackage package (.unreadablePackage package failure.message)) := by
    simp only [ScanStop.skip?, Scanner.packageEntry, loses.unreadable]
  refine ⟨before.filterMap (ScanStop.skip? first), behind.filterMap (ScanStop.skip? first), ?_, ?_⟩
  · rw [whole, List.filterMap_append, List.filterMap_cons_none kept]
  · rw [whole, List.filterMap_append, List.filterMap_cons_some lost,
      loses.skips_of_not_mem notBefore, loses.skips_of_not_mem notBehind]

end LosesPackage

end Universe

open Universe (LosesPackage)

/-- A scan of a universe that lost a package finds the types of the other packages in the same
order. If a prefix leads to the package, there is one more warning at one place, and none
otherwise. -/
theorem scan_without_package {first second : Universe} {package : String}
    {failure : UniverseFailure} (loses : first.LosesPackage second package failure)
    (placed : first.IsPlaced) (earlier later : List Scanner.Call) (request : ScanRequest) :
    let whole := ((Scanner.after first earlier).scan first request).1
    let remaining := ((Scanner.after second later).scan second request).1
    remaining.types = whole.types.filter (·.package != package) ∧
      (first.Reaches request.prefixes package →
        ∃ front back, whole.warnings = front ++ back ∧
          remaining.warnings = front ++ .unreadablePackage package failure.message :: back) ∧
      (¬first.Reaches request.prefixes package → remaining = whole) := by
  simp only [Scanner.scan_after, ← Universe.mem_packagesOn_iff_reaches]
  refine ⟨loses.types_eq placed request, fun reached => ?_, fun missed => ?_⟩
  · obtain ⟨front, back, before, after⟩ := loses.skips_of_reached reached
    refine ⟨front.map ScanSkip.failure, back.map ScanSkip.failure, ?_, ?_⟩
    · rw [ScanOutcome.warnings, Universe.survey, before, List.map_append]
    · rw [ScanOutcome.warnings, Universe.survey, loses.route_eq, after, List.map_append]
      rfl
  · have visited : ∀ declaration ∈ (first.survey request).types,
        (declaration.package != package) = true := by
      intro declaration found
      obtain ⟨other, member, offered⟩ := Universe.offered_of_mem_survey found
      obtain ⟨declarations, read, held, -⟩ := ScanStop.mem_offered_package_iff.1 offered
      rw [placed other declarations read declaration held]
      simpa using ne_of_mem_of_not_mem member missed
    have types : (second.survey request).types = (first.survey request).types := by
      rw [loses.types_eq placed, List.filter_eq_self.2 visited]
    have skips : (second.survey request).skips = (first.survey request).skips := by
      rw [Universe.survey, Universe.survey, loses.route_eq]
      exact loses.skips_of_not_mem (mt (LosesPackage.mem_route_iff first _).1 missed)
    cases whole : first.survey request
    cases remaining : second.survey request
    rw [whole, remaining] at types skips
    exact congrArg₂ ScanOutcome.mk types skips

/-- The universe with one package that cannot be read. -/
def Universe.without (visible : Universe) (package : String) (failure : UniverseFailure) :
    Universe where
  packagesUnder := visible.packagesUnder
  typesIn other := if other = package then .error failure else visible.typesIn other

/-- A package may be taken out of any universe. -/
theorem Universe.losesPackage_without {visible : Universe} {package : String}
    {declarations : List TypeDeclaration} (read : visible.typesIn package = .ok declarations)
    (failure : UniverseFailure) :
    visible.LosesPackage (visible.without package failure) package failure where
  listed _ := rfl
  others _ different := if_neg different
  readable := ⟨declarations, read⟩
  unreadable := if_pos rfl

/-- A universe in memory shows each type in its own package. -/
theorem MemoryUniverse.isPlaced_ofTypes (declarations : List TypeDeclaration) :
    (ofTypes declarations).toUniverse.IsPlaced := by
  intro package found read declaration member
  simp only [toUniverse, typesIn, holds_ofTypes declarations package] at read
  split at read
  case h_2 => cases read
  case h_1 types held =>
    cases read
    split at held
    case isTrue => cases held
    case isFalse =>
      cases held
      exact (mem_declaredIn_iff.1 member).2

/-- Types in a package, in one below it and in one beside it, which all carry a marker. -/
def shopTypes : List TypeDeclaration :=
  ["shop.cart.Basket", "shop.Orders", "shop.Returns", "shops.Map"].map fun name =>
    ⟨name, .interfaceType, [⟨"Remote", .empty, false⟩], []⟩

/-- The package is reached through two prefixes, and is passed over once, between two others. -/
theorem scan_without_shop :
    let whole := (MemoryUniverse.ofTypes shopTypes).toUniverse
    let failure := UniverseFailure.io "shop" .notADirectory
    let request : ScanRequest := ⟨"Remote", ["shop", "bad.", "shop", "shops", "missing"]⟩
    whole.LosesPackage (whole.without "shop" failure) "shop" failure ∧ whole.IsPlaced ∧
      (({} : Scanner).scan whole request).1.typeNames =
        ["shop.Orders", "shop.Returns", "shop.cart.Basket", "shops.Map"] ∧
      (({} : Scanner).scan (whole.without "shop" failure) request).1.typeNames =
        ["shop.cart.Basket", "shops.Map"] ∧
      ∃ front back,
        (({} : Scanner).scan whole request).1.warnings = front ++ back ∧
          (({} : Scanner).scan (whole.without "shop" failure) request).1.warnings =
            front ++ .unreadablePackage "shop" failure.message :: back := by
  have read : (MemoryUniverse.ofTypes shopTypes).toUniverse.typesIn "shop" =
      .ok (MemoryUniverse.declaredIn shopTypes "shop") :=
    MemoryUniverse.typesIn_ofTypes (by decide +kernel)
  have loses := Universe.losesPackage_without read (.io "shop" .notADirectory)
  have placed := MemoryUniverse.isPlaced_ofTypes shopTypes
  have reached : (MemoryUniverse.ofTypes shopTypes).toUniverse.Reaches
      ["shop", "bad.", "shop", "shops", "missing"] "shop" :=
    ⟨"shop", by decide, by decide +kernel, _, rfl, by decide +kernel⟩
  obtain ⟨types, warned, -⟩ := scan_without_package loses placed [] []
    ⟨"Remote", ["shop", "bad.", "shop", "shops", "missing"]⟩
  exact ⟨loses, placed, by decide +kernel, by decide +kernel, warned reached⟩

end BusBridge
