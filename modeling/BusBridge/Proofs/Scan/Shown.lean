/-
This file says when a universe shows some types, and proves what a scan finds in such a universe.
-/

import BusBridge.Proofs.Scan.Route
import BusBridge.Proofs.Universe.Prefix

namespace BusBridge

open Java (isQualifiedName prefixProblem? PrefixProblem)

/-- A prefix is warned about when it is ill formed, or covers no package that holds types. -/
def prefixWarning? (declarations : List TypeDeclaration) (packagePrefix : String) :
    Option ScanFailure :=
  if isQualifiedName packagePrefix = true then
    if ∃ declaration ∈ declarations, Covers packagePrefix declaration.package then none
    else some (.unreadablePackage packagePrefix s!"package not found: {packagePrefix}")
  else
    some (.malformedPrefix packagePrefix
      ((prefixProblem? packagePrefix).elim "" PrefixProblem.message))

/-- A universe shows some types when each of them can be reached through the prefixes of its
package, and every package that can be reached holds just those of them that name it. Packages
without types may be listed as well. -/
structure Universe.Shows (visible : Universe) (declarations : List TypeDeclaration) : Prop where
  refusals : visible.refusal? = prefixWarning? declarations
  within : ∀ packagePrefix packages, Scanner.packagesOf visible packagePrefix = .ok packages →
    ∀ package ∈ packages, Covers packagePrefix package
  complete : ∀ packagePrefix packages, Scanner.packagesOf visible packagePrefix = .ok packages →
    ∀ declaration ∈ declarations, Covers packagePrefix declaration.package →
      declaration.package ∈ packages
  contents : ∀ packagePrefix packages, Scanner.packagesOf visible packagePrefix = .ok packages →
    ∀ package ∈ packages, ∃ found, visible.typesIn package = .ok found ∧
      ∀ declaration, declaration ∈ found ↔
        declaration ∈ declarations ∧ declaration.package = package

namespace Universe.Shows

variable {visible : Universe} {declarations : List TypeDeclaration} {request : ScanRequest}
  {package : String} {declaration : TypeDeclaration}

theorem typesIn_of_visited (shows : visible.Shows declarations) {prefixes : List String}
    (visited : package ∈ visible.packagesOn prefixes) :
    (∃ packagePrefix ∈ prefixes, Covers packagePrefix package) ∧
      ∃ found, visible.typesIn package = .ok found ∧ ∀ declaration, declaration ∈ found ↔
        declaration ∈ declarations ∧ declaration.package = package := by
  obtain ⟨packagePrefix, member, packages, listed, inside⟩ := mem_packagesOn_iff.1 visited
  exact ⟨⟨packagePrefix, member, shows.within _ _ listed _ inside⟩,
    shows.contents _ _ listed _ inside⟩

/-- The package of a type is visited when some prefix covers it. -/
theorem visited_of_covers (shows : visible.Shows declarations) {prefixes : List String}
    (member : declaration ∈ declarations)
    (covered : ∃ packagePrefix ∈ prefixes, Covers packagePrefix declaration.package) :
    declaration.package ∈ visible.packagesOn prefixes := by
  obtain ⟨packagePrefix, given, covers⟩ := covered
  have unrefused : visible.refusal? packagePrefix = none := by
    rw [shows.refusals, prefixWarning?, if_pos covers.1, if_pos ⟨declaration, member, covers⟩]
  rw [refusal?] at unrefused
  split at unrefused
  case h_1 => cases unrefused
  case h_2 packages listed =>
    exact mem_packagesOn_iff.2 ⟨packagePrefix, given, packages, listed,
      shows.complete _ _ listed _ member covers⟩

theorem warnings_survey (shows : visible.Shows declarations) (request : ScanRequest) :
    (visible.survey request).warnings =
      request.prefixes.filterMap (prefixWarning? declarations) := by
  rw [← shows.refusals]
  refine Universe.warnings_survey fun package visited => ?_
  obtain ⟨-, found, read, -⟩ := shows.typesIn_of_visited visited
  exact ⟨found, read⟩

/-- Whatever a scan finds is a marked type below a prefix. -/
theorem of_mem_types_survey (shows : visible.Shows declarations)
    (found : declaration ∈ (visible.survey request).types) :
    declaration ∈ declarations ∧ declaration.carries request.marker = true ∧
      ∃ packagePrefix ∈ request.prefixes, Covers packagePrefix declaration.package := by
  obtain ⟨package, visited, offered⟩ := offered_of_mem_survey found
  obtain ⟨types, read, inside, carried⟩ := ScanStop.mem_offered_package_iff.1 offered
  obtain ⟨covered, others, again, members⟩ := shows.typesIn_of_visited visited
  obtain rfl : types = others := Except.ok.inj (read.symm.trans again)
  obtain ⟨member, rfl⟩ := (members declaration).1 inside
  exact ⟨member, carried, covered⟩

theorem mem_typeNames_survey_iff (shows : visible.Shows declarations) {name : String} :
    name ∈ (visible.survey request).typeNames ↔
      ∃ declaration ∈ declarations, declaration.name = name ∧
        declaration.carries request.marker = true ∧
          ∃ packagePrefix ∈ request.prefixes, Covers packagePrefix declaration.package := by
  constructor
  · intro named
    obtain ⟨declaration, found, rfl⟩ := List.mem_map.1 named
    obtain ⟨member, carried, covered⟩ := shows.of_mem_types_survey found
    exact ⟨declaration, member, rfl, carried, covered⟩
  · rintro ⟨declaration, member, rfl, carried, covered⟩
    have visited := shows.visited_of_covers member covered
    obtain ⟨-, types, read, members⟩ := shows.typesIn_of_visited visited
    have held : declaration ∈ types := (members declaration).2 ⟨member, rfl⟩
    exact Universe.mem_typeNames_survey_iff.2 ⟨declaration.package, visited, declaration,
      ScanStop.mem_offered_package_iff.2 ⟨types, read, held, carried⟩, rfl⟩

/-- With one type for each name, a scan finds every marked type below a prefix. -/
theorem mem_types_survey_iff (shows : visible.Shows declarations)
    (distinct : (declarations.map TypeDeclaration.name).Nodup) :
    declaration ∈ (visible.survey request).types ↔
      declaration ∈ declarations ∧ declaration.carries request.marker = true ∧
        ∃ packagePrefix ∈ request.prefixes, Covers packagePrefix declaration.package := by
  refine ⟨shows.of_mem_types_survey, fun ⟨member, carried, covered⟩ => ?_⟩
  have named : declaration.name ∈ (visible.survey request).typeNames :=
    shows.mem_typeNames_survey_iff.2 ⟨declaration, member, rfl, carried, covered⟩
  obtain ⟨other, found, same⟩ := List.mem_map.1 named
  obtain rfl : other = declaration :=
    List.inj_on_of_nodup_map distinct (shows.of_mem_types_survey found).1 member same
  exact found

end Universe.Shows

end BusBridge
