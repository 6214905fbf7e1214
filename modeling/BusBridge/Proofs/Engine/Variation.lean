/-
This file compares two universes that differ in the methods of one type. Other targets are planned
and made alike.
-/

import BusBridge.Proofs.Engine.PassContent
import BusBridge.Proofs.Engine.ScannedBean
import BusBridge.Proofs.Scan.InMemory
import Mathlib.Data.List.Sort

namespace BusBridge

/-- The declarations are equal, but for the methods of the type with the given name. -/
structure TypeDeclaration.AgreesBut (bean : String) (first second : TypeDeclaration) : Prop where
  name : first.name = second.name
  kind : first.kind = second.kind
  annotations : first.annotations = second.annotations
  methods : first.name ≠ bean → first.methods = second.methods

theorem TypeDeclaration.AgreesBut.eq {bean : String} {first second : TypeDeclaration}
    (agrees : AgreesBut bean first second) (other : first.name ≠ bean) : first = second := by
  obtain ⟨name, kind, annotations, methods⟩ := agrees
  rw [TypeDeclaration.mk.injEq]
  exact ⟨name, kind, annotations, methods other⟩

/-- The universes list the same packages, and the types in them agree one by one. -/
structure Universe.AgreesBut (bean : String) (first second : Universe) : Prop where
  packages : first.packagesUnder = second.packagesUnder
  types : ∀ package, List.Forall₂ (TypeDeclaration.AgreesBut bean) (first.typesOf package)
    (second.typesOf package)

/-- Whatever has the name is marked as a bean, and not as a remote interface. -/
def Universe.IsObserved (types : Universe) (configuration : Configuration) (bean : String) : Prop :=
  ∀ package, ∀ declaration ∈ types.typesOf package, declaration.name = bean →
    declaration.carries configuration.annotations.observes = true ∧
      declaration.carries configuration.annotations.remote = false

section Lists

variable {bean : String} {items others : List TypeDeclaration}

/-- Lists without the type are equal. -/
theorem eq_of_agreesBut (agree : List.Forall₂ (TypeDeclaration.AgreesBut bean) items others)
    (absent : ∀ declaration ∈ items, declaration.name ≠ bean) : items = others := by
  induction agree with
  | nil => rfl
  | cons pair _ ih =>
      rw [pair.eq (absent _ List.mem_cons_self),
        ih fun declaration member => absent declaration (List.mem_cons_of_mem _ member)]

theorem names_of_agreesBut (agree : List.Forall₂ (TypeDeclaration.AgreesBut bean) items others) :
    items.map TypeDeclaration.name = others.map TypeDeclaration.name := by
  induction agree with
  | nil => rfl
  | cons pair _ ih => rw [List.map_cons, List.map_cons, pair.name, ih]

/-- A choice that pairs agree on leaves lists that agree. -/
theorem filter_agreesBut (agree : List.Forall₂ (TypeDeclaration.AgreesBut bean) items others)
    {chosen : TypeDeclaration → Bool}
    (same : ∀ first ∈ items, ∀ second ∈ others, TypeDeclaration.AgreesBut bean first second →
      chosen first = chosen second) :
    List.Forall₂ (TypeDeclaration.AgreesBut bean) (items.filter chosen) (others.filter chosen) := by
  induction agree with
  | nil => exact .nil
  | @cons first second _ _ pair _ ih =>
      have rest := ih fun one member other also =>
        same one (List.mem_cons_of_mem _ member) other (List.mem_cons_of_mem _ also)
      have both := same first List.mem_cons_self second List.mem_cons_self pair
      rw [List.filter_cons, List.filter_cons, ← both]
      split
      · exact .cons pair rest
      · exact rest

end Lists

namespace Universe.AgreesBut

variable {bean : String} {first second : Universe} {prefixes : List String}
  {request : ScanRequest} {configuration : Configuration} {target : Target}

theorem packagesOn_eq (agrees : AgreesBut bean first second) (prefixes : List String) :
    first.packagesOn prefixes = second.packagesOn prefixes := by
  have stops : first.stopsOf = second.stopsOf := by
    funext packagePrefix
    simp only [stopsOf, Scanner.packagesOf, agrees.packages]
  rw [packagesOn, packagesOn, route, route, stops]

/-- Where the types with the name are marked alike, the scans find lists that agree. -/
theorem survey (agrees : AgreesBut bean first second)
    (alike : ∀ package, ∀ one ∈ first.typesOf package, ∀ other ∈ second.typesOf package,
      one.name = bean → other.name = bean →
        one.carries request.marker = other.carries request.marker) :
    List.Forall₂ (TypeDeclaration.AgreesBut bean) (first.survey request).types
      (second.survey request).types := by
  rw [types_survey, types_survey, agrees.packagesOn_eq]
  refine firstsBy_forall₂ (fun _ _ pair => congrArg some pair.name) ?_
  have visited : List.Forall₂ Eq (second.packagesOn request.prefixes)
      (second.packagesOn request.prefixes) := List.forall₂_refl _
  refine List.rel_flatMap visited ?_
  rintro package _ rfl
  dsimp only
  rw [offered_eq_filter, offered_eq_filter]
  refine filter_agreesBut (agrees.types package) fun one member other also pair => ?_
  by_cases own : one.name = bean
  · exact alike package one member other also own (pair.name ▸ own)
  · rw [pair.eq own]

/-- A type with another name is found as it is. -/
theorem findBean_eq (agrees : AgreesBut bean first second) {name : String} (other : name ≠ bean) :
    Pipeline.findBean first name = Pipeline.findBean second name := by
  have found {items others : List TypeDeclaration}
      (agree : List.Forall₂ (TypeDeclaration.AgreesBut bean) items others) :
      items.find? (·.name == name) = others.find? (·.name == name) := by
    induction agree with
    | nil => rfl
    | @cons one two _ _ pair _ ih =>
        rw [List.find?_cons, List.find?_cons, ← pair.name, ih]
        cases named : one.name == name with
        | false => rfl
        | true =>
            have own : one.name ≠ bean := by
              rw [beq_iff_eq.1 named]
              exact other
            rw [pair.eq own]
  have same := found (agrees.types (ClassName.parse name).package)
  rw [typesOf, typesOf] at same
  rw [Pipeline.findBean, Pipeline.findBean, same]

/-- The same targets are planned, the bean among them. -/
theorem plannedTargets_eq (agrees : AgreesBut bean first second)
    (marked : first.IsObserved configuration bean)
    (alsoMarked : second.IsObserved configuration bean) :
    plannedTargets configuration first = plannedTargets configuration second := by
  let request : ScanRequest := ⟨configuration.annotations.observes, configuration.packages⟩
  have found : List.Forall₂ (TypeDeclaration.AgreesBut bean) (first.survey request).types
      (second.survey request).types :=
    agrees.survey fun package one member other also named alsoNamed =>
      (marked package one member named).1.trans (alsoMarked package other also alsoNamed).1.symm
  have names := congrArg (List.map Target.observer) (names_of_agreesBut found)
  rw [List.map_map, List.map_map] at names
  exact congrArg (_ :: ·) names

theorem remotes_eq (agrees : AgreesBut bean first second)
    (marked : first.IsObserved configuration bean)
    (alsoMarked : second.IsObserved configuration bean) :
    (first.survey configuration.remoteRequest).types =
      (second.survey configuration.remoteRequest).types := by
  refine eq_of_agreesBut (agrees.survey fun package one member other also named alsoNamed => ?_) ?_
  · exact (marked package one member named).2.trans (alsoMarked package other also alsoNamed).2.symm
  · intro declaration found named
    obtain ⟨package, -, offered⟩ := offered_of_mem_survey found
    rw [offered_eq_filter, List.mem_filter] at offered
    exact absurd (offered.2.symm.trans (marked package _ offered.1 named).2) nofun

/-- What is made for another target does not depend on the methods of the bean. -/
theorem made_eq (agrees : AgreesBut bean first second)
    (marked : first.IsObserved configuration bean)
    (alsoMarked : second.IsObserved configuration bean)
    (other : target ≠ .observer bean) :
    Pipeline.made configuration first target = Pipeline.made configuration second target := by
  obtain ⟨name, strategy⟩ := target
  cases strategy with
  | rpcProxy =>
      simp only [Pipeline.made, agrees.remotes_eq marked alsoMarked]
  | observerSubscription =>
      have different : name ≠ bean := fun same => other (by rw [same]; rfl)
      simp only [Pipeline.made, Pipeline.observerArtifact, Pipeline.beanModel,
        agrees.findBean_eq different]

end Universe.AgreesBut

namespace MemoryUniverse

variable {bean : String} {first second : List TypeDeclaration}

theorem typesOf_ofTypes (declarations : List TypeDeclaration) (package : String) :
    (ofTypes declarations).toUniverse.typesOf package = declaredIn declarations package := by
  have held := holds_ofTypes declarations package
  simp only [Universe.typesOf, toUniverse, typesIn, held]
  by_cases empty : declaredIn declarations package = []
  · rw [if_pos empty, empty]
    rfl
  · rw [if_neg empty]
    rfl

/-- Types that agree lie in the same packages. -/
theorem agreesBut_ofTypes (agree : List.Forall₂ (TypeDeclaration.AgreesBut bean) first second) :
    Universe.AgreesBut bean (ofTypes first).toUniverse (ofTypes second).toUniverse := by
  have packages : first.map TypeDeclaration.package = second.map TypeDeclaration.package := by
    have names := congrArg (List.map fun name => (ClassName.parse name).package)
      (names_of_agreesBut agree)
    rwa [List.map_map, List.map_map] at names
  constructor
  case packages =>
    funext packagePrefix
    have within : packagesWithin first packagePrefix = packagesWithin second packagePrefix := by
      refine (packagesWithin_sorted first packagePrefix).eq_of_mem_iff
        (packagesWithin_sorted second packagePrefix) fun package => ?_
      rw [mem_packagesWithin_iff, mem_packagesWithin_iff, ← List.mem_map, ← List.mem_map, packages]
    rw [packagesUnder_ofTypes, packagesUnder_ofTypes, within]
  case types =>
    intro package
    rw [typesOf_ofTypes, typesOf_ofTypes]
    refine filter_agreesBut agree fun one _ other _ pair => ?_
    rw [TypeDeclaration.package, TypeDeclaration.package, pair.name]

theorem isObserved_ofTypes {configuration : Configuration} {declarations : List TypeDeclaration}
    (marked : ∀ declaration ∈ declarations, declaration.name = bean →
      declaration.carries configuration.annotations.observes = true ∧
        declaration.carries configuration.annotations.remote = false) :
    (ofTypes declarations).toUniverse.IsObserved configuration bean := by
  intro package declaration member named
  rw [typesOf_ofTypes, mem_declaredIn_iff] at member
  exact marked declaration member.1 named

end MemoryUniverse

end BusBridge
