/-
This file proves what a universe in memory holds: in each package the types that were inserted
into it, in the order of their insertion.
-/

import BusBridge.Proofs.NameMap
import BusBridge.Proofs.Universe.Prefix
import BusBridge.Universe.Memory

namespace BusBridge.MemoryUniverse

variable {declarations : List TypeDeclaration} {package : String}

/-- The types that were inserted into a package. -/
def declaredIn (declarations : List TypeDeclaration) (package : String) : List TypeDeclaration :=
  declarations.filter (·.package == package)

/-- The types of a package are those declared in it. -/
theorem mem_declaredIn_iff {declaration : TypeDeclaration} :
    declaration ∈ declaredIn declarations package ↔
      declaration ∈ declarations ∧ declaration.package = package := by
  simp [declaredIn]

/-- A package is there once a type was inserted into it. -/
def Holds (visible : MemoryUniverse) (declarations : List TypeDeclaration) : Prop :=
  ∀ package, visible.packages.find? package =
    if declaredIn declarations package = [] then none else some (declaredIn declarations package)

/-- A type that is inserted is held. -/
theorem Holds.insert {visible : MemoryUniverse} (held : visible.Holds declarations)
    (declaration : TypeDeclaration) :
    (visible.insert declaration).Holds (declarations ++ [declaration]) := by
  intro package
  have before : visible.typesOf declaration.package =
      declaredIn declarations declaration.package := by
    rw [typesOf, held]
    split
    case isTrue empty => rw [empty]; rfl
    case isFalse => rfl
  rw [MemoryUniverse.insert, NameMap.find?_insert, before]
  by_cases own : package = declaration.package
  · subst own
    simp [declaredIn]
  · have other : declaredIn (declarations ++ [declaration]) package =
        declaredIn declarations package := by
      simp [declaredIn, Ne.symm own]
    rw [if_neg own, other, held]

/-- A universe holds the types that it was made of. -/
theorem holds_ofTypes (declarations : List TypeDeclaration) :
    (ofTypes declarations).Holds declarations := by
  induction declarations using List.reverseRecOn with
  | nil => exact fun _ => rfl
  | append_singleton front declaration ih =>
      rw [ofTypes, List.foldl_concat]
      exact ih.insert declaration

/-- The packages of a universe are those of its types. -/
theorem mem_names_ofTypes_iff :
    package ∈ (ofTypes declarations).packages.names ↔
      ∃ declaration ∈ declarations, declaration.package = package := by
  rw [NameMap.mem_names_iff, holds_ofTypes]
  constructor
  · rintro ⟨types, found⟩
    split at found
    case isTrue => cases found
    case isFalse filled =>
      obtain ⟨declaration, member⟩ := List.exists_mem_of_ne_nil _ filled
      exact ⟨declaration, mem_declaredIn_iff.1 member⟩
  · rintro ⟨declaration, member⟩
    have filled : declaredIn declarations package ≠ [] :=
      List.ne_nil_of_mem (mem_declaredIn_iff.2 member)
    exact ⟨_, if_neg filled⟩

/-- The packages that hold types and lie within a prefix, in the order of their names. -/
def packagesWithin (declarations : List TypeDeclaration) (packagePrefix : String) : List String :=
  (ofTypes declarations).packages.names.filter (isWithin · packagePrefix)

/-- Packages are listed in the order of their names. -/
theorem packagesWithin_sorted (declarations : List TypeDeclaration) (packagePrefix : String) :
    (packagesWithin declarations packagePrefix).Pairwise (· < ·) :=
  (NameMap.names_sorted _).filter _

/-- The packages within a prefix are those with types there. -/
theorem mem_packagesWithin_iff {packagePrefix : String} :
    package ∈ packagesWithin declarations packagePrefix ↔
      (∃ declaration ∈ declarations, declaration.package = package) ∧
        isWithin package packagePrefix = true := by
  rw [packagesWithin, List.mem_filter, mem_names_ofTypes_iff]

/-- A prefix without packages is not found. -/
theorem packagesUnder_ofTypes (declarations : List TypeDeclaration) (packagePrefix : String) :
    (ofTypes declarations).toUniverse.packagesUnder packagePrefix =
      if packagesWithin declarations packagePrefix = [] then
        .error (.packageNotFound packagePrefix)
      else .ok (packagesWithin declarations packagePrefix) := by
  change (ofTypes declarations).packagesUnder packagePrefix = _
  rw [packagesUnder, ← packagesWithin]
  cases packagesWithin declarations packagePrefix with
  | nil => rfl
  | cons package others => rfl

/-- A package is readable once a type was inserted into it. -/
theorem typesIn_ofTypes (filled : ∃ declaration ∈ declarations, declaration.package = package) :
    (ofTypes declarations).toUniverse.typesIn package =
      .ok (declaredIn declarations package) := by
  obtain ⟨declaration, member⟩ := filled
  have found : (ofTypes declarations).packages.find? package =
      some (declaredIn declarations package) := by
    rw [holds_ofTypes, if_neg (List.ne_nil_of_mem (mem_declaredIn_iff.2 member))]
  simp only [toUniverse, typesIn, found]

end BusBridge.MemoryUniverse
