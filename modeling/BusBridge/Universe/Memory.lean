/-
This file holds universes in memory.
-/

import BusBridge.Universe.Basic

namespace BusBridge

/-- The types of a package are in the order of their insertion. -/
structure MemoryUniverse where
  packages : NameMap (List TypeDeclaration) := .empty
  deriving Inhabited

namespace MemoryUniverse

/-- A package need not be declared before its types. -/
def typesOf (visible : MemoryUniverse) (package : String) : List TypeDeclaration :=
  (visible.packages.find? package).getD []

def insert (visible : MemoryUniverse) (declaration : TypeDeclaration) : MemoryUniverse :=
  ⟨visible.packages.insert declaration.package
    (visible.typesOf declaration.package ++ [declaration])⟩

def ofTypes (declarations : List TypeDeclaration) : MemoryUniverse :=
  declarations.foldl insert {}

def packagesUnder (visible : MemoryUniverse) (packagePrefix : String) :
    Except UniverseFailure (List String) :=
  match visible.packages.names.filter fun package => isWithin package packagePrefix with
  | [] => .error (.packageNotFound packagePrefix)
  | found => .ok found

def typesIn (visible : MemoryUniverse) (package : String) :
    Except UniverseFailure (List TypeDeclaration) :=
  match visible.packages.find? package with
  | some declarations => .ok declarations
  | none => .error (.packageNotFound package)

def toUniverse (visible : MemoryUniverse) : Universe where
  packagesUnder := visible.packagesUnder
  typesIn := visible.typesIn

end MemoryUniverse

end BusBridge
