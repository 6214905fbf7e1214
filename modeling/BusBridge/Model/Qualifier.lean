/-
This file holds qualifier sets and the rule by which a message reaches an observer.
-/

import BusBridge.Declaration.Json

namespace BusBridge

structure Qualifier where
  name : String
  members : NameMap String
  deriving DecidableEq, Inhabited

namespace Qualifier

def bare (name : String) : Qualifier :=
  ⟨name, .empty⟩

def ofAnnotation (marker : Annotation) : Qualifier :=
  ⟨marker.name, marker.members⟩

def toJson (qualifier : Qualifier) : Json :=
  .object [("name", .text qualifier.name), ("members", namesToJson qualifier.members)]

def ofJson? (value : Json) : Option Qualifier := do
  match ← value.record? ["name", "members"] with
  | [name, members] =>
      return {
        name := ← Json.required Json.text? name
        members := ← Json.withDefault namesOfJson? .empty members }
  | _ => none

end Qualifier

/-- A set holds at most one qualifier of each name. -/
structure QualifierSet where
  qualifiers : NameMap Qualifier
  deriving DecidableEq, Inhabited

namespace QualifierSet

def empty : QualifierSet := ⟨.empty⟩

/-- The later of two qualifiers with one name is kept. -/
def insert (set : QualifierSet) (qualifier : Qualifier) : QualifierSet :=
  ⟨set.qualifiers.insert qualifier.name qualifier⟩

def ofList (qualifiers : List Qualifier) : QualifierSet :=
  qualifiers.foldl insert empty

def ofNames (names : List String) : QualifierSet :=
  ofList (names.map Qualifier.bare)

def names (set : QualifierSet) : List String :=
  set.qualifiers.names

def find? (set : QualifierSet) (name : String) : Option Qualifier :=
  set.qualifiers.find? name

def contains (set : QualifierSet) (name : String) : Bool :=
  set.qualifiers.contains name

def size (set : QualifierSet) : Nat :=
  set.qualifiers.size

def isEmpty (set : QualifierSet) : Bool :=
  set.qualifiers.entries.isEmpty

/-- Two sets agree when they hold the same names, whatever the members are. -/
def sameNames (first second : QualifierSet) : Bool :=
  first.names == second.names

/-- The names are what a hash of the set is made from. -/
def hashKey (set : QualifierSet) : List String :=
  set.names

/-- An absent set counts as empty. -/
def dispatches : Option QualifierSet → Option QualifierSet → Bool
  | some first, some second => first.sameNames second
  | some set, none => set.isEmpty
  | none, some set => set.isEmpty
  | none, none => true

def toJson (set : QualifierSet) : Json :=
  .object [("qualifiers",
    .object (set.qualifiers.entries.map fun entry => (entry.1, entry.2.toJson)))]

end QualifierSet

end BusBridge
