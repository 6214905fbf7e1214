/-
This file holds universes: the types that a generator can see, package by package.
-/

import BusBridge.Declaration.Basic
import BusBridge.Files.Basic
import BusBridge.Text.Quoted

namespace BusBridge

inductive UniverseFailure where
  | packageNotFound (name : String)
  | io (path : String) (cause : FileFailure)
  | malformed (path : String)
  | misplaced (typeName package : String)
  deriving DecidableEq, Repr

def UniverseFailure.message : UniverseFailure → String
  | .packageNotFound name => s!"package not found: {name}"
  | .io path cause => s!"I/O error reading {Text.quote path}: {cause.message}"
  | .malformed path => s!"malformed type descriptor {Text.quote path}: no type declaration"
  | .misplaced typeName package =>
      s!"type {typeName} is declared in package directory {package}"

/-- A kind names a failure for machines, whatever its details are. -/
def UniverseFailure.kind : UniverseFailure → String
  | .packageNotFound _ => "Universe.PackageNotFound"
  | .io .. => "Universe.Io"
  | .malformed _ => "Universe.Malformed"
  | .misplaced .. => "Universe.Misplaced"

/-- A prefix is listed with every package below it, and a package with its own types. -/
structure Universe where
  packagesUnder : String → Except UniverseFailure (List String)
  typesIn : String → Except UniverseFailure (List TypeDeclaration)

/-- A package lies within itself and within every package that it is nested in: the name of that
one is followed by a dot, which is looked for among the bytes. -/
def isWithin (package outer : String) : Bool :=
  package == outer ||
    (Text.startsWith outer package && package.toUTF8[outer.utf8ByteSize]? == some '.'.toUInt8)

end BusBridge
