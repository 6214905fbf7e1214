/-
This file reads universes from directories: a package is a directory, and a type is a file in it
that holds the type's declaration.
-/

import BusBridge.Declaration.Json
import BusBridge.Files.Operations
import BusBridge.Universe.Basic

namespace BusBridge

structure DirectoryUniverse where
  root : String
  deriving DecidableEq, Repr, Inhabited

namespace DirectoryUniverse

def packageDirectory (visible : DirectoryUniverse) (package : String) : String :=
  (Text.split '.' package).foldl Path.join visible.root

def sortedNames (entries : List (String × FileEntry)) : List String :=
  (entries.map Prod.fst).mergeSort fun first second => decide (first ≤ second)

def childPackages (files : Files) (package directory : String) : List (String × String) :=
  match files.list directory with
  | .error _ => []
  | .ok entries =>
      (sortedNames (entries.filter fun entry => entry.2 == .directory)).map fun name =>
        (package ++ "." ++ name, Path.join directory name)

/-- The depth bounds the nesting of the directories that are listed. -/
def packagesBelow (files : Files) : Nat → String → String → List String
  | 0, package, _ => [package]
  | depth + 1, package, directory =>
      package :: (childPackages files package directory).flatMap fun (child, childDirectory) =>
        packagesBelow files depth child childDirectory

/-- No directory is nested deeper than there are entries. -/
def packagesUnder (visible : DirectoryUniverse) (files : Files) (packagePrefix : String) :
    Except UniverseFailure (List String) :=
  let directory := visible.packageDirectory packagePrefix
  if files.isDirectory directory then
    .ok (packagesBelow files (files.entries.length + 1) packagePrefix directory)
  else .error (.packageNotFound packagePrefix)

def readDescriptor (files : Files) (package path : String) :
    Except UniverseFailure TypeDeclaration :=
  match files.readText path with
  | .error cause => .error (.io path cause)
  | .ok text =>
      match TypeDeclaration.parse? text with
      | none => .error (.malformed path)
      | some declaration =>
          if declaration.package = package then .ok declaration
          else .error (.misplaced declaration.name package)

def isDescriptor (name : String) (entry : FileEntry) : Bool :=
  entry != .directory && Path.extension? name == some "json"

/-- The types of a package are in the order of their file names. -/
def typesIn (visible : DirectoryUniverse) (files : Files) (package : String) :
    Except UniverseFailure (List TypeDeclaration) :=
  let directory := visible.packageDirectory package
  if !files.isDirectory directory then .error (.packageNotFound package)
  else
    match files.list directory with
    | .error cause => .error (.io directory cause)
    | .ok entries =>
        (sortedNames (entries.filter fun (name, entry) => isDescriptor name entry)).mapM
          fun name => readDescriptor files package (Path.join directory name)

def toUniverse (visible : DirectoryUniverse) (files : Files) : Universe where
  packagesUnder := visible.packagesUnder files
  typesIn := visible.typesIn files

end DirectoryUniverse

end BusBridge
