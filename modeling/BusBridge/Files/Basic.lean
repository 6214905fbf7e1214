/-
This file holds trees of files and directories.
-/

namespace BusBridge

/-- An operation on a tree fails for one of these reasons. -/
inductive FileFailure where
  | notFound
  | notADirectory
  | isADirectory
  | alreadyExists
  | nameTooLong
  | malformedName
  | malformedText
  | writeFailed
  deriving DecidableEq, Repr, Inhabited

def FileFailure.message : FileFailure → String
  | .notFound => "No such file or directory"
  | .notADirectory => "Not a directory"
  | .isADirectory => "Is a directory"
  | .alreadyExists => "File exists"
  | .nameTooLong => "File name too long"
  | .malformedName => "file name contained an unexpected NUL byte"
  | .malformedText => "stream did not contain valid UTF-8"
  | .writeFailed => "No space left on device"

/-- Contents are compared byte by byte. -/
instance (priority := 1100) decidableEqContent : DecidableEq ByteArray :=
  ByteArray.instDecidableEq

inductive FileEntry where
  | file (content : ByteArray)
  | directory
  deriving DecidableEq, Inhabited

/-- A location lists the names on the way from the root of a tree. -/
abbrev Location := List String

/-- The root is a directory without an entry. Relative paths start at the working directory. Two
numbers tell temporary files apart: that of the process, and how many it has named before. -/
structure Files where
  entries : List (Location × FileEntry) := []
  workingDirectory : Location := []
  process : Nat := 0
  temporaries : Nat := 0
  deriving DecidableEq, Inhabited

namespace Files

def find? (files : Files) (location : Location) : Option FileEntry :=
  if location = [] then some .directory else files.entries.lookup location

def erase (files : Files) (location : Location) : Files :=
  { files with entries := files.entries.filter fun entry => entry.1 != location }

def put (files : Files) (location : Location) (entry : FileEntry) : Files :=
  { files with
    entries := (files.entries.filter fun old => old.1 != location) ++ [(location, entry)] }

/-- Everything at a location and below it goes. -/
def eraseTree (files : Files) (location : Location) : Files :=
  { files with entries := files.entries.filter fun entry => !location.isPrefixOf entry.1 }

/-- The names directly below a location. -/
def children (files : Files) (location : Location) : List (String × FileEntry) :=
  files.entries.filterMap fun (other, entry) =>
    match other.getLast? with
    | some name => if other = location ++ [name] then some (name, entry) else none
    | none => none

/-- Every file below a location, by the names that lead to it from there. -/
def below (files : Files) (location : Location) : List (Location × ByteArray) :=
  files.entries.filterMap fun (other, entry) =>
    match entry with
    | .file content =>
        if location.isPrefixOf other && location != other then
          some (other.drop location.length, content)
        else none
    | .directory => none

end Files

end BusBridge
