/-
This file reads and changes trees of files through paths. A file is replaced in one step: the
new content is written beside it and then takes its name.
-/

import BusBridge.Files.Basic
import BusBridge.Files.Path

namespace BusBridge.Files

/-- Lengths are in bytes. -/
def maximalNameLength : Nat := 255

def maximalPathLength : Nat := 4095

/-- A path may fail in every tree. -/
def pathFailure? (path : String) : Option FileFailure :=
  if path.toList.contains '\x00' then some .malformedName
  else if maximalPathLength < path.utf8ByteSize then some .nameTooLong
  else if path = "" then some .notFound
  else none

def step (location : Location) (name : String) : Except FileFailure Location :=
  if name = "." then .ok location
  else if name = ".." then .ok location.dropLast
  else if maximalNameLength < name.utf8ByteSize then .error .nameTooLong
  else .ok (location ++ [name])

/-- Every location on the way has to be a directory before the next name is looked at. -/
def walk (files : Files) (location : Location) : List String → Except FileFailure Location
  | [] => .ok location
  | name :: rest =>
      match files.find? location, step location name with
      | none, _ => .error .notFound
      | some (.file _), _ => .error .notADirectory
      | some .directory, .error failure => .error failure
      | some .directory, .ok next => files.walk next rest

def start (files : Files) (path : String) : Location :=
  if Path.isAbsolute path then [] else files.workingDirectory

/-- A path leads to a location, at which there may be nothing. -/
def locate (files : Files) (path : String) : Except FileFailure Location :=
  match pathFailure? path with
  | some failure => .error failure
  | none => files.walk (files.start path) (Path.steps path)

def entryAt (files : Files) (path : String) : Except FileFailure FileEntry := do
  match files.find? (← files.locate path) with
  | some entry => return entry
  | none => throw .notFound

def isDirectory (files : Files) (path : String) : Bool :=
  match files.entryAt path with
  | .ok .directory => true
  | _ => false

def isFile (files : Files) (path : String) : Bool :=
  match files.entryAt path with
  | .ok (.file _) => true
  | _ => false

def read (files : Files) (path : String) : Except FileFailure ByteArray := do
  match ← files.entryAt path with
  | .file content => return content
  | .directory => throw .isADirectory

def readText (files : Files) (path : String) : Except FileFailure String := do
  match String.fromUTF8? (← files.read path) with
  | some text => return text
  | none => throw .malformedText

def list (files : Files) (path : String) : Except FileFailure (List (String × FileEntry)) := do
  let location ← files.locate path
  match files.find? location with
  | some .directory => return files.children location
  | some (.file _) => throw .notADirectory
  | none => throw .notFound

/-- Missing directories are created on the way. A failure leaves those before it. -/
def createAlong (files : Files) (location : Location) :
    List String → Except FileFailure Unit × Files
  | [] => (.ok (), files)
  | name :: rest =>
      match step location name with
      | .error failure => (.error failure, files)
      | .ok next =>
          match files.find? next with
          | some .directory => files.createAlong next rest
          | some (.file _) =>
              (.error (if rest.isEmpty then .alreadyExists else .notADirectory), files)
          | none => (files.put next .directory).createAlong next rest

/-- The directory that a dot at the end stands in is not created by it. -/
def createAbove (files : Files) (path : String) : Except FileFailure Unit × Files :=
  match files.createAlong (files.start path) (Path.segments path).dropLast with
  | (.error failure, above) => (.error failure, above)
  | (.ok (), above) => ((above.list path).map fun _ => (), above)

/-- The empty path asks for nothing. -/
def createDirectories (files : Files) (path : String) : Except FileFailure Unit × Files :=
  if path = "" then (.ok (), files)
  else
    match pathFailure? path with
    | some failure => (.error failure, files)
    | none =>
        if Path.endsInDot path then files.createAbove path
        else files.createAlong (files.start path) (Path.segments path)

def write (files : Files) (path : String) (content : ByteArray) : Except FileFailure Files := do
  let location ← files.locate path
  match files.find? location with
  | some .directory => throw .isADirectory
  | _ => return files.put location (.file content)

/-- The file at the target is replaced, but a directory is not. -/
def rename (files : Files) (source target : String) : Except FileFailure Files := do
  let sourceLocation ← files.locate source
  let targetLocation ← files.locate target
  match files.find? sourceLocation, files.find? targetLocation with
  | none, _ => throw .notFound
  | some _, some .directory => throw .isADirectory
  | some entry, _ => return (files.erase sourceLocation).put targetLocation entry

def remove (files : Files) (path : String) : Except FileFailure Files := do
  let location ← files.locate path
  match files.find? location with
  | none => throw .notFound
  | some .directory => throw .isADirectory
  | some (.file _) => return files.erase location

/-- The device may fail at each step of a replacement. -/
inductive ReplaceFault where
  | beforeWriting
  | whileWriting (written : ByteArray)
  | beforeRenaming
  deriving DecidableEq

def temporaryName (process number : Nat) (name : String) : String :=
  "." ++ name ++ "." ++ toString process ++ "." ++ toString number ++ ".tmp"

/-- The temporary file stands in the directory of the file that it replaces. -/
def temporaryPath (files : Files) (path : String) : String :=
  Path.withFileName path
    (temporaryName files.process files.temporaries ((Path.fileName? path).getD ""))

/-- No number is taken twice. -/
def countTemporary (files : Files) : Files :=
  { files with temporaries := files.temporaries + 1 }

def writeTemporary (files : Files) (path : String) (content : ByteArray)
    (fault : Option ReplaceFault) : Except FileFailure Unit × Files :=
  match fault with
  | some .beforeWriting => (.error .writeFailed, files)
  | some (.whileWriting written) =>
      match files.write path written with
      | .error failure => (.error failure, files)
      | .ok changed => (.error .writeFailed, changed)
  | _ =>
      match files.write path content with
      | .error failure => (.error failure, files)
      | .ok changed => (.ok (), changed)

def renameTemporary (files : Files) (temporary path : String) (fault : Option ReplaceFault) :
    Except FileFailure Files :=
  if fault = some .beforeRenaming then .error .writeFailed else files.rename temporary path

/-- A replacement that cannot be renamed is taken away again. -/
def replace (files : Files) (path : String) (content : ByteArray)
    (fault : Option ReplaceFault) : Except FileFailure Unit × Files :=
  let temporary := files.temporaryPath path
  match files.countTemporary.writeTemporary temporary content fault with
  | (.error failure, changed) => (.error failure, changed)
  | (.ok (), changed) =>
      match changed.renameTemporary temporary path fault with
      | .ok renamed => (.ok (), renamed)
      | .error failure => (.error failure, (changed.remove temporary).toOption.getD changed)

end BusBridge.Files
