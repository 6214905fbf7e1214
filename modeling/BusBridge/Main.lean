/-
This file connects the program to the files of the device and to its streams.
-/

import BusBridge.CommandLine.Program

open BusBridge

/-- A path that leads nowhere leaves its existing ancestors. -/
partial def loadAncestors (files : Files) (path : String) : IO Files := do
  let parent := Path.parent path
  let above ← if parent = "" || parent = "/" then pure files else loadAncestors files parent
  let place := (← IO.currentDir) / path
  if ← place.isDir then
    return (above.createDirectories path).2
  if ← place.pathExists then
    return (above.write path (← IO.FS.readBinFile place)).toOption.getD above
  return above

partial def loadBelow (files : Files) (path : String) : IO Files := do
  let place := (← IO.currentDir) / path
  let mut current := files
  if ← place.isDir then
    for entry in ← place.readDir do
      let inner := Path.join path entry.fileName
      current ← loadBelow (← loadAncestors current inner) inner
  return current

def loadAll (files : Files) (paths : List String) : IO Files :=
  (paths.map Path.plain).foldlM (fun current path => do
    loadBelow (← loadAncestors current path) path) files

def placeOf (location : Location) : String :=
  "/" ++ "/".intercalate location

/-- A file gets its new content in one step. -/
def storeEntry (location : Location) : FileEntry → IO Unit
  | .directory => IO.FS.createDirAll (placeOf location)
  | .file content => do
      let place := placeOf location
      IO.FS.createDirAll (placeOf location.dropLast)
      IO.FS.writeBinFile (place ++ ".tmp") content
      IO.FS.rename (place ++ ".tmp") place

def storeChanges (before after : Files) : IO Unit := do
  for (location, entry) in after.entries do
    if before.find? location ≠ some entry then
      storeEntry location entry
  for (location, entry) in before.entries do
    if entry ≠ .directory ∧ (after.find? location).isNone then
      IO.FS.removeFile (placeOf location)

def workingFiles : IO Files := do
  let directory := toString (← IO.currentDir)
  let (_, created) := ({} : Files).createDirectories directory
  return { created with workingDirectory := Path.segments directory }

def main (arguments : List String) : IO UInt32 := do
  let start ← workingFiles
  let configured ← loadAll start (Program.paths arguments start)
  let before ← loadAll configured (Program.paths arguments configured)
  let (report, after) := Program.run arguments before
  storeChanges before after
  IO.print report.output
  IO.eprint report.errors
  return report.exitCode.toUInt32
