/-
This file holds sinks: a class is reserved before its source is written, and is written once.
-/

import BusBridge.Files.Operations
import BusBridge.Log.Record
import BusBridge.NameMap
import BusBridge.Store.Cache
import BusBridge.Store.Failure

namespace BusBridge

structure Reservations where
  reserved : List ClassName := []
  committed : List ClassName := []
  deriving DecidableEq, Repr, Inhabited

namespace Reservations

def isReserved (reservations : Reservations) (className : ClassName) : Bool :=
  reservations.reserved.contains className

/-- A class is reserved once. -/
def reserve? (reservations : Reservations) (className : ClassName) : Option Reservations :=
  if reservations.isReserved className then none
  else some { reservations with reserved := className :: reservations.reserved }

/-- A class is committed once, whether or not it is reserved. -/
def commit (reservations : Reservations) (className : ClassName) :
    Except StoreFailure Reservations :=
  if reservations.committed.contains className then
    .error (.alreadyCommitted className.qualified)
  else .ok { reservations with committed := className :: reservations.committed }

/-- A class whose commit failed may be reserved again. -/
def release (reservations : Reservations) (className : ClassName) : Reservations where
  reserved := reservations.reserved.filter (· != className)
  committed := reservations.committed.filter (· != className)

end Reservations

/-- A handle permits one write of a class to a path. -/
structure WriteHandle where
  className : ClassName
  path : String
  deriving DecidableEq, Repr, Inhabited

/-- A file sink writes into the directory of a class's package, a memory sink keeps sources. -/
inductive SinkStorage where
  | directory (path : String)
  | memory (sources : NameMap String)
  deriving DecidableEq

structure Sink where
  storage : SinkStorage
  reservations : Reservations := {}
  deriving DecidableEq

namespace Sink

def files (directory : String) : Sink :=
  ⟨.directory directory, {}⟩

def memory : Sink :=
  ⟨.memory .empty, {}⟩

/-- Each segment of the package is a directory, and empty segments are passed over. -/
def filePath (directory : String) (className : ClassName) : String :=
  let segments := (Text.split '.' className.package).filter (· != "")
  Path.join (segments.foldl Path.join directory)
    (className.simple ++ ArtifactCache.sourceExtension)

def pathFor (sink : Sink) (className : ClassName) : String :=
  match sink.storage with
  | .directory path => filePath path className
  | .memory _ => className.qualified ++ ArtifactCache.sourceExtension

def isCreated (sink : Sink) (className : ClassName) : Bool :=
  sink.reservations.isReserved className

def shouldGenerate (sink : Sink) (className : ClassName) : Bool :=
  !sink.isCreated className

/-- No handle is given out for a class that is reserved already. -/
def tryCreate (sink : Sink) (className : ClassName) : Option WriteHandle × Sink :=
  match sink.reservations.reserve? className with
  | none => (none, sink)
  | some reservations => (some ⟨className, sink.pathFor className⟩, { sink with reservations })

def createRecords (sink : Sink) (className : ClassName) : List LogRecord :=
  match sink.storage with
  | .directory _ =>
      if sink.isCreated className then
        [Origin.sink.record .debug "Already created, skipping" [("class", className.qualified)]]
      else []
  | .memory _ => []

def release (sink : Sink) (className : ClassName) : Sink :=
  { sink with reservations := sink.reservations.release className }

def writeSource (files : Files) (handle : WriteHandle) (source : String)
    (fault : Option Files.ReplaceFault) : Except FileFailure Unit × Files :=
  match files.createDirectories (Path.parent handle.path) with
  | (.error cause, created) => (.error cause, created)
  | (.ok (), created) => created.replace handle.path source.toUTF8 fault

/-- A failed write releases the class. -/
def commit (sink : Sink) (files : Files) (handle : WriteHandle) (source : String)
    (fault : Option Files.ReplaceFault) : Except StoreFailure String × Sink × Files :=
  match sink.reservations.commit handle.className with
  | .error failure => (.error failure, sink, files)
  | .ok reservations =>
      match sink.storage with
      | .memory sources =>
          let stored := sources.insert handle.className.qualified source
          (.ok handle.path, ⟨.memory stored, reservations⟩, files)
      | .directory _ =>
          let marked := { sink with reservations }
          match writeSource files handle source fault with
          | (.ok (), changed) => (.ok handle.path, marked, changed)
          | (.error cause, changed) =>
              (.error (.io cause), marked.release handle.className, changed)

def commitRecords (sink : Sink) (handle : WriteHandle) :
    Except StoreFailure String → List LogRecord
  | .error _ => []
  | .ok path =>
      match sink.storage with
      | .memory _ => []
      | .directory _ =>
          [Origin.sink.record .info "Generated source written"
            [("class", handle.className.qualified), ("path", path)]]

/-- The sources of a memory sink, by qualified class name. -/
def sources (sink : Sink) : List (String × String) :=
  match sink.storage with
  | .directory _ => []
  | .memory sources => sources.entries

def source? (sink : Sink) (qualified : String) : Option String :=
  sink.sources.lookup qualified

/-- A qualified name tells a class's package from its simple name. -/
def artifacts (sink : Sink) : List Artifact :=
  sink.sources.map fun (qualified, source) => ⟨ClassName.parse qualified, source⟩

end Sink

end BusBridge
