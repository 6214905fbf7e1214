/-
This file holds the artifact cache: an entry is a source with a sidecar beside it. An entry that
cannot be used is a miss.
-/

import BusBridge.Digest.Sha256
import BusBridge.Files.Operations
import BusBridge.Log.Record
import BusBridge.Store.Failure
import BusBridge.Store.Sidecar

namespace BusBridge

/-- The directory is created by the first write. -/
structure ArtifactCache where
  directory : String
  deriving DecidableEq, Repr, Inhabited

namespace ArtifactCache

def formatVersion : String := "1"

def sourceExtension : String := ".java"

def sidecarExtension : String := ".meta.json"

def entryPath (cache : ArtifactCache) (target : Target) (extension : String) : String :=
  Path.join cache.directory (target.className.qualified ++ extension)

def sourcePath (cache : ArtifactCache) (target : Target) : String :=
  cache.entryPath target sourceExtension

def sidecarPath (cache : ArtifactCache) (target : Target) : String :=
  cache.entryPath target sidecarExtension

def sidecar (target : Target) (source : String) : Sidecar where
  formatVersion := formatVersion
  target := target
  className := target.className.qualified
  checksum := Digest.checksum source.toUTF8

def readEntry (files : Files) (path : String) (target : Target) :
    Except StoreFailure ByteArray :=
  match files.read path with
  | .ok content => .ok content
  | .error .notFound => .error (.notCached target.display)
  | .error cause => .error (.io cause)

def readSidecar (content : ByteArray) : Except StoreFailure Sidecar :=
  match Sidecar.ofBytes? content with
  | some sidecar => .ok sidecar
  | none => .error .malformedSidecar

/-- A usable entry belongs to the target, and its source has the recorded checksum. -/
def lookup (cache : ArtifactCache) (files : Files) (target : Target) :
    Except StoreFailure Artifact := do
  let sidecar ← readSidecar (← readEntry files (cache.sidecarPath target) target)
  let expected := target.className
  if sidecar.target ≠ target ∨ sidecar.className ≠ expected.qualified then
    throw (.classMismatch target.display expected.qualified sidecar.className)
  let content ← readEntry files (cache.sourcePath target) target
  if !Digest.verifies content sidecar.checksum then
    throw (.checksumMismatch (cache.sourcePath target) sidecar.checksum
      (Digest.checksum content))
  match String.fromUTF8? content with
  | some source => return ⟨expected, source⟩
  | none => throw (.io .malformedText)

def has (cache : ArtifactCache) (files : Files) (target : Target) : Bool :=
  (cache.lookup files target).toOption.isSome

def shouldGenerate (cache : ArtifactCache) (files : Files) (target : Target) : Bool :=
  !cache.has files target

def read (cache : ArtifactCache) (files : Files) (target : Target) : Option Artifact :=
  (cache.lookup files target).toOption

/-- An entry that is there but cannot be used is reported. -/
def readRecords (cache : ArtifactCache) (files : Files) (target : Target) : List LogRecord :=
  match cache.lookup files target with
  | .ok _ | .error (.notCached _) => []
  | .error failure =>
      [Origin.cache.record .warn s!"Ignoring cache entry: {failure.message}"
        [("target", target.display)]]

/-- The places of a write where the device may fail. -/
structure WriteFaults where
  source : Option Files.ReplaceFault := none
  sidecar : Option Files.ReplaceFault := none

def storeSource (cache : ArtifactCache) (files : Files) (target : Target) (source : String)
    (fault : Option Files.ReplaceFault) : Except FileFailure Unit × Files :=
  files.replace (cache.sourcePath target) source.toUTF8 fault

def storeSidecar (cache : ArtifactCache) (files : Files) (target : Target) (source : String)
    (fault : Option Files.ReplaceFault) : Except FileFailure Unit × Files :=
  files.replace (cache.sidecarPath target) (sidecar target source).print.toUTF8 fault

/-- The source is stored first, so a cut between the two steps leaves a checksum mismatch. -/
def store (cache : ArtifactCache) (files : Files) (target : Target) (source : String)
    (faults : WriteFaults) : Except FileFailure Unit × Files :=
  match cache.storeSource files target source faults.source with
  | (.error cause, changed) => (.error cause, changed)
  | (.ok (), changed) => cache.storeSidecar changed target source faults.sidecar

/-- The path of the stored source, for an artifact of the target's own class. -/
def write (cache : ArtifactCache) (files : Files) (target : Target) (artifact : Artifact)
    (faults : WriteFaults) : Except StoreFailure String × Files :=
  let expected := target.className
  if artifact.className ≠ expected then
    (.error (.classMismatch target.display expected.qualified artifact.className.qualified), files)
  else
    match files.createDirectories cache.directory with
    | (.error cause, created) => (.error (.io cause), created)
    | (.ok (), created) =>
        match cache.store created target artifact.source faults with
        | (.error cause, changed) => (.error (.io cause), changed)
        | (.ok (), changed) => (.ok (cache.sourcePath target), changed)

def writeRecords (target : Target) : Except StoreFailure String → List LogRecord
  | .error _ => []
  | .ok path =>
      [Origin.cache.record .debug "Artifact cached" [("target", target.display), ("path", path)]]

/-- Removing what is not there changes nothing. -/
def removeEntry (files : Files) (path : String) : Except FileFailure (Bool × Files) :=
  match files.remove path with
  | .ok changed => .ok (true, changed)
  | .error .notFound => .ok (false, files)
  | .error cause => .error cause

/-- The source goes first. The result tells whether anything was there. -/
def invalidate (cache : ArtifactCache) (files : Files) (target : Target) :
    Except StoreFailure Bool × Files :=
  match removeEntry files (cache.sourcePath target) with
  | .error cause => (.error (.io cause), files)
  | .ok (hadSource, withoutSource) =>
      match removeEntry withoutSource (cache.sidecarPath target) with
      | .error cause => (.error (.io cause), withoutSource)
      | .ok (hadSidecar, withoutBoth) => (.ok (hadSource || hadSidecar), withoutBoth)

def invalidateRecords (target : Target) : Except StoreFailure Bool → List LogRecord
  | .ok true => [Origin.cache.record .debug "Cache entry invalidated" [("target", target.display)]]
  | _ => []

end ArtifactCache

end BusBridge
