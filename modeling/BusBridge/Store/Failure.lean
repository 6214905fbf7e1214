/-
This file holds the causes for which an artifact is not stored or not found.
-/

import BusBridge.Failure
import BusBridge.Files.Basic

namespace BusBridge

inductive StoreFailure where
  | io (cause : FileFailure)
  | malformedSidecar
  | notCached (target : String)
  | checksumMismatch (path expected actual : String)
  | classMismatch (target expected actual : String)
  | alreadyCommitted (className : String)
  deriving DecidableEq, Repr

namespace StoreFailure

def message : StoreFailure → String
  | .io cause => s!"I/O error: {cause.message}"
  | .malformedSidecar => "JSON error: malformed sidecar"
  | .notCached target => s!"Not cached: {target}"
  | .checksumMismatch path expected actual =>
      s!"Checksum mismatch for {path}: expected {expected}, got {actual}"
  | .classMismatch target expected actual =>
      s!"Class mismatch for {target}: expected {expected}, found {actual}"
  | .alreadyCommitted className => s!"Already committed: {className}"

/-- A kind names a failure for machines, whatever its details are. -/
def kind : StoreFailure → String
  | .io _ => "Cache.Io"
  | .malformedSidecar => "Cache.Json"
  | .notCached _ => "Cache.NotCached"
  | .checksumMismatch .. => "Cache.ChecksumMismatch"
  | .classMismatch .. => "Cache.ClassMismatch"
  | .alreadyCommitted _ => "Cache.AlreadyCommitted"

/-- A miss only means that nothing usable is cached. -/
def isMiss : StoreFailure → Bool
  | .alreadyCommitted _ => false
  | _ => true

/-- Only a second commit is a failure of the sink. -/
def toFailure (failure : StoreFailure) : Failure :=
  match failure with
  | .alreadyCommitted _ => .sink failure.message
  | _ => .cache failure.message

end StoreFailure

end BusBridge
