/-
This file holds what a scan asks for and what it finds.
-/

import BusBridge.Declaration.Basic
import BusBridge.Failure
import BusBridge.Log.Record

namespace BusBridge

/-- A scan looks for the types under some prefixes that carry a marker. -/
structure ScanRequest where
  marker : String
  prefixes : List String
  deriving DecidableEq, Repr, Inhabited

/-- A scan passes over a whole prefix or over one package. -/
inductive ScanSkip where
  | wholePrefix (text : String) (failure : ScanFailure)
  | onePackage (name : String) (failure : ScanFailure)
  deriving DecidableEq, Repr

namespace ScanSkip

def failure : ScanSkip → ScanFailure
  | .wholePrefix _ failure => failure
  | .onePackage _ failure => failure

def record : ScanSkip → LogRecord
  | .wholePrefix text failure =>
      Origin.scanner.record .warn s!"Skipping package prefix: {failure.message}"
        [("prefix", text)]
  | .onePackage name failure =>
      Origin.scanner.record .warn s!"Skipping unreadable package: {failure.message}"
        [("package", name)]

end ScanSkip

/-- Types are in the order of their discovery, and no name occurs twice. -/
structure ScanOutcome where
  types : List TypeDeclaration := []
  skips : List ScanSkip := []
  deriving DecidableEq, Inhabited

namespace ScanOutcome

def typeNames (outcome : ScanOutcome) : List String :=
  outcome.types.map TypeDeclaration.name

def warnings (outcome : ScanOutcome) : List ScanFailure :=
  outcome.skips.map ScanSkip.failure

def isPartial (outcome : ScanOutcome) : Bool :=
  !outcome.skips.isEmpty

def addType (marker : String) (outcome : ScanOutcome) (declaration : TypeDeclaration) :
    ScanOutcome :=
  if declaration.carries marker && !outcome.typeNames.contains declaration.name then
    { outcome with types := outcome.types ++ [declaration] }
  else outcome

def addSkip (outcome : ScanOutcome) (skip : ScanSkip) : ScanOutcome :=
  { outcome with skips := outcome.skips ++ [skip] }

/-- A scan reports what it passed over, and its own result. -/
def records (marker : String) (outcome : ScanOutcome) : List LogRecord :=
  let found := ("found", toString outcome.types.length)
  outcome.skips.map ScanSkip.record ++ [
    if outcome.isPartial then
      Origin.scanner.record .warn "Partial scan result"
        [("annotation", marker), found, ("skipped", toString outcome.skips.length)]
    else Origin.scanner.record .debug "Scan complete" [("annotation", marker), found]]

end ScanOutcome

end BusBridge
