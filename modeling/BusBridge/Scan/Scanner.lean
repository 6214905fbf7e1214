/-
This file holds scanners. A scanner asks a universe for the types of a package once, and
answers a repeated request with the outcome of the first.
-/

import BusBridge.Java.Identifier
import BusBridge.Scan.Outcome
import BusBridge.Universe.Basic

namespace BusBridge

abbrev PackageEntry := Except ScanFailure (List TypeDeclaration)

structure Scanner where
  packages : List (String × PackageEntry) := []
  outcomes : List (ScanRequest × ScanOutcome) := []
  deriving Inhabited

namespace Scanner

def packageEntry (visible : Universe) (package : String) : PackageEntry :=
  match visible.typesIn package with
  | .ok declarations => .ok declarations
  | .error failure => .error (.unreadablePackage package failure.message)

/-- A package is read when it is first asked for. -/
def load (scanner : Scanner) (visible : Universe) (package : String) :
    PackageEntry × Scanner :=
  match scanner.packages.lookup package with
  | some entry => (entry, scanner)
  | none =>
      let entry := packageEntry visible package
      (entry, { scanner with packages := scanner.packages ++ [(package, entry)] })

/-- The packages of a prefix, or why the prefix is passed over. -/
def packagesOf (visible : Universe) (packagePrefix : String) :
    Except ScanFailure (List String) :=
  match Java.prefixProblem? packagePrefix with
  | some problem => .error (.malformedPrefix packagePrefix problem.message)
  | none =>
      match visible.packagesUnder packagePrefix with
      | .ok packages => .ok packages
      | .error failure => .error (.unreadablePackage packagePrefix failure.message)

/-- A scan under way has visited some packages. -/
structure Progress where
  scanner : Scanner
  visited : List String := []
  outcome : ScanOutcome := {}

def visitPackage (visible : Universe) (marker : String) (progress : Progress)
    (package : String) : Progress :=
  if progress.visited.contains package then progress
  else
    let (entry, scanner) := progress.scanner.load visible package
    let outcome :=
      match entry with
      | .ok declarations => declarations.foldl (ScanOutcome.addType marker) progress.outcome
      | .error failure => progress.outcome.addSkip (.onePackage package failure)
    ⟨scanner, package :: progress.visited, outcome⟩

def visitPrefix (visible : Universe) (marker : String) (progress : Progress)
    (packagePrefix : String) : Progress :=
  match packagesOf visible packagePrefix with
  | .error failure =>
      { progress with outcome := progress.outcome.addSkip (.wholePrefix packagePrefix failure) }
  | .ok packages => packages.foldl (visitPackage visible marker) progress

def scanAnew (scanner : Scanner) (visible : Universe) (request : ScanRequest) :
    ScanOutcome × Scanner :=
  let progress := request.prefixes.foldl (visitPrefix visible request.marker) ⟨scanner, [], {}⟩
  (progress.outcome, progress.scanner)

def remembered? (scanner : Scanner) (request : ScanRequest) : Option ScanOutcome :=
  scanner.outcomes.lookup request

def scan (scanner : Scanner) (visible : Universe) (request : ScanRequest) :
    ScanOutcome × Scanner :=
  match scanner.remembered? request with
  | some outcome => (outcome, scanner)
  | none =>
      let (outcome, loaded) := scanner.scanAnew visible request
      (outcome, { loaded with outcomes := loaded.outcomes ++ [(request, outcome)] })

/-- A remembered outcome is not reported again. -/
def scanRecords (scanner : Scanner) (visible : Universe) (request : ScanRequest) :
    List LogRecord :=
  match scanner.remembered? request with
  | some _ => []
  | none => (scanner.scanAnew visible request).1.records request.marker

def findTypes (scanner : Scanner) (visible : Universe) (request : ScanRequest) :
    List TypeDeclaration × Scanner :=
  let (outcome, scanned) := scanner.scan visible request
  (outcome.types, scanned)

/-- The count tells how often a package was found readable. -/
def primePackage (visible : Universe) (progress : Nat × Scanner) (package : String) :
    Nat × Scanner :=
  match progress.2.load visible package with
  | (.ok _, scanner) => (progress.1 + 1, scanner)
  | (.error _, scanner) => (progress.1, scanner)

/-- A prefix that cannot be listed is passed over. -/
def prime (scanner : Scanner) (visible : Universe) (prefixes : List String) : Nat × Scanner :=
  prefixes.foldl (fun progress packagePrefix =>
    match packagesOf visible packagePrefix with
    | .error _ => progress
    | .ok packages => packages.foldl (primePackage visible) progress) (0, scanner)

def primeRecord (count : Nat) : LogRecord :=
  Origin.scanner.record .debug "Type scanner primed" [("packages", toString count)]

end Scanner

end BusBridge
