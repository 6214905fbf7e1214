/-
This file proves that the memory of a scanner cannot be seen in its answers, and that a universe is
asked for the types of a package at most once.
-/

import BusBridge.Proofs.Scan.Survey

namespace BusBridge

def ScanStop.isReadable (visible : Universe) : ScanStop → Bool
  | .refusal .. => false
  | .package name => (Scanner.packageEntry visible name).isOk

namespace Scanner

inductive Call where
  | prime (prefixes : List String)
  | scan (request : ScanRequest)
  | find (request : ScanRequest)

inductive Answer where
  | count (packages : Nat)
  | outcome (found : ScanOutcome)
  | types (found : List TypeDeclaration)

def answer (scanner : Scanner) (visible : Universe) : Call → Answer × Scanner
  | .prime prefixes => (scanner.prime visible prefixes).map .count id
  | .scan request => (scanner.scan visible request).map .outcome id
  | .find request => (scanner.findTypes visible request).map .types id

def answers (scanner : Scanner) (visible : Universe) : List Call → List Answer × Scanner
  | [] => ([], scanner)
  | call :: rest =>
      let (first, next) := scanner.answer visible call
      let (others, last) := next.answers visible rest
      (first :: others, last)

/-- A scanner that has answered some calls. -/
def after (visible : Universe) (calls : List Call) : Scanner :=
  (({} : Scanner).answers visible calls).2

/-!
The same work once more, for a universe that gives the types of a package in a monad. The types
can only be had by asking for them, so a monad that notes each question misses none.
-/

namespace Asking

variable {m : Type → Type} [Monad m]
  (ask : String → m (Except UniverseFailure (List TypeDeclaration)))
  (packages : String → Except ScanFailure (List String))

def entryOf (package : String) : Except UniverseFailure (List TypeDeclaration) → PackageEntry
  | .ok declarations => .ok declarations
  | .error failure => .error (.unreadablePackage package failure.message)

def load (scanner : Scanner) (package : String) : m (PackageEntry × Scanner) :=
  match scanner.packages.lookup package with
  | some entry => return (entry, scanner)
  | none => do
      let entry := entryOf package (← ask package)
      return (entry, { scanner with packages := scanner.packages ++ [(package, entry)] })

def visitPackage (marker : String) (progress : Progress) (package : String) : m Progress :=
  if progress.visited.contains package then return progress
  else do
    let (entry, scanner) ← load ask progress.scanner package
    let outcome :=
      match entry with
      | .ok declarations => declarations.foldl (ScanOutcome.addType marker) progress.outcome
      | .error failure => progress.outcome.addSkip (.onePackage package failure)
    return ⟨scanner, package :: progress.visited, outcome⟩

def visitPrefix (marker : String) (progress : Progress) (packagePrefix : String) : m Progress :=
  match packages packagePrefix with
  | .error failure =>
      return { progress with
        outcome := progress.outcome.addSkip (.wholePrefix packagePrefix failure) }
  | .ok found => found.foldlM (visitPackage ask marker) progress

def scan (scanner : Scanner) (request : ScanRequest) : m (ScanOutcome × Scanner) :=
  match scanner.remembered? request with
  | some outcome => return (outcome, scanner)
  | none => do
      let progress ←
        request.prefixes.foldlM (visitPrefix ask packages request.marker) ⟨scanner, [], {}⟩
      return (progress.outcome, { progress.scanner with
        outcomes := progress.scanner.outcomes ++ [(request, progress.outcome)] })

def primePackage (progress : Nat × Scanner) (package : String) : m (Nat × Scanner) := do
  match ← load ask progress.2 package with
  | (.ok _, scanner) => return (progress.1 + 1, scanner)
  | (.error _, scanner) => return (progress.1, scanner)

def primePrefix (progress : Nat × Scanner) (packagePrefix : String) : m (Nat × Scanner) :=
  match packages packagePrefix with
  | .error _ => return progress
  | .ok found => found.foldlM (primePackage ask) progress

def answer (scanner : Scanner) : Call → m (Answer × Scanner)
  | .prime prefixes => do
      let (count, primed) ← prefixes.foldlM (primePrefix ask packages) (0, scanner)
      return (.count count, primed)
  | .scan request => do
      let (outcome, scanned) ← scan ask packages scanner request
      return (.outcome outcome, scanned)
  | .find request => do
      let (outcome, scanned) ← scan ask packages scanner request
      return (.types outcome.types, scanned)

def answers (scanner : Scanner) : List Call → m (List Answer × Scanner)
  | [] => return ([], scanner)
  | call :: rest => do
      let (first, next) ← answer ask packages scanner call
      let (others, last) ← answers next rest
      return (first :: others, last)

/-- A universe that notes which packages it is asked for. -/
def noting (visible : Universe) (package : String) :
    StateM (List String) (Except UniverseFailure (List TypeDeclaration)) := do
  modify (· ++ [package])
  return visible.typesIn package

end Asking

variable {scanner : Scanner} {visible : Universe}

/-! Every question adds a package to those that are remembered, in the same order. -/

/-- A package that is loaded is noted unless it was asked before. -/
theorem load_noting (package : String) :
    (Asking.load (Asking.noting visible) scanner package).run scanner.held =
      (scanner.load visible package, (scanner.load visible package).2.held) := by
  have same : Asking.entryOf package (visible.typesIn package) = packageEntry visible package := by
    unfold packageEntry
    cases visible.typesIn package <;> rfl
  rw [Asking.load, load]
  cases scanner.packages.lookup package with
  | some entry => rfl
  | none =>
      rw [← same]
      simp [Asking.noting, held]
      rfl

/-- A computation goes on with what was noted so far. -/
theorem run_bind_of_run {α β : Type} {noted : StateM (List String) α}
    {next : α → StateM (List String) β} {asked more : List String} {value : α}
    (ran : noted.run asked = (value, more)) :
    (noted >>= next).run asked = (next value).run more := by
  rw [StateT.run_bind, ran]
  rfl

/-- Steps that note what they add are noted one after the other. -/
theorem foldlM_noting {σ α : Type} {noted : σ → α → StateM (List String) σ}
    {plain : σ → α → σ} (notes : σ → List String)
    (steps : ∀ state item,
      (noted state item).run (notes state) = (plain state item, notes (plain state item)))
    (state : σ) (items : List α) :
    (items.foldlM noted state).run (notes state) =
      (items.foldl plain state, notes (items.foldl plain state)) := by
  induction items generalizing state with
  | nil => rfl
  | cons item rest ih =>
      rw [List.foldlM_cons, run_bind_of_run (steps state item), List.foldl_cons]
      exact ih (plain state item)

/-- A visit of a package notes what it asks. -/
theorem visitPackage_noting (marker : String) (progress : Progress) (package : String) :
    (Asking.visitPackage (Asking.noting visible) marker progress package).run
        progress.scanner.held =
      (visitPackage visible marker progress package,
        (visitPackage visible marker progress package).scanner.held) := by
  rw [Asking.visitPackage, visitPackage]
  split
  case isTrue => rfl
  case isFalse =>
    exact run_bind_of_run (load_noting package)

/-- A visit of a prefix notes what it asks. -/
theorem visitPrefix_noting (marker : String) (progress : Progress) (packagePrefix : String) :
    (Asking.visitPrefix (Asking.noting visible) (packagesOf visible) marker progress
        packagePrefix).run progress.scanner.held =
      (visitPrefix visible marker progress packagePrefix,
        (visitPrefix visible marker progress packagePrefix).scanner.held) := by
  rw [Asking.visitPrefix, visitPrefix]
  cases packagesOf visible packagePrefix with
  | error failure => rfl
  | ok packages =>
      exact foldlM_noting (·.scanner.held) (visitPackage_noting marker) progress packages

/-- A scan notes what it asks. -/
theorem scan_noting (request : ScanRequest) :
    (Asking.scan (Asking.noting visible) (packagesOf visible) scanner request).run scanner.held =
      (scanner.scan visible request, (scanner.scan visible request).2.held) := by
  rw [Asking.scan, scan]
  cases scanner.remembered? request with
  | some outcome => rfl
  | none =>
      have walked : (request.prefixes.foldlM (Asking.visitPrefix (Asking.noting visible)
          (packagesOf visible) request.marker) ⟨scanner, [], {}⟩).run scanner.held = _ :=
        foldlM_noting (fun progress : Progress => progress.scanner.held)
          (visitPrefix_noting request.marker) _ request.prefixes
      exact run_bind_of_run walked

/-- A package that is loaded ahead is noted. -/
theorem primePackage_noting (progress : Nat × Scanner) (package : String) :
    (Asking.primePackage (Asking.noting visible) progress package).run progress.2.held =
      (primePackage visible progress package, (primePackage visible progress package).2.held) := by
  rw [Asking.primePackage, primePackage, run_bind_of_run (load_noting package)]
  rcases progress.2.load visible package with ⟨_ | _, loaded⟩ <;> rfl

/-- Prefixes that are loaded ahead note what they ask. -/
theorem prime_noting (prefixes : List String) :
    (prefixes.foldlM (Asking.primePrefix (Asking.noting visible) (packagesOf visible))
        (0, scanner)).run scanner.held =
      (scanner.prime visible prefixes, (scanner.prime visible prefixes).2.held) := by
  refine foldlM_noting (·.2.held) (fun progress packagePrefix => ?_) (0, scanner) prefixes
  rw [Asking.primePrefix]
  cases packagesOf visible packagePrefix with
  | error failure => rfl
  | ok packages => exact foldlM_noting (·.2.held) primePackage_noting progress packages

/-- A call notes what it asks, and is answered as without notes. -/
theorem answer_noting (call : Call) :
    (Asking.answer (Asking.noting visible) (packagesOf visible) scanner call).run scanner.held =
      (scanner.answer visible call, (scanner.answer visible call).2.held) := by
  cases call with
  | prime prefixes => exact run_bind_of_run (prime_noting prefixes)
  | scan request => exact run_bind_of_run (scan_noting request)
  | find request => exact run_bind_of_run (scan_noting request)

/-- Calls note what they ask, and are answered as without notes. -/
theorem answers_noting (calls : List Call) :
    (Asking.answers (Asking.noting visible) (packagesOf visible) scanner calls).run scanner.held =
      (scanner.answers visible calls, (scanner.answers visible calls).2.held) := by
  induction calls generalizing scanner with
  | nil => rfl
  | cons call rest ih =>
      exact (run_bind_of_run (answer_noting call)).trans (run_bind_of_run ih)

/-! What is remembered reports the universe, so every call is answered as by a new scanner. -/

def primeStop (visible : Universe) (progress : Nat × Scanner) : ScanStop → Nat × Scanner
  | .refusal .. => progress
  | .package name => primePackage visible progress name

/-- Prefixes are loaded ahead stop by stop. -/
theorem prime_eq_foldl (prefixes : List String) :
    scanner.prime visible prefixes =
      (prefixes.flatMap visible.stopsOf).foldl (primeStop visible) (0, scanner) := by
  rw [prime, List.foldl_flatMap]
  congr 1
  funext progress packagePrefix
  rw [Universe.stopsOf]
  cases packagesOf visible packagePrefix with
  | error failure => rfl
  | ok packages => exact (List.foldl_map (f := ScanStop.package) (g := primeStop visible)).symm

/-- A stop is counted when it is readable. -/
theorem primeStop_eq {progress : Nat × Scanner} (reports : progress.2.Reports visible)
    (stop : ScanStop) :
    (primeStop visible progress stop).1 =
        progress.1 + (if stop.isReadable visible then 1 else 0) ∧
      (primeStop visible progress stop).2.Reports visible := by
  cases stop with
  | refusal text failure => exact ⟨rfl, reports⟩
  | package name =>
      obtain ⟨read, kept⟩ := reports.load name
      simp only [primeStop, primePackage, ScanStop.isReadable, ← read]
      generalize progress.2.load visible name = loaded at kept ⊢
      rcases loaded with ⟨_ | _, loaded⟩
      · exact ⟨rfl, kept⟩
      · exact ⟨rfl, kept⟩

/-- All readable stops are counted. -/
theorem foldl_primeStop {progress : Nat × Scanner} (reports : progress.2.Reports visible)
    (stops : List ScanStop) :
    (stops.foldl (primeStop visible) progress).1 =
        progress.1 + stops.countP (ScanStop.isReadable visible) ∧
      (stops.foldl (primeStop visible) progress).2.Reports visible := by
  induction stops generalizing progress with
  | nil => exact ⟨rfl, reports⟩
  | cons stop rest ih =>
      obtain ⟨counted, kept⟩ := primeStop_eq reports stop
      obtain ⟨total, last⟩ := ih kept
      refine ⟨?_, last⟩
      rw [List.foldl_cons, total, counted, List.countP_cons]
      omega

/-- Loading ahead counts the readable stops, and keeps the answers right. -/
theorem Reports.prime (reports : scanner.Reports visible) (prefixes : List String) :
    (scanner.prime visible prefixes).1 =
        (prefixes.flatMap visible.stopsOf).countP (ScanStop.isReadable visible) ∧
      (scanner.prime visible prefixes).2.Reports visible := by
  rw [prime_eq_foldl]
  have start : ((0, scanner) : Nat × Scanner).2.Reports visible := reports
  obtain ⟨counted, kept⟩ := foldl_primeStop start (prefixes.flatMap visible.stopsOf)
  exact ⟨counted.trans (Nat.zero_add _), kept⟩

/-- An answer shows the universe and nothing of the calls before. -/
theorem Reports.answer (reports : scanner.Reports visible) (call : Call) :
    (scanner.answer visible call).1 = (({} : Scanner).answer visible call).1 ∧
      (scanner.answer visible call).2.Reports visible := by
  have new : ({} : Scanner).Reports visible := reports_empty visible
  cases call with
  | prime prefixes =>
      obtain ⟨counted, kept⟩ := reports.prime prefixes
      exact ⟨congrArg Answer.count (counted.trans (new.prime prefixes).1.symm), kept⟩
  | scan request =>
      obtain ⟨found, kept⟩ := reports.scan request
      exact ⟨congrArg Answer.outcome (found.trans (new.scan request).1.symm), kept⟩
  | find request =>
      obtain ⟨found, kept⟩ := reports.scan request
      have same := found.trans (new.scan request).1.symm
      exact ⟨congrArg (fun outcome : ScanOutcome => Answer.types outcome.types) same, kept⟩

/-- Each call is answered as if it were the first one. -/
theorem Reports.answers (reports : scanner.Reports visible) (calls : List Call) :
    (scanner.answers visible calls).1 =
        calls.map (fun call => (({} : Scanner).answer visible call).1) ∧
      (scanner.answers visible calls).2.Reports visible := by
  induction calls generalizing scanner with
  | nil => exact ⟨rfl, reports⟩
  | cons call rest ih =>
      obtain ⟨first, kept⟩ := reports.answer call
      obtain ⟨others, last⟩ := ih kept
      exact ⟨congrArg₂ List.cons first others, last⟩

/-- Whatever was asked before, the answers stay right. -/
theorem reports_after (visible : Universe) (calls : List Call) :
    (after visible calls).Reports visible :=
  ((reports_empty visible).answers calls).2

/-- After any calls, a scan finds what the universe holds. -/
theorem scan_after (visible : Universe) (calls : List Call) (request : ScanRequest) :
    ((after visible calls).scan visible request).1 = visible.survey request :=
  ((reports_after visible calls).scan request).1

/-- Every call of a scanner is answered as a new scanner would answer it, and while all of them
are answered, the universe is asked for no package twice. -/
theorem answered_as_new_asked_once (visible : Universe) (calls : List Call) :
    (({} : Scanner).answers visible calls).1 =
        calls.map (fun call => (({} : Scanner).answer visible call).1) ∧
      ∃ asked,
        (Asking.answers (Asking.noting visible) (packagesOf visible) {} calls).run [] =
            (({} : Scanner).answers visible calls, asked) ∧
          asked.Nodup := by
  obtain ⟨same, kept⟩ := (reports_empty visible).answers calls
  exact ⟨same, _, answers_noting calls, kept.once⟩

end Scanner

end BusBridge
