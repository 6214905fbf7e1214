/-
This file proves that no answer of a scanner names a type twice, even when the universe changes
between the scans.
-/

import BusBridge.Scan.Scanner
import Mathlib.Data.List.Nodup

namespace BusBridge

namespace ScanOutcome

variable {outcome : ScanOutcome}

/-- A type is added unless its name is there. -/
theorem nodup_addType (once : outcome.typeNames.Nodup) (marker : String)
    (declaration : TypeDeclaration) : (outcome.addType marker declaration).typeNames.Nodup := by
  unfold addType
  split
  case isTrue new =>
    simp only [Bool.and_eq_true, Bool.not_eq_true', List.contains_eq_mem,
      decide_eq_false_iff_not] at new
    simp only [typeNames, List.map_append, List.map_cons, List.map_nil] at once new ⊢
    rw [List.nodup_append]
    refine ⟨once, List.nodup_singleton _, ?_⟩
    intro name known other same equal
    rw [List.mem_singleton.1 same] at equal
    exact new.2 (equal ▸ known)
  case isFalse => exact once

/-- Types are added unless their names are there. -/
theorem nodup_foldl_addType (once : outcome.typeNames.Nodup) (marker : String)
    (declarations : List TypeDeclaration) :
    (declarations.foldl (addType marker) outcome).typeNames.Nodup := by
  induction declarations generalizing outcome with
  | nil => exact once
  | cons declaration rest ih => exact ih (nodup_addType once marker declaration)

end ScanOutcome

namespace Scanner

/-- No remembered outcome names a type twice. -/
def NamesOnce (scanner : Scanner) : Prop :=
  ∀ entry ∈ scanner.outcomes, entry.2.typeNames.Nodup

/-- A scan under way has named no type twice, and it has not touched what was remembered. -/
structure Progress.NamesOnce (scanner : Scanner) (progress : Progress) : Prop where
  outcome : progress.outcome.typeNames.Nodup
  outcomes : progress.scanner.outcomes = scanner.outcomes

variable {scanner : Scanner} {progress : Progress} {visible : Universe}

/-- A package that is loaded leaves the outcomes that are kept. -/
theorem outcomes_load (scanner : Scanner) (visible : Universe) (package : String) :
    (scanner.load visible package).2.outcomes = scanner.outcomes := by
  unfold load
  split <;> rfl

/-- A visit of a package names no type twice. -/
theorem namesOnce_visitPackage (once : progress.NamesOnce scanner) (marker package : String) :
    (visitPackage visible marker progress package).NamesOnce scanner := by
  unfold visitPackage
  split
  case isTrue => exact once
  case isFalse =>
    constructor
    case outcome =>
      dsimp only
      split
      case h_1 declarations _ =>
        exact ScanOutcome.nodup_foldl_addType once.outcome marker declarations
      case h_2 => exact once.outcome
    case outcomes => exact (outcomes_load _ visible package).trans once.outcomes

/-- A visit of a prefix names no type twice. -/
theorem namesOnce_visitPrefix (once : progress.NamesOnce scanner) (marker packagePrefix : String) :
    (visitPrefix visible marker progress packagePrefix).NamesOnce scanner := by
  unfold visitPrefix
  split
  case h_1 => exact ⟨once.outcome, once.outcomes⟩
  case h_2 packages _ =>
    exact List.foldlRecOn packages _ once fun _ once package _ =>
      namesOnce_visitPackage once marker package

/-- A new scan names no type twice. -/
theorem namesOnce_scanAnew (scanner : Scanner) (visible : Universe) (request : ScanRequest) :
    (scanner.scanAnew visible request).1.typeNames.Nodup ∧
      (scanner.scanAnew visible request).2.outcomes = scanner.outcomes := by
  have begun : (⟨scanner, [], {}⟩ : Progress).NamesOnce scanner := ⟨List.nodup_nil, rfl⟩
  have visited := List.foldlRecOn request.prefixes (visitPrefix visible request.marker) begun
    fun _ once packagePrefix _ => namesOnce_visitPrefix once request.marker packagePrefix
  exact ⟨visited.outcome, visited.outcomes⟩

/-- A scan names no type twice, whether it is remembered or made anew. -/
theorem NamesOnce.scan (once : scanner.NamesOnce) (visible : Universe) (request : ScanRequest) :
    (scanner.scan visible request).1.typeNames.Nodup ∧
      (scanner.scan visible request).2.NamesOnce := by
  unfold Scanner.scan
  split
  case h_1 outcome remembered =>
    obtain ⟨before, after, split, -⟩ := List.lookup_eq_some_iff.1 remembered
    exact ⟨once (request, outcome) (by simp [split]), once⟩
  case h_2 =>
    obtain ⟨outcome, outcomes⟩ := namesOnce_scanAnew scanner visible request
    refine ⟨outcome, fun entry member => ?_⟩
    rcases List.mem_append.1 member with old | new
    · exact once entry (outcomes ▸ old)
    · rw [List.mem_singleton.1 new]
      exact outcome

/-- Loading ahead leaves the outcomes that are kept. -/
theorem outcomes_foldl_primePackage (visible : Universe) (packages : List String)
    (progress : Nat × Scanner) :
    (packages.foldl (primePackage visible) progress).2.outcomes = progress.2.outcomes := by
  induction packages generalizing progress with
  | nil => rfl
  | cons package rest ih =>
      rw [List.foldl_cons, ih, ← outcomes_load progress.2 visible package]
      unfold primePackage
      split
      case h_1 found => rw [found]
      case h_2 found => rw [found]

/-- Priming answers no request. -/
theorem outcomes_prime (scanner : Scanner) (visible : Universe) (prefixes : List String) :
    (scanner.prime visible prefixes).2.outcomes = scanner.outcomes := by
  refine List.foldlRecOn (motive := fun (progress : Nat × Scanner) =>
    progress.2.outcomes = scanner.outcomes) prefixes _ rfl fun progress same packagePrefix _ => ?_
  split
  case h_1 => exact same
  case h_2 packages _ => exact (outcomes_foldl_primePackage visible packages progress).trans same

end Scanner

end BusBridge
