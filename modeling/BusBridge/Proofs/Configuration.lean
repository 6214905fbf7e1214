/-
This file proves what holds for every configuration that a generation works with.
-/

import BusBridge.Configuration.Validation
import BusBridge.Proofs.Outcome

namespace BusBridge.Configuration

/-- In an accepted configuration each dotted name is a qualified name. -/
theorem isQualifiedName_of_validate {configuration : Configuration}
    (accepted : configuration.validate = .ok ()) :
    ∀ entry ∈ configuration.qualifiedNames, Java.isQualifiedName entry.2 = true := by
  simp only [validate, check_eq_ok_iff] at accepted
  obtain ⟨-, -, -, -, named⟩ := accepted
  split at named
  case h_1 => cases named
  case h_2 none =>
    intro entry member
    simpa using List.find?_eq_none.1 none entry member

/-- An accepted configuration admits at least one pending job. -/
theorem maxPendingJobs_pos_of_validate {configuration : Configuration}
    (accepted : configuration.validate = .ok ()) : 0 < configuration.maxPendingJobs := by
  simp only [validate, check_eq_ok_iff] at accepted
  obtain ⟨-, -, -, some, -⟩ := accepted
  exact Nat.pos_of_ne_zero some

/-- An accepted configuration has a worker. -/
theorem workerThreads_pos_of_validate {configuration : Configuration}
    (accepted : configuration.validate = .ok ()) : 0 < configuration.workerThreads := by
  simp only [validate, check_eq_ok_iff] at accepted
  obtain ⟨-, -, some, -⟩ := accepted
  exact Nat.pos_of_ne_zero some

/-- Any number of pending jobs is accepted, except for none. -/
theorem validate_of_pending {configuration : Configuration} {jobs : Nat}
    (accepted : configuration.validate = .ok ()) (admitted : jobs ≠ 0) :
    ({ configuration with maxPendingJobs := jobs } : Configuration).validate = .ok () := by
  simp only [validate, check_eq_ok_iff] at accepted ⊢
  obtain ⟨given, usable, workers, -, named⟩ := accepted
  exact ⟨given, usable, workers, admitted, named⟩

/-- A configuration needs no more than a package. -/
theorem validate_package :
    ({ packages := ["com.example"] } : Configuration).validate = .ok () := by
  decide +kernel

/-- A configuration with short names keeps the runs small that are computed with it. -/
def brief : Configuration where
  packages := ["shop"]
  annotations := ⟨"Remote", "Observes", "Local", []⟩
  bus := ⟨"Bus", "Message", "Callback", "Builder", "Remote", "Error", "Stub", "Provider",
    "Factory", "Protocol", "event:"⟩
  loaderContract := "Loader"

end BusBridge.Configuration
