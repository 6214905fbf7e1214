/-
This file proves what the pipeline of a target makes while the universe stays as it is: an artifact
that depends on nothing but the target, for a class that source can declare.
-/

import BusBridge.Proofs.Engine.Pipeline
import BusBridge.Proofs.Java.Layout
import BusBridge.Proofs.Scan.Calls
import BusBridge.Proofs.Store.SinkFiles

namespace BusBridge

/-- Source declares the class, and starts as no sidecar does. -/
structure Artifact.IsDeclared (artifact : Artifact) : Prop where
  className : artifact.className.IsDeclarable
  starts : ∃ others, artifact.source.toList = 'p' :: others

theorem Java.CompilationUnit.isDeclared_of_write {package owner source : String}
    {declaration : Java.Class} {modifiers : List Java.Modifier}
    (visible : declaration.modifiers = .isPublic :: modifiers)
    (written : (CompilationUnit.mk package [declaration]).write owner = .ok source) :
    Artifact.IsDeclared ⟨⟨package, declaration.name⟩, source⟩ := by
  have valid := (Java.Layout.write_isOk_iff owner _).1 ⟨source, written⟩
  obtain ⟨packaged, declared⟩ := (isValid_layout _).1 valid
  obtain ⟨named, -⟩ := (Class.isValid_layout _).1 (declared declaration (List.mem_singleton_self _))
  obtain ⟨others, starts⟩ : ∃ others,
      Java.Layout.source 0 (CompilationUnit.mk package [declaration]).layout = 'p' :: others :=
    exists_source_eq_cons visible
  refine ⟨⟨packaged, named⟩, others, ?_⟩
  unfold write Layout.write at written
  split at written <;> cases written
  rw [String.toList_ofList, starts]

namespace Synthesis

variable {className : ClassName} {context : SynthesisContext} {artifact : Artifact}

/-- Both generators write a unit with one public class, and return it under its name. -/
theorem isDeclared_of_generated {Statements : Type}
    {collected : Except SynthesisFailure Statements}
    {unitOf : Statements → Java.CompilationUnit} {owner : String}
    (declares : ∀ statements, ∃ declaration modifiers,
      unitOf statements = ⟨className.package, [declaration]⟩ ∧
        declaration.name = className.simple ∧ declaration.modifiers = .isPublic :: modifiers)
    (generated : (collected >>= fun statements => pure (unitOf statements)) >>= (fun unit => do
      return ⟨className, ← unit.write owner⟩) = .ok artifact) :
    artifact.className = className ∧ artifact.IsDeclared := by
  obtain ⟨unit, synthesized, generated⟩ := bind_eq_ok_iff.1 generated
  obtain ⟨source, written, same⟩ := bind_eq_ok_iff.1 generated
  obtain ⟨statements, -, made⟩ := bind_eq_ok_iff.1 synthesized
  obtain ⟨declaration, modifiers, single, named, visible⟩ := declares statements
  cases same
  cases made
  rw [single] at written
  have declared := Java.CompilationUnit.isDeclared_of_write visible written
  rw [named] at declared
  exact ⟨rfl, declared⟩

theorem isDeclared_of_generateLoader {types : List TypeModel}
    (generated : generateLoader className types context = .ok artifact) :
    artifact.className = className ∧ artifact.IsDeclared :=
  isDeclared_of_generated (fun _ => ⟨_, _, rfl, rfl, rfl⟩) generated

theorem isDeclared_of_generateObserver {bean : TypeModel} {registry : DecoratorRegistry}
    (generated : generateObserver className bean registry context = .ok artifact) :
    artifact.className = className ∧ artifact.IsDeclared :=
  isDeclared_of_generated (fun _ => ⟨_, _, rfl, rfl, rfl⟩) generated

end Synthesis

namespace Pipeline

variable {configuration : Configuration} {types : Universe} {target : Target} {scanner : Scanner}
  {artifact : Artifact}

/-- What the universe gives for a target, whatever was scanned before. -/
def made (configuration : Configuration) (types : Universe) (target : Target) : JobOutcome :=
  match target.strategy with
  | .rpcProxy =>
      loaderArtifact configuration target.className (types.survey configuration.remoteRequest).types
  | .observerSubscription =>
      observerArtifact configuration types target.typeName target.className

theorem reports_prime (reports : scanner.Reports types) :
    (prime configuration types scanner).world.Reports types :=
  (reports.prime configuration.packages).2

/-- A pipeline gives what its universe has, and leaves a scanner that reports the universe. -/
theorem ofTarget_of_reports (reports : scanner.Reports types) :
    (ofTarget configuration types target scanner).result =
        ending (made configuration types target) ∧
      (ofTarget configuration types target scanner).world.Reports types := by
  unfold ofTarget made
  cases target.strategy with
  | rpcProxy =>
      obtain ⟨found, kept⟩ := reports.scan configuration.remoteRequest
      refine ⟨?_, kept⟩
      simp only [loader, Scanner.findTypes, found]
  | observerSubscription => exact ⟨rfl, reports⟩

/-- What is made for a target is of its class. -/
theorem isDeclared_of_made (returned : made configuration types target = .ok artifact) :
    artifact.className = target.className ∧ artifact.IsDeclared := by
  unfold made at returned
  split at returned
  case h_1 => exact Synthesis.isDeclared_of_generateLoader (mapError_eq_ok_iff.1 returned)
  case h_2 =>
    obtain ⟨model, -, generated⟩ := bind_eq_ok_iff.1 returned
    exact Synthesis.isDeclared_of_generateObserver (mapError_eq_ok_iff.1 generated)

end Pipeline

end BusBridge
