/-
This file proves what the pipelines of the two strategies return.
-/

import BusBridge.Engine.Pipeline
import BusBridge.Proofs.Outcome

namespace BusBridge

/-- A package that cannot be read has no types. -/
def Universe.typesOf (visible : Universe) (package : String) : List TypeDeclaration :=
  (visible.typesIn package).toOption.getD []

namespace Pipeline

variable {configuration : Configuration} {types : Universe}
  {declaration first : TypeDeclaration} {artifact : Artifact}

theorem eq_ok_of_ending {made : Except Failure Artifact}
    (returned : ending made = .returned artifact) : made = .ok artifact := by
  cases made with
  | error failure => cases returned
  | ok other => cases returned; rfl

theorem result_loader_eq (types : Universe) (configuration : Configuration) (contract : String)
    (scanner : Scanner) :
    (ofTarget configuration types (.loader contract) scanner).result =
      ending (loaderArtifact configuration (Target.loader contract).className
        (scanner.scan types configuration.remoteRequest).1.types) := rfl

/-- The subscriptions of a bean as one declaration of it has them. -/
def subscriptionsOf (configuration : Configuration) (declaration : TypeDeclaration) :
    Except Failure Artifact := do
  let model ← (configuration.builder.build .observerSubscription declaration).mapError .model
  (Synthesis.generateObserver (Target.observer declaration.name).className model
    configuration.registry configuration.context).mapError (.synthesis .observerSubscription)

/-- The pipeline of a bean works with the first declaration of its name. -/
theorem result_observer_eq {bean : String} (scanner : Scanner)
    (earliest : (types.typesOf (ClassName.parse bean).package).find? (·.name == bean) =
      some first) :
    (ofTarget configuration types (.observer bean) scanner).result =
      ending (subscriptionsOf configuration first) := by
  have named : first.name = bean := by simpa using List.find?_some earliest
  have declared : findBean types bean = .ok first := by
    rw [Universe.typesOf] at earliest
    rw [findBean, earliest]
  change ending (observerArtifact configuration types bean (Target.observer bean).className) = _
  simp only [observerArtifact, beanModel, declared, Except.bind, subscriptionsOf, named]

theorem subscriptionsOf_eq_ok_iff :
    subscriptionsOf configuration declaration = .ok artifact ↔
      ∃ model, configuration.builder.build .observerSubscription declaration = .ok model ∧
        Synthesis.generateObserver (Target.observer declaration.name).className model
          configuration.registry configuration.context = .ok artifact := by
  simp only [subscriptionsOf, bind_eq_ok_iff, mapError_eq_ok_iff]

end Pipeline

end BusBridge
