/-
This file proves that a bean is isolated in a generation pass: whether its own generation succeeds
or fails, every other target has the same outcome, and every other class the same source.
-/

import BusBridge.Proofs.Engine.PassPatience
import BusBridge.Proofs.Engine.Variation

namespace BusBridge

namespace PassRun

variable {configuration : Configuration} {first second : List TypeDeclaration} {bean : String}
  {engine other : Engine} {run next : PassRun}

/-- Two undisturbed passes over types that differ only in the methods of one observed bean have the
same targets, with the same outcome for each target but the bean's, and their sinks have the same
source for each class but the bean's. -/
theorem pass_isolates_bean
    (agree : List.Forall₂ (TypeDeclaration.AgreesBut bean) first second)
    (marked : ∀ declaration ∈ first ++ second, declaration.name = bean →
      declaration.carries configuration.annotations.observes = true ∧
        declaration.carries configuration.annotations.remote = false)
    (distinct : (((MemoryUniverse.ofTypes first).toUniverse.survey
      ⟨configuration.annotations.observes, configuration.packages⟩).types.map
        fun found => (Target.observer found.name).className).Nodup)
    (undisturbed : Undisturbed configuration (.memory (.ofTypes first)) engine run)
    (alsoUndisturbed : Undisturbed configuration (.memory (.ofTypes second)) other next) :
    run.pass.report.outcomes.map Prod.fst = next.pass.report.outcomes.map Prod.fst ∧
      (run.pass.report.outcomes.filter fun outcome => outcome.1 != .observer bean) =
        (next.pass.report.outcomes.filter fun outcome => outcome.1 != .observer bean) ∧
      ∀ className ≠ (Target.observer bean).className,
        run.source? className = next.source? className := by
  have agrees := MemoryUniverse.agreesBut_ofTypes agree
  have observed := MemoryUniverse.isObserved_ofTypes fun declaration member =>
    marked declaration (List.mem_append_left second member)
  have alsoObserved := MemoryUniverse.isObserved_ofTypes fun declaration member =>
    marked declaration (List.mem_append_right first member)
  have planned := agrees.plannedTargets_eq observed alsoObserved
  have separate : Target.KeepApart
      (plannedTargets configuration (MemoryUniverse.ofTypes first).toUniverse) :=
    keepApart_plannedTargets (MemoryUniverse.shows_ofTypes first) distinct
  have still (declarations : List TypeDeclaration) (files : Files) :
      (UniverseSource.memory (.ofTypes declarations)).at files =
        (MemoryUniverse.ofTypes declarations).toUniverse := rfl
  obtain ⟨outcomes, sources⟩ := undisturbed.makes_planned (still first) separate
  obtain ⟨alsoOutcomes, alsoSources⟩ :=
    alsoUndisturbed.makes_planned (still second) (planned ▸ separate)
  rw [← planned] at alsoOutcomes alsoSources
  refine ⟨?_, ?_, fun className foreign => Option.ext fun text => ?_⟩
  · rw [outcomes, alsoOutcomes, List.map_map, List.map_map]
    rfl
  · rw [outcomes, alsoOutcomes, List.filter_map, List.filter_map]
    refine List.map_congr_left fun target chosen => ?_
    have different : target ≠ .observer bean := bne_iff_ne.1 (List.mem_filter.1 chosen).2
    rw [agrees.made_eq observed alsoObserved different]
  · rw [sources, alsoSources]
    refine exists_congr fun target => and_congr_right fun _ => ?_
    by_cases own : target = .observer bean
    · -- A class that is made for the bean is the bean's.
      have never {types : Universe} :
          Pipeline.made configuration types target ≠ .ok ⟨className, text⟩ := fun made =>
        foreign (own ▸ (Pipeline.isDeclared_of_made made).1)
      exact iff_of_false never never
    · rw [agrees.made_eq observed alsoObserved own]

/-- A new engine that stores in memory can come to the end of an undisturbed pass. -/
theorem exists_undisturbed {source : UniverseSource}
    (started : Engine.start configuration source {} .memory = .ok engine)
    (fits : configuration.maxPendingJobs ≤ GenerationPass.maximalWindow) :
    ∃ run, Undisturbed configuration source engine run ∧ run.IsPatient := by
  obtain ⟨-, scheduler, -, same⟩ := Engine.start_eq_ok started
  have own : engine.configuration = configuration := by rw [same]
  obtain ⟨run, reached, finished, patient⟩ := exists_permitted_end (.start started)
    (own ▸ fits) (Engine.tasks_of_start started ▸ Nat.zero_le 1)
  refine ⟨run, ?_, patient⟩
  constructor
  case started => exact ⟨{}, .memory, started⟩
  case fresh => rw [same]; rfl
  case uncached =>
    intro target
    rw [same]
    exact Files.content?_empty _
  case reached => exact reached
  case finished => exact finished
  case permitted => exact patient.permitted
  case unfailing =>
    rw [same]
    exact fun _ _ => .inl rfl

/-- The failures that a pass over a universe has to report. -/
def plannedFailures (configuration : Configuration) (types : Universe) : List (Target × Failure) :=
  (plannedTargets configuration types).filterMap fun target =>
    match Pipeline.made configuration types target with
    | .ok _ => none
    | .error failure => some (target, failure)

theorem Undisturbed.failures_eq
    (undisturbed : Undisturbed configuration (.memory (.ofTypes first)) engine run)
    (distinct : (((MemoryUniverse.ofTypes first).toUniverse.survey
      ⟨configuration.annotations.observes, configuration.packages⟩).types.map
        fun found => (Target.observer found.name).className).Nodup) :
    run.pass.report.failures =
      plannedFailures configuration (MemoryUniverse.ofTypes first).toUniverse := by
  have still (files : Files) : (UniverseSource.memory (.ofTypes first)).at files =
      (MemoryUniverse.ofTypes first).toUniverse := rfl
  obtain ⟨outcomes, -⟩ := undisturbed.makes_planned still
    (keepApart_plannedTargets (MemoryUniverse.shows_ofTypes first) distinct)
  rw [GenerationReport.failures, outcomes, List.filterMap_map, plannedFailures]
  refine List.filterMap_congr fun target _ => ?_
  rw [Function.comp_apply]
  cases Pipeline.made configuration (MemoryUniverse.ofTypes first).toUniverse target <;> rfl

/-- Two beans, of which the first one has some methods. -/
def twoBeans (methods : List MethodDeclaration) : List TypeDeclaration := [
  ⟨"shop.Orders", .classType, [⟨"Observes", .empty, false⟩], methods⟩,
  ⟨"shop.Stock", .classType, [⟨"Observes", .empty, false⟩], []⟩]

/-- An observer method has to take the event alone. -/
def crowded : MethodDeclaration where
  name := "placed"
  returnType := "void"
  annotations := []
  parameters := [
    ⟨some "order", "shop.Order", [⟨"Observes", .empty, false⟩]⟩,
    ⟨some "count", "int", []⟩]

/-- The crowded method fails its bean and nothing else. -/
theorem crowded_isolated : ∃ engine run other next,
    Undisturbed narrow (.memory (.ofTypes (twoBeans []))) engine run ∧
      Undisturbed narrow (.memory (.ofTypes (twoBeans [crowded]))) other next ∧
      run.pass.report.failures = [] ∧
      next.pass.report.failures = [(.observer "shop.Orders", .synthesis .observerSubscription
        (.invalidObserver "shop.Orders" "placed"
          "observer methods take exactly one parameter, found 2"))] ∧
      (run.pass.report.outcomes.filter fun outcome => outcome.1 != .observer "shop.Orders") =
        (next.pass.report.outcomes.filter fun outcome => outcome.1 != .observer "shop.Orders") ∧
      ∀ className ≠ (Target.observer "shop.Orders").className,
        run.source? className = next.source? className := by
  obtain ⟨engine, starts⟩ := Option.isSome_iff_exists.1 (show (Engine.start narrow
    (.memory (.ofTypes (twoBeans []))) {} .memory).toOption.isSome = true by decide +kernel)
  obtain ⟨other, alsoStarts⟩ := Option.isSome_iff_exists.1 (show (Engine.start narrow
    (.memory (.ofTypes (twoBeans [crowded]))) {} .memory).toOption.isSome = true by decide +kernel)
  obtain ⟨run, undisturbed, -⟩ := exists_undisturbed (toOption_eq_some_iff.1 starts) (by decide)
  obtain ⟨next, alsoUndisturbed, -⟩ := exists_undisturbed (toOption_eq_some_iff.1 alsoStarts)
    (by decide)
  have succeeds :
      plannedFailures narrow (MemoryUniverse.ofTypes (twoBeans [])).toUniverse = [] := by
    decide +kernel
  have fails : plannedFailures narrow (MemoryUniverse.ofTypes (twoBeans [crowded])).toUniverse =
      [(.observer "shop.Orders", .synthesis .observerSubscription (.invalidObserver "shop.Orders"
        "placed" "observer methods take exactly one parameter, found 2"))] := by
    decide +kernel
  have agree : List.Forall₂ (TypeDeclaration.AgreesBut "shop.Orders") (twoBeans [])
      (twoBeans [crowded]) :=
    .cons ⟨rfl, rfl, rfl, fun foreign => absurd rfl foreign⟩
      (.cons ⟨rfl, rfl, rfl, fun _ => rfl⟩ .nil)
  have distinct : (((MemoryUniverse.ofTypes (twoBeans [])).toUniverse.survey
      ⟨narrow.annotations.observes, narrow.packages⟩).types.map
        fun found => (Target.observer found.name).className).Nodup := by
    decide +kernel
  obtain ⟨-, outcomes, sources⟩ := pass_isolates_bean agree (by decide) distinct undisturbed
    alsoUndisturbed
  exact ⟨engine, run, other, next, undisturbed, alsoUndisturbed,
    (undisturbed.failures_eq distinct).trans succeeds,
    (alsoUndisturbed.failures_eq (by decide +kernel)).trans fails, outcomes, sources⟩

end PassRun

end BusBridge
