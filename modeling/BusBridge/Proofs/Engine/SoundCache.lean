/-
This file proves that the cache of an engine stays sound: what can be used of it for a target of the
plan is what was made for the target, as long as no two texts have the same digest.
-/

import BusBridge.Proofs.Engine.PassSteps

namespace BusBridge

/-- The texts that a pass over a universe can bring to its cache. -/
def cachedTexts (configuration : Configuration) (types : Universe) : List String :=
  (plannedTargets configuration types).flatMap fun target =>
    match Pipeline.made configuration types target with
    | .ok artifact => [artifact.source, (ArtifactCache.sidecar target artifact.source).print]
    | .error _ => []

theorem mem_cachedTexts {configuration : Configuration} {types : Universe} {target : Target}
    {artifact : Artifact} (planned : target ∈ plannedTargets configuration types)
    (made : Pipeline.made configuration types target = .ok artifact) :
    artifact.source ∈ cachedTexts configuration types ∧
      (ArtifactCache.sidecar target artifact.source).print ∈ cachedTexts configuration types := by
  simp only [cachedTexts, List.mem_flatMap]
  constructor <;> exact ⟨target, planned, by simp [made]⟩

namespace Engine

variable {types : Universe} {engine next : Engine} {target : Target} {artifact : Artifact}

/-- A sidecar of a planned target has the checksum of what was made for the target, and where a
source stands there is no other text than those of the pass. -/
structure HasSoundCache (types : Universe) (engine : Engine) : Prop where
  sidecars : ∀ target ∈ plannedTargets engine.configuration types, ∀ sidecar,
    engine.sidecar? target = some sidecar → sidecar.target = target →
      ∃ artifact, Pipeline.made engine.configuration types target = .ok artifact ∧
        sidecar.checksum = Digest.checksum artifact.source.toUTF8
  sources : ∀ target ∈ plannedTargets engine.configuration types, ∀ content,
    engine.cached? target .source = some content →
      ∃ text ∈ cachedTexts engine.configuration types, content = text.toUTF8

/-- An empty cache is sound. -/
theorem HasSoundCache.of_uncached
    (uncached : ∀ target ∈ plannedTargets engine.configuration types, ∀ part,
      engine.cached? target part = none) : engine.HasSoundCache types := by
  constructor
  case sidecars =>
    intro target planned sidecar found
    obtain ⟨bytes, held, -⟩ := Option.bind_eq_some_iff.1 found
    cases (uncached target planned .sidecar).symm.trans held
  case sources =>
    intro target planned content held
    cases (uncached target planned .source).symm.trans held

/-- Soundness is a matter of the files of the planned targets alone. -/
theorem HasSoundCache.congr (sound : engine.HasSoundCache types)
    (planned : plannedTargets next.configuration types = plannedTargets engine.configuration types)
    (made : Pipeline.made next.configuration types = Pipeline.made engine.configuration types)
    (same : ∀ target ∈ plannedTargets engine.configuration types, ∀ part,
      next.cached? target part = engine.cached? target part) : next.HasSoundCache types := by
  have texts : cachedTexts next.configuration types = cachedTexts engine.configuration types := by
    rw [cachedTexts, cachedTexts, planned, made]
  constructor
  case sidecars =>
    intro target inPlan sidecar found own
    rw [planned] at inPlan
    rw [made]
    rw [sidecar?, same target inPlan] at found
    exact sound.sidecars target inPlan sidecar found own
  case sources =>
    intro target inPlan content held
    rw [planned] at inPlan
    rw [same target inPlan] at held
    rw [texts]
    exact sound.sources target inPlan content held

theorem HasSoundCache.sameStores (sound : engine.HasSoundCache types)
    (stores : engine.SameStores next) : next.HasSoundCache types :=
  sound.congr (by rw [stores.configuration]) (by rw [stores.configuration])
    fun _ _ _ => stores.cached?_eq

/-- What was made for a planned target may be cached. -/
theorem HasSoundCache.takes (sound : engine.HasSoundCache types) (same : engine.SameRun next)
    (takes : Takes target artifact engine next)
    (planned : target ∈ plannedTargets engine.configuration types)
    (made : Pipeline.made engine.configuration types target = .ok artifact) :
    next.HasSoundCache types := by
  have declared := (Pipeline.isDeclared_of_made made).2
  constructor
  case sidecars =>
    rw [same.configuration]
    intro other inPlan sidecar found own
    rcases takes.sidecar?_cases same.cache declared found with old | rfl
    · exact sound.sidecars other inPlan sidecar old own
    · obtain rfl : target = other := own
      exact ⟨artifact, made, rfl⟩
  case sources =>
    rw [same.configuration]
    intro other inPlan content held
    obtain ⟨source, sidecar⟩ := mem_cachedTexts planned made
    rcases takes.cached?_cases same.cache held with old | rfl | rfl
    · exact sound.sources other inPlan content old
    · exact ⟨_, source, rfl⟩
    · exact ⟨_, sidecar, rfl⟩

/-- What a sound cache has for a planned target was made for it. -/
theorem HasSoundCache.made_of_reusable? (sound : engine.HasSoundCache types)
    (separates : Digest.Separates (cachedTexts engine.configuration types))
    (planned : target ∈ plannedTargets engine.configuration types)
    (found : engine.reusable? target = some artifact) :
    Pipeline.made engine.configuration types target = .ok artifact := by
  obtain ⟨sidecar, content, known, own, held, verified, decoded⟩ :=
    exists_sidecar_of_reusable? found
  obtain ⟨other, made, checksum⟩ := sound.sidecars target planned sidecar known own
  obtain ⟨text, member, rfl⟩ := sound.sources target planned content held
  rw [checksum, Digest.verifies_checksum_iff] at verified
  have same := separates text member other.source (mem_cachedTexts planned made).1 verified
  rw [Text.fromUTF8?_toUTF8] at decoded
  have classes := (className_of_reusable? found).trans (Pipeline.isDeclared_of_made made).1.symm
  obtain ⟨className, source⟩ := artifact
  obtain ⟨otherName, otherSource⟩ := other
  simp only [Option.some.injEq] at classes same decoded
  rw [made, classes, ← decoded, same]

end Engine

end BusBridge
