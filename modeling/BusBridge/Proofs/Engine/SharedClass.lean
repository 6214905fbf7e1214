/-
This file proves which targets share a generated class, and with it a reservation, a commit gate
and a cache entry.
-/

import BusBridge.Engine.Basic
import BusBridge.Proofs.Engine.CommitGates
import BusBridge.Proofs.Model.Build
import BusBridge.Proofs.Store.CacheEntry
import BusBridge.Proofs.Store.Sink
import BusBridge.Proofs.Text.Basic

namespace BusBridge

open Java (isQualifiedName sourceForm)

/-- A builder makes a model of the type for the strategy. -/
def Target.IsAccepted (target : Target) : Prop :=
  ∃ (builder : ModelBuilder) (declaration : TypeDeclaration) (model : TypeModel),
    builder.build target.strategy declaration = .ok model ∧ model.name = target.typeName

/-- The simple names differ, but only where each has a dollar sign or an underscore. -/
structure Target.IsMistakenFor (first second : Target) : Prop where
  strategy : first.strategy = second.strategy
  package : (ClassName.parse first.typeName).package = (ClassName.parse second.typeName).package
  simple : Text.AgreeUpTo ['$', '_'] (ClassName.parse first.typeName).simple
    (ClassName.parse second.typeName).simple
  different : (ClassName.parse first.typeName).simple ≠ (ClassName.parse second.typeName).simple

/-- A simple name has no dot. -/
theorem ClassName.not_mem_simple_parse (name : String) : '.' ∉ (parse name).simple.toList := by
  unfold parse
  split
  case h_1 cut => exact (Text.splitLast?_eq_some cut).2
  case h_2 cut => exact Text.not_mem_of_splitLast?_eq_none cut

namespace Target

variable {first second target : Target}

/-- An accepted target is named by a qualified name in source. -/
theorem IsAccepted.isQualifiedName (accepted : target.IsAccepted) :
    isQualifiedName (sourceForm target.typeName) = true := by
  obtain ⟨builder, declaration, model, built, named⟩ := accepted
  rw [← named]
  exact (ModelBuilder.isChecked_build built).name

/-- A target that is named by a qualified name in source is accepted. -/
theorem isAccepted_of_isQualifiedName
    (qualified : Java.isQualifiedName (sourceForm target.typeName) = true) : target.IsAccepted :=
  ⟨⟨[]⟩, _, _, ModelBuilder.build_of_isQualifiedName qualified, rfl⟩

/-- The source form of an accepted name starts an identifier, so the name starts with no dot. -/
theorem IsAccepted.qualified_parse (accepted : target.IsAccepted) :
    (ClassName.parse target.typeName).qualified = target.typeName := by
  obtain ⟨head, rest, split, starts⟩ := Java.cons_of_isQualifiedName accepted.isQualifiedName
  refine ClassName.qualified_parse fun dotted => ?_
  rw [sourceForm, Java.toList_replace] at split
  cases named : target.typeName.toList with
  | nil => simp [named] at dotted
  | cons character others =>
      obtain rfl : character = '.' := by simpa [named] using dotted
      rw [named] at split
      cases split
      exact absurd starts (by decide)

/-- An accepted target has no directory in its name. -/
theorem IsAccepted.isPlain (accepted : target.IsAccepted) : target.IsPlain := by
  intro slash
  have inside : '/' ∈ (sourceForm target.typeName).toList := by
    rw [sourceForm, Java.toList_replace]
    exact List.mem_map.2 ⟨'/', slash, by decide⟩
  have known := Java.continues_of_isQualifiedName accepted.isQualifiedName '/' inside
  exact absurd known (by decide)

/-- The simple name of a generated class has no dot. -/
theorem not_mem_simple_className (target : Target) : '.' ∉ target.className.simple.toList := by
  have ending : ∀ strategy, '.' ∉ (suffix strategy).toList := by
    intro strategy
    cases strategy <;> decide
  simp only [className, String.toList_append, Java.toList_replace, List.mem_append, List.mem_map]
  rintro (⟨character, inside, same⟩ | inside)
  · split at same
    · exact absurd same (by decide)
    · exact ClassName.not_mem_simple_parse _ (same ▸ inside)
  · exact ending _ inside

/-- The endings of the strategies differ in their last letters. -/
theorem append_suffix_inj {front back : String} {strategy other : Strategy}
    (same : front ++ suffix strategy = back ++ suffix other) : strategy = other ∧ front = back := by
  have lists := congrArg String.toList same
  rw [String.toList_append, String.toList_append] at lists
  have strategies : strategy = other := by
    have last := congrArg List.getLast? lists
    have impl : (suffix .rpcProxy).toList.getLast? = some 'l' := by decide
    have subscriptions : (suffix .observerSubscription).toList.getLast? = some 's' := by decide
    cases strategy <;> cases other <;>
      simp only [List.getLast?_append, impl, subscriptions, Option.some_or] at last <;>
      first | rfl | exact absurd last (by decide)
  subst strategies
  exact ⟨rfl, String.toList_inj.1 (List.append_cancel_right lists)⟩

/-- Dollar signs become the underscores that a name may have as well. -/
theorem mergesDollar :
    Text.Merges (fun character => if character = '$' then '_' else character) ['$', '_'] '_' where
  member := by decide
  merged := by simp
  kept _ plain := if_neg fun dollar => plain (by simp [dollar])

/-- Texts are equal after the replacement when they agree up to the two marks. -/
theorem replace_eq_replace_iff (first second : String) :
    Text.replace '$' '_' first = Text.replace '$' '_' second ↔
      Text.AgreeUpTo ['$', '_'] first second := by
  rw [← mergesDollar.map_eq_map_iff, ← String.toList_inj, Java.toList_replace,
    Java.toList_replace]

/-- Two classes have one name exactly when only the marks in the simple names differ. -/
theorem className_eq_className_iff (first second : Target) :
    first.className = second.className ↔ first.strategy = second.strategy ∧
      (ClassName.parse first.typeName).package = (ClassName.parse second.typeName).package ∧
      Text.AgreeUpTo ['$', '_'] (ClassName.parse first.typeName).simple
        (ClassName.parse second.typeName).simple := by
  rw [← replace_eq_replace_iff, className, className, ClassName.mk.injEq]
  constructor
  · rintro ⟨package, simple⟩
    obtain ⟨strategy, names⟩ := append_suffix_inj simple
    exact ⟨strategy, package, names⟩
  · rintro ⟨strategy, package, names⟩
    exact ⟨package, by rw [strategy, names]⟩

/-- A generated class is known by its qualified name. -/
theorem qualified_className_inj :
    first.className.qualified = second.className.qualified ↔
      first.className = second.className := by
  refine ⟨fun same => ?_, fun same => by rw [same]⟩
  rw [← ClassName.parse_qualified first.not_mem_simple_className, same,
    ClassName.parse_qualified second.not_mem_simple_className]

/-- Accepted targets of one class are equal, unless one is mistaken for the other. -/
theorem className_eq_iff_isMistakenFor (firstAccepted : first.IsAccepted)
    (secondAccepted : second.IsAccepted) :
    first.className = second.className ↔ first = second ∨ first.IsMistakenFor second := by
  rw [className_eq_className_iff]
  constructor
  · rintro ⟨strategy, package, simple⟩
    by_cases same : (ClassName.parse first.typeName).simple =
        (ClassName.parse second.typeName).simple
    · have parts : ClassName.parse first.typeName = ClassName.parse second.typeName := by
        rw [ClassName.mk.injEq]
        exact ⟨package, same⟩
      have names := congrArg ClassName.qualified parts
      rw [firstAccepted.qualified_parse, secondAccepted.qualified_parse] at names
      exact .inl (by rw [Target.mk.injEq]; exact ⟨names, strategy⟩)
    · exact .inr ⟨strategy, package, simple, same⟩
  · rintro (rfl | mistaken)
    · exact ⟨rfl, rfl, (replace_eq_replace_iff _ _).1 rfl⟩
    · exact ⟨mistaken.strategy, mistaken.package, mistaken.simple⟩

/-- Two accepted targets share a generated class exactly when they are equal or one is mistaken for
the other. In the same cases a reservation, a commit gate or a cache entry of the first is one of
the second. -/
theorem shares_class_iff (firstAccepted : first.IsAccepted) (secondAccepted : second.IsAccepted) :
    (first.className.qualified = second.className.qualified ↔
      first = second ∨ first.IsMistakenFor second) ∧
    (∀ sink : Sink, sink.isCreated second.className = false →
      ((sink.tryCreate first.className).2.isCreated second.className = true ↔
        first = second ∨ first.IsMistakenFor second)) ∧
    (∀ commits : CommitGates, commits.current? second.className.qualified = none →
      (((commits.gateFor first.className.qualified).2.current?
          second.className.qualified).isSome = true ↔
        first = second ∨ first.IsMistakenFor second)) ∧
    ∀ (cache : ArtifactCache) (files : Files),
      files.destination (cache.sourcePath first) = files.destination (cache.sourcePath second) ↔
        first = second ∨ first.IsMistakenFor second := by
  rw [← className_eq_iff_isMistakenFor firstAccepted secondAccepted]
  refine ⟨qualified_className_inj, fun sink free => ?_, fun commits free => ?_,
    fun cache files => ?_⟩
  · rw [Sink.isCreated_tryCreate, free, eq_comm]
    simp
  · rw [CommitGates.isSome_current?_gateFor free, qualified_className_inj]
  · rw [ArtifactCache.sourcePath_eq, ArtifactCache.sourcePath_eq,
      ArtifactCache.destination_partPath firstAccepted.isPlain,
      ArtifactCache.destination_partPath secondAccepted.isPlain, ← qualified_className_inj]
    constructor
    · intro same
      have names := (List.cons.inj (List.append_cancel_left same)).1
      exact (EntryPart.fileName_inj names).2
    · intro same
      rw [EntryPart.fileName, EntryPart.fileName, same]

/-- The class `Bean` that is nested in the class `Outer`. -/
def nestedBean : Target :=
  .observer "shop.Outer$Bean"

/-- A class of its own, whose name has an underscore. -/
def flatBean : Target :=
  .observer "shop.Outer_Bean"

/-- A nested bean is accepted. -/
theorem isAccepted_nestedBean : nestedBean.IsAccepted :=
  isAccepted_of_isQualifiedName (by decide +kernel)

/-- A bean with an underscore is accepted. -/
theorem isAccepted_flatBean : flatBean.IsAccepted :=
  isAccepted_of_isQualifiedName (by decide +kernel)

/-- The two beans are mistaken for one another. -/
theorem nestedBean_shares_class : nestedBean.IsAccepted ∧ flatBean.IsAccepted ∧
    nestedBean.IsMistakenFor flatBean ∧
    nestedBean.className.qualified = flatBean.className.qualified := by
  have mistaken : nestedBean.IsMistakenFor flatBean :=
    ⟨rfl, by decide +kernel, by decide +kernel, by decide +kernel⟩
  exact ⟨isAccepted_nestedBean, isAccepted_flatBean, mistaken,
    (shares_class_iff isAccepted_nestedBean isAccepted_flatBean).1.2 (.inr mistaken)⟩

/-- Two accepted targets may have one class. -/
theorem different_beans_share_class : nestedBean.IsAccepted ∧ flatBean.IsAccepted ∧
    nestedBean ≠ flatBean ∧ nestedBean.className.qualified = flatBean.className.qualified :=
  ⟨isAccepted_nestedBean, isAccepted_flatBean, by decide +kernel, by decide +kernel⟩

end Target

end BusBridge
