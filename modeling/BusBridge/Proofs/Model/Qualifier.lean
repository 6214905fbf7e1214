/-
This file proves which qualifiers a set holds and when sets match, and which annotations a builder
collects in one.
-/

import BusBridge.Model.Build
import BusBridge.Proofs.NameMap
import Mathlib.Data.List.Induction
import Mathlib.Data.List.Sort

namespace BusBridge

namespace QualifierSet

/-- A set is made as a map from the names of its qualifiers. -/
theorem qualifiers_ofList (qualifiers : List Qualifier) :
    (ofList qualifiers).qualifiers =
      NameMap.ofList (qualifiers.map fun qualifier => (qualifier.name, qualifier)) := by
  have folded (set : QualifierSet) : (qualifiers.foldl insert set).qualifiers =
      (qualifiers.map fun qualifier => (qualifier.name, qualifier)).foldl
        (fun map entry => map.insert entry.1 entry.2) set.qualifiers := by
    induction qualifiers generalizing set with
    | nil => rfl
    | cons head rest ih => exact ih (set.insert head)
  exact folded empty

/-- A set that is made from sorted names holds these names. -/
theorem names_ofNames {names : List String} (sorted : names.Pairwise (· < ·)) :
    (ofNames names).names = names := by
  have entries := qualifiers_ofList (names.map Qualifier.bare)
  rw [List.map_map] at entries
  rw [QualifierSet.names, ofNames, entries]
  exact NameMap.names_ofList_map sorted Qualifier.bare

variable {set : QualifierSet} {qualifier : Qualifier} {name : String}

/-- A qualifier takes the place of the one of its name. -/
theorem find?_insert :
    (set.insert qualifier).find? name =
      if name = qualifier.name then some qualifier else set.find? name :=
  NameMap.find?_insert

/-- A qualifier adds its name. -/
theorem mem_names_insert_iff :
    name ∈ (set.insert qualifier).names ↔ name = qualifier.name ∨ name ∈ set.names := by
  rw [names, names, NameMap.mem_names_iff, NameMap.mem_names_iff]
  simp only [insert, NameMap.find?_insert]
  split
  case isTrue own => simp [own]
  case isFalse other => simp [other]

variable {history first second : List Qualifier}

/-- The order and the number of insertions do not count, and neither do the members. -/
def InsertSameNames (first second : List Qualifier) : Prop :=
  ∀ name, name ∈ first.map Qualifier.name ↔ name ∈ second.map Qualifier.name

/-- Only the empty history inserts the names of none. -/
theorem insertSameNames_nil_iff : InsertSameNames [] history ↔ history = [] := by
  constructor
  · intro same
    rw [← List.map_eq_nil_iff (f := Qualifier.name)]
    exact List.eq_nil_iff_forall_not_mem.2 fun name inserted => nomatch (same name).2 inserted
  · rintro rfl
    exact fun name => Iff.rfl

/-- The last qualifier of a list is inserted last. -/
theorem ofList_append_singleton (history : List Qualifier) (qualifier : Qualifier) :
    ofList (history ++ [qualifier]) = (ofList history).insert qualifier := by
  simp [ofList]

/-- A set holds the names that were inserted, and no others. -/
theorem mem_names_ofList_iff {name : String} :
    name ∈ (ofList history).names ↔ name ∈ history.map Qualifier.name := by
  induction history using List.reverseRecOn with
  | nil => rfl
  | append_singleton earlier latest ih =>
      rw [ofList_append_singleton, mem_names_insert_iff, ih, List.map_append, List.mem_append,
        List.map_singleton, List.mem_singleton, or_comm]

/-- The names of a set have one order, so that they are known by their members. -/
theorem names_ofList_eq_iff :
    (ofList first).names = (ofList second).names ↔ InsertSameNames first second := by
  constructor
  · intro same name
    rw [← mem_names_ofList_iff, ← mem_names_ofList_iff, same]
  · intro same
    refine (NameMap.names_sorted _).eq_of_mem_iff (NameMap.names_sorted _) fun name => ?_
    exact mem_names_ofList_iff.trans ((same name).trans mem_names_ofList_iff.symm)

/-- A set without names is empty. -/
theorem eq_empty_iff : set = .empty ↔ set.names = [] := by
  rw [names, NameMap.names, List.map_eq_nil_iff]
  constructor
  · rintro rfl
    rfl
  · intro none
    exact congrArg QualifierSet.mk (NameMap.eq_of_entries_eq none)

/-- A set is empty when it has no names. -/
theorem isEmpty_iff : set.isEmpty = true ↔ set.names = [] := by
  rw [isEmpty, List.isEmpty_iff, names, NameMap.names, List.map_eq_nil_iff]

/-- What a set stands for where it is matched. -/
def matchedNames : Option QualifierSet → List String
  | some set => set.names
  | none => []

/-- Matching compares nothing but the names. -/
theorem dispatches_iff {first second : Option QualifierSet} :
    dispatches first second = true ↔ matchedNames first = matchedNames second := by
  cases first with
  | none =>
      cases second with
      | none => exact iff_of_true rfl rfl
      | some set => exact isEmpty_iff.trans eq_comm
  | some set =>
      cases second with
      | none => exact isEmpty_iff
      | some other => exact beq_iff_eq

/-- Matching sets form classes. -/
theorem equivalence_dispatches :
    Equivalence fun first second => dispatches first second = true where
  refl _ := dispatches_iff.2 rfl
  symm matched := dispatches_iff.2 (dispatches_iff.1 matched).symm
  trans matched following :=
    dispatches_iff.2 ((dispatches_iff.1 matched).trans (dispatches_iff.1 following))

/-- An absent set matches the empty one. -/
theorem dispatches_none_iff {other : Option QualifierSet} :
    dispatches none other = true ↔ other = none ∨ other = some .empty := by
  cases other with
  | none => exact iff_of_true rfl (.inl rfl)
  | some set =>
      have empty : dispatches none (some set) = true ↔ set = .empty :=
        isEmpty_iff.trans eq_empty_iff.symm
      rw [empty, Option.some_inj]
      exact (or_iff_right (Option.some_ne_none set)).symm

/--
Sets that are built by insertions are equal, are hashed alike and match exactly when the same names
were inserted, and each of these names is hashed once and in its place. Matching is an equivalence,
and an absent set is in one class with the empty set alone.
-/
theorem agreement_of_histories :
    (∀ first second : List Qualifier,
      ((ofList first).sameNames (ofList second) = true ↔ InsertSameNames first second) ∧
      ((ofList first).hashKey = (ofList second).hashKey ↔ InsertSameNames first second) ∧
      (dispatches (some (ofList first)) (some (ofList second)) = true ↔
        InsertSameNames first second)) ∧
    (∀ history : List Qualifier,
      (ofList history).hashKey.Pairwise (· < ·) ∧
      (∀ name, name ∈ (ofList history).hashKey ↔ name ∈ history.map Qualifier.name) ∧
      (dispatches none (some (ofList history)) = true ↔ history = [])) ∧
    (∀ other, dispatches none other = true ↔ other = none ∨ other = some .empty) ∧
    Equivalence fun first second => dispatches first second = true := by
  refine ⟨fun first second => ⟨?equal, ?hashed, ?matching⟩,
    fun history => ⟨NameMap.names_sorted _, fun name => mem_names_ofList_iff, ?absent⟩,
    fun other => dispatches_none_iff, equivalence_dispatches⟩
  case equal => exact beq_iff_eq.trans names_ofList_eq_iff
  case hashed => exact names_ofList_eq_iff
  case matching => exact dispatches_iff.trans names_ofList_eq_iff
  case absent =>
    have same : dispatches none (some (ofList history)) = true ↔
        (ofList []).names = (ofList history).names := dispatches_iff
    rw [same, names_ofList_eq_iff, insertSameNames_nil_iff]

/-- A name that is inserted again, with other members and in another order, changes nothing. -/
example :
    dispatches
      (some (ofList [.bare "com.example.Fast", .bare "com.example.Near", .bare "com.example.Fast"]))
      (some (ofList [⟨"com.example.Near", .ofList [("hops", "1")]⟩, .bare "com.example.Fast"])) =
        true := by
  decide

end QualifierSet

namespace ModelBuilder

variable {builder : ModelBuilder}

/-- An annotation counts as a qualifier where the host marks it or the builder knows its name. -/
def Marks (builder : ModelBuilder) (marker : Annotation) : Prop :=
  marker.isQualifier = true ∨ marker.name ∈ builder.extraQualifiers

/-- The builder takes exactly the marked annotations as qualifiers. -/
theorem isQualifier_iff {marker : Annotation} :
    builder.isQualifier marker = true ↔ builder.Marks marker := by
  simp [isQualifier, Marks]

/-- Of the annotations that count as qualifiers, this one is the last of its name. -/
def IsLastQualifier (builder : ModelBuilder) (annotations : List Annotation)
    (marker : Annotation) : Prop :=
  ∃ before after, annotations = before ++ marker :: after ∧ builder.Marks marker ∧
    ∀ later ∈ after, builder.Marks later → later.name ≠ marker.name

/-- A set of qualifiers has the names of the annotations that count as qualifiers, each with
what the last annotation of the name says. -/
structure Collects (builder : ModelBuilder) (annotations : List Annotation)
    (set : QualifierSet) : Prop where
  names : ∀ name, name ∈ set.names ↔
    ∃ marker ∈ annotations, builder.Marks marker ∧ marker.name = name
  members : ∀ marker, builder.IsLastQualifier annotations marker →
    set.find? marker.name = some ( Qualifier.ofAnnotation marker)

/-- The last annotation is added last, if it is a qualifier. -/
theorem qualifiers_append_singleton (annotations : List Annotation) (marker : Annotation) :
    builder.qualifiers (annotations ++ [marker]) =
      if builder.isQualifier marker then
        (builder.qualifiers annotations).insert ( Qualifier.ofAnnotation marker)
      else builder.qualifiers annotations := by
  rw [qualifiers, List.filter_append, List.map_append, QualifierSet.ofList, List.foldl_append]
  by_cases marks : builder.isQualifier marker = true
  · simp [marks, qualifiers, QualifierSet.ofList]
  · simp [marks, qualifiers, QualifierSet.ofList]

/-- The last qualifier of a name is the one that comes last. -/
theorem isLastQualifier_append_singleton_iff {annotations : List Annotation}
    {marker last : Annotation} :
    builder.IsLastQualifier (annotations ++ [marker]) last ↔
      last = marker ∧ builder.Marks marker ∨
        builder.IsLastQualifier annotations last ∧
          (builder.Marks marker → marker.name ≠ last.name) := by
  constructor
  · rintro ⟨before, after, same, marks, later⟩
    cases after using List.reverseRecOn with
    | nil =>
        cases (List.append_inj' same rfl).2
        exact .inl ⟨rfl, marks⟩
    | append_singleton after final =>
        rw [← List.cons_append, ← List.append_assoc] at same
        obtain ⟨rfl, own⟩ := List.append_inj' same rfl
        cases own
        exact .inr ⟨⟨before, after, rfl, marks, fun other inside => later other (by simp [inside])⟩,
          later marker (by simp)⟩
  · rintro (⟨rfl, marks⟩ | ⟨⟨before, after, rfl, marks, later⟩, other⟩)
    · exact ⟨annotations, [], rfl, marks, by simp⟩
    · refine ⟨before, after ++ [marker], by simp, marks, ?_⟩
      rw [List.forall_mem_append, List.forall_mem_singleton]
      exact ⟨later, other⟩

namespace Collects

variable {annotations : List Annotation} {set : QualifierSet} {marker : Annotation}

/-- Without annotations nothing is collected. -/
theorem nil : builder.Collects [] .empty where
  names name := by simp [QualifierSet.names, QualifierSet.empty, NameMap.names, NameMap.empty]
  members marker := by
    rintro ⟨before, after, same, -⟩
    simp at same

/-- An annotation without a mark is not collected. -/
theorem skip (collected : builder.Collects annotations set) (unmarked : ¬builder.Marks marker) :
    builder.Collects (annotations ++ [marker]) set where
  names name := by
    rw [collected.names]
    simp [or_and_right, exists_or, unmarked]
  members last isLast := by
    rcases isLastQualifier_append_singleton_iff.1 isLast with ⟨-, marks⟩ | ⟨isLast, -⟩
    · exact absurd marks unmarked
    · exact collected.members last isLast

/-- A marked annotation is collected under its name. -/
theorem insert (collected : builder.Collects annotations set) (marks : builder.Marks marker) :
    builder.Collects (annotations ++ [marker]) (set.insert ( Qualifier.ofAnnotation marker)) where
  names name := by
    rw [QualifierSet.mem_names_insert_iff, collected.names]
    simp [or_and_right, exists_or, marks, Qualifier.ofAnnotation, eq_comm, or_comm]
  members last isLast := by
    rw [QualifierSet.find?_insert]
    rcases isLastQualifier_append_singleton_iff.1 isLast with ⟨rfl, -⟩ | ⟨isLast, other⟩
    · exact if_pos rfl
    · exact (if_neg (Ne.symm (other marks))).trans (collected.members last isLast)

end Collects

/-- The builder collects the qualifiers of all annotations. -/
theorem collects_qualifiers (builder : ModelBuilder) (annotations : List Annotation) :
    builder.Collects annotations (builder.qualifiers annotations) := by
  induction annotations using List.reverseRecOn with
  | nil => exact .nil
  | append_singleton annotations marker ih =>
      rw [qualifiers_append_singleton]
      split
      case isTrue marks => exact ih.insert (isQualifier_iff.1 marks)
      case isFalse unmarked => exact ih.skip (isQualifier_iff.not.1 unmarked)

end ModelBuilder

end BusBridge
