/-
This file proves which declarations are modelled, what their models say, and for what a
declaration is refused: the first of its requirements, in the order of the declaration, that is
not met.
-/

import BusBridge.Proofs.Java.DeclaredType
import BusBridge.Proofs.Model.Build
import BusBridge.Proofs.Model.Qualifier
import Mathlib.Data.List.Nodup

namespace BusBridge

open Java (DeclaredType TypeReference isIdentifier isQualifiedName isTypeReference sourceForm)

/-- The names of the parameters, where missing ones are filled in. -/
def MethodDeclaration.parameterNames (method : MethodDeclaration) : List String :=
  method.parameters.zipIdx.map fun (parameter, index) => ModelBuilder.parameterName index parameter

/-- What a declaration must meet to have a model. The index is the position of a parameter. -/
inductive Requirement where
  | interface
  | typeName
  | methodName (method : MethodDeclaration)
  | parameterName (method : MethodDeclaration) (index : Nat) (parameter : ParameterDeclaration)
  | distinctName (method : MethodDeclaration) (index : Nat) (parameter : ParameterDeclaration)
  | parameterType (method : MethodDeclaration) (parameter : ParameterDeclaration)
  | returnType (method : MethodDeclaration)

/-- The type of a parameter is a type reference other than `void`. -/
def ParameterDeclaration.HasValueType (parameter : ParameterDeclaration) : Prop :=
  ∃ reference, TypeReference.parse (Text.trim parameter.type) = .ok (.value reference)

namespace Requirement

def IsMet (strategy : Strategy) (declaration : TypeDeclaration) : Requirement → Prop
  | .interface => strategy.requiresInterface = true → declaration.isInterface = true
  | .typeName => isQualifiedName (sourceForm declaration.name) = true
  | .methodName method => isIdentifier method.name = true
  | .parameterName _ index parameter =>
      isIdentifier (ModelBuilder.parameterName index parameter) = true
  | .distinctName method index parameter =>
      ModelBuilder.parameterName index parameter ∉ method.parameterNames.take index
  | .parameterType _ parameter => parameter.HasValueType
  | .returnType method => isTypeReference (Text.trim method.returnType) = true

/-- A type that has no problem as a reference is refused because it is `void`. -/
def reason (type : DeclaredType) : String :=
  type.problem?.elim "void is not a parameter type" TypeReference.Problem.message

def failure (strategy : Strategy) (declaration : TypeDeclaration) : Requirement → ModelFailure
  | .interface => .notAnInterface declaration.name strategy
  | .typeName => .invalidIdentifier declaration.name declaration.name .type
  | .methodName method => .invalidIdentifier declaration.name method.name .method
  | .parameterName _ index parameter =>
      .invalidIdentifier declaration.name (ModelBuilder.parameterName index parameter) .parameter
  | .distinctName method index parameter =>
      .duplicateParameter declaration.name method.name
        (ModelBuilder.parameterName index parameter)
  | .parameterType method parameter =>
      .invalidType declaration.name method.name (Text.trim parameter.type)
        (reason (.ofText parameter.type))
  | .returnType method =>
      .invalidType declaration.name method.name (Text.trim method.returnType)
        (reason (.ofText method.returnType))

end Requirement

def MethodDeclaration.parameterRequirements (method : MethodDeclaration)
    (entry : ParameterDeclaration × Nat) : List Requirement :=
  [.parameterName method entry.2 entry.1, .distinctName method entry.2 entry.1,
    .parameterType method entry.1]

/-- The requirements of a method, from left to right but for the type that it returns. -/
def MethodDeclaration.requirements (method : MethodDeclaration) : List Requirement :=
  .methodName method ::
    (method.parameters.zipIdx.flatMap method.parameterRequirements ++ [.returnType method])

def TypeDeclaration.requirements (declaration : TypeDeclaration) : List Requirement :=
  .interface :: .typeName :: declaration.methods.flatMap MethodDeclaration.requirements

/-! What a declaration is modelled as, whether or not it meets its requirements. -/

def ParameterDeclaration.modelled (builder : ModelBuilder) (index : Nat)
    (parameter : ParameterDeclaration) : ParameterModel where
  name := ModelBuilder.parameterName index parameter
  type := .ofText parameter.type
  annotations := parameter.annotations
  qualifiers := builder.qualifiers parameter.annotations

def MethodDeclaration.modelled (builder : ModelBuilder) (method : MethodDeclaration) :
    MethodModel where
  name := method.name
  returnType := .ofText method.returnType
  annotations := method.annotations
  parameters := method.parameters.zipIdx.map fun (parameter, index) =>
    parameter.modelled builder index

def TypeDeclaration.modelled (builder : ModelBuilder) (declaration : TypeDeclaration) :
    TypeModel where
  name := declaration.name
  isInterface := declaration.isInterface
  annotations := declaration.annotations
  methods := declaration.methods.map (MethodDeclaration.modelled builder)

/-- All requirements before this one are met, and it is not. -/
def Requirement.IsFirstUnmet (strategy : Strategy) (declaration : TypeDeclaration)
    (requirements : List Requirement) (requirement : Requirement) : Prop :=
  ∃ before after, requirements = before ++ requirement :: after ∧
    (∀ earlier ∈ before, earlier.IsMet strategy declaration) ∧
    ¬requirement.IsMet strategy declaration

/-- An outcome is the value where the requirements are met, and else the failure of the first
that is not. -/
structure Judges (strategy : Strategy) (declaration : TypeDeclaration)
    (requirements : List Requirement) {α : Type} (outcome : Except ModelFailure α) (value : α) :
    Prop where
  met : (∀ requirement ∈ requirements, requirement.IsMet strategy declaration) →
    outcome = .ok value
  unmet : ∀ requirement : Requirement,
    requirement.IsFirstUnmet strategy declaration requirements →
      outcome = .error (requirement.failure strategy declaration)

section Judgement

variable {strategy : Strategy} {declaration : TypeDeclaration} {α β : Type}
  {requirement first : Requirement} {requirements others : List Requirement}

namespace Requirement

/-- The first requirement is judged before the others. -/
theorem isFirstUnmet_cons_iff :
    first.IsFirstUnmet strategy declaration (requirement :: requirements) ↔
      first = requirement ∧ ¬requirement.IsMet strategy declaration ∨
        requirement.IsMet strategy declaration ∧
          first.IsFirstUnmet strategy declaration requirements := by
  constructor
  · rintro ⟨before, after, same, earlier, unmet⟩
    cases before with
    | nil =>
        cases same
        exact .inl ⟨rfl, unmet⟩
    | cons head before =>
        cases same
        rw [List.forall_mem_cons] at earlier
        exact .inr ⟨earlier.1, before, after, rfl, earlier.2, unmet⟩
  · rintro (⟨rfl, unmet⟩ | ⟨met, before, after, rfl, earlier, unmet⟩)
    · exact ⟨[], requirements, rfl, by simp, unmet⟩
    · exact ⟨requirement :: before, after, rfl, List.forall_mem_cons.2 ⟨met, earlier⟩, unmet⟩

/-- Requirements are judged part by part. -/
theorem isFirstUnmet_append_iff :
    first.IsFirstUnmet strategy declaration (requirements ++ others) ↔
      first.IsFirstUnmet strategy declaration requirements ∨
        (∀ requirement ∈ requirements, requirement.IsMet strategy declaration) ∧
          first.IsFirstUnmet strategy declaration others := by
  induction requirements with
  | nil => simp [IsFirstUnmet]
  | cons head rest ih =>
      rw [List.cons_append, isFirstUnmet_cons_iff, ih, isFirstUnmet_cons_iff,
        List.forall_mem_cons]
      tauto

/-- If some requirement is unmet, one of them is the first. -/
theorem exists_isFirstUnmet
    (unmet : ¬∀ requirement ∈ requirements, requirement.IsMet strategy declaration) :
    ∃ first : Requirement, first.IsFirstUnmet strategy declaration requirements := by
  induction requirements with
  | nil => exact absurd (by simp) unmet
  | cons head rest ih =>
      simp only [isFirstUnmet_cons_iff]
      by_cases met : head.IsMet strategy declaration
      · rw [List.forall_mem_cons, and_iff_right met] at unmet
        obtain ⟨first, found⟩ := ih unmet
        exact ⟨first, .inr ⟨met, found⟩⟩
      · exact ⟨head, .inl ⟨rfl, met⟩⟩

/-- The first unmet requirement is unmet. -/
theorem IsFirstUnmet.not_forall (found : first.IsFirstUnmet strategy declaration requirements) :
    ¬∀ requirement ∈ requirements, requirement.IsMet strategy declaration := by
  obtain ⟨before, after, rfl, -, unmet⟩ := found
  exact fun met => unmet (met first (by simp))

end Requirement

namespace Judges

open Requirement

variable {outcome : Except ModelFailure α} {value : α}

/-- What requires nothing succeeds. -/
theorem done : Judges strategy declaration [] (.ok value) value where
  met _ := rfl
  unmet first found := absurd (by simp) found.not_forall

/-- A check that refuses exactly where its requirement is not met leaves what follows it. -/
theorem check {refused : Prop} [Decidable refused] {refusal : Except ModelFailure α}
    (refuses : refused ↔ ¬requirement.IsMet strategy declaration)
    (fails : refusal = .error (requirement.failure strategy declaration))
    (follows : Judges strategy declaration requirements outcome value) :
    Judges strategy declaration (requirement :: requirements)
      (if refused then refusal else outcome) value where
  met all := by
    rw [List.forall_mem_cons] at all
    rw [if_neg (refuses.not_left.2 all.1)]
    exact follows.met all.2
  unmet first found := by
    rcases isFirstUnmet_cons_iff.1 found with ⟨rfl, unmet⟩ | ⟨met, found⟩
    · rw [if_pos (refuses.2 unmet), fails]
    · rw [if_neg (refuses.not_left.2 met)]
      exact follows.unmet first found

/-- A last check gives the value. -/
theorem last (accepts : requirement.IsMet strategy declaration → outcome = .ok value)
    (refuses : ¬requirement.IsMet strategy declaration →
      outcome = .error (requirement.failure strategy declaration)) :
    Judges strategy declaration [requirement] outcome value where
  met all := accepts (all requirement (by simp))
  unmet first found := by
    rcases isFirstUnmet_cons_iff.1 found with ⟨rfl, unmet⟩ | ⟨-, found⟩
    · exact refuses unmet
    · exact absurd (by simp) found.not_forall

/-- The second computation is judged after the first. -/
theorem bind {rest : α → Except ModelFailure β} {result : β}
    (leads : Judges strategy declaration requirements outcome value)
    (follows : Judges strategy declaration others (rest value) result) :
    Judges strategy declaration (requirements ++ others) (outcome >>= rest) result where
  met all := by
    rw [List.forall_mem_append] at all
    rw [leads.met all.1]
    exact follows.met all.2
  unmet first found := by
    rcases isFirstUnmet_append_iff.1 found with found | ⟨all, found⟩
    · rw [leads.unmet first found]
      rfl
    · rw [leads.met all]
      exact follows.unmet first found

/-- What is only changed into its result fails as before. -/
theorem map {change : α → β} (leads : Judges strategy declaration requirements outcome value) :
    Judges strategy declaration requirements (outcome >>= fun made => .ok (change made))
      (change value) := by
  have followed : Judges strategy declaration (requirements ++ [])
      (outcome >>= fun made => .ok (change made)) (change value) := leads.bind done
  rwa [List.append_nil] at followed

/-- The items of a list are judged one after the other. -/
theorem mapM {change : α → Except ModelFailure β} {result : α → β}
    {demands : α → List Requirement} {items : List α}
    (each : ∀ item, Judges strategy declaration (demands item) (change item) (result item)) :
    Judges strategy declaration (items.flatMap demands) (items.mapM change)
      (items.map result) := by
  induction items with
  | nil => exact done
  | cons head rest ih =>
      rw [List.flatMap_cons, List.mapM_cons, List.map_cons]
      exact (each head).bind ih.map

/-- What is judged succeeds exactly when all requirements are met. -/
theorem eq_ok_iff (judged : Judges strategy declaration requirements outcome value) {made : α} :
    outcome = .ok made ↔
      (∀ requirement ∈ requirements, requirement.IsMet strategy declaration) ∧ made = value := by
  by_cases all : ∀ requirement ∈ requirements, requirement.IsMet strategy declaration
  · rw [judged.met all, and_iff_right all, Except.ok.injEq, eq_comm]
  · obtain ⟨first, found⟩ := exists_isFirstUnmet all
    rw [judged.unmet first found]
    exact iff_of_false (by simp) fun both => all both.1

/-- What is judged fails with the first requirement that is unmet. -/
theorem eq_error_iff (judged : Judges strategy declaration requirements outcome value)
    {failure : ModelFailure} :
    outcome = .error failure ↔
      ∃ first : Requirement, first.IsFirstUnmet strategy declaration requirements ∧
        failure = first.failure strategy declaration := by
  constructor
  · intro failed
    have unmet : ¬∀ requirement ∈ requirements, requirement.IsMet strategy declaration := by
      intro all
      rw [judged.met all] at failed
      cases failed
    obtain ⟨first, found⟩ := exists_isFirstUnmet unmet
    rw [judged.unmet first found] at failed
    exact ⟨first, found, (Except.error.inj failed).symm⟩
  · rintro ⟨first, found, rfl⟩
    exact judged.unmet first found

end Judges

end Judgement

/-! The requirements are met exactly by the declarations that are well formed as a whole. -/

structure MethodDeclaration.IsWellFormed (method : MethodDeclaration) : Prop where
  name : isIdentifier method.name = true
  parameterNames : ∀ name ∈ method.parameterNames, isIdentifier name = true
  distinct : method.parameterNames.Nodup
  parameterTypes : ∀ parameter ∈ method.parameters, parameter.HasValueType
  returnType : isTypeReference (Text.trim method.returnType) = true

structure TypeDeclaration.IsWellFormed (strategy : Strategy) (declaration : TypeDeclaration) :
    Prop where
  interface : strategy.requiresInterface = true → declaration.isInterface = true
  name : isQualifiedName (sourceForm declaration.name) = true
  methods : ∀ method ∈ declaration.methods, method.IsWellFormed

section WellFormed

variable {strategy : Strategy} {declaration : TypeDeclaration}

/-- Each parameter has the name that its place gives to it. -/
theorem MethodDeclaration.getElem?_parameterNames (method : MethodDeclaration) (index : Nat) :
    method.parameterNames[index]? =
      method.parameters[index]?.map (ModelBuilder.parameterName index) := by
  simp [parameterNames, Function.comp_def]

/-- Names are distinct when none of them comes earlier. -/
theorem nodup_iff_forall_not_mem_take {names : List String} :
    names.Nodup ↔
      ∀ (index : Nat) (name : String), names[index]? = some name → name ∉ names.take index := by
  constructor
  · intro distinct index name here inside
    rw [← List.take_append_drop index names, List.nodup_append] at distinct
    have follows : name ∈ names.drop index := by
      refine List.mem_of_getElem? (i := 0) ?_
      rw [List.getElem?_drop, Nat.add_zero, here]
    exact distinct.2.2 name inside name follows rfl
  · intro fresh
    refine List.nodup_iff_getElem?_ne_getElem?.2 fun first second before bound same => ?_
    rw [List.getElem?_eq_getElem bound] at same
    refine fresh second names[second] (List.getElem?_eq_getElem bound) ?_
    exact List.mem_of_getElem? ((List.getElem?_take_of_lt before).trans same)

/-- A method requires distinct names of its parameters, and nothing less. -/
theorem MethodDeclaration.distinct_iff (method : MethodDeclaration) :
    (∀ entry ∈ method.parameters.zipIdx,
      ModelBuilder.parameterName entry.2 entry.1 ∉ method.parameterNames.take entry.2) ↔
        method.parameterNames.Nodup := by
  rw [nodup_iff_forall_not_mem_take]
  constructor
  · intro fresh index name here
    rw [getElem?_parameterNames, Option.map_eq_some_iff] at here
    obtain ⟨parameter, here, rfl⟩ := here
    exact fresh (parameter, index) (List.mem_zipIdx_iff_getElem?.2 here)
  · intro fresh entry member
    refine fresh entry.2 _ ?_
    rw [getElem?_parameterNames, List.mem_zipIdx_iff_getElem?.1 member]
    rfl

/-- The requirements on a method say that it is well formed. -/
theorem MethodDeclaration.requirements_met_iff {method : MethodDeclaration} :
    (∀ requirement ∈ method.requirements, requirement.IsMet strategy declaration) ↔
      method.IsWellFormed := by
  have named : (∀ entry ∈ method.parameters.zipIdx,
      isIdentifier (ModelBuilder.parameterName entry.2 entry.1) = true) ↔
        ∀ name ∈ method.parameterNames, isIdentifier name = true := by
    rw [parameterNames, List.forall_mem_map]
  have typed : (∀ entry ∈ method.parameters.zipIdx, entry.1.HasValueType) ↔
      ∀ parameter ∈ method.parameters, parameter.HasValueType := by
    rw [← List.forall_mem_map, List.zipIdx_map_fst]
  simp only [requirements, parameterRequirements, List.forall_mem_cons, List.forall_mem_append,
    List.forall_mem_flatMap, List.not_mem_nil, false_implies, implies_true, and_true,
    Requirement.IsMet, imp_and, forall_and, distinct_iff, named, typed]
  constructor
  · rintro ⟨name, ⟨parameterNames, distinct, parameterTypes⟩, returnType⟩
    exact ⟨name, parameterNames, distinct, parameterTypes, returnType⟩
  · rintro ⟨name, parameterNames, distinct, parameterTypes, returnType⟩
    exact ⟨name, ⟨parameterNames, distinct, parameterTypes⟩, returnType⟩

/-- The requirements on a type say that it is well formed. -/
theorem TypeDeclaration.requirements_met_iff :
    (∀ requirement ∈ declaration.requirements, requirement.IsMet strategy declaration) ↔
      declaration.IsWellFormed strategy := by
  simp only [requirements, List.forall_mem_cons, List.forall_mem_flatMap,
    MethodDeclaration.requirements_met_iff]
  constructor
  · rintro ⟨interface, name, methods⟩
    exact ⟨interface, name, methods⟩
  · rintro ⟨interface, name, methods⟩
    exact ⟨interface, name, methods⟩

end WellFormed

namespace ModelBuilder

variable {builder : ModelBuilder} {strategy : Strategy} {declaration : TypeDeclaration}
  {method : MethodDeclaration} {parameter : ParameterDeclaration} {index : Nat}
  {taken : List String}

/-- A parameter type has no problem exactly when it is read as the type of a value. -/
theorem parameterTypeProblem?_eq_none_iff :
    parameterTypeProblem? (.ofText parameter.type) = none ↔ parameter.HasValueType := by
  refine Iff.trans ?_ (DeclaredType.parse_eq_value_iff parameter.type).symm
  unfold parameterTypeProblem?
  split
  case isTrue void => simp [void]
  case isFalse other => simp [other]

/-- A parameter without the type of a value is refused with the reason that is required. -/
theorem parameterTypeProblem?_of_not_hasValueType (untyped : ¬parameter.HasValueType) :
    parameterTypeProblem? (.ofText parameter.type) =
      some (Requirement.reason (.ofText parameter.type)) := by
  rw [← parameterTypeProblem?_eq_none_iff] at untyped
  unfold parameterTypeProblem? at untyped ⊢
  split
  case isTrue void =>
    have accepted : (DeclaredType.ofText parameter.type).problem? = none := by
      rw [DeclaredType.problem?, TypeReference.problem?, DeclaredType.parse_of_isVoid void]
    rw [Requirement.reason, accepted]
    rfl
  case isFalse other =>
    rw [if_neg other] at untyped
    rw [Requirement.reason]
    cases found : (DeclaredType.ofText parameter.type).problem? with
    | none => exact absurd (by rw [found]; rfl) untyped
    | some problem => rfl

/-- The builder judges a parameter by its requirements. -/
theorem judges_buildParameter
    (known : ∀ name, name ∈ taken ↔ name ∈ method.parameterNames.take index) :
    Judges strategy declaration (method.parameterRequirements (parameter, index))
      (builder.buildParameter declaration method taken index parameter)
      (parameter.modelled builder index) := by
  refine .check (by simp [Requirement.IsMet]) rfl (.check (by simp [Requirement.IsMet, known]) rfl
    (.last (fun typed => ?_) fun untyped => ?_))
  · rw [parameterTypeProblem?_eq_none_iff.2 typed]
    rfl
  · rw [parameterTypeProblem?_of_not_hasValueType untyped]
    rfl

/-- The names that are taken are those of the parameters to the left of the rest. -/
theorem judges_buildParameters {rest : List ParameterDeclaration}
    (left : method.parameters.drop index = rest)
    (known : ∀ name, name ∈ taken ↔ name ∈ method.parameterNames.take index) :
    Judges strategy declaration ((rest.zipIdx index).flatMap method.parameterRequirements)
      (builder.buildParameters declaration method taken index rest)
      ((rest.zipIdx index).map fun (parameter, index) => parameter.modelled builder index) := by
  -- Each step moves one parameter from the rest to the names that are taken.
  induction rest generalizing taken index with
  | nil => exact .done
  | cons parameter rest ih =>
      have here : method.parameters[index]? = some parameter := by
        rw [← Nat.add_zero index, ← List.getElem?_drop, left]
        rfl
      refine (judges_buildParameter known).bind (Judges.map (ih ?_ ?_))
      · rw [← List.tail_drop, left]
        rfl
      · intro name
        rw [List.mem_cons, known, List.take_add_one, method.getElem?_parameterNames, here]
        simp [ParameterDeclaration.modelled, or_comm]

/-- The builder judges a method by its requirements. -/
theorem judges_buildMethod :
    Judges strategy declaration method.requirements (builder.buildMethod declaration method)
      (method.modelled builder) := by
  refine .check (by simp [Requirement.IsMet]) rfl (Judges.bind
    (judges_buildParameters List.drop_zero fun name => by simp)
    (.last (fun typed => ?_) fun untyped => ?_))
  · have accepted : (DeclaredType.ofText method.returnType).problem? = none :=
      Option.isNone_iff_eq_none.1 typed
    simp only [accepted]
    rfl
  · cases found : (DeclaredType.ofText method.returnType).problem? with
    | none => exact absurd (Option.isNone_iff_eq_none.2 found) untyped
    | some problem =>
        rw [Requirement.failure, Requirement.reason]
        simp only [found]
        rfl

/-- The builder judges a type by its requirements. -/
theorem judges_build :
    Judges strategy declaration declaration.requirements (builder.build strategy declaration)
      (declaration.modelled builder) :=
  .check (by simp [Requirement.IsMet]) rfl
    (.check (by simp [Requirement.IsMet]) rfl (Judges.mapM fun _ => judges_buildMethod).map)

/-- A declaration has a model exactly when it is well formed, and the model says what the
declaration says. Any other declaration fails for the first requirement that it does not meet. -/
theorem build_checks_in_order (builder : ModelBuilder) (strategy : Strategy)
    (declaration : TypeDeclaration) :
    (∀ model, builder.build strategy declaration = .ok model ↔
      declaration.IsWellFormed strategy ∧ model = declaration.modelled builder) ∧
    (∀ failure, builder.build strategy declaration = .error failure ↔
      ∃ requirement : Requirement,
        requirement.IsFirstUnmet strategy declaration declaration.requirements ∧
          failure = requirement.failure strategy declaration) ∧
    ∀ annotations, builder.Collects annotations (builder.qualifiers annotations) := by
  refine ⟨fun model => ?_, fun failure => judges_build.eq_error_iff, builder.collects_qualifiers⟩
  rw [judges_build.eq_ok_iff, TypeDeclaration.requirements_met_iff]

end ModelBuilder

end BusBridge
