/-
This file proves when the name that is filled in for a parameter costs a declaration its model:
the name is taken from the position alone, and another parameter may declare it.
-/

import BusBridge.Proofs.Java.Identifier
import BusBridge.Proofs.Model.Requirement

namespace BusBridge

namespace MethodDeclaration

variable {method : MethodDeclaration}

/-- No two parameters declare one name. Missing names are not counted. -/
def HasDistinctNames (method : MethodDeclaration) : Prop :=
  (method.parameters.filterMap ParameterDeclaration.name).Nodup

/-- Of this parameter and one to its left, one declares the name that is filled in for the
other. -/
def FilledNameMeets (method : MethodDeclaration) (index : Nat) : Prop :=
  ∃ earlier < index, ∃ first second,
    method.parameters[earlier]? = some first ∧ method.parameters[index]? = some second ∧
      (first.name = none ∧ second.name = some (ModelBuilder.parameterName earlier first) ∨
        second.name = none ∧ first.name = some (ModelBuilder.parameterName index second))

instance : Decidable method.HasDistinctNames :=
  inferInstanceAs (Decidable (List.Nodup _))

theorem HasDistinctNames.ne (distinct : method.HasDistinctNames) {earlier index : Nat}
    {first second : ParameterDeclaration} (before : earlier < index)
    (left : method.parameters[earlier]? = some first)
    (right : method.parameters[index]? = some second) {name : String}
    (declared : first.name = some name) : second.name ≠ some name := by
  intro again
  rw [HasDistinctNames, List.nodup_iff_pairwise_ne, List.pairwise_filterMap] at distinct
  obtain ⟨bound, rfl⟩ := List.getElem?_eq_some_iff.1 left
  obtain ⟨bound', rfl⟩ := List.getElem?_eq_some_iff.1 right
  exact List.pairwise_iff_getElem.1 distinct earlier index bound bound' before name declared name
    again rfl

theorem parameterName_mem_take_iff {name : String} {index : Nat} :
    name ∈ method.parameterNames.take index ↔
      ∃ earlier < index, ∃ first, method.parameters[earlier]? = some first ∧
        ModelBuilder.parameterName earlier first = name := by
  simp only [List.mem_iff_getElem?, List.getElem?_take, Option.ite_none_right_eq_some,
    getElem?_parameterNames, Option.map_eq_some_iff]

/-- Where the declared names are distinct, two names can be equal only as a declared one and one
that is filled in. -/
theorem HasDistinctNames.taken_iff (distinct : method.HasDistinctNames) {index : Nat}
    {parameter : ParameterDeclaration} (here : method.parameters[index]? = some parameter) :
    ModelBuilder.parameterName index parameter ∈ method.parameterNames.take index ↔
      method.FilledNameMeets index := by
  rw [parameterName_mem_take_iff]
  constructor
  · rintro ⟨earlier, before, first, left, same⟩
    refine ⟨earlier, before, first, parameter, left, here, ?_⟩
    cases declared : first.name with
    | none =>
        cases again : parameter.name with
        | none =>
            rw [ModelBuilder.parameterName, ModelBuilder.parameterName, declared, again] at same
            exact absurd (Java.position_injective same) (Nat.ne_of_lt before)
        | some name =>
            refine .inl ⟨rfl, ?_⟩
            rw [same, ModelBuilder.parameterName, again]
            rfl
    | some name =>
        cases again : parameter.name with
        | none =>
            refine .inr ⟨rfl, ?_⟩
            rw [← same, ModelBuilder.parameterName, declared]
            rfl
        | some other =>
            rw [ModelBuilder.parameterName, ModelBuilder.parameterName, declared, again] at same
            exact absurd (again.trans (congrArg some same.symm))
              (distinct.ne before left here declared)
  · rintro ⟨earlier, before, first, second, left, right, mixed⟩
    obtain rfl : parameter = second := Option.some.inj (here.symm.trans right)
    refine ⟨earlier, before, first, left, ?_⟩
    rcases mixed with ⟨missing, declared⟩ | ⟨missing, declared⟩
    · rw [ModelBuilder.parameterName.eq_def index, declared]
      rfl
    · rw [ModelBuilder.parameterName.eq_def earlier, declared]
      rfl

end MethodDeclaration

namespace ModelBuilder

theorem of_distinctName_mem {declaration : TypeDeclaration} {method : MethodDeclaration}
    {index : Nat} {parameter : ParameterDeclaration} {before after : List Requirement}
    (split : declaration.requirements = before ++ .distinctName method index parameter :: after) :
    method ∈ declaration.methods ∧ method.parameters[index]? = some parameter := by
  have member : .distinctName method index parameter ∈ declaration.requirements := by simp [split]
  simp only [TypeDeclaration.requirements, MethodDeclaration.requirements,
    MethodDeclaration.parameterRequirements, List.mem_cons, List.mem_flatMap, List.mem_append,
    List.not_mem_nil, reduceCtorEq, false_or, or_false, Requirement.distinctName.injEq,
    Prod.exists, List.mem_zipIdx_iff_getElem?] at member
  obtain ⟨declared, inside, other, position, here, rfl, rfl, rfl⟩ := member
  exact ⟨inside, here⟩

/-- A declaration whose methods declare distinct names is refused for a duplicate exactly when it
meets all requirements up to a parameter where a name that is filled in meets a declared one. -/
theorem duplicateParameter_iff (builder : ModelBuilder) (strategy : Strategy)
    (declaration : TypeDeclaration)
    (distinct : ∀ method ∈ declaration.methods, method.HasDistinctNames) :
    (∃ owner method name,
      builder.build strategy declaration = .error (.duplicateParameter owner method name)) ↔
    ∃ before method index parameter after,
      declaration.requirements = before ++ .distinctName method index parameter :: after ∧
        (∀ earlier ∈ before, earlier.IsMet strategy declaration) ∧
          method.FilledNameMeets index := by
  simp only [judges_build.eq_error_iff]
  constructor
  · rintro ⟨owner, named, name, requirement, ⟨before, after, split, met, unmet⟩, same⟩
    cases requirement with
    | distinctName method index parameter =>
        obtain ⟨inside, here⟩ := of_distinctName_mem split
        refine ⟨before, method, index, parameter, after, split, met, ?_⟩
        exact ((distinct method inside).taken_iff here).1 (not_not.1 unmet)
    | _ => cases same
  · rintro ⟨before, method, index, parameter, after, split, met, meets⟩
    obtain ⟨inside, here⟩ := of_distinctName_mem split
    refine ⟨_, _, _, .distinctName method index parameter, ⟨before, after, split, met, ?_⟩, rfl⟩
    exact not_not.2 (((distinct method inside).taken_iff here).2 meets)

/-- The last parameter declares the name that is filled in for the first. -/
theorem filledName_declared_later :
    let parameters : List ParameterDeclaration :=
      [⟨none, "int", []⟩, ⟨some "scale", "long", []⟩, ⟨some "a0", "int[]", []⟩]
    let declaration : TypeDeclaration :=
      ⟨"com.example.Calc", .interfaceType, [], [⟨"add", "int", [], parameters⟩]⟩
    (∀ method ∈ declaration.methods, method.HasDistinctNames) ∧
      ∃ before method index parameter after,
        declaration.requirements = before ++ .distinctName method index parameter :: after ∧
          (∀ earlier ∈ before, earlier.IsMet .rpcProxy declaration) ∧
            method.FilledNameMeets index := by
  intro parameters declaration
  have distinct : ∀ method ∈ declaration.methods, method.HasDistinctNames := by decide
  have refused : ((ModelBuilder.mk []).build .rpcProxy declaration).map (fun _ => ()) =
      .error (.duplicateParameter "com.example.Calc" "add" "a0") := by
    decide +kernel
  exact ⟨distinct,
    (duplicateParameter_iff _ _ _ distinct).1 ⟨_, _, _, map_eq_error_iff.1 refused⟩⟩

/-- The only name that is declared is the one that is filled in for the parameter after it. -/
theorem declared_name_filled_in :
    let parameters : List ParameterDeclaration := [⟨some "a1", "int", []⟩, ⟨none, "int", []⟩]
    let declaration : TypeDeclaration :=
      ⟨"com.example.Calc", .interfaceType, [], [⟨"add", "int", [], parameters⟩]⟩
    (∀ method ∈ declaration.methods, method.HasDistinctNames) ∧
      (ModelBuilder.mk []).build .rpcProxy declaration =
        .error (.duplicateParameter "com.example.Calc" "add" "a1") := by
  exact ⟨by decide, rfl⟩

end ModelBuilder

end BusBridge
