/-
This file proves what holds in every model that was built: its names and types were accepted as
the declaration writes them.
-/

import BusBridge.Model.Build
import BusBridge.Proofs.Outcome

namespace BusBridge

open Java (isIdentifier isQualifiedName isTypeReference sourceForm)

/-- A type name is judged in its source form, and the types of methods in their binary form. -/
structure ParameterModel.IsChecked (parameter : ParameterModel) : Prop where
  name : isIdentifier parameter.name = true
  type : isTypeReference parameter.type.name = true
  value : parameter.type.isVoid = false

structure MethodModel.IsChecked (method : MethodModel) : Prop where
  name : isIdentifier method.name = true
  returnType : isTypeReference method.returnType.name = true
  parameters : ∀ parameter ∈ method.parameters, parameter.IsChecked

structure TypeModel.IsChecked (type : TypeModel) : Prop where
  name : isQualifiedName (sourceForm type.name) = true
  methods : ∀ method ∈ type.methods, method.IsChecked

/-- Lists that correspond are mapped alike. -/
theorem map_eq_of_forall₂ {α β γ : Type} {related : α → β → Prop} {first : α → γ}
    {second : β → γ} {items : List α} {others : List β}
    (pairs : List.Forall₂ related items others)
    (same : ∀ item other, related item other → first item = second other) :
    items.map first = others.map second := by
  induction pairs with
  | nil => rfl
  | cons pair _ ih => rw [List.map_cons, List.map_cons, same _ _ pair, ih]

/-! A model says of a type what its declaration says, in the same order. -/

structure ParameterModel.Mirrors (parameter : ParameterModel) (declared : ParameterDeclaration) :
    Prop where
  type : parameter.type = .ofText declared.type
  annotations : parameter.annotations = declared.annotations

structure MethodModel.Mirrors (method : MethodModel) (declared : MethodDeclaration) : Prop where
  name : method.name = declared.name
  returnType : method.returnType = .ofText declared.returnType
  parameters : List.Forall₂ ParameterModel.Mirrors method.parameters declared.parameters

structure TypeModel.Mirrors (type : TypeModel) (declaration : TypeDeclaration) : Prop where
  name : type.name = declaration.name
  isInterface : type.isInterface = declaration.isInterface
  methods : List.Forall₂ MethodModel.Mirrors type.methods declaration.methods

namespace ModelBuilder

variable {builder : ModelBuilder} {owner : TypeDeclaration} {declared : MethodDeclaration}

/-- A type without a problem is a type reference. -/
theorem isTypeReference_of_problem? {type : Java.DeclaredType} (accepted : type.problem? = none) :
    isTypeReference type.name = true := by
  rw [isTypeReference, show Java.TypeReference.problem? type.name = none from accepted]
  rfl

/-- A parameter that is built was checked. -/
theorem isChecked_buildParameter {taken : List String} {index : Nat}
    {given : ParameterDeclaration} {parameter : ParameterModel}
    (built : builder.buildParameter owner declared taken index given = .ok parameter) :
    parameter.IsChecked := by
  simp only [buildParameter] at built
  split at built
  case isTrue => cases built
  case isFalse named =>
    split at built
    case isTrue => cases built
    case isFalse =>
      split at built
      case h_1 => cases built
      case h_2 accepted =>
        cases built
        unfold parameterTypeProblem? at accepted
        split at accepted
        case isTrue => cases accepted
        case isFalse value =>
          have typed := isTypeReference_of_problem? (Option.map_eq_none_iff.1 accepted)
          exact ⟨by simpa using named, typed, Bool.eq_false_iff.2 value⟩

/-- All parameters that are built were checked. -/
theorem isChecked_buildParameters {taken : List String} {index : Nat}
    {given : List ParameterDeclaration} {parameters : List ParameterModel}
    (built : builder.buildParameters owner declared taken index given = .ok parameters) :
    ∀ parameter ∈ parameters, parameter.IsChecked := by
  induction given generalizing taken index parameters with
  | nil => cases built; simp
  | cons head rest ih =>
      rw [buildParameters] at built
      obtain ⟨first, builtHead, built⟩ := bind_eq_ok_iff.1 built
      obtain ⟨others, builtRest, same⟩ := bind_eq_ok_iff.1 built
      cases same
      intro parameter member
      rcases List.mem_cons.1 member with rfl | member
      · exact isChecked_buildParameter builtHead
      · exact ih builtRest parameter member

/-- A method that is built was checked. -/
theorem isChecked_buildMethod {method : MethodModel}
    (built : builder.buildMethod owner declared = .ok method) : method.IsChecked := by
  simp only [buildMethod, check_eq_ok_iff] at built
  obtain ⟨named, built⟩ := built
  obtain ⟨parameters, builtParameters, following⟩ := bind_eq_ok_iff.1 built
  split at following
  case h_1 => cases following
  case h_2 accepted =>
    cases following
    exact ⟨by simpa using named, isTypeReference_of_problem? accepted,
      isChecked_buildParameters builtParameters⟩

/-- Every model that is built was checked. -/
theorem isChecked_build {strategy : Strategy} {declaration : TypeDeclaration} {type : TypeModel}
    (built : builder.build strategy declaration = .ok type) : type.IsChecked := by
  simp only [build, check_eq_ok_iff] at built
  obtain ⟨-, named, built⟩ := built
  obtain ⟨methods, builtMethods, same⟩ := bind_eq_ok_iff.1 built
  cases same
  refine ⟨by simpa using named, fun method member => ?_⟩
  obtain ⟨declared, -, builtMethod⟩ := exists_of_mem_mapM builtMethods method member
  exact isChecked_buildMethod builtMethod

/-- A parameter that is built says what was declared. -/
theorem mirrors_buildParameter {taken : List String} {index : Nat} {given : ParameterDeclaration}
    {parameter : ParameterModel}
    (built : builder.buildParameter owner declared taken index given = .ok parameter) :
    parameter.Mirrors given := by
  simp only [buildParameter] at built
  split at built
  case isTrue => cases built
  case isFalse =>
    split at built
    case isTrue => cases built
    case isFalse =>
      split at built
      case h_1 => cases built
      case h_2 =>
        cases built
        exact ⟨rfl, rfl⟩

/-- The parameters that are built say what was declared. -/
theorem mirrors_buildParameters {taken : List String} {index : Nat}
    {given : List ParameterDeclaration} {parameters : List ParameterModel}
    (built : builder.buildParameters owner declared taken index given = .ok parameters) :
    List.Forall₂ ParameterModel.Mirrors parameters given := by
  induction given generalizing taken index parameters with
  | nil => cases built; exact .nil
  | cons head rest ih =>
      rw [buildParameters] at built
      obtain ⟨first, builtHead, built⟩ := bind_eq_ok_iff.1 built
      obtain ⟨others, builtRest, same⟩ := bind_eq_ok_iff.1 built
      cases same
      exact .cons (mirrors_buildParameter builtHead) (ih builtRest)

/-- A method that is built says what was declared. -/
theorem mirrors_buildMethod {method : MethodModel}
    (built : builder.buildMethod owner declared = .ok method) : method.Mirrors declared := by
  simp only [buildMethod, check_eq_ok_iff] at built
  obtain ⟨-, built⟩ := built
  obtain ⟨parameters, builtParameters, following⟩ := bind_eq_ok_iff.1 built
  split at following
  case h_1 => cases following
  case h_2 =>
    cases following
    exact ⟨rfl, rfl, mirrors_buildParameters builtParameters⟩

/-- A type that is built says what was declared. -/
theorem mirrors_build {strategy : Strategy} {declaration : TypeDeclaration} {type : TypeModel}
    (built : builder.build strategy declaration = .ok type) : type.Mirrors declaration := by
  simp only [build, check_eq_ok_iff] at built
  obtain ⟨-, -, built⟩ := built
  obtain ⟨methods, builtMethods, same⟩ := bind_eq_ok_iff.1 built
  cases same
  exact ⟨rfl, rfl, ((forall₂_of_mapM builtMethods).imp fun _ _ => mirrors_buildMethod).flip⟩

/-- An interface without methods is built when its name is accepted, for either strategy. -/
theorem build_of_isQualifiedName {strategy : Strategy} {name : String}
    (qualified : isQualifiedName (sourceForm name) = true) :
    builder.build strategy ⟨name, .interfaceType, [], []⟩ = .ok ⟨name, true, [], []⟩ := by
  simp [build, TypeDeclaration.isInterface, qualified, pure, Except.pure, bind, Except.bind]

/-- Each candidate that is built was checked. -/
theorem isChecked_of_mem_buildCandidates {strategy : Strategy}
    {candidates : List TypeDeclaration} {type : TypeModel}
    (member : type ∈ builder.buildCandidates strategy candidates) : type.IsChecked := by
  obtain ⟨candidate, -, built⟩ := List.mem_filterMap.1 member
  cases made : builder.build strategy candidate with
  | error failure => rw [made] at built; cases built
  | ok model =>
      rw [made] at built
      obtain rfl : model = type := Option.some.inj built
      exact isChecked_build made

/-- What is built for a proxy is an interface. -/
theorem isInterface_build {declaration : TypeDeclaration} {type : TypeModel}
    (built : builder.build .rpcProxy declaration = .ok type) : type.isInterface = true := by
  simp only [build, check_eq_ok_iff] at built
  obtain ⟨interface, -, built⟩ := built
  obtain ⟨methods, -, same⟩ := bind_eq_ok_iff.1 built
  cases same
  simpa [Strategy.requiresInterface] using interface

/-- The models are those of the interfaces that are accepted, in their order. -/
theorem forall₂_buildCandidates (builder : ModelBuilder) (candidates : List TypeDeclaration) :
    List.Forall₂ (fun model candidate => builder.build .rpcProxy candidate = .ok model)
      (builder.buildCandidates .rpcProxy candidates)
      (candidates.filter fun candidate =>
        candidate.isInterface && (builder.build .rpcProxy candidate).isOk) := by
  induction candidates with
  | nil => exact .nil
  | cons candidate rest ih =>
      rw [buildCandidates] at ih ⊢
      rw [List.filterMap_cons, List.filter_cons]
      cases built : builder.build .rpcProxy candidate with
      | error failure =>
          rw [if_neg (by simp [Except.isOk, Except.toBool])]
          exact ih
      | ok model =>
          have mirrors := mirrors_build built
          rw [if_pos (by simp [← mirrors.isInterface, isInterface_build built, Except.isOk,
            Except.toBool])]
          exact .cons built ih

end ModelBuilder

end BusBridge
