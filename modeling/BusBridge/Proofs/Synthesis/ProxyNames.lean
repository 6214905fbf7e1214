/-
This file proves when the proxies of a loader have names of their own: exactly when no two of its
interfaces differ only in dots, dollar signs and underscores.
-/

import Mathlib.Data.List.Nodup
import BusBridge.Proofs.Synthesis.Loader
import BusBridge.Proofs.Text.Basic

namespace BusBridge

/-- The class that a statement declares in the body of a method. -/
def Java.Statement.declaredClass? : Statement → Option Class
  | .declareClass declaration => some declaration
  | _ => none

def Java.Method.localClasses (method : Method) : List Class :=
  method.body.filterMap Statement.declaredClass?

/-- The classes that are declared in the bodies of the methods. -/
def Java.CompilationUnit.localClasses (unit : CompilationUnit) : List Class :=
  unit.classes.flatMap fun declaration => declaration.methods.flatMap Method.localClasses

namespace Synthesis

open Java (CompilationUnit Statement)

variable {context : SynthesisContext} {className : ClassName} {unit : CompilationUnit}
  {types : List TypeModel}

theorem mem_names_firstOccurrences_iff {seen : List String} {name : String} :
    name ∈ (firstOccurrences seen types).map TypeModel.name ↔
      name ∈ types.map TypeModel.name ∧ name ∉ seen := by
  induction types generalizing seen with
  | nil => simp [firstOccurrences]
  | cons head rest ih =>
      rw [firstOccurrences]
      split
      case isTrue known =>
        have repeated : head.name ∈ seen := List.contains_iff_mem.1 known
        rw [ih, List.map_cons, List.mem_cons]
        constructor
        · rintro ⟨member, fresh⟩
          exact ⟨.inr member, fresh⟩
        · rintro ⟨rfl | member, fresh⟩
          · exact absurd repeated fresh
          · exact ⟨member, fresh⟩
      case isFalse unknown =>
        have fresh : head.name ∉ seen := fun member => unknown (List.contains_iff_mem.2 member)
        rw [List.map_cons, List.mem_cons, ih, List.map_cons, List.mem_cons]
        by_cases same : name = head.name
        · simp [same, fresh]
        · simp [same]

theorem nodup_names_firstOccurrences (seen : List String) (types : List TypeModel) :
    ((firstOccurrences seen types).map TypeModel.name).Nodup := by
  induction types generalizing seen with
  | nil => exact List.nodup_nil
  | cons head rest ih =>
      rw [firstOccurrences]
      split
      case isTrue => exact ih seen
      case isFalse =>
        rw [List.map_cons, List.nodup_cons]
        refine ⟨fun member => ?_, ih (head.name :: seen)⟩
        exact (mem_names_firstOccurrences_iff.1 member).2 List.mem_cons_self

/-- A loader holds the statements of the interfaces that it loads, in their order. -/
theorem eq_loaderUnit_of_synthesizeLoader
    (synthesized : synthesizeLoader className types context = .ok unit) :
    unit = loaderUnit className context
      ((loadedInterfaces types).flatMap (loaderStatements context)) := by
  obtain ⟨statements, checked, same⟩ := bind_eq_ok_iff.1 synthesized
  cases same
  rw [eq_map_of_mapM (fun _ _ made => (checkedStatements_eq_ok_iff.1 made).1) checked,
    List.flatMap_def]

/-- A loader declares one proxy for each interface that it loads, in their order. -/
theorem localClasses_of_synthesizeLoader
    (synthesized : synthesizeLoader className types context = .ok unit) :
    unit.localClasses = (loadedInterfaces types).map (proxyClass context) := by
  rw [eq_loaderUnit_of_synthesizeLoader synthesized]
  simp only [CompilationUnit.localClasses, loaderUnit, Java.Method.localClasses,
    List.flatMap_cons, List.flatMap_nil, List.append_nil, List.filterMap_flatMap]
  exact List.map_eq_flatMap.symm

/-- Dots, dollar signs and underscores are all underscores in the name of a proxy. -/
theorem mergesSeparators :
    Text.Merges (fun character => if (if character = '.' then '_' else character) = '$' then '_'
      else if character = '.' then '_' else character) ['.', '$', '_'] '_' where
  member := by decide
  merged := by simp
  kept character plain := by
    simp only [List.mem_cons, List.not_mem_nil, or_false, not_or] at plain
    simp [plain]

theorem proxyClassName_eq_iff (first second : String) :
    proxyClassName first = proxyClassName second ↔
      Text.AgreeUpTo ['.', '$', '_'] first second := by
  rw [← mergesSeparators.map_eq_map_iff, proxyClassName, proxyClassName, String.append_left_inj,
    ← String.toList_inj]
  simp only [Java.toList_replace, List.map_map, Function.comp_def]

/-- The proxies of one loader have different names exactly when the marks that are merged tell no
two of the given interfaces apart. -/
theorem proxies_named_apart_iff
    (built : ∀ type ∈ types, ∃ (builder : ModelBuilder) (declaration : TypeDeclaration),
      builder.build .rpcProxy declaration = .ok type)
    (synthesized : synthesizeLoader className types context = .ok unit) :
    (unit.localClasses.map Java.Class.name).Nodup ↔
      ∀ first ∈ types, ∀ second ∈ types,
        Text.AgreeUpTo ['.', '$', '_'] first.name second.name → first.name = second.name := by
  have interfaces : types.filter TypeModel.isInterface = types := by
    refine List.filter_eq_self.2 fun type member => ?_
    obtain ⟨builder, declaration, made⟩ := built type member
    exact ModelBuilder.isInterface_build made
  have names : unit.localClasses.map Java.Class.name =
      ((firstOccurrences [] types).map TypeModel.name).map proxyClassName := by
    rw [localClasses_of_synthesizeLoader synthesized, loadedInterfaces, interfaces, List.map_map,
      List.map_map]
    rfl
  rw [names, List.nodup_map_iff_inj_on (nodup_names_firstOccurrences [] types)]
  simp only [mem_names_firstOccurrences_iff, proxyClassName_eq_iff, List.not_mem_nil,
    not_false_eq_true, and_true, List.forall_mem_map]

/-- An interface without methods. -/
def emptyInterface (name : String) : TypeModel :=
  ⟨name, true, [], []⟩

theorem build_emptyInterface {names : List String}
    (qualified : ∀ name ∈ names, Java.isQualifiedName (Java.sourceForm name) = true) :
    ∀ type ∈ names.map emptyInterface, ∃ (builder : ModelBuilder) (declaration : TypeDeclaration),
      builder.build .rpcProxy declaration = .ok type := by
  intro type member
  obtain ⟨name, inside, rfl⟩ := List.mem_map.1 member
  exact ⟨⟨[]⟩, _, ModelBuilder.build_of_isQualifiedName (qualified name inside)⟩

/-- Interfaces without methods are never refused. -/
theorem synthesizeLoader_emptyInterface (valid : ContextIsValid context) (className : ClassName)
    {names : List String}
    (qualified : ∀ name ∈ names, Java.isQualifiedName (Java.sourceForm name) = true) :
    ∃ unit, synthesizeLoader className (names.map emptyInterface) context = .ok unit := by
  refine exists_unit_of_hasSourceForm valid className ?_ ?_
  · exact List.forall_mem_map.2 fun name inside => ⟨qualified name inside, nofun⟩
  · exact List.forall_mem_map.2 fun _ _ => nofun

/-- The simple names are equal, and a segment tells the packages apart. -/
def namesakes : List String :=
  ["com.example.api.Calls", "com.example.client.Calls"]

/-- The simple names are equal, and an underscore stands in one package for a dot of the other. -/
def mergedNamesakes : List String :=
  ["com.example.api.Calls", "com.example_api.Calls"]

theorem namesakes_named_apart : ∃ unit,
    (∀ type ∈ namesakes.map emptyInterface,
      ∃ (builder : ModelBuilder) (declaration : TypeDeclaration),
        builder.build .rpcProxy declaration = .ok type) ∧
    synthesizeLoader ⟨"com.example", "LoaderImpl"⟩ (namesakes.map emptyInterface)
        (.ofConfiguration { packages := ["com.example"] }) = .ok unit ∧
      (unit.localClasses.map Java.Class.name).Nodup := by
  have qualified : ∀ name ∈ namesakes, Java.isQualifiedName (Java.sourceForm name) = true := by
    decide
  have valid := contextIsValid_ofConfiguration Configuration.validate_package
  obtain ⟨unit, synthesized⟩ :=
    synthesizeLoader_emptyInterface valid ⟨"com.example", "LoaderImpl"⟩ qualified
  exact ⟨unit, build_emptyInterface qualified, synthesized,
    (proxies_named_apart_iff (build_emptyInterface qualified) synthesized).2 (by decide)⟩

theorem mergedNamesakes_share_name :
    (∀ type ∈ mergedNamesakes.map emptyInterface,
      ∃ (builder : ModelBuilder) (declaration : TypeDeclaration),
        builder.build .rpcProxy declaration = .ok type) ∧
    ∃ unit, synthesizeLoader ⟨"com.example", "LoaderImpl"⟩ (mergedNamesakes.map emptyInterface)
        (.ofConfiguration { packages := ["com.example"] }) = .ok unit ∧
      unit.localClasses.map Java.Class.name =
        ["com_example_api_CallsImpl", "com_example_api_CallsImpl"] := by
  have qualified : ∀ name ∈ mergedNamesakes,
      Java.isQualifiedName (Java.sourceForm name) = true := by
    decide
  have valid := contextIsValid_ofConfiguration Configuration.validate_package
  obtain ⟨unit, synthesized⟩ :=
    synthesizeLoader_emptyInterface valid ⟨"com.example", "LoaderImpl"⟩ qualified
  refine ⟨build_emptyInterface qualified, unit, synthesized, ?_⟩
  rw [localClasses_of_synthesizeLoader synthesized, List.map_map]
  decide

end Synthesis

end BusBridge
