/-
This file proves what the body of a generated loader holds: for each scanned interface that has a
model, its proxy and the registration of this proxy, in the order of the scan.
-/

import BusBridge.Proofs.Engine.Pipeline
import BusBridge.Proofs.Scan.Calls
import BusBridge.Proofs.Scan.Route
import BusBridge.Proofs.Synthesis.ProxyNames
import BusBridge.Universe.Memory

namespace BusBridge

open Java (CompilationUnit DeclaredType Expression Field Method Parameter Statement ValueType
  sourceForm)

/-- The calls of a chain with their arguments, the last one first. -/
def Java.Expression.chain : Expression → List (String × List Expression)
  | .call target method arguments => (method, arguments) :: target.chain
  | _ => []

/-- The endpoint of a method as its declaration writes it. -/
def MethodDeclaration.endpoint (declared : MethodDeclaration) : String :=
  declared.name ++ ":" ++ String.join (declared.parameters.map fun parameter =>
    (DeclaredType.ofText parameter.type).erasure ++ ":")

/-- A method has the endpoint of its declaration. -/
theorem MethodModel.Mirrors.endpoint_eq {method : MethodModel} {declared : MethodDeclaration}
    (mirrors : method.Mirrors declared) : method.endpoint = declared.endpoint := by
  have erasures : method.parameters.map (fun parameter => parameter.type.erasure ++ ":") =
      declared.parameters.map fun parameter =>
        (DeclaredType.ofText parameter.type).erasure ++ ":" :=
    map_eq_of_forall₂ mirrors.parameters fun _ _ parameter => by rw [parameter.type]
  rw [endpoint, MethodDeclaration.endpoint, mirrors.name, erasures]

namespace Synthesis

/-- A setter stores its one parameter in a field. -/
structure IsSetter (setter : Method) (field : Field) : Prop where
  parameters : setter.parameters = [.final field.type field.name]
  body : setter.body = [.assign (.field .self field.name) (.variable field.name)]

/-- A method of a proxy sends the call of a declared method with all arguments in their order. -/
structure Forwards (configuration : Configuration) (interface : String) (written : Method)
    (declared : MethodDeclaration) : Prop where
  name : written.name = declared.name
  returnType : written.returnType = (DeclaredType.ofText declared.returnType).sourceName
  parameters : List.Forall₂ (fun parameter given => parameter.isFinal = true ∧
    parameter.type = (DeclaredType.ofText given.type).sourceName)
    written.parameters declared.parameters
  apart : (written.parameters.map Parameter.name).Nodup
  unshadowed : ∀ parameter ∈ written.parameters,
    parameter.name ∉ ["remoteCallback", "errorCallback", "qualifiers", "bus"]
  body : ∃ call returns, written.body = .evaluate call :: returns ∧
    call.chain.map Prod.fst = ["sendNowWith", "errorsHandledBy", "respondTo", "endpoint", "call"] ∧
    call.chain.lookup "call" = some [.text (callSubject interface)] ∧
    call.chain.lookup "endpoint" = some [
      .text declared.endpoint, .variable "qualifiers",
      .createArray "java.lang.Object" (written.parameters.map (.variable ·.name))] ∧
    if (DeclaredType.ofText declared.returnType).isVoid then returns = []
    else ∃ value, returns = [.returnValue value]

/-- A class stands for a declared interface at the bus. -/
structure IsProxy (configuration : Configuration) (proxy : Java.Class)
    (interface : TypeDeclaration) : Prop where
  interfaces : proxy.interfaces = [sourceForm interface.name, configuration.bus.rpcStub]
  methods : ∃ setters forwarded, proxy.methods = setters ++ forwarded ∧
    setters.map Method.name = ["setRemoteCallback", "setErrorCallback", "setQualifiers"] ∧
    List.Forall₂ IsSetter setters proxy.fields ∧
    List.Forall₂ (Forwards configuration interface.name) forwarded interface.methods

/-- A statement registers a provider that makes a proxy of an interface. -/
def Registers (configuration : Configuration) (statement : Statement) (proxy : Java.Class)
    (interface : TypeDeclaration) : Prop :=
  ∃ provider : Method,
    statement = .evaluate (.staticCall configuration.bus.remoteProxyFactory "addRemoteProxy" [
      .classLiteral (sourceForm interface.name),
      .createAnonymous configuration.bus.proxyProvider [provider]]) ∧
    provider.name = "getProxy" ∧ provider.body = [.returnValue (.create proxy.name [])]

/-- The one method of a loader declares and registers a proxy of each interface. -/
def Loads (configuration : Configuration) (unit : CompilationUnit)
    (interfaces : List TypeDeclaration) : Prop :=
  ∃ (loader : Java.Class) (load : Method) (pairs : List (Java.Class × Statement)),
    unit.classes = [loader] ∧ loader.methods = [load] ∧ load.name = "loadProxies" ∧
    load.body = pairs.flatMap (fun (proxy, registration) =>
      [.declareClass proxy, registration]) ∧
    List.Forall₂ (fun pair interface => IsProxy configuration pair.1 interface ∧
      Registers configuration pair.2 pair.1 interface) pairs interfaces

variable {configuration : Configuration} {interface : TypeModel} {method : MethodModel}
  {declaration : TypeDeclaration} {declared : MethodDeclaration}

/-- The parameters of a forwarding method are named apart. -/
theorem forwardedName_injective : Function.Injective forwardedName :=
  Java.position_injective

/-- A name that starts otherwise is no parameter of a forwarding method. -/
theorem forwardedName_ne {name : String} (different : name.toList.head? ≠ some 'a')
    (index : Nat) : forwardedName index ≠ name := by
  rintro rfl
  exact different (by simp [forwardedName])

/-- Only void has no initial value. -/
theorem initial?_eq_none_iff_declared (type : ValueType) :
    type.initial? = none ↔ type.declared = "void" := by
  unfold ValueType.initial?
  split <;> simp_all

/-- Only `void` has no initial value. -/
theorem initial?_eq_none_iff (type : DeclaredType) :
    (ValueType.ofDeclared type).initial? = none ↔ type.isVoid = true := by
  rw [initial?_eq_none_iff_declared, DeclaredType.isVoid, beq_iff_eq, ValueType.ofDeclared]
  split
  case h_1 => rfl
  case h_2 bare =>
    have different : type.name ≠ "void" := by
      intro same
      rw [same] at bare
      cases bare
    refine iff_of_false (fun same => different ?_) different
    have plain : '.' ∉ (sourceForm type.name).toList := by
      rw [show sourceForm type.name = "void" from same]
      decide
    rwa [DeclaredType.sourceName, Java.TypeReference.sourceForm_eq_self plain] at same

/-- The parameters of a forwarding method are named by their places. -/
theorem parameterNames_forwardingMethod (context : SynthesisContext) (interface : TypeModel)
    (method : MethodModel) :
    (forwardingMethod context interface method).parameters.map Parameter.name =
      (List.range method.parameters.length).map forwardedName := by
  change (method.parameters.mapIdx _).map _ = _
  refine List.ext_getElem (by simp) fun index bound _ => ?_
  simp [Parameter.final]

/-- What holds of each pair holds of the pairs that are made from them. -/
theorem forall₂_mapIdx {α β γ : Type} {related : α → β → Prop} {made : γ → β → Prop}
    {change : Nat → α → γ} {items : List α} {others : List β}
    (pairs : List.Forall₂ related items others)
    (step : ∀ index item other, related item other → made (change index item) other) :
    List.Forall₂ made (items.mapIdx change) others := by
  induction pairs generalizing change with
  | nil => exact .nil
  | cons pair _ ih =>
      rw [List.mapIdx_cons]
      exact .cons (step 0 _ _ pair) (ih fun index => step (index + 1))

/-- A forwarding method forwards the method of the declaration. -/
theorem forwards_forwardingMethod (interface : TypeModel) (mirrors : method.Mirrors declared) :
    Forwards configuration interface.name
      (forwardingMethod configuration.context interface method) declared := by
  have named := parameterNames_forwardingMethod configuration.context interface method
  constructor
  case name => exact mirrors.name
  case returnType => exact congrArg DeclaredType.sourceName mirrors.returnType
  case parameters =>
    exact forall₂_mapIdx mirrors.parameters fun index _ _ parameter =>
      ⟨rfl, congrArg DeclaredType.sourceName parameter.type⟩
  case apart =>
    rw [named]
    exact List.nodup_range.map forwardedName_injective
  case unshadowed =>
    intro parameter member taken
    have inside := List.mem_map_of_mem (f := Parameter.name) member
    rw [named] at inside
    obtain ⟨index, -, same⟩ := List.mem_map.1 inside
    have others : ∀ name ∈ ["remoteCallback", "errorCallback", "qualifiers", "bus"],
        name.toList.head? ≠ some 'a' := by decide
    exact forwardedName_ne (others _ taken) index same
  case body =>
    refine ⟨forwardedCall configuration.context interface method, _, rfl, rfl, rfl, ?_, ?_⟩
    · rw [← mirrors.endpoint_eq]
      have passed := congrArg (List.map Expression.variable) named
      simp only [List.map_map, Function.comp_def] at passed
      rw [passed]
      rfl
    · rw [← mirrors.returnType]
      split
      case isTrue void =>
        rw [(initial?_eq_none_iff _).2 void]
        rfl
      case isFalse valued =>
        obtain ⟨value, initial⟩ :=
          Option.ne_none_iff_exists'.1 (mt (initial?_eq_none_iff _).1 valued)
        exact ⟨value, by rw [initial]; rfl⟩

/-- The synthesized class is a proxy of the declared interface. -/
theorem isProxy_proxyClass (mirrors : interface.Mirrors declaration) :
    IsProxy configuration (proxyClass configuration.context interface) declaration where
  interfaces := by rw [← mirrors.name]; rfl
  methods := by
    have named : [setterName "remoteCallback", setterName "errorCallback",
        setterName "qualifiers"] =
          ["setRemoteCallback", "setErrorCallback", "setQualifiers"] := by
      decide
    refine ⟨_, _, rfl, named, ?_, ?_⟩
    · rw [proxyClass, List.forall₂_map_left_iff, List.forall₂_map_right_iff, List.forall₂_same]
      exact fun _ _ => ⟨rfl, rfl⟩
    · rw [List.forall₂_map_left_iff, ← mirrors.name]
      exact mirrors.methods.imp fun _ _ => forwards_forwardingMethod interface

/-- The registration hands out the proxy of the declared interface. -/
theorem registers_registration (mirrors : interface.Mirrors declaration) :
    Registers configuration (registration configuration.context interface)
      (proxyClass configuration.context interface) declaration := by
  rw [Registers, ← mirrors.name]
  exact ⟨_, rfl, rfl, rfl⟩

/-- Nothing is left out where all names are different. -/
theorem firstOccurrences_eq_self {seen : List String} {types : List TypeModel}
    (once : (types.map TypeModel.name).Nodup)
    (unseen : ∀ name ∈ types.map TypeModel.name, name ∉ seen) :
    firstOccurrences seen types = types := by
  induction types generalizing seen with
  | nil => rfl
  | cons head rest ih =>
      rw [List.map_cons, List.nodup_cons] at once
      rw [List.map_cons, List.forall_mem_cons] at unseen
      have fresh : ¬seen.contains head.name = true := mt List.contains_iff_mem.1 unseen.1
      rw [firstOccurrences, if_neg fresh, ih once.2]
      intro name member taken
      rcases List.mem_cons.1 taken with rfl | taken
      · exact once.1 member
      · exact unseen.2 name member taken

section Loader

variable {className : ClassName} {interfaces : List TypeDeclaration} {models : List TypeModel}
  {unit : CompilationUnit}

/-- Interfaces with different names that have models are all loaded. -/
theorem loadedInterfaces_eq_self
    (built : List.Forall₂ (fun model interface =>
      configuration.builder.build .rpcProxy interface = .ok model) models interfaces)
    (once : (interfaces.map TypeDeclaration.name).Nodup) : loadedInterfaces models = models := by
  have kept : models.filter TypeModel.isInterface = models := by
    clear once
    induction built with
    | nil => rfl
    | cons made _ ih =>
        rw [List.filter_cons_of_pos (ModelBuilder.isInterface_build made), ih]
  have named : models.map TypeModel.name = interfaces.map TypeDeclaration.name :=
    map_eq_of_forall₂ built fun _ _ made => (ModelBuilder.mirrors_build made).name
  rw [loadedInterfaces, kept]
  exact firstOccurrences_eq_self (named ▸ once) fun _ _ => List.not_mem_nil

/-- A loader of interfaces with different names loads each of them. -/
theorem loads_of_synthesizeLoader
    (built : List.Forall₂ (fun model interface =>
      configuration.builder.build .rpcProxy interface = .ok model) models interfaces)
    (once : (interfaces.map TypeDeclaration.name).Nodup)
    (synthesized : synthesizeLoader className models configuration.context = .ok unit) :
    Loads configuration unit interfaces := by
  rw [eq_loaderUnit_of_synthesizeLoader synthesized, loadedInterfaces_eq_self built once]
  refine ⟨_, _, models.map fun model =>
    (proxyClass configuration.context model, registration configuration.context model),
    rfl, rfl, rfl, ?_, ?_⟩
  · rw [List.flatMap_map]
    rfl
  · rw [List.forall₂_map_left_iff]
    refine built.imp fun _ _ made => ?_
    have mirrors := ModelBuilder.mirrors_build made
    exact ⟨isProxy_proxyClass mirrors, registers_registration mirrors⟩

end Loader

end Synthesis

namespace Pipeline

/-- When the loader pipeline returns a class, its method declares and registers one proxy for each
scanned interface that has a model, once and in the order of the scan. -/
theorem loader_of_scan (types : Universe) (configuration : Configuration)
    (calls : List Scanner.Call) (contract : String) {artifact : Artifact}
    (returned : (ofTarget configuration types (.loader contract)
      (Scanner.after types calls)).result = .returned artifact) :
    let found := ((Scanner.after types calls).scan types configuration.remoteRequest).1.types
    let accepted := found.filter fun type =>
      type.isInterface && (configuration.builder.build .rpcProxy type).isOk
    (accepted.map TypeDeclaration.name).Nodup ∧
      ∃ unit, Synthesis.synthesizeLoader (Target.loader contract).className
          (loaderInterfaces configuration found) configuration.context = .ok unit ∧
        unit.write configuration.loaderContract = .ok artifact.source ∧
        Synthesis.Loads configuration unit accepted := by
  intro found accepted
  have once : (accepted.map TypeDeclaration.name).Nodup := by
    have surveyed : (found.map TypeDeclaration.name).Nodup := by
      rw [show found = (types.survey configuration.remoteRequest).types from
        congrArg ScanOutcome.types (Scanner.scan_after types calls _)]
      exact types.nodup_typeNames_survey configuration.remoteRequest
    exact surveyed.sublist (List.filter_sublist.map _)
  rw [result_loader_eq] at returned
  have made := eq_ok_of_ending returned
  rw [loaderArtifact, mapError_eq_ok_iff] at made
  obtain ⟨unit, synthesized, following⟩ := bind_eq_ok_iff.1 made
  obtain ⟨source, written, same⟩ := bind_eq_ok_iff.1 following
  cases same
  exact ⟨once, unit, synthesized, written,
    Synthesis.loads_of_synthesizeLoader (configuration.builder.forall₂_buildCandidates found) once
      synthesized⟩

/-- Two interfaces have models, one of them with overloads and declared twice. A class and an
interface with a parameter of no type have none. -/
def remoteTypes : List TypeDeclaration :=
  let remote : List Annotation := [⟨({} : Configuration).annotations.remote, .empty, false⟩]
  let find : MethodDeclaration := ⟨"find", "java.lang.String", [],
    [⟨some "number", "int", []⟩, ⟨none, "java.util.List<java.lang.String>", []⟩]⟩
  let drop : MethodDeclaration := ⟨"find", "void", [], [⟨some "number", "long", []⟩]⟩
  let take : MethodDeclaration := ⟨"take", "int", [], [⟨none, "void", []⟩]⟩
  [⟨"com.example.Calls", .interfaceType, remote, [find, drop]⟩,
    ⟨"com.example.Helper", .classType, remote, []⟩,
    ⟨"com.example.Broken", .interfaceType, remote, [take]⟩,
    ⟨"com.example.Calls", .interfaceType, remote, []⟩,
    ⟨"com.example.Audit", .interfaceType, remote, []⟩]

/-- A loader is made of the remote interfaces of a small universe. -/
theorem loader_of_remoteTypes :
    let configuration : Configuration := { packages := ["com.example"] }
    let types := (MemoryUniverse.ofTypes remoteTypes).toUniverse
    let found := ((Scanner.after types []).scan types configuration.remoteRequest).1.types
    let accepted := found.filter fun type =>
      type.isInterface && (configuration.builder.build .rpcProxy type).isOk
    accepted.map TypeDeclaration.name = ["com.example.Calls", "com.example.Audit"] ∧
      ∃ artifact unit,
        (ofTarget configuration types (.loader configuration.loaderContract)
          (Scanner.after types [])).result = .returned artifact ∧
        unit.write configuration.loaderContract = .ok artifact.source ∧
        Synthesis.Loads configuration unit accepted := by
  intro configuration types found accepted
  have valid := Synthesis.contextIsValid_ofConfiguration Configuration.validate_package
  have forms : ∀ interface ∈ loaderInterfaces configuration found,
      ∀ method ∈ interface.methods, method.returnType.HasSourceForm ∧
        ∀ parameter ∈ method.parameters, parameter.type.HasSourceForm := by
    decide +kernel
  have generated : ∃ artifact,
      Synthesis.generateLoader (Target.loader configuration.loaderContract).className
        (loaderInterfaces configuration found) configuration.context = .ok artifact := by
    refine (Synthesis.generateLoader_isOk_iff valid (.inr (by decide)) (by decide) _).2
      fun interface member => ?_
    have checked : interface.IsChecked :=
      ModelBuilder.isChecked_of_mem_buildCandidates (Synthesis.mem_of_mem_loadedInterfaces member)
    exact (Synthesis.isValid_loaderStatements_iff valid checked).2
      (forms interface (Synthesis.mem_of_mem_loadedInterfaces member))
  obtain ⟨artifact, generated⟩ := generated
  have returned : (ofTarget configuration types (.loader configuration.loaderContract)
      (Scanner.after types [])).result = .returned artifact := by
    rw [result_loader_eq, loaderArtifact, mapError_eq_ok_iff.2 generated, ending]
  obtain ⟨-, unit, -, written, loads⟩ := loader_of_scan types configuration []
    configuration.loaderContract returned
  exact ⟨by decide +kernel, artifact, unit, returned, written, loads⟩

end Pipeline

end BusBridge
