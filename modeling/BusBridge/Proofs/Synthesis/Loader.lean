/-
This file proves when a loader is generated for models that were built: exactly when each type
that a method of a loaded interface mentions has a source form.
-/

import BusBridge.Proofs.Configuration
import BusBridge.Proofs.Java.Erasure
import BusBridge.Proofs.Java.Layout
import BusBridge.Proofs.Model.Build
import BusBridge.Proofs.Target
import BusBridge.Synthesis.Loader

namespace BusBridge

/-- Each name in the type stays a qualified name when its dollar signs are read as dots. -/
def Java.DeclaredType.HasSourceForm (type : DeclaredType) : Prop :=
  ∀ name ∈ TypeReference.typeNames type.name, isQualifiedName (sourceForm name) = true

instance (type : Java.DeclaredType) : Decidable type.HasSourceForm :=
  inferInstanceAs (Decidable (∀ name ∈ Java.TypeReference.typeNames type.name,
    Java.isQualifiedName (Java.sourceForm name) = true))

namespace Synthesis

open Java (CompilationUnit DeclaredType Expression Layout Method Statement ValueType isIdentifier
  isQualifiedName isTypeReference sourceForm)

variable {context : SynthesisContext} {configuration : Configuration} {interface : TypeModel}
  {method : MethodModel}

/-- A type can be written when its source form is a type reference. -/
theorem hasSourceForm_iff {type : DeclaredType} (binary : isTypeReference type.name = true) :
    type.HasSourceForm ↔ isTypeReference type.sourceName = true :=
  (Java.TypeReference.isTypeReference_sourceForm_iff binary).symm

/-- The class that stands for a type in a class literal has a source form when the type does. -/
theorem isTypeReference_boxed {type : DeclaredType}
    (source : isTypeReference type.sourceName = true) :
    isTypeReference (ValueType.ofDeclared type).boxed = true := by
  unfold ValueType.ofDeclared
  split
  case h_1 wrapper wrapped =>
    refine Java.TypeReference.isTypeReference_of_isQualifiedName ?_
    change isQualifiedName wrapper = true
    unfold Java.wrapperClass? at wrapped
    split at wrapped <;> cases wrapped <;> decide
  case h_2 =>
    rw [DeclaredType.sourceErasure_eq]
    exact Java.TypeReference.isTypeReference_erasure source

/-- The proxy of an interface has a class name of its own. -/
theorem isIdentifier_proxyClassName {name : String}
    (qualified : isQualifiedName (sourceForm name) = true) :
    isIdentifier (proxyClassName name) = true := by
  obtain ⟨first, rest, split, starts⟩ := Java.cons_of_isQualifiedName qualified
  have continues := Java.continues_of_isQualifiedName qualified
  rw [Java.TypeReference.toList_sourceForm] at split continues
  obtain ⟨head, tail, characters, rfl, rfl⟩ := List.map_eq_cons_iff.1 split
  have plain : head ≠ '$' ∧ head ≠ '.' := by
    constructor <;> rintro rfl <;> exact absurd starts (by decide)
  rw [Java.TypeReference.sourceCharacter, if_neg plain.1] at starts
  have undotted : (Text.replace '.' '_' name).toList =
      head :: tail.map fun character => if character = '.' then '_' else character := by
    rw [Java.toList_replace, characters, List.map_cons, if_neg plain.2]
  refine Java.isIdentifier_replace_append undotted starts ?_ (by decide)
  intro character member
  rcases List.mem_append.1 member with member | member
  · obtain ⟨old, inside, rfl⟩ := List.mem_map.1 member
    have allowed := continues _ (List.mem_map.2 ⟨old, by simp [characters, inside], rfl⟩)
    split
    case isTrue => decide
    case isFalse different =>
      by_cases dollar : old = '$'
      · subst dollar
        decide
      · rw [Java.TypeReference.sourceCharacter, if_neg dollar] at allowed
        exact allowed.resolve_left different
  · have ending : "Impl".toList.all Java.continuesIdentifier = true := by decide
    exact List.all_eq_true.1 ending character member

/-- What a loader takes from its configuration can be written. -/
structure ContextIsValid (context : SynthesisContext) : Prop where
  classes : ∀ entry ∈ context.bus.classes, isTypeReference entry.2 = true
  contract : isTypeReference context.loaderContract = true
  busVariable : isIdentifier context.busVariable = true

/-- An accepted configuration names usable classes. -/
theorem contextIsValid_ofConfiguration (accepted : configuration.validate = .ok ()) :
    ContextIsValid (.ofConfiguration configuration) := by
  have named := configuration.isQualifiedName_of_validate accepted
  constructor
  case classes =>
    intro entry member
    refine Java.TypeReference.isTypeReference_of_isQualifiedName
      (named ("bus." ++ entry.1, entry.2) (List.mem_append_right _ ?_))
    exact List.mem_map_of_mem member
  case contract =>
    refine Java.TypeReference.isTypeReference_of_isQualifiedName
      (named ("loader_contract", configuration.loaderContract) ?_)
    simp [Configuration.qualifiedNames]
  case busVariable => exact (by decide : isIdentifier "bus" = true)

/-- Each class of the bus is a type reference. -/
theorem ContextIsValid.class_mem (valid : ContextIsValid context) {type : String}
    (member : type ∈ context.bus.classes.map Prod.snd) : isTypeReference type = true := by
  obtain ⟨entry, inside, rfl⟩ := List.mem_map.1 member
  exact valid.classes entry inside

/-- The fields of a proxy have usable names and types. -/
theorem ContextIsValid.stubFields (valid : ContextIsValid context) :
    ∀ entry ∈ stubFields context, isIdentifier entry.1 = true ∧
      isIdentifier (setterName entry.1) = true ∧ isTypeReference entry.2 = true := by
  intro entry member
  simp only [Synthesis.stubFields, List.mem_cons, List.not_mem_nil, or_false] at member
  rcases member with rfl | rfl | rfl
  · have names : isIdentifier "remoteCallback" = true ∧
        isIdentifier (setterName "remoteCallback") = true := by
      decide
    exact ⟨names.1, names.2, valid.class_mem (by simp [BusApi.classes])⟩
  · have names : isIdentifier "errorCallback" = true ∧
        isIdentifier (setterName "errorCallback") = true := by
      decide
    exact ⟨names.1, names.2, valid.class_mem (by simp [BusApi.classes])⟩
  · have named : isQualifiedName "java.lang.annotation.Annotation" = true := by decide
    exact ⟨by decide, by decide,
      (Java.TypeReference.isTypeReference_iff _).2 ⟨_, rfl, .inr ⟨_, .named named 1⟩⟩⟩

/-- A setter is written when its names and its type are usable. -/
theorem isValid_setter {name type : String} (named : isIdentifier name = true)
    (setterNamed : isIdentifier (setterName name) = true) (typed : isTypeReference type = true) :
    (setter name type).layout.IsValid := by
  have override : isIdentifier "Override" = true := by decide
  have void : isTypeReference "void" = true := by decide
  simp [setter, Method.isValid_layout, Method.overriding, Java.Parameter.final, named, setterNamed,
    typed, override, void]

/-- A forwarded call is written when its result has a class literal. -/
theorem isValid_forwardedCall (valid : ContextIsValid context)
    (answered : isTypeReference (ValueType.ofDeclared method.returnType).boxed = true) :
    (forwardedCall context interface method).layout.IsValid := by
  have builder : isTypeReference context.bus.messageBuilder = true :=
    valid.class_mem (by simp [BusApi.classes])
  have object : isTypeReference "java.lang.Object" = true :=
    Java.TypeReference.isTypeReference_of_isQualifiedName (by decide)
  have names : ∀ name ∈ ["createCall", "call", "endpoint", "respondTo", "errorsHandledBy",
      "sendNowWith", "qualifiers", "remoteCallback", "errorCallback"],
      isIdentifier name = true := by
    decide
  simp only [List.forall_mem_cons] at names
  simp [forwardedCall, builder, object, names, answered, valid.busVariable, forwardedName,
    Java.isIdentifier_position]

/-- An initial value shows no name. -/
theorem isValid_initial {type : ValueType} {value : Expression}
    (initial : type.initial? = some value) : value.layout.IsValid := by
  have byteType : isTypeReference "byte" = true :=
    Java.TypeReference.isTypeReference_of_isPrimitiveName (by decide)
  have shortType : isTypeReference "short" = true :=
    Java.TypeReference.isTypeReference_of_isPrimitiveName (by decide)
  unfold ValueType.initial? at initial
  split at initial <;> cases initial <;> simp [byteType, shortType]

/-- A method is forwarded exactly when its types have source forms. -/
theorem isValid_forwardingMethod_iff (valid : ContextIsValid context)
    (checked : method.IsChecked) :
    (forwardingMethod context interface method).layout.IsValid ↔
      method.returnType.HasSourceForm ∧
        ∀ parameter ∈ method.parameters, parameter.type.HasSourceForm := by
  rw [hasSourceForm_iff checked.returnType, Method.isValid_layout]
  constructor
  · rintro ⟨-, returned, -, given, -⟩
    refine ⟨returned, fun parameter member => ?_⟩
    rw [hasSourceForm_iff (checked.parameters parameter member).type]
    obtain ⟨index, bound, rfl⟩ := List.mem_iff_getElem.1 member
    exact (given _ (List.mem_mapIdx.2 ⟨index, bound, rfl⟩)).1
  · rintro ⟨returned, given⟩
    refine ⟨?_, returned, checked.name, fun parameter member => ?_, fun statement member => ?_⟩
    · have override : isIdentifier "Override" = true := by decide
      simpa [forwardingMethod, Method.overriding] using override
    · obtain ⟨index, bound, rfl⟩ := List.mem_mapIdx.1 member
      have inside := List.getElem_mem bound
      exact ⟨(hasSourceForm_iff (checked.parameters _ inside).type).1 (given _ inside),
        Java.isIdentifier_position index⟩
    · rcases List.mem_cons.1 member with rfl | member
      · rw [Statement.isValid_evaluate]
        exact isValid_forwardedCall valid (isTypeReference_boxed returned)
      · obtain ⟨value, initial, rfl⟩ := Option.map_eq_some_iff.1 (Option.mem_toList.1 member)
        rw [Statement.isValid_returnValue]
        exact isValid_initial initial

/-- A checked interface can be named in source. -/
theorem isTypeReference_sourceName (checked : interface.IsChecked) :
    isTypeReference interface.sourceName = true :=
  Java.TypeReference.isTypeReference_of_isQualifiedName checked.name

/-- A proxy is written exactly when all its methods are forwarded. -/
theorem isValid_proxyClass_iff (valid : ContextIsValid context) (checked : interface.IsChecked) :
    (proxyClass context interface).layout.IsValid ↔
      ∀ method ∈ interface.methods, method.returnType.HasSourceForm ∧
        ∀ parameter ∈ method.parameters, parameter.type.HasSourceForm := by
  have stub : isTypeReference context.bus.rpcStub = true :=
    valid.class_mem (by simp [BusApi.classes])
  have fields := valid.stubFields
  rw [Java.Class.isValid_layout]
  constructor
  · rintro ⟨-, -, -, forwarded⟩ method member
    have written : (forwardingMethod context interface method).layout.IsValid :=
      forwarded _ (List.mem_append_right _ (List.mem_map_of_mem member))
    exact (isValid_forwardingMethod_iff valid (checked.methods method member)).1 written
  · intro forwarded
    refine ⟨isIdentifier_proxyClassName checked.name, ?_, ?_, ?_⟩
    · simp [proxyClass, isTypeReference_sourceName checked, stub]
    · intro field member
      obtain ⟨entry, inside, rfl⟩ := List.mem_map.1 member
      exact ⟨(fields entry inside).2.2, (fields entry inside).1⟩
    · intro written member
      rcases List.mem_append.1 member with member | member
      · obtain ⟨entry, inside, rfl⟩ := List.mem_map.1 member
        obtain ⟨named, setterNamed, typed⟩ := fields entry inside
        exact isValid_setter named setterNamed typed
      · obtain ⟨method, inside, rfl⟩ := List.mem_map.1 member
        exact (isValid_forwardingMethod_iff valid (checked.methods method inside)).2
          (forwarded method inside)

/-- The registration of a checked interface is written. -/
theorem isValid_registration (valid : ContextIsValid context) (checked : interface.IsChecked) :
    (registration context interface).layout.IsValid := by
  have factory : isTypeReference context.bus.remoteProxyFactory = true :=
    valid.class_mem (by simp [BusApi.classes])
  have provider : isTypeReference context.bus.proxyProvider = true :=
    valid.class_mem (by simp [BusApi.classes])
  have proxy : isTypeReference (proxyClassName interface.name) = true :=
    Java.TypeReference.isTypeReference_of_isQualifiedName
      (Java.isQualifiedName_of_isIdentifier (isIdentifier_proxyClassName checked.name))
  have names : ∀ name ∈ ["Override", "addRemoteProxy", "getProxy"], isIdentifier name = true := by
    decide
  have object : isTypeReference "java.lang.Object" = true :=
    Java.TypeReference.isTypeReference_of_isQualifiedName (by decide)
  simp only [List.forall_mem_cons] at names
  simp [registration, Method.isValid_layout, Method.overriding, factory, provider, proxy, names,
    object, isTypeReference_sourceName checked]

/-- An interface is written when all types of its methods are. -/
theorem isValid_loaderStatements_iff (valid : ContextIsValid context)
    (checked : interface.IsChecked) :
    (∀ statement ∈ loaderStatements context interface, statement.layout.IsValid) ↔
      ∀ method ∈ interface.methods, method.returnType.HasSourceForm ∧
        ∀ parameter ∈ method.parameters, parameter.type.HasSourceForm := by
  rw [← isValid_proxyClass_iff valid checked]
  simp [loaderStatements, isValid_registration valid checked]

/-- A first occurrence is one of the given types. -/
theorem mem_of_mem_firstOccurrences {seen : List String} {types : List TypeModel}
    (member : interface ∈ firstOccurrences seen types) : interface ∈ types := by
  induction types generalizing seen with
  | nil => exact member
  | cons head rest ih =>
      rw [firstOccurrences] at member
      split at member
      case isTrue => exact List.mem_cons_of_mem _ (ih member)
      case isFalse =>
        rcases List.mem_cons.1 member with rfl | member
        · exact List.mem_cons_self ..
        · exact List.mem_cons_of_mem _ (ih member)

/-- A loaded interface is one of the given types. -/
theorem mem_of_mem_loadedInterfaces {types : List TypeModel}
    (member : interface ∈ loadedInterfaces types) : interface ∈ types :=
  (List.mem_filter.1 (mem_of_mem_firstOccurrences member)).1

/-- The statements of an interface are kept exactly when all of them are written. -/
theorem checkedStatements_eq_ok_iff {statements : List Statement} :
    checkedStatements context interface = .ok statements ↔
      statements = loaderStatements context interface ∧
        ∀ statement ∈ statements, statement.layout.IsValid := by
  have written : ∀ statement : Statement,
      (∃ text, statement.write interface.name = .ok text) ↔ statement.layout.IsValid :=
    fun statement => Layout.write_isOk_iff interface.name statement.layout
  rw [checkedStatements, bind_eq_ok_iff]
  constructor
  · rintro ⟨_, checked, same⟩
    cases same
    exact ⟨rfl, fun statement member =>
      (written statement).1 (forM_discard_eq_ok_iff.1 checked statement member)⟩
  · rintro ⟨rfl, valid⟩
    exact ⟨(), forM_discard_eq_ok_iff.2 fun statement member =>
      (written statement).2 (valid statement member), rfl⟩

/-- A loader is written when its name and all of its statements are. -/
theorem isValid_loaderUnit (valid : ContextIsValid context) {className : ClassName}
    (package : className.package = "" ∨ isQualifiedName className.package = true)
    (simple : isIdentifier className.simple = true) {statements : List Statement}
    (written : ∀ statement ∈ statements, statement.layout.IsValid) :
    (loaderUnit className context statements).layout.IsValid := by
  have bus : isTypeReference context.bus.messageBus = true :=
    valid.class_mem (by simp [BusApi.classes])
  have void : isTypeReference "void" = true := by decide
  have load : isIdentifier "loadProxies" = true := by decide
  rw [CompilationUnit.isValid_layout]
  refine ⟨package, ?_⟩
  simpa [loaderUnit, Java.Class.isValid_layout, Method.isValid_layout, Java.Parameter.final, simple,
    valid.contract, valid.busVariable, bus, void, load] using written

/-- A loader is generated exactly when every loaded interface is accepted. -/
theorem generateLoader_isOk_iff (valid : ContextIsValid context) {className : ClassName}
    (package : className.package = "" ∨ isQualifiedName className.package = true)
    (simple : isIdentifier className.simple = true) (types : List TypeModel) :
    (∃ artifact, generateLoader className types context = .ok artifact) ↔
      ∀ interface ∈ loadedInterfaces types,
        ∀ statement ∈ loaderStatements context interface, statement.layout.IsValid := by
  have accepted : ∀ interface, (∃ statements, checkedStatements context interface =
      .ok statements) ↔ ∀ statement ∈ loaderStatements context interface,
        statement.layout.IsValid := by
    intro interface
    simp only [checkedStatements_eq_ok_iff, exists_eq_left]
  simp only [← accepted, ← mapM_isOk_iff]
  constructor
  · rintro ⟨artifact, generated⟩
    obtain ⟨unit, synthesized, -⟩ := bind_eq_ok_iff.1 generated
    obtain ⟨statements, checked, -⟩ := bind_eq_ok_iff.1 synthesized
    exact ⟨statements, checked⟩
  · rintro ⟨statements, checked⟩
    have written : ∀ statement ∈ statements.flatten, statement.layout.IsValid := by
      intro statement member
      obtain ⟨part, inParts, inside⟩ := List.mem_flatten.1 member
      obtain ⟨interface, -, made⟩ := exists_of_mem_mapM checked part inParts
      exact (checkedStatements_eq_ok_iff.1 made).2 statement inside
    obtain ⟨source, wrote⟩ := (Layout.write_isOk_iff context.loaderContract _).2
      (isValid_loaderUnit valid package simple written)
    refine ⟨⟨className, source⟩, ?_⟩
    rw [generateLoader, synthesizeLoader, checked]
    simp only [bind, Except.bind, pure, Except.pure]
    rw [CompilationUnit.write, wrote]

/-- Checked interfaces whose types have source forms are never refused. -/
theorem exists_unit_of_hasSourceForm (valid : ContextIsValid context) (className : ClassName)
    {types : List TypeModel} (checked : ∀ interface ∈ types, interface.IsChecked)
    (mentioned : ∀ interface ∈ types, ∀ method ∈ interface.methods,
      method.returnType.HasSourceForm ∧
        ∀ parameter ∈ method.parameters, parameter.type.HasSourceForm) :
    ∃ unit, synthesizeLoader className types context = .ok unit := by
  have kept : ∃ statements, (loadedInterfaces types).mapM (checkedStatements context) =
      .ok statements := by
    refine mapM_isOk_iff.2 fun interface loaded => ?_
    have given := mem_of_mem_loadedInterfaces loaded
    exact ⟨_, checkedStatements_eq_ok_iff.2 ⟨rfl,
      (isValid_loaderStatements_iff valid (checked interface given)).2 (mentioned interface given)⟩⟩
  obtain ⟨statements, made⟩ := kept
  exact ⟨_, bind_eq_ok_iff.2 ⟨statements, made, rfl⟩⟩

/-- For a configuration that is accepted, models that were built fail as a loader only by a
type of a method that has no source form. -/
theorem loader_generated_iff (accepted : configuration.validate = .ok ())
    (builder : ModelBuilder) (candidates : List TypeDeclaration) :
    (∃ artifact, generateLoader (Target.loader configuration.loaderContract).className
        (builder.buildCandidates .rpcProxy candidates) (.ofConfiguration configuration) =
      .ok artifact) ↔
      ∀ interface ∈ loadedInterfaces (builder.buildCandidates .rpcProxy candidates),
        ∀ method ∈ interface.methods, method.returnType.HasSourceForm ∧
          ∀ parameter ∈ method.parameters, parameter.type.HasSourceForm := by
  have valid := contextIsValid_ofConfiguration accepted
  have named : isQualifiedName (Target.loader configuration.loaderContract).typeName = true :=
    configuration.isQualifiedName_of_validate accepted
      ("loader_contract", configuration.loaderContract) (by simp [Configuration.qualifiedNames])
  obtain ⟨package, simple⟩ := Target.className_of_isQualifiedName named
  rw [generateLoader_isOk_iff valid package simple]
  exact forall₂_congr fun interface member => isValid_loaderStatements_iff valid
    (ModelBuilder.isChecked_of_mem_buildCandidates (mem_of_mem_loadedInterfaces member))

/-- An interface whose one method takes an event of the given type. -/
def callsOf (eventType : String) : TypeDeclaration where
  name := "com.example.Calls"
  kind := .interfaceType
  annotations := []
  methods := [{
    name := "call"
    returnType := "void"
    annotations := []
    parameters := [{ name := some "event", type := eventType, annotations := [] }] }]

/-- A loader is generated although an interface is nested in a class. -/
theorem loader_generated_nested :
    ({ packages := ["com.example"] } : Configuration).validate = .ok () ∧
      ∃ artifact, generateLoader (Target.loader ({} : Configuration).loaderContract).className
        (ModelBuilder.buildCandidates ⟨[]⟩ .rpcProxy [callsOf "com.example.Outer$Event"])
        (.ofConfiguration { packages := ["com.example"] }) = .ok artifact := by
  have mentioned : ∀ interface ∈
      ModelBuilder.buildCandidates ⟨[]⟩ .rpcProxy [callsOf "com.example.Outer$Event"],
      ∀ method ∈ interface.methods, method.returnType.HasSourceForm ∧
        ∀ parameter ∈ method.parameters, parameter.type.HasSourceForm := by
    decide +kernel
  have accepted := Configuration.validate_package
  exact ⟨accepted, (loader_generated_iff accepted ⟨[]⟩ [callsOf "com.example.Outer$Event"]).2
    fun interface loaded => mentioned interface (mem_of_mem_loadedInterfaces loaded)⟩

/-- A class name may end in a dollar sign, but read as a nested type it ends in a dot. -/
theorem loader_refused_dollar :
    ({ packages := ["com.example"] } : Configuration).validate = .ok () ∧
      (ModelBuilder.buildCandidates ⟨[]⟩ .rpcProxy [callsOf "com.example.Event$"]).map
        TypeModel.name = ["com.example.Calls"] ∧
      generateLoader (Target.loader ({} : Configuration).loaderContract).className
        (ModelBuilder.buildCandidates ⟨[]⟩ .rpcProxy [callsOf "com.example.Event$"])
        (.ofConfiguration { packages := ["com.example"] }) =
          .error (.invalidIdentifier "com.example.Calls" "com.example.Event.") := by
  refine ⟨Configuration.validate_package, by decide +kernel, ?_⟩
  decide +kernel

end Synthesis

end BusBridge
