/-
This file proves what the variables of synthesized classes stand for: the parameters of the outer
method and the fields of a proxy are captured by no inner declaration, all other variables belong to
the method that reads them, and no method declares a name twice.
-/

import BusBridge.Proofs.Java.Scope
import BusBridge.Proofs.Synthesis.LoaderContent
import BusBridge.Proofs.Synthesis.ObserverClass

namespace BusBridge.Synthesis

open Java (CompilationUnit Expression Field Level Method Occurrence Parameter Scope Statement
  ValueType)

/-- The scope of the one method of a class that has no fields. -/
def outerScope (outer : Method) : Scope :=
  [.body outer [], .members []]

/-- A name of the outer method's parameters stands for the parameter, a name of the fields for a
field of the class around, and any other name for a parameter or a local of the method it is in. -/
def IsBound (outer : Method) (fields : Scope → Field → Prop) : Occurrence → Prop
  | .variable name scope =>
      (∀ parameter ∈ outer.parameters, parameter.name = name →
        scope.resolve name = some (outerScope outer, .parameter parameter)) ∧
      (∀ field, fields scope field → field.name = name →
        scope.resolve name = some (scope.tail, .field field)) ∧
      (name ∉ outer.parameters.map Parameter.name →
        (∀ field, fields scope field → field.name ≠ name) → scope.Owns name)
  | .method declared => declared.variableNames.Nodup

/-- The fields that a method of a proxy reads when it forwards a call. -/
def IsForwardingField (context : SynthesisContext) (types : List TypeModel) (scope : Scope)
    (field : Field) : Prop :=
  (∃ interface ∈ loadedInterfaces types, ∃ method ∈ interface.methods,
    scope.method? = some (forwardingMethod context interface method)) ∧
  ∃ name type, (name, type) ∈ stubFields context ∧ field = ⟨[.isPrivate], type, name⟩

variable {configuration : Configuration} {context : SynthesisContext} {className : ClassName}
  {types : List TypeModel} {interface bean : TypeModel} {method : MethodModel}
  {outer : Method} {scope : Scope} {unit : CompilationUnit} {name : String}

section Rules

variable {fields : Scope → Field → Prop} (other : ∀ field, fields scope field → field.name ≠ name)

include other

/-- A name that is looked up as in the outer method stands for the parameter there. -/
theorem isBound_of_outer (apart : (outer.parameters.map Parameter.name).Nodup)
    (declared : name ∈ outer.parameters.map Parameter.name)
    (seen : scope.resolve name = (outerScope outer).resolve name) :
    IsBound outer fields (.variable name scope) := by
  refine ⟨?_, fun field known same => absurd same (other field known),
    fun absent _ => absurd declared absent⟩
  rintro parameter given rfl
  exact seen.trans (Scope.resolve_parameter apart given)

/-- A name that the outer method does not declare may be one of the method it is in. -/
theorem isBound_of_owns (absent : name ∉ outer.parameters.map Parameter.name)
    (owned : scope.Owns name) : IsBound outer fields (.variable name scope) := by
  refine ⟨?_, fun field known same => absurd same (other field known), fun _ _ => owned⟩
  rintro parameter given rfl
  exact absurd (List.mem_map_of_mem given) absent

end Rules

section Forwarding

/-- No parameter of a forwarding method hides a name that does not start as they do. -/
theorem resolve_forwardingMethod (different : name.toList.head? ≠ some 'a') :
    Scope.resolve name (.body (forwardingMethod context interface method) [] :: scope) =
      scope.resolve name := by
  apply Scope.resolve_cons_of_notMem
  rw [Scope.names_body, parameterNames_forwardingMethod]
  intro member
  obtain ⟨index, -, same⟩ := List.mem_map.1 member
  exact forwardedName_ne different index same

/-- The initial value of a type reads no variable. -/
theorem occurrences_initial? {type : ValueType} {value : Expression}
    (initial : type.initial? = some value) : value.occurrences scope = [] := by
  unfold ValueType.initial? at initial
  split at initial <;> cases initial <;> rfl

/-- A forwarded call reads the fields of its proxy, its parameters and the bus. -/
theorem occurrences_forwardedCall : (forwardedCall context interface method).occurrences scope =
    ("qualifiers" :: (List.range method.parameters.length).map forwardedName ++
      ["remoteCallback", "errorCallback", context.busVariable]).map
        (Occurrence.variable · scope) := by
  have read : ∀ names : List String,
      Expression.allOccurrences (names.map Expression.variable) scope =
        names.map (Occurrence.variable · scope) := fun names => by
    rw [Expression.allOccurrences_eq_flatMap, List.flatMap_map]
    exact List.map_eq_flatMap.symm
  have passed := read ((List.range method.parameters.length).map forwardedName)
  rw [List.map_map, Function.comp_def] at passed
  simp only [forwardedCall, Expression.occurrences, Expression.allOccurrences, Expression.text,
    passed]
  simp

/-- A forwarding method reads what its forwarded call reads. -/
theorem occurrences_forwardingMethod :
    (forwardingMethod context interface method).occurrences scope =
      .method (forwardingMethod context interface method) ::
        (forwardedCall context interface method).occurrences
          (.body (forwardingMethod context interface method) [] :: scope) := by
  rw [Method.occurrences_eq]
  change _ :: (_ ++ Statement.allOccurrences (Option.toList _) _) = _
  cases initial : (ValueType.ofDeclared method.returnType).initial? with
  | none => simp [Statement.allOccurrences, Statement.occurrences]
  | some value =>
      simp [Statement.allOccurrences, Statement.occurrences, occurrences_initial? initial]

/-- A forwarding method declares its parameters alone. -/
theorem variableNames_forwardingMethod :
    (forwardingMethod context interface method).variableNames =
      (List.range method.parameters.length).map forwardedName := by
  rw [Method.variableNames, parameterNames_forwardingMethod]
  change _ ++ Statement.allLocalNames (_ :: Option.toList _) = _
  cases (ValueType.ofDeclared method.returnType).initial? <;>
    simp [Statement.allLocalNames, Statement.localNames]

end Forwarding

section Loader

/-- The fields of a proxy are named apart from the bus and from all parameters. -/
theorem stubFields_apart (context : SynthesisContext) : ∀ stub ∈ stubFields context,
    stub.1 ≠ "bus" ∧ stub.1.toList.head? ≠ some 'a' := by
  simp only [stubFields, List.forall_mem_cons, List.not_mem_nil, false_imp_iff, implies_true]
  decide

/-- In a proxy the name of a field stands for the field. -/
theorem resolve_stubField {stub : String × String} (member : stub ∈ stubFields context) :
    Scope.resolve stub.1 (.members (proxyClass context interface).fields :: scope) =
      some (.members (proxyClass context interface).fields :: scope,
        .field ⟨[.isPrivate], stub.2, stub.1⟩) := by
  simp only [stubFields, List.mem_cons, List.not_mem_nil, or_false] at member
  rcases member with rfl | rfl | rfl <;> rfl

/-- A proxy does not hide the bus. -/
theorem resolve_bus_proxyClass :
    Scope.resolve "bus" (.members (proxyClass context interface).fields :: scope) =
      scope.resolve "bus" :=
  Scope.resolve_cons_of_notMem (by
    change "bus" ∉ ["remoteCallback", "errorCallback", "qualifiers"]
    decide)

/-- The fields have other names than the bus and the parameters of forwarding methods. -/
theorem IsForwardingField.apart {field : Field}
    (known : IsForwardingField context types scope field) :
    field.name ≠ "bus" ∧ field.name.toList.head? ≠ some 'a' := by
  obtain ⟨-, name, type, listed, rfl⟩ := known
  exact stubFields_apart context _ listed

variable (named : context.busVariable = "bus")
  (takes : outer.parameters.map Parameter.name = ["bus"])

include takes

/-- A forwarding method reads the fields of its own proxy. -/
theorem isBound_stubField {stub : String × String} (listed : stub ∈ stubFields context)
    (loaded : interface ∈ loadedInterfaces types) (declared : method ∈ interface.methods) :
    IsBound outer (IsForwardingField context types) (.variable stub.1
      (.body (forwardingMethod context interface method) [] ::
        .members (proxyClass context interface).fields :: outerScope outer)) := by
  obtain ⟨bus, -⟩ := stubFields_apart context stub listed
  refine ⟨?_, ?_, fun _ absent => ?_⟩
  · rintro parameter given same
    have known := List.mem_map_of_mem (f := Parameter.name) given
    rw [takes, List.mem_singleton, same] at known
    exact absurd known bus
  · rintro _ ⟨-, name, type, alsoListed, rfl⟩ same
    rw [← same]
    exact (resolve_forwardingMethod (stubFields_apart context _ alsoListed).2).trans
      (resolve_stubField alsoListed)
  · exact absurd rfl (absent ⟨[.isPrivate], stub.2, stub.1⟩
      ⟨⟨interface, loaded, method, declared, rfl⟩, stub.1, stub.2, listed, rfl⟩)

include named

/-- A forwarding method stands in the proxy of its interface. -/
theorem isBound_forwardingMethod (loaded : interface ∈ loadedInterfaces types)
    (declared : method ∈ interface.methods) :
    ∀ occurrence ∈ (forwardingMethod context interface method).occurrences
        (.members (proxyClass context interface).fields :: outerScope outer),
      IsBound outer (IsForwardingField context types) occurrence := by
  rw [occurrences_forwardingMethod, List.forall_mem_cons, occurrences_forwardedCall]
  constructor
  · rw [IsBound, variableNames_forwardingMethod]
    exact List.nodup_range.map forwardedName_injective
  · have stub : ∀ stub ∈ stubFields context, _ := fun stub listed =>
      isBound_stubField takes listed loaded declared
    simp only [stubFields, List.forall_mem_cons, List.not_mem_nil, false_imp_iff, implies_true,
      and_true] at stub
    obtain ⟨remote, error, qualifiers⟩ := stub
    simp only [List.cons_append, List.map_cons, List.map_append, List.map_map, List.map_nil,
      List.forall_mem_cons, List.forall_mem_append, List.forall_mem_map, List.not_mem_nil,
      false_imp_iff, implies_true, and_true, named]
    refine ⟨qualifiers, fun index bound => ?_, remote, error, ?_⟩
    · apply isBound_of_owns fun _ known => (forwardedName_ne known.apart.2 index).symm
      · rw [takes, List.mem_singleton]
        exact forwardedName_ne (by decide) index
      · apply Scope.owns_parameter
        rw [parameterNames_forwardingMethod]
        exact List.mem_map_of_mem bound
    · apply isBound_of_outer fun _ known => known.apart.1
      · exact takes ▸ List.nodup_singleton "bus"
      · exact takes ▸ List.mem_singleton_self "bus"
      · rw [resolve_forwardingMethod (by decide), resolve_bus_proxyClass]

omit named in
/-- A setter forwards no call, and its parameter hides the field that it sets. -/
theorem isBound_setter {stub : String × String} (listed : stub ∈ stubFields context) :
    ∀ occurrence ∈ (setter stub.1 stub.2).occurrences scope,
      IsBound outer (IsForwardingField context types) occurrence := by
  change ∀ occurrence ∈ [Occurrence.method (setter stub.1 stub.2),
    .variable stub.1 (.body (setter stub.1 stub.2) [] :: scope)], _
  rw [List.forall_mem_cons, List.forall_mem_singleton]
  constructor
  · exact List.nodup_singleton stub.1
  · apply isBound_of_owns
    · rintro _ ⟨⟨_, _, _, _, forwards⟩, -⟩
      have bodies := congrArg (Option.map Method.body) forwards
      cases bodies
    · rw [takes, List.mem_singleton]
      exact (stubFields_apart context stub listed).1
    · exact Scope.owns_parameter (List.mem_singleton_self stub.1)

/-- Each interface is loaded by a proxy and by a provider that reads no variable. -/
theorem isBound_loaderStatements (loaded : interface ∈ loadedInterfaces types) :
    ∀ statement ∈ loaderStatements context interface,
      ∀ occurrence ∈ statement.occurrences (outerScope outer),
        IsBound outer (IsForwardingField context types) occurrence := by
  rw [loaderStatements, List.forall_mem_cons, List.forall_mem_singleton]
  constructor
  · change ∀ occurrence ∈ Method.allOccurrences (proxyClass context interface).methods
      (.members (proxyClass context interface).fields :: outerScope outer), _
    rw [Method.allOccurrences_eq_flatMap, proxyClass, List.flatMap_append, List.forall_mem_append]
    simp only [List.forall_mem_flatMap, List.forall_mem_map]
    exact ⟨fun _ listed => isBound_setter takes listed,
      fun _ declared => isBound_forwardingMethod named takes loaded declared⟩
  · intro occurrence member
    obtain rfl : occurrence = .method (.overriding "java.lang.Object" "getProxy" []
        [.returnValue (.create (proxyClassName interface.name) [])]) := by
      simpa only [registration, Statement.occurrences, Expression.occurrences,
        Expression.allOccurrences, Method.allOccurrences, Method.occurrences_eq,
        Method.overriding, Statement.allOccurrences, List.nil_append, List.append_nil,
        List.mem_singleton] using member
    exact List.nodup_nil

end Loader

section Observer

variable {callback : Method} {point : InjectionPoint}

/-- The scope of a callback that stands in an outer method. -/
def callbackScope (callback outer : Method) (locals : List Java.Variable) : Scope :=
  .body callback locals :: .members [] :: outerScope outer

/-- The variables that a callback reads, with the locals that are declared before. -/
def callbackReads (context : SynthesisContext) (point : InjectionPoint) :
    List (String × List Java.Variable) :=
  let held := .assigned stringSet "methodQualifiers"
  let read := .assigned stringSet "qualifiers"
  let response := .assigned "java.lang.Object" "response"
  (point.parameter.qualifiers.names.map fun _ => ("methodQualifiers", [held])) ++ [
    ("message", [.unassigned "qualifiers", held]),
    ("methodQualifiers", [read, held]),
    ("qualifiers", [read, held]),
    ("qualifiers", [read, held]),
    ("methodQualifiers", [read, held]),
    ("message", [.unassigned "response", read, held]),
    (context.instanceVariable, [response, read, held]),
    ("response", [response, read, held])]

/-- A callback reads its variables after they are declared. -/
theorem occurrences_callbackBody :
    Statement.allOccurrences (callbackBody point context) (callbackScope callback outer []) =
      (callbackReads context point).map fun (name, locals) =>
        .variable name (callbackScope callback outer locals) := by
  let held := callbackScope callback outer [.assigned stringSet "methodQualifiers"]
  have added : ((point.parameter.qualifiers.names.map addQualifier).flatMap fun statement =>
      statement.occurrences held) =
        point.parameter.qualifiers.names.map fun _ => .variable "methodQualifiers" held := by
    rw [List.flatMap_map]
    exact List.map_eq_flatMap.symm
  rw [callbackBody, List.cons_append, Statement.allOccurrences]
  change [] ++ Statement.allOccurrences _ held = _
  rw [List.nil_append, Statement.allOccurrences_append (List.forall_mem_map.2 fun _ _ => rfl),
    added, callbackReads, List.map_append, List.map_map]
  rfl

/-- A callback declares three variables. -/
theorem allLocalNames_callbackBody : Statement.allLocalNames (callbackBody point context) =
    ["methodQualifiers", "qualifiers", "response"] := by
  have added : (point.parameter.qualifiers.names.map addQualifier).flatMap Statement.localNames =
      [] :=
    List.flatMap_eq_nil_iff.2 (List.forall_mem_map.2 fun _ _ => rfl)
  rw [Statement.allLocalNames_eq_flatMap, callbackBody, List.cons_append, List.flatMap_cons,
    List.flatMap_append, added]
  rfl

variable (named : context.busVariable = "bus") (instanced : context.instanceVariable = "instance")
  (takes : outer.parameters.map Parameter.name = ["bus", "instance"])

include takes

/-- A name of the outer method that no declaration of a callback hides. -/
theorem isBound_captured {locals : List Java.Variable} {type : String}
    (one : callback.parameters = [.final type "message"]) (declared : name ∈ ["bus", "instance"])
    (free : name ∉ "message" :: locals.map Java.Variable.name) :
    IsBound outer (fun _ _ => False) (.variable name (callbackScope callback outer locals)) := by
  apply isBound_of_outer (fun _ => False.elim)
  · rw [takes]
    decide
  · rwa [takes]
  · rw [callbackScope, Scope.resolve_cons_of_notMem, Scope.resolve_cons_of_notMem]
    · exact List.not_mem_nil
    · rw [Level.variables, one, List.map_append]
      simpa [Java.Variable.name, Parameter.final, and_comm] using free

include named instanced

/-- The callback reads its own variables and the instance. -/
theorem isBound_subscriptionStatement :
    ∀ occurrence ∈ (subscriptionStatement point context).occurrences (outerScope outer),
      IsBound outer (fun _ _ => False) occurrence := by
  let callback : Method := .overriding "void" "callback" [.final context.bus.message "message"]
    (callbackBody point context)
  have listed : (subscriptionStatement point context).occurrences (outerScope outer) =
      .variable context.busVariable (outerScope outer) :: .method callback ::
        (callbackReads context point).map fun (name, locals) =>
          .variable name (callbackScope callback outer locals) := by
    rw [← occurrences_callbackBody]
    simp only [subscriptionStatement, Statement.occurrences, Expression.occurrences,
      Expression.allOccurrences, Expression.text, Method.allOccurrences, Method.occurrences_eq,
      List.nil_append, List.append_nil]
    rfl
  rw [listed, List.forall_mem_cons, List.forall_mem_cons, List.forall_mem_map, named]
  refine ⟨isBound_of_outer (fun _ => False.elim) (by rw [takes]; decide)
    (by rw [takes]; decide) rfl, ?_, ?_⟩
  · rw [IsBound, Method.variableNames]
    change (["message"] ++ Statement.allLocalNames (callbackBody point context)).Nodup
    rw [allLocalNames_callbackBody]
    decide
  · have own : ∀ {name locals}, name ∉ ["bus", "instance"] →
        (callbackScope callback outer locals).Owns name →
        IsBound outer (fun _ _ => False) (.variable name (callbackScope callback outer locals)) :=
      fun absent => isBound_of_owns (fun _ => False.elim) (takes ▸ absent)
    simp only [callbackReads, instanced, List.forall_mem_append, List.forall_mem_map,
      List.forall_mem_cons, List.not_mem_nil, false_imp_iff, implies_true, and_true]
    exact ⟨fun _ _ => own (by decide) ⟨_, rfl, rfl⟩, own (by decide) ⟨_, rfl, rfl⟩,
      own (by decide) ⟨_, rfl, rfl⟩, own (by decide) ⟨_, rfl, rfl⟩,
      own (by decide) ⟨_, rfl, rfl⟩, own (by decide) ⟨_, rfl, rfl⟩,
      own (by decide) ⟨_, rfl, rfl⟩, isBound_captured takes rfl (by decide) (by decide),
      own (by decide) ⟨_, rfl, rfl⟩⟩

end Observer

/-- All variables of a class with one method, which declares no locals, are those of the statements
of this method. -/
theorem isBound_unit {declared : Java.Class} {fields : Scope → Field → Prop}
    (one : unit.classes = [declared]) (bare : declared.fields = [])
    (only : declared.methods = [outer]) (apart : (outer.parameters.map Parameter.name).Nodup)
    (none : ∀ statement ∈ outer.body, statement.localNames = [])
    (bound : ∀ statement ∈ outer.body, ∀ occurrence ∈ statement.occurrences (outerScope outer),
      IsBound outer fields occurrence) :
    ∀ occurrence ∈ unit.occurrences, IsBound outer fields occurrence := by
  cases declared
  subst bare only
  rw [CompilationUnit.occurrences, one, List.flatMap_singleton, Java.Class.occurrences,
    Method.allOccurrences, Method.occurrences_eq, Method.allOccurrences, List.append_nil,
    List.forall_mem_cons, Statement.allOccurrences_eq_flatMap none, List.forall_mem_flatMap]
  refine ⟨?_, bound⟩
  rwa [IsBound, Method.variableNames, Statement.allLocalNames_eq_flatMap,
    List.flatMap_eq_nil_iff.2 none, List.append_nil]

/-- Each variable of a synthesized class stands for what it is meant to stand for. The fields of a
proxy are meant in its forwarding methods only, and the outer method's parameters everywhere. -/
theorem occurrences_bound (configuration : Configuration) (className : ClassName) :
    let context := SynthesisContext.ofConfiguration configuration
    let bus := Parameter.final context.bus.messageBus context.busVariable
    (∀ types unit, synthesizeLoader className types context = .ok unit →
      ∃ load : Method, unit.classes.flatMap Java.Class.methods = [load] ∧
        load.parameters = [bus] ∧
        ∀ occurrence ∈ unit.occurrences,
          IsBound load (IsForwardingField context types) occurrence) ∧
    ∀ (bean : TypeModel) registry unit, registry.ObservesOnly →
      synthesizeObserver className bean registry context = .ok unit →
      ∃ subscribe : Method, unit.classes.flatMap Java.Class.methods = [subscribe] ∧
        subscribe.parameters = [bus, .final bean.sourceName context.instanceVariable] ∧
        ∀ occurrence ∈ unit.occurrences, IsBound subscribe (fun _ _ => False) occurrence := by
  intro context bus
  constructor
  · intro types unit synthesized
    rw [eq_loaderUnit_of_synthesizeLoader synthesized]
    refine ⟨_, rfl, rfl, isBound_unit rfl rfl rfl (List.nodup_singleton _) ?_ ?_⟩
    · simp only [List.forall_mem_flatMap, loaderStatements, List.forall_mem_cons]
      exact fun _ _ => ⟨rfl, rfl, List.forall_mem_nil _⟩
    · rw [List.forall_mem_flatMap]
      exact fun interface loaded => isBound_loaderStatements rfl rfl loaded
  · intro bean registry unit observes synthesized
    obtain ⟨statements, decorated, made⟩ := bind_eq_ok_iff.1 synthesized
    cases made
    have subscriptions : ∀ statement ∈ statements, ∃ point,
        statement = subscriptionStatement point context := by
      intro statement member
      obtain ⟨point, -, made⟩ := exists_of_mem_mapM decorated statement member
      exact ⟨point, (observes.accepted_of_decorate made).2⟩
    refine ⟨_, rfl, rfl, isBound_unit rfl rfl rfl ?_ ?_ ?_⟩
    · exact show ["bus", "instance"].Nodup by decide
    · intro statement member
      obtain ⟨point, rfl⟩ := subscriptions statement member
      rfl
    · intro statement member
      obtain ⟨point, rfl⟩ := subscriptions statement member
      exact isBound_subscriptionStatement rfl rfl rfl

/-- A method with two parameters and a result. -/
def callsInterface : TypeDeclaration where
  name := "com.example.Calls"
  kind := .interfaceType
  annotations := []
  methods := [⟨"find", "java.lang.String", [],
    [⟨some "bus", "int", []⟩, ⟨some "qualifiers", "java.util.List<java.lang.String>", []⟩]⟩]

/-- The variables of a loader and of an observer class stand for what they are meant to. -/
theorem callsAndOrders_bound :
    let context := SynthesisContext.ofConfiguration { packages := ["com.example"] }
    ∃ calls loader load orders observer subscribe,
      ModelBuilder.build ⟨[]⟩ .rpcProxy callsInterface = .ok calls ∧
      synthesizeLoader ⟨"com.example", "Loader"⟩ [calls] context = .ok loader ∧
      loader.occurrences.length = 15 ∧ loader.classes.flatMap Java.Class.methods = [load] ∧
      (∀ occurrence ∈ loader.occurrences,
        IsBound load (IsForwardingField context [calls]) occurrence) ∧
      ModelBuilder.build ⟨[]⟩ .observerSubscription ordersBean = .ok orders ∧
      synthesizeObserver ⟨"com.example", "Observer"⟩ orders (.standard context) context =
        .ok observer ∧
      observer.occurrences.length = 22 ∧
      observer.classes.flatMap Java.Class.methods = [subscribe] ∧
      ∀ occurrence ∈ observer.occurrences, IsBound subscribe (fun _ _ => False) occurrence := by
  intro context
  have valid : ContextIsValid context :=
    contextIsValid_ofConfiguration Configuration.validate_package
  obtain ⟨calls, modeled, counted⟩ : ∃ calls,
      ModelBuilder.build ⟨[]⟩ .rpcProxy callsInterface = .ok calls ∧
        (loaderUnit ⟨"com.example", "Loader"⟩ context ((loadedInterfaces [calls]).flatMap
          (loaderStatements context))).occurrences.length = 15 :=
    map_eq_ok_iff.1 (by decide +kernel)
  have mentioned := eq_of_map_eq_ok modeled (show Except.map (fun calls =>
    decide (∀ method ∈ calls.methods, method.returnType.HasSourceForm ∧
      ∀ parameter ∈ method.parameters, parameter.type.HasSourceForm)) _ = .ok true by
        decide +kernel)
  obtain ⟨loader, synthesized⟩ := exists_unit_of_hasSourceForm valid ⟨"com.example", "Loader"⟩
    (List.forall_mem_singleton.2 (ModelBuilder.isChecked_build modeled))
    (List.forall_mem_singleton.2 (of_decide_eq_true mentioned))
  rw [← eq_loaderUnit_of_synthesizeLoader synthesized] at counted
  obtain ⟨orders, described, subscribed⟩ : ∃ orders,
      ModelBuilder.build ⟨[]⟩ .observerSubscription ordersBean = .ok orders ∧
        decide ((synthesizeObserver ⟨"com.example", "Observer"⟩ orders (.standard context)
          context).map (·.occurrences.length) = .ok 22) = true :=
    map_eq_ok_iff.1 (by decide +kernel)
  obtain ⟨observer, made, observed⟩ := map_eq_ok_iff.1 (of_decide_eq_true subscribed)
  obtain ⟨load, inside, -, inLoader⟩ := (occurrences_bound _ _).1 _ _ synthesized
  obtain ⟨subscribe, only, -, inObserver⟩ := (occurrences_bound _ _).2 _ _ _
    (DecoratorRegistry.observesOnly_standard context) made
  exact ⟨calls, loader, load, orders, observer, subscribe, modeled, synthesized, counted, inside,
    inLoader, described, made, observed, only, inObserver⟩

/-- A decorator may make any statement, also one that reads a name of its own choice. -/
def watch : Decorator := fun point _ =>
  .ok (.evaluate (Expression.call (.variable "audit") "watch" [.text point.method.name]))

def auditedBean : TypeDeclaration :=
  beanOf [("placed", [⟨"com.example.Audit", .empty, false⟩])]

/-- A variable of the given name for which no declaration is in scope. -/
def isFree (name : String) : Occurrence → Bool
  | .variable read scope => read == name && (scope.resolve read).isNone
  | .method _ => false

/-- Without the restriction to observers, a synthesized class may read a variable that nothing
declares. -/
theorem watched_unresolved :
    let context := SynthesisContext.ofConfiguration { packages := ["com.example"] }
    let registry := (DecoratorRegistry.standard context).register "com.example.Audit" watch
    ∃ bean unit, ModelBuilder.build ⟨[]⟩ .observerSubscription auditedBean = .ok bean ∧
      synthesizeObserver ⟨"com.example", "Observer"⟩ bean registry context = .ok unit ∧
      ∃ scope, .variable "audit" scope ∈ unit.occurrences ∧ scope.resolve "audit" = none := by
  intro context registry
  obtain ⟨bean, built, synthesized⟩ : ∃ bean,
      ModelBuilder.build ⟨[]⟩ .observerSubscription auditedBean = .ok bean ∧
        decide ((synthesizeObserver ⟨"com.example", "Observer"⟩ bean registry context).map
          (·.occurrences.any (isFree "audit")) = .ok true) = true :=
    map_eq_ok_iff.1 (by decide +kernel)
  obtain ⟨unit, made, some⟩ := map_eq_ok_iff.1 (of_decide_eq_true synthesized)
  obtain ⟨⟨read, scope⟩ | declared, inside, free⟩ := List.any_eq_true.1 some
  · rw [isFree, Bool.and_eq_true, beq_iff_eq, Option.isNone_iff_eq_none] at free
    obtain ⟨rfl, free⟩ := free
    exact ⟨bean, unit, built, made, scope, inside, free⟩
  · cases free

end BusBridge.Synthesis
