/-
This file proves how often the class of a bean subscribes each method: as often as the parameters
of the method carry the observes annotation, which is once unless the annotation is repeated.
-/

import Mathlib
import BusBridge.Model.Build
import BusBridge.Proofs.Configuration
import BusBridge.Proofs.NameMap
import BusBridge.Proofs.Outcome
import BusBridge.Proofs.Synthesis.Subscription

namespace BusBridge

open Java (CompilationUnit Statement ValueType)

/-- The number of annotations with a name that the parameters of a method carry. -/
def MethodModel.marks (method : MethodModel) (marker : String) : Nat :=
  (method.parameters.map fun parameter =>
    parameter.annotations.countP fun annotation => annotation.name == marker).sum

/-- Some parameter of the method carries the annotation. -/
def MethodModel.observes (method : MethodModel) (marker : String) : Bool :=
  method.parameters.any (·.isAnnotated marker)

/-- A method observes when it is marked at least once. -/
theorem MethodModel.observes_eq_decide (method : MethodModel) (marker : String) :
    method.observes marker = decide (0 < method.marks marker) := by
  rw [Bool.eq_iff_iff, decide_eq_true_eq, observes, marks, List.any_eq_true]
  simp [List.sum_pos_iff_exists_pos_nat, ParameterModel.isAnnotated, annotated, List.countP_pos_iff]

section Repetitions

variable {α : Type} {count : α → Nat} {items : List α}

/-- Items that count once at most are not repeated. -/
theorem flatMap_replicate_eq_filter (once : ∀ item ∈ items, count item ≤ 1) :
    (items.flatMap fun item => List.replicate (count item) item) =
      items.filter fun item => 0 < count item := by
  induction items with
  | nil => rfl
  | cons head rest ih =>
      obtain ⟨first, others⟩ := List.forall_mem_cons.1 once
      rw [List.flatMap_cons, ih others, List.filter_cons]
      obtain none | one : count head = 0 ∨ count head = 1 := by omega
      · simp [none]
      · simp [one]

/-- Items that count once or more are repeated at least once. -/
theorem length_filter_le_length_flatMap (count : α → Nat) (items : List α) :
    (items.filter fun item => 0 < count item).length ≤
      (items.flatMap fun item => List.replicate (count item) item).length := by
  induction items with
  | nil => exact Nat.le_refl 0
  | cons head rest ih =>
      rw [List.filter_cons, List.flatMap_cons, List.length_append, List.length_replicate]
      split
      case isTrue counted =>
        rw [decide_eq_true_eq] at counted
        rw [List.length_cons]
        omega
      case isFalse => omega

/-- An item that counts twice makes the repeated list longer. -/
theorem le_one_of_length_flatMap_eq
    (same : (items.flatMap fun item => List.replicate (count item) item).length =
      (items.filter fun item => 0 < count item).length) : ∀ item ∈ items, count item ≤ 1 := by
  induction items with
  | nil => nofun
  | cons head rest ih =>
      have shorter := length_filter_le_length_flatMap count rest
      rw [List.flatMap_cons, List.length_append, List.length_replicate, List.filter_cons] at same
      split at same
      case isTrue counted =>
        rw [decide_eq_true_eq] at counted
        rw [List.length_cons] at same
        exact List.forall_mem_cons.2 ⟨by omega, ih (by omega)⟩
      case isFalse none =>
        rw [decide_eq_true_eq] at none
        exact List.forall_mem_cons.2 ⟨by omega, ih (by omega)⟩

/-- A value that is repeated for each item is repeated as often in sum. -/
theorem flatMap_replicate_const {β : Type} (count : α → Nat) (items : List α) (value : β) :
    (items.flatMap fun item => List.replicate (count item) value) =
      List.replicate (items.map count).sum value := by
  induction items with
  | nil => rfl
  | cons head rest ih =>
      rw [List.flatMap_cons, ih, List.replicate_append_replicate, List.map_cons, List.sum_cons]

end Repetitions

namespace Synthesis

variable {context : SynthesisContext} {point : InjectionPoint} {statement : Statement}

/-- A point is observed exactly when it has no problem. -/
theorem observe_eq_ok_iff :
    observe point context = .ok statement ↔
      observerProblem? point context = none ∧ statement = subscriptionStatement point context := by
  rw [observe]
  cases observerProblem? point context with
  | some reason => simp
  | none => simp [eq_comm]

/-- A point has no problem when its one parameter is annotated. -/
theorem observerProblem?_eq_none_iff :
    observerProblem? point context = none ↔ point.method.parameters.length = 1 ∧
      point.parameter.isAnnotated context.annotations.observes = true := by
  rw [observerProblem?]
  split
  case isTrue other =>
    refine iff_of_false (Option.some_ne_none _) ?_
    rintro ⟨single, -⟩
    exact other single
  case isFalse single =>
    split
    case isTrue unmarked =>
      refine iff_of_false (Option.some_ne_none _) ?_
      rintro ⟨-, marked⟩
      rw [marked] at unmarked
      cases unmarked
    case isFalse marked =>
      exact iff_of_true rfl ⟨not_not.1 single, by simpa using marked⟩

end Synthesis

namespace DecoratorRegistry

variable {registry : DecoratorRegistry} {context : SynthesisContext} {bean : TypeModel}
  {point : InjectionPoint} {statement : Statement}

/-- All annotations that are registered are observed. -/
def ObservesOnly (registry : DecoratorRegistry) : Prop :=
  ∀ marker decorator, registry.decorators.find? marker = some decorator →
    decorator = Synthesis.observe

/-- What a registry of observers makes of a point is the subscription of the point. -/
theorem ObservesOnly.accepted_of_decorate (observes : registry.ObservesOnly)
    (decorated : registry.decorate point context = .ok statement) :
    Synthesis.observerProblem? point context = none ∧
      statement = Synthesis.subscriptionStatement point context := by
  rw [decorate] at decorated
  split at decorated
  case h_1 => cases decorated
  case h_2 decorator registered =>
    rw [observes _ _ registered] at decorated
    exact Synthesis.observe_eq_ok_iff.1 decorated

/-- The observes annotation alone is registered at first. -/
theorem find?_standard (context : SynthesisContext) (marker : String) :
    (standard context).decorators.find? marker =
      if marker = context.annotations.observes then some Synthesis.observe else none := by
  rw [standard, register, NameMap.find?_insert]
  rfl

/-- The observes annotation alone is known at first. -/
theorem contains_standard_iff {marker : String} :
    (standard context).contains marker = true ↔ marker = context.annotations.observes := by
  rw [contains, NameMap.contains, find?_standard]
  split
  case isTrue same => exact iff_of_true rfl same
  case isFalse different => exact iff_of_false Bool.false_ne_true different

/-- The registry of the defaults registers observers only. -/
theorem observesOnly_standard (context : SynthesisContext) : (standard context).ObservesOnly := by
  intro marker decorator registered
  rw [find?_standard] at registered
  split at registered
  case isTrue => exact (Option.some.inj registered).symm
  case isFalse => cases registered

/-- A point is one of the parameters of its method. -/
theorem parameter_mem_of_mem_points
    (member : point ∈ registry.points bean) : point.parameter ∈ point.method.parameters := by
  obtain ⟨method, -, inside⟩ := List.mem_flatMap.1 member
  obtain ⟨parameter, given, selected⟩ := List.mem_flatMap.1 inside
  obtain ⟨marker, -, rfl⟩ := List.mem_map.1 selected
  exact given

/-- A method has a point for each of its annotations that is registered. -/
theorem map_method_points (context : SynthesisContext) (bean : TypeModel) :
    ((standard context).points bean).map InjectionPoint.method =
      bean.methods.flatMap fun method =>
        List.replicate (method.marks context.annotations.observes) method := by
  have selected : ∀ marker : Annotation, (standard context).contains marker.name =
      (marker.name == context.annotations.observes) := fun marker => by
    rw [Bool.eq_iff_iff, contains_standard_iff, beq_iff_eq]
  have repeated : ∀ (method : MethodModel) (markers : List Annotation),
      (markers.filter fun marker => (standard context).contains marker.name).map
          (fun _ => method) =
        List.replicate (markers.countP (·.name == context.annotations.observes)) method := by
    intro method markers
    rw [List.map_const', ← List.countP_eq_length_filter]
    simp only [selected]
  simp only [points, List.map_flatMap, List.map_map, Function.comp_def, repeated,
    flatMap_replicate_const, MethodModel.marks]

end DecoratorRegistry

namespace Synthesis

open Delivery (Message)

variable {configuration : Configuration} {bean : TypeModel} {className : ClassName}
  {unit : CompilationUnit} {point : InjectionPoint} {statement : Statement}
  {context : SynthesisContext}

/-- A statement hands the messages that match to a method with one parameter, each of them once. -/
def Subscribes (configuration : Configuration) (statement : Statement) (method : MethodModel) :
    Prop :=
  ∃ parameter subscription, method.parameters = [parameter] ∧
    Delivery.subscription statement = .ok subscription ∧
    subscription.subject = configuration.bus.subjectPrefix ++ parameter.type.erasure ∧
    ∀ message : Message, Delivery.run statement message =
      if QualifierSet.dispatches (some parameter.qualifiers) message.qualifierSet then
        if (ValueType.ofDeclared parameter.type).boxed = message.payloadType then
          .ok [⟨"instance", method.name, [message.payload]⟩]
        else
          .error (.payloadType (ValueType.ofDeclared parameter.type).boxed message.payloadType)
      else .ok []

/-- A subscription statement subscribes the method of its point. -/
theorem subscribes_subscriptionStatement (configuration : Configuration)
    (single : point.method.parameters = [point.parameter]) :
    Subscribes configuration (subscriptionStatement point (.ofConfiguration configuration))
      point.method := by
  have decoded := subscription_subscriptionStatement point (.ofConfiguration configuration)
  refine ⟨point.parameter, _, single, decoded, rfl, fun message => ?_⟩
  rw [Delivery.run, decoded]
  exact deliver_callbackBody (captures_ofConfiguration configuration) _ _ message

/-- What the registered decorator makes of a point subscribes the method of the point. -/
theorem subscribes_of_decorate
    (member : point ∈ (DecoratorRegistry.standard
      (.ofConfiguration configuration)).points bean)
    (decorated : (DecoratorRegistry.standard (.ofConfiguration configuration)).decorate point
      (.ofConfiguration configuration) = .ok statement) :
    Subscribes configuration statement point.method := by
  obtain ⟨accepted, rfl⟩ :=
    (DecoratorRegistry.observesOnly_standard _).accepted_of_decorate decorated
  obtain ⟨parameter, single⟩ :=
    List.length_eq_one_iff.1 (observerProblem?_eq_none_iff.1 accepted).1
  have given := DecoratorRegistry.parameter_mem_of_mem_points member
  rw [single, List.mem_singleton] at given
  exact subscribes_subscriptionStatement configuration (by rw [single, given])

/-- The one method of a bean's class subscribes the methods of the bean, each of them as often as
its parameters are marked. -/
theorem exists_subscribe_of_synthesizeObserver
    (synthesized : synthesizeObserver className bean
      (.standard (.ofConfiguration configuration)) (.ofConfiguration configuration) = .ok unit) :
    ∃ subscribe : Java.Method, unit.classes.flatMap Java.Class.methods = [subscribe] ∧
      subscribe.name = "subscribe" ∧
      List.Forall₂ (Subscribes configuration) subscribe.body
        (bean.methods.flatMap fun method =>
          List.replicate (method.marks configuration.annotations.observes) method) := by
  obtain ⟨statements, decorated, made⟩ := bind_eq_ok_iff.1 synthesized
  cases made
  refine ⟨_, rfl, rfl, ?_⟩
  have pairs := (List.forall₂_and_left _ _).2 ⟨fun _ member => member, forall₂_of_mapM decorated⟩
  have methods : ((DecoratorRegistry.standard (.ofConfiguration configuration)).points bean).map
      InjectionPoint.method = bean.methods.flatMap fun method =>
        List.replicate (method.marks configuration.annotations.observes) method :=
    DecoratorRegistry.map_method_points _ bean
  rw [← methods, List.forall₂_map_right_iff]
  exact (pairs.imp fun _ _ ⟨member, made⟩ => subscribes_of_decorate member made).flip

/-- The class of a bean has one statement for each observer method, in the order of the bean, and
none for any other method, exactly when no method has the annotation twice. -/
theorem subscribed_once_iff
    (synthesized : synthesizeObserver className bean
      (.standard (.ofConfiguration configuration)) (.ofConfiguration configuration) = .ok unit) :
    ∃ subscribe : Java.Method, unit.classes.flatMap Java.Class.methods = [subscribe] ∧
      subscribe.name = "subscribe" ∧
      List.Forall₂ (Subscribes configuration) subscribe.body
        (bean.methods.flatMap fun method =>
          List.replicate (method.marks configuration.annotations.observes) method) ∧
      (List.Forall₂ (Subscribes configuration) subscribe.body
          (bean.methods.filter (·.observes configuration.annotations.observes)) ↔
        ∀ method ∈ bean.methods, method.marks configuration.annotations.observes ≤ 1) := by
  obtain ⟨subscribe, only, named, pairs⟩ := exists_subscribe_of_synthesizeObserver synthesized
  refine ⟨subscribe, only, named, pairs, ?_⟩
  simp only [MethodModel.observes_eq_decide]
  constructor
  · intro apart
    exact le_one_of_length_flatMap_eq (pairs.length_eq.symm.trans apart.length_eq)
  · intro once
    rwa [← flatMap_replicate_eq_filter once]

/-- A bean that has a method for each list of annotations, which its one parameter carries. -/
def beanOf (methods : List (String × List Annotation)) : TypeDeclaration where
  name := "com.example.Orders"
  kind := .classType
  annotations := []
  methods := methods.map fun (name, markers) =>
    ⟨name, "void", [], [⟨some "order", "com.example.Order", markers⟩]⟩

def observesMarker : Annotation :=
  ⟨({} : Configuration).annotations.observes, .empty, false⟩

/-- Two of the methods observe orders, the first one urgent orders only. -/
def ordersBean : TypeDeclaration :=
  beanOf [("placed", [observesMarker, ⟨"com.example.Urgent", .empty, true⟩]), ("audit", []),
    ("cancelled", [observesMarker])]

/-- The parameter of the one method has the annotation twice. -/
def repeatingBean : TypeDeclaration :=
  beanOf [("placed", [observesMarker, observesMarker])]

/-- The class of a bean for the default names. -/
def observerOf (bean : TypeModel) : Except SynthesisFailure CompilationUnit :=
  synthesizeObserver ⟨"com.example", "Orders_ObserverSubscriptions"⟩ bean
    (.standard (.ofConfiguration { packages := ["com.example"] }))
    (.ofConfiguration { packages := ["com.example"] })

/-- Of three methods the two that observe are subscribed once each. -/
theorem ordersBean_subscribed_once :
    ∃ bean unit subscribe,
      ModelBuilder.build ⟨[]⟩ .observerSubscription ordersBean = .ok bean ∧
      observerOf bean = .ok unit ∧ unit.classes.flatMap Java.Class.methods = [subscribe] ∧
      bean.methods.map MethodModel.name = ["placed", "audit", "cancelled"] ∧
      List.Forall₂ (Subscribes { packages := ["com.example"] }) subscribe.body
        (bean.methods.filter (·.observes observesMarker.name)) := by
  obtain ⟨bean, built, facts⟩ : ∃ bean,
      ModelBuilder.build ⟨[]⟩ .observerSubscription ordersBean = .ok bean ∧
        ((observerOf bean).isOk, bean.methods.map fun method =>
          (method.name, method.marks observesMarker.name)) =
          (true, [("placed", 1), ("audit", 0), ("cancelled", 1)]) :=
    map_eq_ok_iff.1 (by decide +kernel)
  obtain ⟨generated, marked⟩ := Prod.mk.inj facts
  have named := congrArg (List.map Prod.fst) marked
  rw [List.map_map] at named
  cases synthesized : observerOf bean with
  | error failure => rw [synthesized] at generated; cases generated
  | ok unit =>
      obtain ⟨subscribe, only, -, -, once⟩ := subscribed_once_iff synthesized
      refine ⟨bean, unit, subscribe, built, synthesized, only, named, once.2 ?_⟩
      intro method member
      have inside := List.mem_map_of_mem (f := fun method : MethodModel =>
        (method.name, method.marks observesMarker.name)) member
      rw [marked] at inside
      simp only [List.mem_cons, Prod.mk.injEq, List.not_mem_nil, or_false] at inside
      change method.marks observesMarker.name ≤ 1
      omega

/-- A placed order that no qualifiers go with. -/
def orderMessage : Message :=
  ⟨none, "com.example.Order", .null⟩

/-- What a parameter says about the order message. -/
def orderFacts (parameter : ParameterModel) : String × Bool :=
  ((ValueType.ofDeclared parameter.type).boxed,
    QualifierSet.dispatches (some parameter.qualifiers) orderMessage.qualifierSet)

/-- A method that is subscribed once is called once for an order. -/
theorem run_orderMessage {method : MethodModel} (named : method.name = "placed")
    (taken : method.parameters.map orderFacts = [("com.example.Order", true)])
    (subscribes : Subscribes configuration statement method) :
    Delivery.run statement orderMessage = .ok [⟨"instance", "placed", [.null]⟩] := by
  obtain ⟨parameter, subscription, single, -, -, delivered⟩ := subscribes
  obtain ⟨boxed, dispatched⟩ : (ValueType.ofDeclared parameter.type).boxed = "com.example.Order" ∧
      QualifierSet.dispatches (some parameter.qualifiers) orderMessage.qualifierSet = true := by
    simpa only [single, List.map_singleton, orderFacts, List.cons.injEq,
      Prod.mk.injEq, and_true] using taken
  rw [delivered, if_pos dispatched, boxed, named]
  rfl

/-- A parameter that has the annotation twice makes one message reach its method twice. -/
theorem repeatingBean_subscribed_twice :
    ({ packages := ["com.example"] } : Configuration).validate = .ok () ∧
    ∃ bean unit method subscribe,
      ModelBuilder.build ⟨[]⟩ .observerSubscription repeatingBean = .ok bean ∧
      bean.methods = [method] ∧ observerOf bean = .ok unit ∧
      unit.classes.flatMap Java.Class.methods = [subscribe] ∧
      subscribe.body.map (Delivery.run · orderMessage) =
        [.ok [⟨"instance", "placed", [.null]⟩], .ok [⟨"instance", "placed", [.null]⟩]] := by
  refine ⟨Configuration.validate_package, ?_⟩
  obtain ⟨bean, built, generated⟩ : ∃ bean,
      ModelBuilder.build ⟨[]⟩ .observerSubscription repeatingBean = .ok bean ∧
        (observerOf bean).isOk = true :=
    map_eq_ok_iff.1 (by decide +kernel)
  have described := eq_of_map_eq_ok built (show Except.map (fun bean => bean.methods.map
    fun method => (method.name, method.marks observesMarker.name)) _ = .ok [("placed", 2)] by
      decide +kernel)
  have ordered := eq_of_map_eq_ok built (show Except.map (fun bean => bean.methods.map
    fun method => method.parameters.map orderFacts) _ = .ok [[("com.example.Order", true)]] by
      decide +kernel)
  obtain ⟨method, only, fields⟩ := List.map_eq_singleton_iff.1 described
  obtain ⟨named, marked⟩ := Prod.mk.inj fields
  rw [only, List.map_singleton, List.cons.injEq] at ordered
  have taken := ordered.1
  cases synthesized : observerOf bean with
  | error failure => rw [synthesized] at generated; cases generated
  | ok unit =>
      obtain ⟨subscribe, whole, -, pairs⟩ := exists_subscribe_of_synthesizeObserver synthesized
      have twice : (bean.methods.flatMap fun method =>
          List.replicate (method.marks observesMarker.name) method) = [method, method] := by
        rw [only, List.flatMap_singleton, marked]
        rfl
      obtain ⟨first, others, subscribed, remaining, firstOnes⟩ :=
        List.forall₂_cons_right_iff.1 (twice ▸ pairs)
      obtain ⟨second, none, again, ended, secondOnes⟩ := List.forall₂_cons_right_iff.1 remaining
      cases List.forall₂_nil_right_iff.1 ended
      refine ⟨bean, unit, method, subscribe, built, only, synthesized, whole, ?_⟩
      rw [firstOnes, secondOnes, List.map_cons, List.map_singleton,
        run_orderMessage named taken subscribed, run_orderMessage named taken again]

end Synthesis

end BusBridge
