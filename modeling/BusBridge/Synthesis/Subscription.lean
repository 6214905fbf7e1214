/-
This file synthesizes subscriptions: an annotated parameter of a bean becomes a statement that
subscribes the bean to events.
-/

import BusBridge.Java.Layout
import BusBridge.Java.ValueType
import BusBridge.Log.Record
import BusBridge.Model.Basic
import BusBridge.Synthesis.Context

namespace BusBridge

/-- An annotation of a parameter selects the parameter's method. -/
structure InjectionPoint where
  bean : TypeModel
  method : MethodModel
  parameter : ParameterModel
  marker : String
  deriving Inhabited

/-- A decorator makes the statement for an injection point. -/
abbrev Decorator :=
  InjectionPoint → SynthesisContext → Except SynthesisFailure Java.Statement

namespace Synthesis

open Java (CompilationUnit Expression Method Parameter Statement ValueType)

def stringSet : String := "java.util.Set<String>"

def methodQualifiers : Expression := .variable "methodQualifiers"

def messageQualifiers : Expression := .variable "qualifiers"

def addQualifier (name : String) : Statement :=
  .evaluate (methodQualifiers.call "add" [.text name])

/-- An entry of the message envelope. -/
def envelopeEntry (context : SynthesisContext) (type key : String) : Expression :=
  Expression.call (.variable "message") "get"
    [.classLiteral type, .staticField context.bus.protocol key]

/-- The sets are equal, or the message has none and the method needs none. -/
def qualifiersAgree : Expression :=
  .binary .either (methodQualifiers.call "equals" [messageQualifiers])
    (.binary .both (.binary .equals messageQualifiers .null) (methodQualifiers.call "isEmpty" []))

/-- The payload of a message goes to the observer method. -/
def deliverPayload (point : InjectionPoint) (context : SynthesisContext) : List Statement := [
  .declareFinal "java.lang.Object" "response"
    (envelopeEntry context (ValueType.ofDeclared point.parameter.type).boxed "OBJECT_REF"),
  .evaluate (Expression.call (.variable context.instanceVariable) point.method.name
    [.cast point.parameter.type.sourceName (.variable "response")])]

def callbackBody (point : InjectionPoint) (context : SynthesisContext) : List Statement :=
  .declareFinal stringSet "methodQualifiers" (.create "java.util.HashSet<String>" []) ::
    point.parameter.qualifiers.names.map addQualifier ++ [
      .declareFinal stringSet "qualifiers" (envelopeEntry context "java.util.Set" "QUALIFIERS"),
      .conditional qualifiersAgree (deliverPayload point context)]

def subscriptionMethod (point : InjectionPoint) (context : SynthesisContext) : String :=
  if point.method.isAnnotated context.annotations.localOnly then "subscribeLocal"
  else "subscribe"

def subscriptionStatement (point : InjectionPoint) (context : SynthesisContext) : Statement :=
  .evaluate (Expression.call (.variable context.busVariable) (subscriptionMethod point context) [
    .text (eventSubject context.bus.subjectPrefix point.parameter.type.erasure),
    .createAnonymous context.bus.messageCallback [
      .overriding "void" "callback" [.final context.bus.message "message"]
        (callbackBody point context)]])

/-- An observer method takes exactly the event, and the event is annotated. -/
def observerProblem? (point : InjectionPoint) (context : SynthesisContext) : Option String :=
  let count := point.method.parameters.length
  if count ≠ 1 then
    some s!"observer methods take exactly one parameter, found {count}"
  else if !point.parameter.isAnnotated context.annotations.observes then
    let observes := context.annotations.observes
    some s!"parameter '{point.parameter.name}' is not annotated @{observes}"
  else none

def observe : Decorator := fun point context =>
  match observerProblem? point context with
  | some reason => .error (.invalidObserver point.bean.name point.method.name reason)
  | none => .ok (subscriptionStatement point context)

end Synthesis

/-- At most one decorator is registered for an annotation. -/
structure DecoratorRegistry where
  decorators : NameMap Decorator

namespace DecoratorRegistry

def empty : DecoratorRegistry := ⟨.empty⟩

/-- A decorator takes the place of the one that was registered before it. -/
def register (registry : DecoratorRegistry) (marker : String) (decorator : Decorator) :
    DecoratorRegistry :=
  ⟨registry.decorators.insert marker decorator⟩

/-- The observes annotation is registered under its configured name. -/
def standard (context : SynthesisContext) : DecoratorRegistry :=
  empty.register context.annotations.observes Synthesis.observe

def contains (registry : DecoratorRegistry) (marker : String) : Bool :=
  registry.decorators.contains marker

def annotations (registry : DecoratorRegistry) : List String :=
  registry.decorators.names

/-- Each registered annotation of each parameter is a point, in declaration order. -/
def points (registry : DecoratorRegistry) (bean : TypeModel) : List InjectionPoint :=
  bean.methods.flatMap fun method =>
    method.parameters.flatMap fun parameter =>
      (parameter.annotations.filter fun marker => registry.contains marker.name).map
        fun marker => ⟨bean, method, parameter, marker.name⟩

def decorate (registry : DecoratorRegistry) (point : InjectionPoint)
    (context : SynthesisContext) : Except SynthesisFailure Java.Statement :=
  match registry.decorators.find? point.marker with
  | none => .error (.unknownDecorator point.marker point.bean.name)
  | some decorator => decorator point context

end DecoratorRegistry

namespace Synthesis

open Java (CompilationUnit Statement)

def observerUnit (className : ClassName) (bean : TypeModel) (context : SynthesisContext)
    (statements : List Statement) : CompilationUnit where
  package := className.package
  classes := [{
    modifiers := [.isPublic]
    name := className.simple
    interfaces := []
    fields := []
    methods := [{
      annotations := []
      modifiers := [.isPublic, .isStatic]
      returnType := "void"
      name := "subscribe"
      parameters := [
        .final context.bus.messageBus context.busVariable,
        .final bean.sourceName context.instanceVariable]
      body := statements }] }]

/-- The class subscribes a bean once for each of its injection points. -/
def synthesizeObserver (className : ClassName) (bean : TypeModel) (registry : DecoratorRegistry)
    (context : SynthesisContext) : Except SynthesisFailure CompilationUnit := do
  let statements ← (registry.points bean).mapM fun point => registry.decorate point context
  return observerUnit className bean context statements

def generateObserver (className : ClassName) (bean : TypeModel) (registry : DecoratorRegistry)
    (context : SynthesisContext) : Except SynthesisFailure Artifact := do
  let unit ← synthesizeObserver className bean registry context
  return ⟨className, ← unit.write bean.name⟩

def observerRecords (className : ClassName) (bean : TypeModel) (registry : DecoratorRegistry)
    (context : SynthesisContext) : List LogRecord :=
  match generateObserver className bean registry context with
  | .error _ => []
  | .ok _ =>
      [Origin.observer.record .debug "Synthesized observer subscriptions"
        [("class", className.qualified), ("bean", bean.name)]]

end Synthesis

end BusBridge
