/-
This file synthesizes the loader: a class that declares a proxy for every remote interface and
registers a provider of it.
-/

import BusBridge.Java.Layout
import BusBridge.Java.ValueType
import BusBridge.Log.Record
import BusBridge.Model.Basic
import BusBridge.Synthesis.Context

namespace BusBridge.Synthesis

open Java (CompilationUnit Expression Field Method Parameter Statement ValueType)

/-- The fields of a proxy that the bus fills in through their setters. -/
def stubFields (context : SynthesisContext) : List (String × String) := [
  ("remoteCallback", context.bus.remoteCallback),
  ("errorCallback", context.bus.errorCallback),
  ("qualifiers", "java.lang.annotation.Annotation[]")]

def setter (name type : String) : Method :=
  .overriding "void" (setterName name) [.final type name]
    [.assign (.field .self name) (.variable name)]

/-- Forwarded parameters are renamed after their positions and shadow no field. -/
def forwardedName (index : Nat) : String :=
  "a" ++ String.ofList (Nat.toDigits 10 index)

/-- The call that sends a method's arguments over the bus. -/
def forwardedCall (context : SynthesisContext) (interface : TypeModel) (method : MethodModel) :
    Expression :=
  let arguments := (List.range method.parameters.length).map fun index =>
    Expression.variable (forwardedName index)
  let created := Expression.staticCall context.bus.messageBuilder "createCall" []
  let called := created.call "call" [.text (callSubject interface.name)]
  let addressed := called.call "endpoint" [
    .text method.endpoint, .variable "qualifiers", .createArray "java.lang.Object" arguments]
  let answered := addressed.call "respondTo" [
    .classLiteral (ValueType.ofDeclared method.returnType).boxed, .variable "remoteCallback"]
  let handled := answered.call "errorsHandledBy" [.variable "errorCallback"]
  handled.call "sendNowWith" [.variable context.busVariable]

def forwardingMethod (context : SynthesisContext) (interface : TypeModel)
    (method : MethodModel) : Method :=
  .overriding method.returnType.sourceName method.name
    (method.parameters.mapIdx fun index parameter =>
      .final parameter.type.sourceName (forwardedName index))
    (.evaluate (forwardedCall context interface method) ::
      ((ValueType.ofDeclared method.returnType).initial?.map Statement.returnValue).toList)

def proxyClass (context : SynthesisContext) (interface : TypeModel) : Java.Class where
  modifiers := []
  name := proxyClassName interface.name
  interfaces := [interface.sourceName, context.bus.rpcStub]
  fields := (stubFields context).map fun (name, type) => ⟨[.isPrivate], type, name⟩
  methods := (stubFields context).map (fun (name, type) => setter name type) ++
    interface.methods.map (forwardingMethod context interface)

/-- The statement that registers a provider of an interface's proxy. -/
def registration (context : SynthesisContext) (interface : TypeModel) : Statement :=
  let provided := Statement.returnValue (.create (proxyClassName interface.name) [])
  .evaluate (.staticCall context.bus.remoteProxyFactory "addRemoteProxy" [
    .classLiteral interface.sourceName,
    .createAnonymous context.bus.proxyProvider
      [.overriding "java.lang.Object" "getProxy" [] [provided]]])

def loaderStatements (context : SynthesisContext) (interface : TypeModel) : List Statement :=
  [.declareClass (proxyClass context interface), registration context interface]

def firstOccurrences (seen : List String) : List TypeModel → List TypeModel
  | [] => []
  | type :: rest =>
      if seen.contains type.name then firstOccurrences seen rest
      else type :: firstOccurrences (type.name :: seen) rest

/-- Types that are no interfaces are left out, and so is every repetition. -/
def loadedInterfaces (types : List TypeModel) : List TypeModel :=
  firstOccurrences [] (types.filter TypeModel.isInterface)

/-- An interface is refused in its own name before the loader is put together. -/
def checkedStatements (context : SynthesisContext) (interface : TypeModel) :
    Except SynthesisFailure (List Statement) := do
  let statements := loaderStatements context interface
  statements.forM fun statement => discard (statement.write interface.name)
  return statements

def loaderUnit (className : ClassName) (context : SynthesisContext)
    (statements : List Statement) : CompilationUnit where
  package := className.package
  classes := [{
    modifiers := [.isPublic]
    name := className.simple
    interfaces := [context.loaderContract]
    fields := []
    methods := [{
      annotations := []
      modifiers := [.isPublic]
      returnType := "void"
      name := "loadProxies"
      parameters := [.final context.bus.messageBus context.busVariable]
      body := statements }] }]

/-- Interfaces are registered in the given order, and the first that is refused fails all. -/
def synthesizeLoader (className : ClassName) (types : List TypeModel)
    (context : SynthesisContext) : Except SynthesisFailure CompilationUnit := do
  let statements ← (loadedInterfaces types).mapM (checkedStatements context)
  return loaderUnit className context statements.flatten

def generateLoader (className : ClassName) (types : List TypeModel)
    (context : SynthesisContext) : Except SynthesisFailure Artifact := do
  let unit ← synthesizeLoader className types context
  return ⟨className, ← unit.write context.loaderContract⟩

def isRefused (context : SynthesisContext) (interface : TypeModel) : Bool :=
  (checkedStatements context interface).toOption.isNone

/-- The types that are looked at before a refusal ends the synthesis. -/
def visitedTypes (context : SynthesisContext) (types : List TypeModel) : List TypeModel :=
  match (loadedInterfaces types).find? (isRefused context) with
  | none => types
  | some refused =>
      types.takeWhile fun type => !(type.isInterface && type.name == refused.name)

def loaderRecords (className : ClassName) (types : List TypeModel)
    (context : SynthesisContext) : List LogRecord :=
  let skipped := (visitedTypes context types).filter fun type => !type.isInterface
  let warnings := skipped.map fun type =>
    Origin.proxy.record .warn "Skipping non-interface in proxy loader" [("type_name", type.name)]
  match generateLoader className types context with
  | .error _ => warnings
  | .ok _ =>
      warnings ++ [Origin.proxy.record .debug "Synthesized proxy loader"
        [("class", className.qualified), ("proxies", toString types.length)]]

end BusBridge.Synthesis
