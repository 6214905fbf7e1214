/-
This file builds models from declarations. A declaration is refused for the first of its
names and types that is not well formed.
-/

import BusBridge.Failure
import BusBridge.Log.Record
import BusBridge.Model.Basic

namespace BusBridge

/-- These annotations are qualifiers even where the host does not mark them. -/
structure ModelBuilder where
  extraQualifiers : List String
  deriving Inhabited

namespace ModelBuilder

def isQualifier (builder : ModelBuilder) (marker : Annotation) : Bool :=
  marker.isQualifier || builder.extraQualifiers.contains marker.name

def qualifiers (builder : ModelBuilder) (annotations : List Annotation) : QualifierSet :=
  QualifierSet.ofList ((annotations.filter builder.isQualifier).map Qualifier.ofAnnotation)

/-- A parameter without a name is named after its position. -/
def parameterName (index : Nat) (parameter : ParameterDeclaration) : String :=
  parameter.name.getD ("a" ++ String.ofList (Nat.toDigits 10 index))

/-- A parameter type is a type reference other than `void`. -/
def parameterTypeProblem? (type : Java.DeclaredType) : Option String :=
  if type.isVoid then some "void is not a parameter type"
  else type.problem?.map Java.TypeReference.Problem.message

def invalidType (owner : TypeDeclaration) (method : MethodDeclaration)
    (type : Java.DeclaredType) (reason : String) : ModelFailure :=
  .invalidType owner.name method.name type.name reason

/-- The names of the parameters to the left are taken. -/
def buildParameter (builder : ModelBuilder) (owner : TypeDeclaration)
    (method : MethodDeclaration) (taken : List String) (index : Nat)
    (parameter : ParameterDeclaration) : Except ModelFailure ParameterModel :=
  let name := parameterName index parameter
  let type := Java.DeclaredType.ofText parameter.type
  if !Java.isIdentifier name then
    .error (.invalidIdentifier owner.name name .parameter)
  else if taken.contains name then
    .error (.duplicateParameter owner.name method.name name)
  else
    match parameterTypeProblem? type with
    | some reason => .error (invalidType owner method type reason)
    | none =>
        .ok {
          name
          type
          annotations := parameter.annotations
          qualifiers := builder.qualifiers parameter.annotations }

def buildParameters (builder : ModelBuilder) (owner : TypeDeclaration)
    (method : MethodDeclaration) (taken : List String) (index : Nat) :
    List ParameterDeclaration → Except ModelFailure (List ParameterModel)
  | [] => .ok []
  | parameter :: rest => do
      let built ← builder.buildParameter owner method taken index parameter
      let others ← builder.buildParameters owner method (built.name :: taken) (index + 1) rest
      return built :: others

def buildMethod (builder : ModelBuilder) (owner : TypeDeclaration)
    (method : MethodDeclaration) : Except ModelFailure MethodModel := do
  if !Java.isIdentifier method.name then
    throw (.invalidIdentifier owner.name method.name .method)
  let parameters ← builder.buildParameters owner method [] 0 method.parameters
  let returnType := Java.DeclaredType.ofText method.returnType
  match returnType.problem? with
  | some problem => throw (invalidType owner method returnType problem.message)
  | none =>
      return {
        name := method.name
        returnType
        annotations := method.annotations
        parameters }

def build (builder : ModelBuilder) (strategy : Strategy) (declaration : TypeDeclaration) :
    Except ModelFailure TypeModel := do
  if strategy.requiresInterface && !declaration.isInterface then
    throw (.notAnInterface declaration.name strategy)
  if !Java.isQualifiedName (Java.sourceForm declaration.name) then
    throw (.invalidIdentifier declaration.name declaration.name .type)
  let methods ← declaration.methods.mapM (builder.buildMethod declaration)
  return {
    name := declaration.name
    isInterface := declaration.isInterface
    annotations := declaration.annotations
    methods }

/-- Candidates without a model are left out, and the others keep their order. -/
def buildCandidates (builder : ModelBuilder) (strategy : Strategy)
    (candidates : List TypeDeclaration) : List TypeModel :=
  candidates.filterMap fun candidate => (builder.build strategy candidate).toOption

/-- Each candidate that is left out is reported. -/
def candidateRecords (builder : ModelBuilder) (strategy : Strategy)
    (candidates : List TypeDeclaration) : List LogRecord :=
  candidates.filterMap fun candidate =>
    match builder.build strategy candidate with
    | .ok _ => none
    | .error failure =>
        some (Origin.builder.record .warn s!"Skipping candidate type: {failure.message}"
          [("type_name", candidate.name), ("strategy", strategy.name)])

end ModelBuilder

end BusBridge
