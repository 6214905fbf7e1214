/-
This file holds the models that source is generated from. Their names and types are checked
when they are built.
-/

import BusBridge.Java.DeclaredType
import BusBridge.Model.Qualifier

namespace BusBridge

structure ParameterModel where
  name : String
  type : Java.DeclaredType
  annotations : List Annotation
  qualifiers : QualifierSet
  deriving Inhabited

structure MethodModel where
  name : String
  returnType : Java.DeclaredType
  annotations : List Annotation
  parameters : List ParameterModel
  deriving Inhabited

structure TypeModel where
  name : String
  isInterface : Bool
  annotations : List Annotation
  methods : List MethodModel
  deriving Inhabited

namespace ParameterModel

def isAnnotated (parameter : ParameterModel) (name : String) : Bool :=
  annotated parameter.annotations name

/-- Qualifiers are compared by name, and all else as it is. -/
def agrees (first second : ParameterModel) : Bool :=
  first.name == second.name && first.type == second.type &&
    first.annotations == second.annotations && first.qualifiers.sameNames second.qualifiers

def toJson (parameter : ParameterModel) : Json :=
  .object [
    ("name", .text parameter.name),
    ("ty", .text parameter.type.name),
    ("annotations", annotationsToJson parameter.annotations),
    ("qualifiers", parameter.qualifiers.toJson)]

end ParameterModel

def agreeAll (agrees : α → α → Bool) : List α → List α → Bool
  | [], [] => true
  | first :: firstRest, second :: secondRest =>
      agrees first second && agreeAll agrees firstRest secondRest
  | _, _ => false

namespace MethodModel

def isAnnotated (method : MethodModel) (name : String) : Bool :=
  annotated method.annotations name

/-- The endpoint tells overloads apart by the erasures of their parameters. -/
def endpoint (method : MethodModel) : String :=
  method.name ++ ":" ++
    String.join (method.parameters.map fun parameter => parameter.type.erasure ++ ":")

def agrees (first second : MethodModel) : Bool :=
  first.name == second.name && first.returnType == second.returnType &&
    first.annotations == second.annotations &&
    agreeAll ParameterModel.agrees first.parameters second.parameters

def toJson (method : MethodModel) : Json :=
  .object [
    ("name", .text method.name),
    ("return_type", .text method.returnType.name),
    ("annotations", annotationsToJson method.annotations),
    ("parameters", .array (method.parameters.map ParameterModel.toJson))]

end MethodModel

namespace TypeModel

def isAnnotated (type : TypeModel) (name : String) : Bool :=
  annotated type.annotations name

def sourceName (type : TypeModel) : String :=
  Java.sourceForm type.name

def agrees (first second : TypeModel) : Bool :=
  first.name == second.name && first.isInterface == second.isInterface &&
    first.annotations == second.annotations &&
    agreeAll MethodModel.agrees first.methods second.methods

def toJson (type : TypeModel) : Json :=
  .object [
    ("name", .text type.name),
    ("is_interface", .boolean type.isInterface),
    ("annotations", annotationsToJson type.annotations),
    ("methods", .array (type.methods.map MethodModel.toJson))]

end TypeModel

end BusBridge
