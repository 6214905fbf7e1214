/-
This file reads declarations from JSON and writes them. What is written reads back.
-/

import BusBridge.Declaration.Basic
import BusBridge.Json.Reader

namespace BusBridge

def namesToJson (members : NameMap String) : Json :=
  .object (members.entries.map fun entry => (entry.1, .text entry.2))

/-- A key that occurs again takes the later text. -/
def namesOfJson? : Json → Option (NameMap String)
  | .object members => do
      return NameMap.ofList (← members.mapM fun member =>
        member.2.text?.map fun value => (member.1, value))
  | _ => none

namespace TypeKind

def word : TypeKind → String
  | .interfaceType => "interface"
  | .classType => "class"
  | .enumType => "enum"
  | .annotationType => "annotation"

def ofWord? : String → Option TypeKind
  | "interface" => some .interfaceType
  | "class" => some .classType
  | "enum" => some .enumType
  | "annotation" => some .annotationType
  | _ => none

def ofJson? (value : Json) : Option TypeKind :=
  value.word?.bind ofWord?

end TypeKind

namespace Annotation

def toJson (marker : Annotation) : Json :=
  .object [
    ("name", .text marker.name),
    ("members", namesToJson marker.members),
    ("qualifier", .boolean marker.isQualifier)]

def ofJson? (value : Json) : Option Annotation := do
  match ← value.record? ["name", "members", "qualifier"] with
  | [name, members, qualifier] =>
      return {
        name := ← Json.required Json.text? name
        members := ← Json.withDefault namesOfJson? .empty members
        isQualifier := ← Json.withDefault Json.boolean? false qualifier }
  | _ => none

end Annotation

def annotationsToJson (annotations : List Annotation) : Json :=
  .array (annotations.map Annotation.toJson)

def annotationsOfJson? : Option Json → Option (List Annotation) :=
  Json.withDefault (Json.list? Annotation.ofJson?) []

namespace ParameterDeclaration

def toJson (parameter : ParameterDeclaration) : Json :=
  .object [
    ("name", parameter.name.elim .null .text),
    ("type", .text parameter.type),
    ("annotations", annotationsToJson parameter.annotations)]

def ofJson? (value : Json) : Option ParameterDeclaration := do
  match ← value.record? ["name", "type", "annotations"] with
  | [name, type, annotations] =>
      return {
        name := ← Json.withDefault Json.optionalText? none name
        type := ← Json.required Json.text? type
        annotations := ← annotationsOfJson? annotations }
  | _ => none

end ParameterDeclaration

namespace MethodDeclaration

def toJson (method : MethodDeclaration) : Json :=
  .object [
    ("name", .text method.name),
    ("return_type", .text method.returnType),
    ("annotations", annotationsToJson method.annotations),
    ("parameters", .array (method.parameters.map ParameterDeclaration.toJson))]

/-- A method without a return type returns nothing. -/
def ofJson? (value : Json) : Option MethodDeclaration := do
  match ← value.record? ["name", "return_type", "annotations", "parameters"] with
  | [name, returnType, annotations, parameters] =>
      return {
        name := ← Json.required Json.text? name
        returnType := ← Json.withDefault Json.text? "void" returnType
        annotations := ← annotationsOfJson? annotations
        parameters :=
          ← Json.withDefault (Json.list? ParameterDeclaration.ofJson?) [] parameters }
  | _ => none

end MethodDeclaration

namespace TypeDeclaration

def toJson (declaration : TypeDeclaration) : Json :=
  .object [
    ("name", .text declaration.name),
    ("kind", .text declaration.kind.word),
    ("annotations", annotationsToJson declaration.annotations),
    ("methods", .array (declaration.methods.map MethodDeclaration.toJson))]

def ofJson? (value : Json) : Option TypeDeclaration := do
  match ← value.record? ["name", "kind", "annotations", "methods"] with
  | [name, kind, annotations, methods] =>
      return {
        name := ← Json.required Json.text? name
        kind := ← Json.required TypeKind.ofJson? kind
        annotations := ← annotationsOfJson? annotations
        methods := ← Json.withDefault (Json.list? MethodDeclaration.ofJson?) [] methods }
  | _ => none

def parse? (text : String) : Option TypeDeclaration :=
  (Json.parse? text).bind ofJson?

end TypeDeclaration

end BusBridge
