/-
This file builds declarations piece by piece.
-/

import BusBridge.Declaration.Basic

namespace BusBridge

namespace Annotation

def marker (name : String) : Annotation :=
  ⟨name, .empty, false⟩

def qualifier (name : String) : Annotation :=
  ⟨name, .empty, true⟩

def withMember (marker : Annotation) (key value : String) : Annotation :=
  { marker with members := marker.members.insert key value }

/-- An annotation that is built from the parts of another one. -/
def assemble (source : Annotation) : Annotation :=
  source.members.entries.foldl (fun built entry => built.withMember entry.1 entry.2)
    (if source.isQualifier then qualifier source.name else marker source.name)

end Annotation

namespace ParameterDeclaration

def named (name type : String) : ParameterDeclaration :=
  ⟨some name, type, []⟩

def withAnnotation (parameter : ParameterDeclaration) (marker : Annotation) :
    ParameterDeclaration :=
  { parameter with annotations := parameter.annotations ++ [marker] }

/-- A parameter without a name is called `unnamed`. -/
def assemble (source : ParameterDeclaration) : ParameterDeclaration :=
  (source.annotations.map Annotation.assemble).foldl withAnnotation
    (named (source.name.getD "unnamed") source.type)

end ParameterDeclaration

namespace MethodDeclaration

/-- A new method takes and returns nothing. -/
def named (name : String) : MethodDeclaration :=
  ⟨name, "void", [], []⟩

def returning (method : MethodDeclaration) (type : String) : MethodDeclaration :=
  { method with returnType := type }

def withAnnotation (method : MethodDeclaration) (marker : Annotation) : MethodDeclaration :=
  { method with annotations := method.annotations ++ [marker] }

def withParameter (method : MethodDeclaration) (parameter : ParameterDeclaration) :
    MethodDeclaration :=
  { method with parameters := method.parameters ++ [parameter] }

def assemble (source : MethodDeclaration) : MethodDeclaration :=
  let annotated := (source.annotations.map Annotation.assemble).foldl withAnnotation
    ((named source.name).returning source.returnType)
  (source.parameters.map ParameterDeclaration.assemble).foldl withParameter annotated

end MethodDeclaration

namespace TypeDeclaration

def named (name : String) (kind : TypeKind) : TypeDeclaration :=
  ⟨name, kind, [], []⟩

def withAnnotation (declaration : TypeDeclaration) (marker : Annotation) : TypeDeclaration :=
  { declaration with annotations := declaration.annotations ++ [marker] }

def withMethod (declaration : TypeDeclaration) (method : MethodDeclaration) : TypeDeclaration :=
  { declaration with methods := declaration.methods ++ [method] }

/-- A declaration is the same when it is built from its parts, if its parameters have names. -/
def assemble (source : TypeDeclaration) : TypeDeclaration :=
  let annotated := (source.annotations.map Annotation.assemble).foldl withAnnotation
    (named source.name source.kind)
  (source.methods.map MethodDeclaration.assemble).foldl withMethod annotated

end TypeDeclaration

end BusBridge
