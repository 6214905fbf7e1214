/-
This file holds declarations as a host compiler reports them. Names and types are still text.
-/

import BusBridge.NameMap
import BusBridge.Target

namespace BusBridge

inductive TypeKind where
  | interfaceType
  | classType
  | enumType
  | annotationType
  deriving DecidableEq, Repr, Inhabited

/-- The host marks an annotation whose type is itself a qualifier. -/
structure Annotation where
  name : String
  members : NameMap String
  isQualifier : Bool
  deriving DecidableEq, Inhabited

/-- The name is absent when the host dropped it. -/
structure ParameterDeclaration where
  name : Option String
  type : String
  annotations : List Annotation
  deriving DecidableEq, Inhabited

structure MethodDeclaration where
  name : String
  returnType : String
  annotations : List Annotation
  parameters : List ParameterDeclaration
  deriving DecidableEq, Inhabited

/-- A nested type follows its outer type after a dollar sign. -/
structure TypeDeclaration where
  name : String
  kind : TypeKind
  annotations : List Annotation
  methods : List MethodDeclaration
  deriving DecidableEq, Inhabited

def annotated (annotations : List Annotation) (name : String) : Bool :=
  annotations.any fun marker => marker.name == name

namespace TypeDeclaration

def package (declaration : TypeDeclaration) : String :=
  (ClassName.parse declaration.name).package

def isInterface (declaration : TypeDeclaration) : Bool :=
  declaration.kind == .interfaceType

/-- A type carries the annotations of its methods and of their parameters as its own. -/
def carries (declaration : TypeDeclaration) (name : String) : Bool :=
  annotated declaration.annotations name ||
    declaration.methods.any fun method =>
      annotated method.annotations name ||
        method.parameters.any fun parameter => annotated parameter.annotations name

end TypeDeclaration

end BusBridge
