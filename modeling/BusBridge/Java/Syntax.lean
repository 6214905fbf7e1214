/-
This file holds the syntax trees of generated Java. A tree carries names and types as text,
and the text is judged when the tree is written.
-/

namespace BusBridge.Java

inductive Modifier where
  | isPublic
  | isPrivate
  | isStatic
  | isFinal
  deriving DecidableEq, Repr

def Modifier.keyword : Modifier → String
  | .isPublic => "public"
  | .isPrivate => "private"
  | .isStatic => "static"
  | .isFinal => "final"

inductive Operator where
  | equals
  | both
  | either
  deriving DecidableEq, Repr

def Operator.symbol : Operator → String
  | .equals => "=="
  | .both => "&&"
  | .either => "||"

/-- A floating-point literal holds the bits of its IEEE value. -/
inductive Literal where
  | text (value : String)
  | character (value : Char)
  | boolean (value : Bool)
  | int (value : Int32)
  | long (value : Int64)
  | float (bits : UInt32)
  | double (bits : UInt64)
  deriving DecidableEq

structure Field where
  modifiers : List Modifier
  type : String
  name : String
  deriving DecidableEq, Repr

structure Parameter where
  isFinal : Bool
  type : String
  name : String
  deriving DecidableEq, Repr

mutual

inductive Expression where
  | null
  | self
  | literal (value : Literal)
  | variable (name : String)
  | field (target : Expression) (name : String)
  | staticField (type : String) (name : String)
  | call (target : Expression) (method : String) (arguments : List Expression)
  | staticCall (type : String) (method : String) (arguments : List Expression)
  | create (type : String) (arguments : List Expression)
  | createAnonymous (type : String) (methods : List Method)
  | classLiteral (type : String)
  | createArray (element : String) (items : List Expression)
  | cast (type : String) (value : Expression)
  | binary (operator : Operator) (left right : Expression)

inductive Statement where
  | evaluate (value : Expression)
  | declare (isFinal : Bool) (type : String) (name : String) (initial : Expression)
  | assign (target value : Expression)
  | conditional (condition : Expression) (body : List Statement)
  | returnNothing
  | returnValue (value : Expression)
  | declareClass (declaration : Class)

/-- Annotations are written before the method, each on its own line. -/
structure Method where
  annotations : List String
  modifiers : List Modifier
  returnType : String
  name : String
  parameters : List Parameter
  body : List Statement

structure Class where
  modifiers : List Modifier
  name : String
  interfaces : List String
  fields : List Field
  methods : List Method

end

instance : Inhabited Expression := ⟨.null⟩
instance : Inhabited Statement := ⟨.returnNothing⟩
instance : Inhabited Method := ⟨⟨[], [], "void", "", [], []⟩⟩
instance : Inhabited Class := ⟨⟨[], "", [], [], []⟩⟩

/-- The default package has the empty name. -/
structure CompilationUnit where
  package : String
  classes : List Class

def Expression.text (value : String) : Expression :=
  .literal (.text value)

/-- An overriding method is public and marked as an override. -/
def Method.overriding (returnType name : String) (parameters : List Parameter)
    (body : List Statement) : Method where
  annotations := ["Override"]
  modifiers := [.isPublic]
  returnType := returnType
  name := name
  parameters := parameters
  body := body

def Parameter.final (type name : String) : Parameter :=
  ⟨true, type, name⟩

def Statement.declareFinal (type name : String) (initial : Expression) : Statement :=
  .declare true type name initial

end BusBridge.Java
