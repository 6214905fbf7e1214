/-
This file says what the variables of a tree stand for. A name is looked up as Java does it: among
the parameters of the method and its locals that are declared earlier, then among the fields of the
class around the method, and then outwards in the method that this class stands in.
-/

import BusBridge.Java.Syntax
import Mathlib.Data.List.Nodup

namespace BusBridge.Java

/-- A local is in scope in its own initial value already, where it has no value to be read. -/
inductive Variable where
  | parameter (declared : Parameter)
  | assigned (type name : String)
  | unassigned (name : String)
  | field (declared : Field)
  deriving DecidableEq, Repr

namespace Variable

def name : Variable → String
  | .parameter declared => declared.name
  | .assigned _ name => name
  | .unassigned name => name
  | .field declared => declared.name

/-- The variable is a parameter, or a local that has a value. -/
def isLocal : Variable → Bool
  | .parameter _ | .assigned .. => true
  | .unassigned _ | .field _ => false

end Variable

/-- A method comes with the locals that are declared so far, the latest one first. -/
inductive Level where
  | body (method : Method) (locals : List Variable)
  | members (fields : List Field)

def Level.variables : Level → List Variable
  | .body method locals => locals ++ method.parameters.map .parameter
  | .members fields => fields.map .field

/-- The innermost level comes first. -/
abbrev Scope := List Level

namespace Scope

/-- What a name stands for, with the levels from the one that declares it. -/
def resolve (name : String) : Scope → Option (Scope × Variable)
  | [] => none
  | level :: outer =>
      match level.variables.find? fun found => found.name == name with
      | some found => some (level :: outer, found)
      | none => resolve name outer

def declare (declared : Variable) : Scope → Scope
  | .body method locals :: outer => .body method (declared :: locals) :: outer
  | scope => scope

/-- The method that the scope is in. -/
def method? : Scope → Option Method
  | .body method _ :: _ => some method
  | _ => none

/-- The name stands for a parameter or a local of the method that the scope is in. -/
def Owns (scope : Scope) (name : String) : Prop :=
  ∃ found, scope.resolve name = some (scope, found) ∧ found.isLocal = true

end Scope

/-- The scope of the statements that come after a statement. -/
def Statement.extend : Statement → Scope → Scope
  | .declare _ type name _, scope => scope.declare (.assigned type name)
  | _, scope => scope

/-- A variable is read in a scope, or a method is declared. -/
inductive Occurrence where
  | variable (name : String) (scope : Scope)
  | method (declared : Method)

mutual

/-- All variables and methods of a tree, those of its nested classes included. -/
def Expression.occurrences : Expression → Scope → List Occurrence
  | .null, _ | .self, _ | .literal _, _ | .staticField .., _ | .classLiteral _, _ => []
  | .variable name, scope => [.variable name scope]
  | .field target _, scope => target.occurrences scope
  | .call target _ arguments, scope =>
      target.occurrences scope ++ Expression.allOccurrences arguments scope
  | .staticCall _ _ arguments, scope | .create _ arguments, scope =>
      Expression.allOccurrences arguments scope
  | .createAnonymous _ methods, scope => Method.allOccurrences methods (.members [] :: scope)
  | .createArray _ items, scope => Expression.allOccurrences items scope
  | .cast _ value, scope => value.occurrences scope
  | .binary _ left right, scope => left.occurrences scope ++ right.occurrences scope

def Expression.allOccurrences : List Expression → Scope → List Occurrence
  | [], _ => []
  | expression :: rest, scope =>
      expression.occurrences scope ++ Expression.allOccurrences rest scope

def Statement.occurrences : Statement → Scope → List Occurrence
  | .evaluate value, scope | .returnValue value, scope => value.occurrences scope
  | .declare _ _ name initial, scope => initial.occurrences (scope.declare (.unassigned name))
  | .assign target value, scope => target.occurrences scope ++ value.occurrences scope
  | .conditional condition body, scope =>
      condition.occurrences scope ++ Statement.allOccurrences body scope
  | .returnNothing, _ => []
  | .declareClass declaration, scope => declaration.occurrences scope

def Statement.allOccurrences : List Statement → Scope → List Occurrence
  | [], _ => []
  | statement :: rest, scope =>
      statement.occurrences scope ++ Statement.allOccurrences rest (statement.extend scope)

def Method.occurrences : Method → Scope → List Occurrence
  | ⟨annotations, modifiers, returnType, name, parameters, body⟩, scope =>
      .method ⟨annotations, modifiers, returnType, name, parameters, body⟩ ::
        Statement.allOccurrences body
          (.body ⟨annotations, modifiers, returnType, name, parameters, body⟩ [] :: scope)

def Method.allOccurrences : List Method → Scope → List Occurrence
  | [], _ => []
  | method :: rest, scope => method.occurrences scope ++ Method.allOccurrences rest scope

def Class.occurrences : Class → Scope → List Occurrence
  | ⟨_, _, _, fields, methods⟩, scope => Method.allOccurrences methods (.members fields :: scope)

end

def CompilationUnit.occurrences (unit : CompilationUnit) : List Occurrence :=
  unit.classes.flatMap fun declaration => declaration.occurrences []

mutual

/-- The locals that a statement declares in its method. -/
def Statement.localNames : Statement → List String
  | .declare _ _ name _ => [name]
  | .conditional _ body => Statement.allLocalNames body
  | .evaluate _ | .assign .. | .returnNothing | .returnValue _ | .declareClass _ => []

def Statement.allLocalNames : List Statement → List String
  | [] => []
  | statement :: rest => statement.localNames ++ Statement.allLocalNames rest

end

/-- The parameters and locals of a method. -/
def Method.variableNames (method : Method) : List String :=
  method.parameters.map Parameter.name ++ Statement.allLocalNames method.body

section Traversal

variable {scope : Scope}

/-- Expressions are read in one scope. -/
theorem Expression.allOccurrences_eq_flatMap (expressions : List Expression) :
    allOccurrences expressions scope =
      expressions.flatMap fun expression => expression.occurrences scope := by
  induction expressions with
  | nil => rfl
  | cons head rest ih => rw [allOccurrences, ih, List.flatMap_cons]

/-- Methods are declared in one scope. -/
theorem Method.allOccurrences_eq_flatMap (methods : List Method) :
    allOccurrences methods scope = methods.flatMap fun method => method.occurrences scope := by
  induction methods with
  | nil => rfl
  | cons head rest ih => rw [allOccurrences, ih, List.flatMap_cons]

/-- A method opens a scope with its parameters. -/
theorem Method.occurrences_eq (method : Method) : method.occurrences scope =
    .method method :: Statement.allOccurrences method.body (.body method [] :: scope) := by
  cases method
  rfl

namespace Statement

/-- The locals of a body are those of its statements. -/
theorem allLocalNames_eq_flatMap (statements : List Statement) :
    allLocalNames statements = statements.flatMap localNames := by
  induction statements with
  | nil => rfl
  | cons head rest ih => rw [allLocalNames, ih, List.flatMap_cons]

/-- The scope stays as it is where nothing is declared. -/
theorem extend_eq_self {statement : Statement} (none : statement.localNames = []) :
    statement.extend scope = scope := by
  cases statement with
  | declare => cases none
  | _ => rfl

variable {statements : List Statement}

/-- Statements that declare nothing leave the scope. -/
theorem allOccurrences_append (none : ∀ statement ∈ statements, statement.localNames = [])
    (rest : List Statement) :
    allOccurrences (statements ++ rest) scope =
      (statements.flatMap fun statement => statement.occurrences scope) ++
        allOccurrences rest scope := by
  induction statements with
  | nil => rfl
  | cons head others ih =>
      obtain ⟨here, following⟩ := List.forall_mem_cons.1 none
      rw [List.cons_append, allOccurrences, extend_eq_self here, ih following, List.flatMap_cons,
        List.append_assoc]

/-- Statements that declare nothing are read in one scope. -/
theorem allOccurrences_eq_flatMap (none : ∀ statement ∈ statements, statement.localNames = []) :
    allOccurrences statements scope =
      statements.flatMap fun statement => statement.occurrences scope := by
  rw [← List.append_nil statements, allOccurrences_append none, allOccurrences, List.append_nil,
    List.append_nil]

end Statement

end Traversal

namespace Scope

variable {level : Level} {outer : Scope} {name : String}

/-- A name is looked up further out where a level does not declare it. -/
theorem resolve_cons_of_notMem (other : name ∉ level.variables.map Variable.name) :
    resolve name (level :: outer) = outer.resolve name := by
  have absent : level.variables.find? (fun found => found.name == name) = none := by
    rw [List.find?_eq_none]
    intro found member same
    exact other (List.mem_map.2 ⟨found, member, beq_iff_eq.1 same⟩)
  rw [resolve, absent]

/-- A name that a level declares stands for one of the level's variables. -/
theorem exists_resolve_of_mem (outer : Scope)
    (declared : name ∈ level.variables.map Variable.name) :
    ∃ found ∈ level.variables, found.name = name ∧
      resolve name (level :: outer) = some (level :: outer, found) := by
  cases search : level.variables.find? (fun found => found.name == name) with
  | none =>
      obtain ⟨found, member, same⟩ := List.mem_map.1 declared
      exact absurd (beq_iff_eq.2 same) (List.find?_eq_none.1 search found member)
  | some found =>
      have same := List.find?_some search
      exact ⟨found, List.mem_of_find?_eq_some search, beq_iff_eq.1 same, by rw [resolve, search]⟩

variable {method : Method}

/-- A method declares its parameters first. -/
theorem names_body (method : Method) : (Level.body method []).variables.map Variable.name =
    method.parameters.map Parameter.name := by
  rw [Level.variables, List.nil_append, List.map_map]
  rfl

/-- A parameter is found in its method. -/
theorem exists_resolve_parameter (outer : Scope)
    (declared : name ∈ method.parameters.map Parameter.name) :
    ∃ parameter ∈ method.parameters, parameter.name = name ∧
      resolve name (.body method [] :: outer) =
        some (.body method [] :: outer, .parameter parameter) := by
  obtain ⟨found, member, same, resolved⟩ :=
    exists_resolve_of_mem outer (names_body method ▸ declared)
  obtain ⟨parameter, given, rfl⟩ := List.mem_map.1 member
  exact ⟨parameter, given, same, resolved⟩

/-- A method owns the names of its parameters. -/
theorem owns_parameter (declared : name ∈ method.parameters.map Parameter.name) :
    Owns (.body method [] :: outer) name := by
  obtain ⟨parameter, -, -, resolved⟩ := exists_resolve_parameter outer declared
  exact ⟨_, resolved, rfl⟩

/-- The name of a parameter stands for this parameter where no other one has the name. -/
theorem resolve_parameter (apart : (method.parameters.map Parameter.name).Nodup)
    {parameter : Parameter} (given : parameter ∈ method.parameters) :
    resolve parameter.name (.body method [] :: outer) =
      some (.body method [] :: outer, .parameter parameter) := by
  obtain ⟨other, alsoGiven, same, resolved⟩ :=
    exists_resolve_parameter outer (List.mem_map_of_mem given)
  rwa [List.inj_on_of_nodup_map apart alsoGiven given same] at resolved

end Scope

end BusBridge.Java
