/-
This file delivers messages to subscription statements: it runs the callback of a statement
and reports the calls that the callback makes on captured variables.
-/

import BusBridge.Java.Syntax
import BusBridge.Json.Basic
import BusBridge.NameMap
import BusBridge.Text.Basic

namespace BusBridge.Delivery

open Java (Expression Literal Method Operator Statement)

abbrev NameSet := NameMap Unit

def NameSet.ofNames (names : List String) : NameSet :=
  NameMap.ofList (names.map fun name => (name, ()))

/-- A message without qualifiers may have an empty set of them, or no set at all. -/
structure Message where
  qualifiers : Option NameSet
  payloadType : String
  payload : Json
  deriving Inhabited

structure Invocation where
  target : String
  method : String
  arguments : List Json
  deriving Inhabited

/-- A statement is no subscription for the first of these reasons that applies. -/
inductive Mismatch where
  | notACall
  | unexpectedMethod (method : String)
  | otherArguments
  | noCallback
  deriving DecidableEq, Repr

def Mismatch.message : Mismatch → String
  | .notACall => "expected a call statement"
  | .unexpectedMethod method => s!"unexpected method '{method}'"
  | .otherArguments => "expected (subject, callback) arguments"
  | .noCallback => "callback has no callback(message) method"

inductive Failure where
  | notASubscription (mismatch : Mismatch)
  | unboundVariable (name : String)
  | unsupported
  | payloadType (requested actual : String)
  deriving DecidableEq, Repr

def Failure.message : Failure → String
  | .notASubscription mismatch => s!"statement is not a bus subscription: {mismatch.message}"
  | .unboundVariable name => s!"unsupported construct in callback: unbound variable '{name}'"
  | .unsupported => "unsupported construct in callback"
  | .payloadType requested actual => s!"payload of type {actual} requested as {requested}"

structure Subscription where
  subject : String
  isLocal : Bool
  messageVariable : String
  body : List Statement

/-- The subscribing method tells whether remote messages are delivered too. -/
def isLocal? : String → Except Mismatch Bool
  | "subscribe" => .ok false
  | "subscribeLocal" => .ok true
  | other => .error (.unexpectedMethod other)

def isCallback (method : Method) : Bool :=
  method.name == "callback" && method.parameters.length == 1

def subscription : Statement → Except Mismatch Subscription
  | .evaluate (.call _ method arguments) => do
      let isLocal ← isLocal? method
      match arguments with
      | [.literal (.text subject), .createAnonymous _ methods] =>
          match methods.find? isCallback with
          | some { parameters := [parameter], body, .. } =>
              return ⟨subject, isLocal, parameter.name, body⟩
          | _ => throw .noCallback
      | _ => throw .otherArguments
  | _ => .error .notACall

inductive Value where
  | null
  | boolean (value : Bool)
  | text (value : String)
  | names (set : NameSet)
  | payload (value : Json)
  | classLiteral (name : String)
  | key (name : String)
  | message
  deriving BEq

/-- A bean method takes data only. -/
def Value.data? : Value → Option Json
  | .null => some .null
  | .boolean value => some (.boolean value)
  | .text value => some (.text value)
  | .payload value => some value
  | .names _ | .classLiteral _ | .key _ | .message => none

/-- The bindings hold the latest value of each variable first. -/
structure Frame where
  bindings : List (String × Value) := []
  invocations : List Invocation := []

def Frame.bind (frame : Frame) (name : String) (value : Value) : Frame :=
  { frame with bindings := (name, value) :: frame.bindings }

abbrev Run := StateT Frame (Except Failure)

def readVariable (messageVariable name : String) : Run Value := do
  if name = messageVariable then
    return .message
  match (← get).bindings.lookup name with
  | some value => return value
  | none => throw (.unboundVariable name)

def invoke (target method : String) (arguments : List Value) : Run Value := do
  match arguments.mapM Value.data? with
  | none => throw .unsupported
  | some data =>
      modify fun frame =>
        { frame with invocations := frame.invocations ++ [⟨target, method, data⟩] }
      return .null

/-- Adding tells whether the name is new to the set. -/
def addName (holder name : String) (set : NameSet) : Run Value := do
  modify fun frame => frame.bind holder (.names (set.insert name ()))
  return .boolean (!set.contains name)

/-- The methods that a value of the program understands. -/
def callValue (message : Message) (receiver : Value) (method : String)
    (arguments : List Value) : Except Failure Value :=
  match receiver, method, arguments with
  | .message, "get", [.classLiteral _, .key "QUALIFIERS"] =>
      .ok (message.qualifiers.elim .null .names)
  | .message, "get", [.classLiteral requested, .key "OBJECT_REF"] =>
      if requested = message.payloadType then .ok (.payload message.payload)
      else .error (.payloadType requested message.payloadType)
  | .names set, "equals", [.names other] => .ok (.boolean (other == set))
  | .names _, "equals", [_] => .ok (.boolean false)
  | .names set, "isEmpty", [] => .ok (.boolean set.entries.isEmpty)
  | _, _, _ => .error .unsupported

/-- A variable that is bound nowhere is captured from outside the callback. -/
def captured? (messageVariable : String) (frame : Frame) : Expression → Option String
  | .variable name =>
      if name != messageVariable && (frame.bindings.lookup name).isNone then some name else none
  | _ => none

/-- A set grows in place when a name is added to the variable that holds it. -/
def grown? (frame : Frame) (method : String) (arguments : List Value) :
    Expression → Option (String × String × NameSet)
  | .variable holder =>
      match method, arguments, frame.bindings.lookup holder with
      | "add", [.text name], some (.names set) => some (holder, name, set)
      | _, _, _ => none
  | _ => none

mutual

def evaluate (messageVariable : String) (message : Message) : Expression → Run Value
  | .null => return .null
  | .literal (.text value) => return .text value
  | .literal (.boolean value) => return .boolean value
  | .variable name => readVariable messageVariable name
  | .staticField _ name => return .key name
  | .classLiteral type => return .classLiteral type
  | .create type [] =>
      if Text.startsWith "java.util.HashSet" type then return .names .empty
      else throw .unsupported
  | .cast _ value => evaluate messageVariable message value
  | .binary operator left right => do
      let first ← evaluate messageVariable message left
      match operator with
      | .equals =>
          let second ← evaluate messageVariable message right
          return .boolean (first == second)
      | .both =>
          if first == .boolean true then
            let second ← evaluate messageVariable message right
            return .boolean (second == .boolean true)
          else return .boolean false
      | .either =>
          if first == .boolean true then return .boolean true
          else
            let second ← evaluate messageVariable message right
            return .boolean (second == .boolean true)
  | .call target method arguments => do
      let values ← evaluateAll messageVariable message arguments
      let frame ← get
      match captured? messageVariable frame target with
      | some name => invoke name method values
      | none =>
          match grown? frame method values target with
          | some (holder, name, set) => addName holder name set
          | none =>
              let receiver ← evaluate messageVariable message target
              liftM (callValue message receiver method values)
  | _ => throw .unsupported

def evaluateAll (messageVariable : String) (message : Message) :
    List Expression → Run (List Value)
  | [] => return []
  | expression :: rest => do
      let value ← evaluate messageVariable message expression
      let values ← evaluateAll messageVariable message rest
      return value :: values

end

mutual

/-- A statement tells whether it returned from the callback. -/
def execute (messageVariable : String) (message : Message) : Statement → Run Bool
  | .evaluate value => do
      discard (evaluate messageVariable message value)
      return false
  | .declare _ _ name initial => do
      let value ← evaluate messageVariable message initial
      modify fun frame => frame.bind name value
      return false
  | .conditional condition body => do
      let holds ← evaluate messageVariable message condition
      if holds == .boolean true then executeAll messageVariable message body
      else return false
  | .returnNothing => return true
  | _ => throw .unsupported

def executeAll (messageVariable : String) (message : Message) : List Statement → Run Bool
  | [] => return false
  | statement :: rest => do
      if ← execute messageVariable message statement then return true
      else executeAll messageVariable message rest

end

/-- The invocations are in the order in which the callback makes them. -/
def Subscription.deliver (subscription : Subscription) (message : Message) :
    Except Failure (List Invocation) := do
  let (_, frame) ← (executeAll subscription.messageVariable message subscription.body).run {}
  return frame.invocations

def run (statement : Statement) (message : Message) : Except Failure (List Invocation) :=
  match subscription statement with
  | .error mismatch => .error (.notASubscription mismatch)
  | .ok subscription => subscription.deliver message

end BusBridge.Delivery
