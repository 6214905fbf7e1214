/-
This file holds generation targets and the classes generated for them.
-/

import BusBridge.Text.Basic

namespace BusBridge

/-- A loader covers every remote interface, and a subscription class one observer bean. -/
inductive Strategy where
  | rpcProxy
  | observerSubscription
  deriving DecidableEq, Repr, Inhabited

namespace Strategy

def all : List Strategy := [.rpcProxy, .observerSubscription]

def name : Strategy → String
  | .rpcProxy => "rpc-proxy"
  | .observerSubscription => "observer-subscription"

def ofName? (text : String) : Option Strategy :=
  all.find? fun strategy => strategy.name == text

def description : Strategy → String
  | .rpcProxy => "RPC proxy loader"
  | .observerSubscription => "event observer subscriptions"

def requiresInterface : Strategy → Bool
  | .rpcProxy => true
  | .observerSubscription => false

def rank : Strategy → Nat
  | .rpcProxy => 0
  | .observerSubscription => 1

end Strategy

/-- The default package has the empty name. -/
structure ClassName where
  package : String
  simple : String
  deriving DecidableEq, Repr, Inhabited

namespace ClassName

/-- The simple name follows the last dot. -/
def parse (qualified : String) : ClassName :=
  match Text.splitLast? '.' qualified with
  | some (package, simple) => ⟨package, simple⟩
  | none => ⟨"", qualified⟩

def qualified (className : ClassName) : String :=
  if className.package = "" then className.simple
  else className.package ++ "." ++ className.simple

/-- Names are ordered by package, then by simple name. -/
def precedes (first second : ClassName) : Bool :=
  decide (first.package < second.package) ||
    (first.package == second.package && decide (first.simple < second.simple))

end ClassName

/-- A target is a type with the strategy that generates for it. -/
structure Target where
  typeName : String
  strategy : Strategy
  deriving DecidableEq, Repr, Inhabited

namespace Target

def loader (contract : String) : Target :=
  ⟨contract, .rpcProxy⟩

def observer (bean : String) : Target :=
  ⟨bean, .observerSubscription⟩

def suffix : Strategy → String
  | .rpcProxy => "Impl"
  | .observerSubscription => "_ObserverSubscriptions"

/-- A nested type keeps its package, and its dollar signs become underscores. -/
def className (target : Target) : ClassName :=
  let source := ClassName.parse target.typeName
  ⟨source.package, Text.replace '$' '_' source.simple ++ suffix target.strategy⟩

def display (target : Target) : String :=
  s!"{target.typeName} ({target.strategy.name})"

/-- Targets are ordered by type name, then by strategy. -/
def precedes (first second : Target) : Bool :=
  decide (first.typeName < second.typeName) ||
    (first.typeName == second.typeName && first.strategy.rank < second.strategy.rank)

end Target

/-- A generated artifact is a class with its source. -/
structure Artifact where
  className : ClassName
  source : String
  deriving DecidableEq, Repr, Inhabited

end BusBridge
