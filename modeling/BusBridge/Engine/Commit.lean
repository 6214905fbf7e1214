/-
This file holds commit gates. The callers that publish one class share a gate, and with it the
result of the one commit behind it.
-/

import BusBridge.Failure

namespace BusBridge

abbrev GateId := Nat

/-- One caller opens a gate and commits, and the others wait for its result. -/
inductive GateState where
  | unopened
  | committing
  | settled (result : Except Failure Unit)
  deriving Inhabited

/-- A class has at most one current gate. -/
structure CommitGates where
  gates : List GateState := []
  current : List (String × GateId) := []
  deriving Inhabited

namespace CommitGates

def current? (commits : CommitGates) (qualified : String) : Option GateId :=
  commits.current.lookup qualified

def state? (commits : CommitGates) (gate : GateId) : Option GateState :=
  commits.gates[gate]?

def result? (commits : CommitGates) (gate : GateId) : Option (Except Failure Unit) :=
  match commits.state? gate with
  | some (.settled result) => some result
  | _ => none

/-- The current gate of a class, or a new one. -/
def gateFor (commits : CommitGates) (qualified : String) : GateId × CommitGates :=
  match commits.current? qualified with
  | some gate => (gate, commits)
  | none =>
      let gate := commits.gates.length
      (gate, ⟨commits.gates ++ [.unopened], commits.current ++ [(qualified, gate)]⟩)

/-- Only the first caller opens a gate. -/
def open? (commits : CommitGates) (gate : GateId) : Option CommitGates :=
  match commits.state? gate with
  | some .unopened => some { commits with gates := commits.gates.set gate .committing }
  | _ => none

def settle (commits : CommitGates) (gate : GateId) (result : Except Failure Unit) : CommitGates :=
  { commits with gates := commits.gates.set gate (.settled result) }

/-- A gate with a failed commit is given up, so that a later caller may try again. -/
def retire (commits : CommitGates) (qualified : String) (gate : GateId) : CommitGates :=
  { commits with
    current := commits.current.filter fun entry => entry.1 != qualified || entry.2 != gate }

/-- A class that was never published here counts as committed. -/
def committed (commits : CommitGates) (qualified : String) : Except Failure Unit :=
  ((commits.current? qualified).bind commits.result?).getD (.ok ())

end CommitGates

end BusBridge
