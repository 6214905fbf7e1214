/-
This file holds the causes for which a part of a generation fails, and their wording.
-/

import BusBridge.Target

namespace BusBridge

/-- A scan skips what it cannot cover. -/
inductive ScanFailure where
  | malformedPrefix (packagePrefix reason : String)
  | unreadablePackage (package reason : String)
  deriving DecidableEq, Repr

def ScanFailure.message : ScanFailure → String
  | .malformedPrefix packagePrefix reason =>
      s!"malformed package prefix '{packagePrefix}': {reason}"
  | .unreadablePackage package reason => s!"package '{package}' could not be read: {reason}"

/-- A kind names a failure for machines, whatever its details are. -/
def ScanFailure.kind : ScanFailure → String
  | .malformedPrefix .. => "Scan.MalformedPrefix"
  | .unreadablePackage .. => "Scan.UnreadablePackage"

inductive NameRole where
  | type
  | method
  | parameter
  deriving DecidableEq, Repr

def NameRole.all : List NameRole := [.type, .method, .parameter]

def NameRole.word : NameRole → String
  | .type => "type"
  | .method => "method"
  | .parameter => "parameter"

/-- A declaration has no model. -/
inductive ModelFailure where
  | unknownType (typeName : String)
  | notAnInterface (typeName : String) (strategy : Strategy)
  | invalidIdentifier (typeName identifier : String) (role : NameRole)
  | invalidType (typeName method type reason : String)
  | duplicateParameter (typeName method parameter : String)
  deriving DecidableEq, Repr

def ModelFailure.message : ModelFailure → String
  | .unknownType typeName => s!"type {typeName} not found in the type universe"
  | .notAnInterface typeName strategy =>
      s!"{typeName} is not an interface; {strategy.name} generation requires one"
  | .invalidIdentifier typeName identifier role =>
      s!"{typeName}: '{identifier}' is not a valid {role.word} name"
  | .invalidType typeName method type reason =>
      s!"{typeName}.{method}: invalid type '{type}': {reason}"
  | .duplicateParameter typeName method parameter =>
      s!"{typeName}.{method}: duplicate parameter name '{parameter}'"

def ModelFailure.kind : ModelFailure → String
  | .unknownType .. => "Model.UnknownType"
  | .notAnInterface .. => "Model.NotAnInterface"
  | .invalidIdentifier .. => "Model.InvalidIdentifier"
  | .invalidType .. => "Model.InvalidType"
  | .duplicateParameter .. => "Model.DuplicateParameter"

/-- No valid source exists for a model. -/
inductive SynthesisFailure where
  | invalidIdentifier (typeName identifier : String)
  | invalidObserver (typeName method reason : String)
  | unknownDecorator (marker typeName : String)
  deriving DecidableEq, Repr

def SynthesisFailure.message : SynthesisFailure → String
  | .invalidIdentifier typeName identifier =>
      s!"'{identifier}' is not a valid Java identifier (generating for {typeName})"
  | .invalidObserver typeName method reason =>
      s!"invalid observer method {typeName}.{method}: {reason}"
  | .unknownDecorator marker typeName =>
      s!"no decorator registered for @{marker} (on {typeName})"

def SynthesisFailure.kind : SynthesisFailure → String
  | .invalidIdentifier .. => "Synthesis.InvalidIdentifier"
  | .invalidObserver .. => "Synthesis.InvalidObserver"
  | .unknownDecorator .. => "Synthesis.UnknownDecorator"

/-- A job was not run to its end. -/
inductive SchedulerFailure where
  | poolExhausted (pending limit : Nat)
  | shutDown
  | interrupted (target reason : String)
  | poolStart (reason : String)
  deriving DecidableEq, Repr

def SchedulerFailure.message : SchedulerFailure → String
  | .poolExhausted pending limit =>
      s!"worker pool exhausted: {pending} jobs pending (limit {limit})"
  | .shutDown => "scheduler is shut down"
  | .interrupted target reason => s!"job for {target} was interrupted: {reason}"
  | .poolStart reason => s!"failed to start worker pool: {reason}"

def SchedulerFailure.kind : SchedulerFailure → String
  | .poolExhausted .. => "Scheduler.PoolExhausted"
  | .shutDown => "Scheduler.ShutDown"
  | .interrupted .. => "Scheduler.Interrupted"
  | .poolStart .. => "Scheduler.PoolStart"

/-- Every failure of a generation, by the stage that met it. -/
inductive Failure where
  | scan (cause : ScanFailure)
  | model (cause : ModelFailure)
  | synthesis (strategy : Strategy) (cause : SynthesisFailure)
  | scheduler (cause : SchedulerFailure)
  | cache (reason : String)
  | sink (reason : String)
  | config (reason : String)
  deriving DecidableEq, Repr

namespace Failure

def message : Failure → String
  | .scan cause => s!"scan error: {cause.message}"
  | .model cause => s!"model error: {cause.message}"
  | .synthesis strategy cause => s!"{strategy.name} synthesis failed: {cause.message}"
  | .scheduler cause => s!"scheduler error: {cause.message}"
  | .cache reason => s!"cache error: {reason}"
  | .sink reason => s!"artifact sink error: {reason}"
  | .config reason => s!"configuration error: {reason}"

def kind : Failure → String
  | .scan cause => cause.kind
  | .model cause => cause.kind
  | .synthesis _ cause => cause.kind
  | .scheduler cause => cause.kind
  | .cache _ => "Cache"
  | .sink _ => "Sink"
  | .config _ => "Config"

/-- The cause behind a failure, where the failure only wraps it. -/
def causeMessage? : Failure → Option String
  | .scan cause => some cause.message
  | .model cause => some cause.message
  | .synthesis _ cause => some cause.message
  | .scheduler cause => some cause.message
  | .cache _ | .sink _ | .config _ => none

def exitCode : Failure → Nat
  | .scan _ => 2
  | .model _ => 3
  | .synthesis .. => 4
  | .scheduler _ => 5
  | .cache _ => 6
  | .sink _ => 7
  | .config _ => 8

end Failure

end BusBridge
