/-
This file reads failures from JSON values and writes them.
-/

import BusBridge.Failure
import BusBridge.Store.Failure
import BusBridge.Target.Json
import BusBridge.Universe.Basic

namespace BusBridge

/-- A failure is written with its kind and its message. -/
def failureToJson (kind message : String) : Json :=
  .object [("error", .text kind), ("message", .text message)]

def ScanFailure.toJson (failure : ScanFailure) : Json :=
  failureToJson failure.kind failure.message

def ModelFailure.toJson (failure : ModelFailure) : Json :=
  failureToJson failure.kind failure.message

def SynthesisFailure.toJson (failure : SynthesisFailure) : Json :=
  failureToJson failure.kind failure.message

def SchedulerFailure.toJson (failure : SchedulerFailure) : Json :=
  failureToJson failure.kind failure.message

def UniverseFailure.toJson (failure : UniverseFailure) : Json :=
  failureToJson failure.kind failure.message

def StoreFailure.toJson (failure : StoreFailure) : Json :=
  .object [
    ("error", .text failure.kind),
    ("message", .text failure.message),
    ("is_miss", .boolean failure.isMiss)]

def ScanFailure.ofJson? (kind : String) (value : Json) : Option ScanFailure := do
  match kind with
  | "Scan.MalformedPrefix" =>
      return .malformedPrefix (← value.textMember? "prefix") (← value.textMember? "reason")
  | "Scan.UnreadablePackage" =>
      return .unreadablePackage (← value.textMember? "package") (← value.textMember? "reason")
  | _ => none

def ModelFailure.ofJson? (kind : String) (value : Json) : Option ModelFailure := do
  let typeName ← value.textMember? "type_name"
  match kind with
  | "Model.UnknownType" => return .unknownType typeName
  | "Model.NotAnInterface" =>
      return .notAnInterface typeName (← (← value.textMember? "strategy") |> Strategy.ofName?)
  | "Model.InvalidIdentifier" =>
      let word ← value.textMember? "what"
      return .invalidIdentifier typeName (← value.textMember? "identifier")
        (← NameRole.all.find? fun role => role.word == word)
  | "Model.InvalidType" =>
      return .invalidType typeName (← value.textMember? "method") (← value.textMember? "type")
        (← value.textMember? "reason")
  | "Model.DuplicateParameter" =>
      return .duplicateParameter typeName (← value.textMember? "method")
        (← value.textMember? "parameter")
  | _ => none

def SynthesisFailure.ofJson? (kind : String) (value : Json) : Option SynthesisFailure := do
  let typeName ← value.textMember? "type_name"
  match kind with
  | "Synthesis.InvalidIdentifier" =>
      return .invalidIdentifier typeName (← value.textMember? "identifier")
  | "Synthesis.InvalidObserver" =>
      return .invalidObserver typeName (← value.textMember? "method")
        (← value.textMember? "reason")
  | "Synthesis.UnknownDecorator" =>
      return .unknownDecorator (← value.textMember? "annotation") typeName
  | _ => none

def SchedulerFailure.ofJson? (kind : String) (value : Json) : Option SchedulerFailure := do
  match kind with
  | "Scheduler.PoolExhausted" =>
      return .poolExhausted (← value.sizeMember? "pending") (← value.sizeMember? "limit")
  | "Scheduler.ShutDown" => return .shutDown
  | "Scheduler.Interrupted" =>
      return .interrupted (← value.textMember? "target") (← value.textMember? "reason")
  | "Scheduler.PoolStart" => return .poolStart (← value.textMember? "reason")
  | _ => none

/-- The subject of a failure is held by its reason, where it has no other detail. -/
def StoreFailure.ofJson? (kind : String) (value : Json) : Option StoreFailure := do
  match kind with
  | "Cache.NotCached" => return .notCached (← value.textMember? "reason")
  | "Cache.AlreadyCommitted" => return .alreadyCommitted (← value.textMember? "reason")
  | "Cache.ClassMismatch" =>
      return .classMismatch (← value.textMember? "target") (← value.textMember? "expected")
        (← value.textMember? "actual")
  | _ => none

namespace Failure

def wordedOfJson? (kind : String) (value : Json) : Option Failure := do
  match kind with
  | "Cache" => return .cache (← value.textMember? "reason")
  | "Sink" => return .sink (← value.textMember? "reason")
  | "Config" => return .config (← value.textMember? "reason")
  | _ => none

/-- The kind of a failure tells which details it has. -/
def ofJson? (value : Json) : Option Failure := do
  let kind ← value.textMember? "kind"
  (ScanFailure.ofJson? kind value).map .scan <|>
    (ModelFailure.ofJson? kind value).map .model <|>
    ((SynthesisFailure.ofJson? kind value).bind fun cause => do
      return .synthesis (← Strategy.ofName? (← value.textMember? "strategy")) cause) <|>
    (SchedulerFailure.ofJson? kind value).map .scheduler <|>
    (StoreFailure.ofJson? kind value).map StoreFailure.toFailure <|>
    wordedOfJson? kind value

def toJson (failure : Failure) : Json :=
  .object [
    ("error", .text failure.kind),
    ("exit_code", .natural failure.exitCode),
    ("message", .text failure.message)]

end Failure

end BusBridge
