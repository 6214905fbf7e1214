/-
This file reads messages from JSON values and writes what a delivery does.
-/

import BusBridge.Synthesis.Delivery

namespace BusBridge.Delivery

/-- A message without the member `qualifiers` has no set of them. -/
def Message.ofJson (value : Json) : Message where
  qualifiers :=
    match value.member? "qualifiers" with
    | some (.array _) => some (.ofNames (value.textsOf "qualifiers"))
    | _ => none
  payloadType := (value.textMember? "payload_type").getD ""
  payload := (value.member? "payload").getD .null

def Invocation.toJson (invocation : Invocation) : Json :=
  .array [.text invocation.target, .text invocation.method, .array invocation.arguments]

/-- An unsupported construct has no wording of its own. -/
def Failure.toJson (failure : Failure) : Json :=
  let worded (kind : String) : Json :=
    .object [("error", .text kind), ("message", .text failure.message)]
  match failure with
  | .notASubscription _ => worded "NotASubscription"
  | .payloadType .. => worded "PayloadType"
  | .unboundVariable _ => worded "Unsupported"
  | .unsupported => .object [("error", .text "Unsupported")]

def resultToJson : Except Failure (List Invocation) → Json
  | .ok invocations => .array (invocations.map Invocation.toJson)
  | .error failure => failure.toJson

def subscriptionToJson : Except Mismatch Subscription → Json
  | .ok subscription =>
      .object [("subject", .text subscription.subject), ("local", .boolean subscription.isLocal)]
  | .error mismatch => (Failure.notASubscription mismatch).toJson

/-- The subscription that a statement makes, and what it does with each message. -/
def simulate (statement : Java.Statement) (messages : List Message) : Json :=
  .object [
    ("subscription", subscriptionToJson (subscription statement)),
    ("runs", .array (messages.map fun message => resultToJson (run statement message)))]

end BusBridge.Delivery
