/-
This file proves which messages a synthesized subscription hands to the observer method, and
with which payload.
-/

import BusBridge.Proofs.Synthesis.Delivery
import BusBridge.Synthesis.Subscription

namespace BusBridge.Synthesis

open Delivery
open Java (ValueType)

variable {frame : Frame} {set : NameSet}

section

variable (message : Message)

theorem execute_addQualifier (held : frame.value? "methodQualifiers" = some (.names set))
    (name : String) :
    (execute "message" message (addQualifier name)).run frame =
      .ok (false, frame.bind "methodQualifiers" (.names (set.insert name ()))) := by
  exact execute_evaluate (evaluate_add held)

/-- Each added name grows the set, and no other variable changes. -/
theorem executeAll_addQualifiers (names : List String) (rest : List Java.Statement)
    (held : frame.value? "methodQualifiers" = some (.names set)) :
    ∃ grown : Frame,
      (executeAll "message" message (names.map addQualifier ++ rest)).run frame =
        (executeAll "message" message rest).run grown ∧
      grown.value? "methodQualifiers" =
        some (.names (names.foldl (fun set name => set.insert name ()) set)) ∧
      (∀ other, other ≠ "methodQualifiers" → grown.value? other = frame.value? other) ∧
      grown.invocations = frame.invocations := by
  induction names generalizing frame set with
  | nil => exact ⟨frame, rfl, held, fun _ _ => rfl, rfl⟩
  | cons name names ih =>
      let added := frame.bind "methodQualifiers" (.names (set.insert name ()))
      have holding : added.value? "methodQualifiers" = some (.names (set.insert name ())) := by
        simp [added]
      obtain ⟨grown, ran, holds, others, kept⟩ := ih holding
      refine ⟨grown, ?_, holds, ?_, kept⟩
      · rw [List.map_cons, List.cons_append,
          executeAll_cons (execute_addQualifier message held name), ran]
      · intro other different
        rw [others other different, Frame.value?_bind, if_neg different]

theorem evaluate_envelopeEntry (context : SynthesisContext) (type key : String) :
    (evaluate "message" message (envelopeEntry context type key)).run frame =
      (callValue message .message "get" [.classLiteral type, .key key]).map
        fun result => (result, frame) := by
  apply evaluate_call (by decide) evaluate_message (Or.inl rfl)
  simp [evaluateAll, evaluate]
  rfl

/-- The generated condition follows the rule for qualifier sets. -/
theorem evaluate_qualifiersAgree
    (held : frame.value? "methodQualifiers" = some (.names set))
    (read : frame.value? "qualifiers" = some (message.qualifiers.elim .null .names)) :
    (evaluate "message" message qualifiersAgree).run frame =
      .ok (.boolean (message.qualifiers.elim set.entries.isEmpty (· == set)), frame) := by
  have readFirst : (evaluate "message" message messageQualifiers).run frame =
      .ok (message.qualifiers.elim .null .names, frame) := evaluate_bound (by decide) read
  have readHeld : (evaluate "message" message methodQualifiers).run frame =
      .ok (.names set, frame) := evaluate_bound (by decide) held
  have passed : (evaluateAll "message" message [messageQualifiers]).run frame =
      .ok ([message.qualifiers.elim .null .names], frame) := by
    rw [evaluateAll, run_bind_ok readFirst, evaluateAll]
    rfl
  have isBound : (frame.value? "methodQualifiers").isSome = true := by rw [held]; rfl
  have equal : (evaluate "message" message
      (methodQualifiers.call "equals" [messageQualifiers])).run frame =
        .ok (.boolean (message.qualifiers.elim false (· == set)), frame) := by
    rw [methodQualifiers, evaluate_call (by decide) readHeld (Or.inr isBound) passed]
    cases message.qualifiers <;> rfl
  have absent : (evaluate "message" message (.binary .equals messageQualifiers .null)).run frame =
      .ok (.boolean message.qualifiers.isNone, frame) := by
    have null : (evaluate "message" message .null).run frame = .ok (.null, frame) := rfl
    rw [evaluate_binary readFirst null]
    cases message.qualifiers <;> rfl
  have empty : (evaluate "message" message (methodQualifiers.call "isEmpty" [])).run frame =
      .ok (.boolean set.entries.isEmpty, frame) :=
    evaluate_call (by decide) readHeld (Or.inr isBound)
      (rfl : (evaluateAll "message" message []).run frame = .ok ([], frame))
  rw [qualifiersAgree, evaluate_binary equal (evaluate_binary absent empty)]
  cases message.qualifiers <;> simp

end

variable {message : Message}

/-- A payload of the requested class reaches the observer method. -/
theorem executeAll_deliverPayload {point : InjectionPoint} {context : SynthesisContext}
    (notMessage : context.instanceVariable ≠ "message")
    (notResponse : context.instanceVariable ≠ "response")
    (unbound : frame.value? context.instanceVariable = none)
    (requested : (ValueType.ofDeclared point.parameter.type).boxed = message.payloadType) :
    ∃ final : Frame,
      (executeAll "message" message (deliverPayload point context)).run frame =
        .ok (false, final) ∧
      final.invocations = frame.invocations ++
        [⟨context.instanceVariable, point.method.name, [message.payload]⟩] := by
  let answered := frame.bind "response" (.payload message.payload)
  have entry : (evaluate "message" message (envelopeEntry context
      (ValueType.ofDeclared point.parameter.type).boxed "OBJECT_REF")).run frame =
        .ok (.payload message.payload, frame) := by
    rw [evaluate_envelopeEntry]
    simp [callValue, requested, Except.map]
  have cast : (evaluate "message" message
      (.cast point.parameter.type.sourceName (.variable "response"))).run answered =
        .ok (.payload message.payload, answered) := by
    rw [evaluate]
    exact evaluate_bound (by decide) (by simp [answered])
  have outside : answered.value? context.instanceVariable = none := by
    rw [Frame.value?_bind, if_neg notResponse, unbound]
  refine ⟨{ answered with invocations := answered.invocations ++
    [⟨context.instanceVariable, point.method.name, [message.payload]⟩] }, ?_, rfl⟩
  rw [deliverPayload, Java.Statement.declareFinal, executeAll_cons (execute_declare entry),
    executeAll_cons (execute_evaluate (evaluate_invoke notMessage outside cast rfl))]
  rfl

theorem executeAll_deliverPayload_error {point : InjectionPoint} {context : SynthesisContext}
    (other : (ValueType.ofDeclared point.parameter.type).boxed ≠ message.payloadType) :
    (executeAll "message" message (deliverPayload point context)).run frame =
      .error (.payloadType (ValueType.ofDeclared point.parameter.type).boxed
        message.payloadType) := by
  have entry : (evaluate "message" message (envelopeEntry context
      (ValueType.ofDeclared point.parameter.type).boxed "OBJECT_REF")).run frame =
        .error (.payloadType (ValueType.ofDeclared point.parameter.type).boxed
          message.payloadType) := by
    rw [evaluate_envelopeEntry]
    simp [callValue, other, Except.map]
  exact executeAll_cons_error (execute_declare_error entry)

/-- The condition of a callback holds exactly when the qualifier sets match. -/
theorem matched_iff_dispatches (qualifiers : QualifierSet) (message : Message) :
    message.qualifiers.elim (NameSet.ofNames qualifiers.names).entries.isEmpty
        (· == NameSet.ofNames qualifiers.names) =
      QualifierSet.dispatches (some qualifiers) message.qualifierSet := by
  rw [Message.qualifierSet]
  cases message.qualifiers with
  | none => exact isEmpty_ofNames qualifiers
  | some set =>
      have rule := eq_ofNames_iff_sameNames qualifiers set
      rw [← beq_iff_eq (a := set)] at rule
      exact Bool.eq_iff_iff.2 rule

/-- The variables that a callback binds are not those that it captures. -/
structure Captures (context : SynthesisContext) : Prop where
  notMessage : context.instanceVariable ≠ "message"
  notHeld : context.instanceVariable ≠ "methodQualifiers"
  notRead : context.instanceVariable ≠ "qualifiers"
  notResponse : context.instanceVariable ≠ "response"

theorem captures_ofConfiguration (configuration : Configuration) :
    Captures (.ofConfiguration configuration) := by
  have named : (SynthesisContext.ofConfiguration configuration).instanceVariable = "instance" := rfl
  constructor <;> rw [named] <;> decide

/-- The names of the parameter and those of the message are read before they are compared. -/
theorem executeAll_callbackBody (message : Message) (point : InjectionPoint)
    {context : SynthesisContext} (captures : Captures context) :
    ∃ compared : Frame,
      (executeAll "message" message (callbackBody point context)).run {} =
        (executeAll "message" message
          [.conditional qualifiersAgree (deliverPayload point context)]).run compared ∧
      compared.value? "methodQualifiers" =
        some (.names (NameSet.ofNames point.parameter.qualifiers.names)) ∧
      compared.value? "qualifiers" = some (message.qualifiers.elim .null .names) ∧
      compared.value? context.instanceVariable = none ∧ compared.invocations = [] := by
  let fresh := ({} : Frame).bind "methodQualifiers" (.names .empty)
  have created : (evaluate "message" message
      (.create "java.util.HashSet<String>" [])).run {} = .ok (.names .empty, {}) := by
    rw [evaluate, if_pos (by decide)]
    rfl
  obtain ⟨grown, ran, held, others, kept⟩ := executeAll_addQualifiers message
    point.parameter.qualifiers.names
    [.declareFinal stringSet "qualifiers" (envelopeEntry context "java.util.Set" "QUALIFIERS"),
      .conditional qualifiersAgree (deliverPayload point context)]
    (by simp [fresh] : fresh.value? "methodQualifiers" = some (.names .empty))
  have entry : (evaluate "message" message
      (envelopeEntry context "java.util.Set" "QUALIFIERS")).run grown =
        .ok (message.qualifiers.elim .null .names, grown) := by
    rw [evaluate_envelopeEntry]
    rfl
  refine ⟨grown.bind "qualifiers" (message.qualifiers.elim .null .names), ?_, ?_, ?_, ?_, kept⟩
  · rw [callbackBody, List.cons_append, Java.Statement.declareFinal,
      executeAll_cons (execute_declare created), ran, Java.Statement.declareFinal,
      executeAll_cons (execute_declare entry)]
  · rw [Frame.value?_bind, if_neg (by decide), held, NameSet.ofNames_eq_foldl]
  · simp
  · rw [Frame.value?_bind, if_neg captures.notRead, others _ captures.notHeld, Frame.value?_bind,
      if_neg captures.notHeld]
    rfl

/-- The callback delivers to the observer method by the rule for qualifier sets. -/
theorem deliver_callbackBody {point : InjectionPoint} {context : SynthesisContext}
    (captures : Captures context) (subject : String) (isLocal : Bool) (message : Message) :
    Subscription.deliver ⟨subject, isLocal, "message", callbackBody point context⟩ message =
      if QualifierSet.dispatches (some point.parameter.qualifiers) message.qualifierSet then
        if (ValueType.ofDeclared point.parameter.type).boxed = message.payloadType then
          .ok [⟨context.instanceVariable, point.method.name, [message.payload]⟩]
        else
          .error (.payloadType (ValueType.ofDeclared point.parameter.type).boxed
            message.payloadType)
      else .ok [] := by
  obtain ⟨compared, ran, held, read, outside, fresh⟩ :=
    executeAll_callbackBody message point captures
  have decided := evaluate_qualifiersAgree message held read
  rw [matched_iff_dispatches] at decided
  have conditional : (execute "message" message
      (.conditional qualifiersAgree (deliverPayload point context))).run compared = _ :=
    execute_conditional decided
  cases holds : QualifierSet.dispatches (some point.parameter.qualifiers) message.qualifierSet with
  | false =>
      rw [holds] at conditional
      have skipped := ran.trans (executeAll_cons conditional)
      rw [deliver_ok skipped, fresh]
      rfl
  | true =>
      rw [holds] at conditional
      by_cases requested :
          (ValueType.ofDeclared point.parameter.type).boxed = message.payloadType
      · obtain ⟨final, delivered, invoked⟩ := executeAll_deliverPayload captures.notMessage
          captures.notResponse outside requested
        have finished := ran.trans (executeAll_cons (conditional.trans delivered))
        rw [deliver_ok finished, invoked, fresh]
        simp [requested]
      · have refused : (executeAll "message" message (deliverPayload point context)).run compared =
            _ := executeAll_deliverPayload_error requested
        have failed := ran.trans (executeAll_cons_error (conditional.trans refused))
        rw [deliver_error failed]
        simp [requested]

/-- A statement that was synthesized is read back with its subject and its callback. -/
theorem subscription_subscriptionStatement (point : InjectionPoint) (context : SynthesisContext) :
    Delivery.subscription (subscriptionStatement point context) = .ok {
      subject := eventSubject context.bus.subjectPrefix point.parameter.type.erasure
      isLocal := point.method.isAnnotated context.annotations.localOnly
      messageVariable := "message"
      body := callbackBody point context } := by
  rw [subscriptionStatement, subscriptionMethod]
  cases point.method.isAnnotated context.annotations.localOnly <;> rfl

/-- A subscription statement is made for each point that takes just the observed event, and
hands a message to the observer method where the qualifiers match. -/
theorem subscription_delivers (configuration : Configuration) (point : InjectionPoint)
    (single : point.method.parameters = [point.parameter])
    (observed : point.parameter.isAnnotated configuration.annotations.observes = true) :
    ∃ statement subscription,
      observe point (.ofConfiguration configuration) = .ok statement ∧
      Delivery.subscription statement = .ok subscription ∧
      subscription.subject = configuration.bus.subjectPrefix ++ point.parameter.type.erasure ∧
      subscription.isLocal = point.method.isAnnotated configuration.annotations.localOnly ∧
      ∀ message : Message, Delivery.run statement message =
        if QualifierSet.dispatches (some point.parameter.qualifiers) message.qualifierSet then
          if (ValueType.ofDeclared point.parameter.type).boxed = message.payloadType then
            .ok [⟨"instance", point.method.name, [message.payload]⟩]
          else
            .error (.payloadType (ValueType.ofDeclared point.parameter.type).boxed
              message.payloadType)
        else .ok [] := by
  let context := SynthesisContext.ofConfiguration configuration
  have accepted : observerProblem? point context = none := by
    simp only [observerProblem?, single, context]
    simp [SynthesisContext.ofConfiguration, observed]
  have made : observe point context = .ok (subscriptionStatement point context) := by
    rw [observe, accepted]
  have decoded := subscription_subscriptionStatement point context
  refine ⟨_, _, made, decoded, rfl, rfl, ?_⟩
  intro message
  rw [Delivery.run, decoded]
  exact deliver_callbackBody (captures_ofConfiguration configuration) _ _ message

/-- An observer of urgent nested events gets the payload of an urgent message. -/
theorem subscription_delivers_urgent :
    let parameter : ParameterModel := {
      name := "events"
      type := ⟨"java.util.List<com.example.Outer$Event>"⟩
      annotations := [⟨"javax.enterprise.event.Observes", .empty, false⟩]
      qualifiers := .ofNames ["com.example.Urgent"] }
    let method : MethodModel := ⟨"onEvents", ⟨"void"⟩, [], [parameter]⟩
    let point : InjectionPoint :=
      ⟨⟨"com.example.Listener", false, [], [method]⟩, method, parameter,
        "javax.enterprise.event.Observes"⟩
    let message : Message := ⟨some (.ofNames ["com.example.Urgent"]), "java.util.List", .null⟩
    method.parameters = [parameter] ∧
      parameter.isAnnotated ({} : Configuration).annotations.observes = true ∧
      ∃ statement, observe point (.ofConfiguration {}) = .ok statement ∧
        Delivery.run statement message = .ok [⟨"instance", "onEvents", [.null]⟩] := by
  intro parameter method point message
  refine ⟨rfl, by decide, ?_⟩
  obtain ⟨statement, _, made, _, _, _, delivered⟩ :=
    subscription_delivers {} point rfl (by decide)
  refine ⟨statement, made, (delivered message).trans ?_⟩
  have matched :
      QualifierSet.dispatches (some parameter.qualifiers) message.qualifierSet = true := by
    decide
  have requested : (ValueType.ofDeclared parameter.type).boxed = message.payloadType := by
    decide
  rw [if_pos matched, if_pos requested]

end BusBridge.Synthesis
