/-
This file proves what a subscription statement does with a message. The observer method is
called exactly when the qualifiers of its parameter and those of the message agree.
-/

import BusBridge.Proofs.Model.Qualifier
import BusBridge.Synthesis.Delivery
import BusBridge.Synthesis.Subscription

namespace BusBridge

namespace Delivery

open Java (Expression Operator Statement)

/-- The qualifiers of a message as a qualifier set. -/
def Message.qualifierSet (message : Message) : Option QualifierSet :=
  message.qualifiers.map fun set => QualifierSet.ofNames set.names

/-! Sets of names -/

/-- A set of names is built by adding them one by one. -/
theorem NameSet.ofNames_eq_foldl (names : List String) :
    NameSet.ofNames names = names.foldl (fun set name => set.insert name ()) .empty :=
  List.foldl_map

/-- A set of names is known by its names. -/
theorem NameSet.eq_of_names_eq {first second : NameSet} (same : first.names = second.names) :
    first = second := by
  have rebuilt (set : NameSet) : set.names.map (fun name => (name, ())) = set.entries := by
    simp [NameMap.names, Function.comp_def]
  exact NameMap.eq_of_entries_eq (by rw [← rebuilt, ← rebuilt, same])

/-- Two sets of names are equal where the qualifier sets hold the same names. -/
theorem eq_ofNames_iff_sameNames (qualifiers : QualifierSet) (set : NameSet) :
    set = NameSet.ofNames qualifiers.names ↔
      qualifiers.sameNames (QualifierSet.ofNames set.names) = true := by
  have sorted : qualifiers.names.Pairwise (· < ·) := NameMap.names_sorted _
  have held : (NameSet.ofNames qualifiers.names).names = qualifiers.names :=
    NameMap.names_ofList_map sorted fun _ => ()
  rw [QualifierSet.sameNames, QualifierSet.names_ofNames (NameMap.names_sorted set), beq_iff_eq]
  constructor
  · intro equal
    rw [equal, held]
  · intro same
    exact NameSet.eq_of_names_eq (by rw [held, same])

/-- The set of the names of qualifiers is empty when there are none. -/
theorem isEmpty_ofNames (qualifiers : QualifierSet) :
    (NameSet.ofNames qualifiers.names).entries.isEmpty = qualifiers.isEmpty := by
  have sorted : qualifiers.names.Pairwise (· < ·) := NameMap.names_sorted _
  rw [NameSet.ofNames, NameMap.entries_ofList_map sorted fun _ => ()]
  simp [QualifierSet.names, NameMap.names, QualifierSet.isEmpty]

/-! Rules of the callback program -/

section

variable {messageVariable : String} {message : Message} {frame next : Frame}

/-- A run goes on with what it has come to. -/
theorem run_bind_ok {first : Run α} {rest : α → Run β} {value : α}
    (done : first.run frame = .ok (value, next)) :
    (first >>= rest).run frame = (rest value).run next := by
  rw [StateT.run_bind, done]
  rfl

/-- A run that fails does not go on. -/
theorem run_bind_error {first : Run α} {rest : α → Run β} {failure : Failure}
    (failed : first.run frame = .error failure) :
    (first >>= rest).run frame = .error failure := by
  rw [StateT.run_bind, failed]
  rfl

def Frame.value? (frame : Frame) (name : String) : Option Value :=
  frame.bindings.lookup name

/-- A variable has the value that it was bound to last. -/
@[simp] theorem Frame.value?_bind (frame : Frame) (name other : String) (value : Value) :
    (frame.bind name value).value? other =
      if other = name then some value else frame.value? other := by
  by_cases same : other = name
  · simp [Frame.value?, Frame.bind, same]
  · have unequal : (other == name) = false := by simpa using same
    simp [Frame.value?, Frame.bind, List.lookup_cons, same, unequal]

@[simp] theorem Frame.invocations_bind (frame : Frame) (name : String) (value : Value) :
    (frame.bind name value).invocations = frame.invocations := rfl

attribute [local simp] evaluate evaluateAll execute executeAll

/-- A bound variable is evaluated to its value. -/
theorem evaluate_bound {name : String} {value : Value} (different : name ≠ messageVariable)
    (bound : frame.value? name = some value) :
    (evaluate messageVariable message (.variable name)).run frame = .ok (value, frame) := by
  simp only [Frame.value?] at bound
  simp [readVariable, different, bound]
  rfl

/-- The parameter of the callback stands for the message. -/
theorem evaluate_message :
    (evaluate messageVariable message (.variable messageVariable)).run frame =
      .ok (.message, frame) := by
  simp [readVariable]
  rfl

/-- A call on a bound value, whose arguments leave the frame alone, asks the value. -/
theorem evaluate_call {name method : String} {arguments : List Expression} {receiver : Value}
    {values : List Value} (notGrowing : method ≠ "add")
    (target : (evaluate messageVariable message (.variable name)).run frame =
      .ok (receiver, frame))
    (bound : name = messageVariable ∨ (frame.value? name).isSome = true)
    (passed : (evaluateAll messageVariable message arguments).run frame = .ok (values, frame)) :
    (evaluate messageVariable message (.call (.variable name) method arguments)).run frame =
      (callValue message receiver method values).map fun result => (result, frame) := by
  have inside : captured? messageVariable frame (.variable name) = none := by
    rcases bound with same | found
    · simp [captured?, same]
    · simp only [Frame.value?] at found
      simp [captured?, Option.isNone_iff_eq_none, Option.isSome_iff_ne_none.1 found]
  have fixed : grown? frame method values (.variable name) = none := by
    simp [grown?, notGrowing]
  have seen : (get : Run Frame).run frame = .ok (frame, frame) := rfl
  rw [evaluate, run_bind_ok passed, run_bind_ok seen, inside]
  simp only [fixed]
  rw [run_bind_ok target]
  cases callValue message receiver method values <;> rfl

/-- A name that is added to a set in a variable stays in that variable. -/
theorem evaluate_add {holder name : String} {set : NameSet}
    (held : frame.value? holder = some (.names set)) :
    (evaluate messageVariable message (.call (.variable holder) "add" [.text name])).run frame =
      .ok (.boolean (!set.contains name), frame.bind holder (.names (set.insert name ()))) := by
  simp only [Frame.value?] at held
  have inside : captured? messageVariable frame (.variable holder) = none := by
    simp [captured?, held]
  have growing : grown? frame "add" [.text name] (.variable holder) = some (holder, name, set) := by
    simp [grown?, held]
  have all : (evaluateAll messageVariable message [.text name]).run frame =
      .ok ([.text name], frame) := by
    rw [evaluateAll, Expression.text, evaluate, pure_bind, evaluateAll]
    rfl
  have seen : (get : Run Frame).run frame = .ok (frame, frame) := rfl
  rw [evaluate, run_bind_ok all, run_bind_ok seen, inside]
  simp only [growing]
  rfl

/-- A call on a variable from outside the callback is recorded with its data. -/
theorem evaluate_invoke {name method : String} {argument : Expression} {value : Value}
    {data : Json} (different : name ≠ messageVariable) (unbound : frame.value? name = none)
    (passed : (evaluate messageVariable message argument).run frame = .ok (value, frame))
    (isData : value.data? = some data) :
    (evaluate messageVariable message (.call (.variable name) method [argument])).run frame =
      .ok (.null, { frame with
        invocations := frame.invocations ++ [⟨name, method, [data]⟩] }) := by
  have outside : captured? messageVariable frame (.variable name) = some name := by
    simp only [Frame.value?] at unbound
    simp [captured?, different, unbound]
  have all : (evaluateAll messageVariable message [argument]).run frame = .ok ([value], frame) := by
    rw [evaluateAll, run_bind_ok passed, evaluateAll]
    rfl
  have seen : (get : Run Frame).run frame = .ok (frame, frame) := rfl
  rw [evaluate, run_bind_ok all, run_bind_ok seen, outside]
  simp [invoke, isData]
  rfl

/-- A truth value is compared as it stands. -/
@[simp] theorem boolean_beq_true (value : Bool) :
    (Value.boolean value == Value.boolean true) = value := by
  cases value <;> rfl

/-- Operands that leave the frame alone give the same answer in any order. -/
theorem evaluate_binary {operator : Operator} {left right : Expression} {first second : Value}
    (onLeft : (evaluate messageVariable message left).run frame = .ok (first, frame))
    (onRight : (evaluate messageVariable message right).run frame = .ok (second, frame)) :
    (evaluate messageVariable message (.binary operator left right)).run frame =
      .ok (.boolean (match operator with
        | .equals => first == second
        | .both => first == .boolean true && second == .boolean true
        | .either => first == .boolean true || second == .boolean true), frame) := by
  rw [evaluate, run_bind_ok onLeft]
  cases operator with
  | equals =>
      rw [run_bind_ok onRight]
      rfl
  | both =>
      cases holds : first == Value.boolean true with
      | false => simp [StateT.run_pure]; rfl
      | true => exact run_bind_ok onRight
  | either =>
      cases holds : first == Value.boolean true with
      | false => exact run_bind_ok onRight
      | true => simp [StateT.run_pure]; rfl

/-- A statement that does not return is followed by the rest. -/
theorem executeAll_cons {statement : Statement} {rest : List Statement}
    (done : (execute messageVariable message statement).run frame = .ok (false, next)) :
    (executeAll messageVariable message (statement :: rest)).run frame =
      (executeAll messageVariable message rest).run next := by
  rw [executeAll, run_bind_ok done]
  rfl

/-- A statement that fails is the last one. -/
theorem executeAll_cons_error {statement : Statement} {rest : List Statement} {failure : Failure}
    (failed : (execute messageVariable message statement).run frame = .error failure) :
    (executeAll messageVariable message (statement :: rest)).run frame = .error failure := by
  rw [executeAll, run_bind_error failed]

/-- A declaration fails with its initial value. -/
theorem execute_declare_error {isFinal : Bool} {type name : String} {initial : Expression}
    {failure : Failure}
    (failed : (evaluate messageVariable message initial).run frame = .error failure) :
    (execute messageVariable message (.declare isFinal type name initial)).run frame =
      .error failure := by
  rw [execute, run_bind_error failed]

/-- A declaration binds its name to its initial value. -/
theorem execute_declare {isFinal : Bool} {type name : String} {initial : Expression}
    {value : Value}
    (done : (evaluate messageVariable message initial).run frame = .ok (value, next)) :
    (execute messageVariable message (.declare isFinal type name initial)).run frame =
      .ok (false, next.bind name value) := by
  rw [execute, run_bind_ok done]
  rfl

/-- A call statement drops the result of the call. -/
theorem execute_evaluate {value : Expression} {result : Value}
    (done : (evaluate messageVariable message value).run frame = .ok (result, next)) :
    (execute messageVariable message (.evaluate value)).run frame = .ok (false, next) := by
  have dropped : (discard (evaluate messageVariable message value)).run frame = .ok ((), next) := by
    change (evaluate messageVariable message value >>= fun _ => pure ()).run frame = _
    rw [run_bind_ok done]
    rfl
  rw [execute, run_bind_ok dropped]
  rfl

/-- The body runs where the condition holds. -/
theorem execute_conditional {condition : Expression} {body : List Statement} {holds : Bool}
    (decided : (evaluate messageVariable message condition).run frame =
      .ok (.boolean holds, next)) :
    (execute messageVariable message (.conditional condition body)).run frame =
      if holds then (executeAll messageVariable message body).run next
      else .ok (false, next) := by
  rw [execute, run_bind_ok decided]
  cases holds <;> rfl

/-- A message is delivered when the callback runs to its end. -/
theorem deliver_ok {subscription : Subscription} {final : Frame} {returned : Bool}
    (ran : (executeAll subscription.messageVariable message subscription.body).run {} =
      .ok (returned, final)) :
    subscription.deliver message = .ok final.invocations := by
  rw [Subscription.deliver, ran]
  rfl

/-- A message is not delivered when the callback fails. -/
theorem deliver_error {subscription : Subscription} {failure : Failure}
    (failed : (executeAll subscription.messageVariable message subscription.body).run {} =
      .error failure) :
    subscription.deliver message = .error failure := by
  rw [Subscription.deliver, failed]
  rfl

end

end Delivery

end BusBridge
