/-
This file proves when a logical expression is evaluated as its text is read. Regrouping changes
no value of `&&` and `||`, and so only an equality to the right of another one can come out as
something else.
-/

import BusBridge.Proofs.Java.Grouping
import BusBridge.Proofs.Synthesis.Delivery

namespace BusBridge

namespace Java.Expression

mutual

/-- No equality is the right operand of an equality. -/
def comparesLeft : Expression → Bool
  | .call target _ arguments => target.comparesLeft && allCompareLeft arguments
  | .binary operator left right =>
      left.comparesLeft && right.comparesLeft &&
        (operator != .equals || right.outermost? != some .equals)
  | _ => true

def allCompareLeft : List Expression → Bool
  | [] => true
  | expression :: rest => expression.comparesLeft && allCompareLeft rest

end

end Java.Expression

namespace Delivery

open Java (Expression Operator)
open Java.Expression (attach)
open Java.ExpressionLanguage (ReadsAs)

variable {messageVariable : String} {message : Message} {operator : Operator}
  {left right : Expression}

/-- Operands that evaluate alike may be exchanged. -/
theorem evaluate_binary_congr {otherLeft otherRight : Expression}
    (onLeft : evaluate messageVariable message left = evaluate messageVariable message otherLeft)
    (onRight :
      evaluate messageVariable message right = evaluate messageVariable message otherRight) :
    evaluate messageVariable message (.binary operator left right) =
      evaluate messageVariable message (.binary operator otherLeft otherRight) := by
  rw [evaluate, evaluate, onLeft, onRight]

/-- The second operand of a conjunction counts when the first one is true. -/
theorem evaluate_both (left right : Expression) :
    evaluate messageVariable message (.binary .both left right) = (do
      let first ← evaluate messageVariable message left
      if first == .boolean true then
        let second ← evaluate messageVariable message right
        return .boolean (second == .boolean true)
      else return .boolean false) := by
  rw [evaluate]

/-- The second operand of a disjunction counts when the first one is false. -/
theorem evaluate_either (left right : Expression) :
    evaluate messageVariable message (.binary .either left right) = (do
      let first ← evaluate messageVariable message left
      if first == .boolean true then return .boolean true
      else
        let second ← evaluate messageVariable message right
        return .boolean (second == .boolean true)) := by
  rw [evaluate]

/-- Operands that are joined by `&&` or by `||` are evaluated one after the other, however they
are grouped. -/
theorem evaluate_binary_assoc (first second third : Expression) (joins : operator ≠ .equals) :
    evaluate messageVariable message (.binary operator (.binary operator first second) third) =
      evaluate messageVariable message
        (.binary operator first (.binary operator second third)) := by
  cases operator with
  | equals => exact absurd rfl joins
  | both =>
      simp only [evaluate_both, bind_assoc]
      refine bind_congr fun value => ?_
      cases value == Value.boolean true with
      | false => simp
      | true =>
          simp only [if_true, bind_assoc, pure_bind, boolean_beq_true]
          refine bind_congr fun value => ?_
          cases value == Value.boolean true <;> simp
  | either =>
      simp only [evaluate_either, bind_assoc]
      refine bind_congr fun value => ?_
      cases value == Value.boolean true with
      | true => simp
      | false =>
          simp only [Bool.false_eq_true, if_false, bind_assoc, pure_bind, boolean_beq_true]
          refine bind_congr fun value => ?_
          cases value == Value.boolean true <;> simp

/-- Taking over the operands one by one changes no value but that of an equality. -/
theorem evaluate_attach (plain : operator ≠ .equals ∨ right.outermost? ≠ some .equals) :
    evaluate messageVariable message (attach operator left right) =
      evaluate messageVariable message (.binary operator left right) := by
  by_cases joins : operator = .equals
  · subst joins
    rw [Java.Expression.attach_of_outermost?_ne (plain.resolve_left (not_not.2 rfl))]
  · clear plain
    fun_induction attach operator left right with
    | case1 first second ih =>
        rw [evaluate_binary_congr ih rfl, evaluate_binary_assoc _ _ _ joins]
    | case2 => rfl
    | case3 => rfl

/-- Regrouping keeps the outermost operator. -/
theorem regrouped_binary (operator : Operator) (left right : Expression) :
    ∃ first second,
      (Expression.binary operator left right).regrouped = .binary operator first second := by
  rw [Expression.regrouped]
  unfold attach
  split
  case h_1 => split <;> exact ⟨_, _, rfl⟩
  case h_2 => exact ⟨_, _, rfl⟩

/-! Only a variable can be captured, or hold a set that grows, and it stays as it is. -/

/-- Regrouping keeps what a target captures. -/
theorem captured?_regrouped (frame : Frame) (target : Expression) :
    captured? messageVariable frame target.regrouped = captured? messageVariable frame target := by
  cases target with
  | binary operator left right =>
      obtain ⟨first, second, same⟩ := regrouped_binary operator left right
      rw [same]
      rfl
  | _ => rfl

/-- Regrouping keeps what a call adds. -/
theorem grown?_regrouped (frame : Frame) (method : String) (values : List Value)
    (target : Expression) :
    grown? frame method values target.regrouped = grown? frame method values target := by
  cases target with
  | binary operator left right =>
      obtain ⟨first, second, same⟩ := regrouped_binary operator left right
      rw [same]
      rfl
  | _ => rfl

/-- Arguments are regrouped one by one. -/
theorem evaluateAll_regrouped {arguments : List Expression}
    (each : ∀ argument ∈ arguments, evaluate messageVariable message argument.regrouped =
      evaluate messageVariable message argument) :
    evaluateAll messageVariable message (Expression.allRegrouped arguments) =
      evaluateAll messageVariable message arguments := by
  induction arguments with
  | nil => rfl
  | cons head rest ih =>
      rw [List.forall_mem_cons] at each
      rw [Expression.allRegrouped, evaluateAll, evaluateAll, each.1, ih each.2]

/-- Arguments compare to the left one by one. -/
theorem forall_of_allCompareLeft {arguments : List Expression}
    (all : Expression.allCompareLeft arguments = true) :
    ∀ argument ∈ arguments, argument.comparesLeft = true := by
  induction arguments with
  | nil => simp
  | cons head rest ih =>
      rw [Expression.allCompareLeft, Bool.and_eq_true] at all
      exact List.forall_mem_cons.2 ⟨all.1, ih all.2⟩

/-- A regrouped expression does the same as the expression. -/
theorem evaluate_regrouped {expression : Expression} (logical : expression.IsLogical)
    (comparesLeft : expression.comparesLeft = true) :
    evaluate messageVariable message expression.regrouped =
      evaluate messageVariable message expression := by
  induction logical with
  | null => rfl
  | boolean value => rfl
  | named name => rfl
  | @call target method arguments called given onTarget each =>
      rw [Expression.comparesLeft, Bool.and_eq_true] at comparesLeft
      have onArguments := evaluateAll_regrouped fun argument member =>
        each argument member (forall_of_allCompareLeft comparesLeft.2 argument member)
      simp only [Expression.regrouped, evaluate, onArguments, captured?_regrouped,
        grown?_regrouped, onTarget comparesLeft.1]
  | @binary operator left right leading following onLeft onRight =>
      simp only [Expression.comparesLeft, Bool.and_eq_true, Bool.or_eq_true, bne_iff_ne]
        at comparesLeft
      obtain ⟨⟨first, second⟩, plain⟩ := comparesLeft
      rw [← Expression.outermost?_regrouped] at plain
      rw [Expression.regrouped, evaluate_attach plain]
      exact evaluate_binary_congr (onLeft first) (onRight second)

/-- The text of a logical expression has one reading, which groups the operands of one operator to
the left. It does the same as the expression where no equality stands to the right of another. -/
theorem reading_evaluates_alike {expression : Expression} (logical : expression.IsLogical)
    {owner text : String} (written : expression.layout.write owner = .ok text) :
    (∀ tree, ReadsAs text tree ↔ tree = expression.regrouped) ∧
      (expression.comparesLeft = true → ∀ tree, ReadsAs text tree →
        ∀ messageVariable message,
          evaluate messageVariable message tree = evaluate messageVariable message expression) := by
  have reading := logical.readsAs_iff written
  refine ⟨reading, fun comparesLeft tree read messageVariable message => ?_⟩
  rw [(reading tree).1 read]
  exact evaluate_regrouped logical comparesLeft

/-- The condition mixes all operators, and one of them joins more than two operands. -/
theorem mixed_condition_read :
    let ready : Expression := .call (.variable "order") "ready"
      [.binary .equals (.variable "state") .null]
    let expression : Expression := .binary .both (.binary .either ready (.variable "late"))
      (.binary .both (.literal (.boolean true)) (.binary .equals (.variable "state") ready))
    let text :=
      "(order.ready(state == null) || late) && true && state == order.ready(state == null)"
    expression.IsLogical ∧ expression.layout.write "shop.Order" = .ok text ∧
      (∀ tree, ReadsAs text tree ↔ tree = expression.regrouped) ∧
      expression.comparesLeft = true ∧ ∀ tree, ReadsAs text tree → ∀ messageVariable message,
        evaluate messageVariable message tree = evaluate messageVariable message expression := by
  intro ready expression text
  have isReady : ready.IsLogical := by
    refine .call (.named _) fun argument member => ?_
    rw [List.mem_singleton.1 member]
    exact .binary (.named _) .null
  have logical : expression.IsLogical :=
    .binary (.binary isReady (.named _)) (.binary (.boolean _) (.binary (.named _) isReady))
  have written : expression.layout.write "shop.Order" = .ok text := by decide +kernel
  have known := reading_evaluates_alike logical written
  exact ⟨logical, written, known.1, rfl, known.2 rfl⟩

/-- The text of `null == (true == false)` has no parentheses. -/
theorem comparison_read_otherwise :
    let expression : Expression := .binary .equals .null
      (.binary .equals (.literal (.boolean true)) (.literal (.boolean false)))
    let text := "null == true == false"
    expression.IsLogical ∧ expression.layout.write "shop.Order" = .ok text ∧
      ∃ tree, ReadsAs text tree ∧ ∀ messageVariable message frame,
        (evaluate messageVariable message expression).run frame = .ok (.boolean false, frame) ∧
          (evaluate messageVariable message tree).run frame = .ok (.boolean true, frame) := by
  intro expression text
  have logical : expression.IsLogical := .binary .null (.binary (.boolean _) (.boolean _))
  have written : expression.layout.write "shop.Order" = .ok text := by decide +kernel
  refine ⟨logical, written, expression.regrouped, (logical.readsAs_iff written _).2 rfl, ?_⟩
  intro messageVariable message frame
  exact ⟨rfl, rfl⟩

end Delivery

end BusBridge
