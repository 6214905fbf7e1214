/-
This file proves how the text of a logical expression is read. Parentheses keep apart what the
grammar would mix, but an operand to the right of its own operator is written without them, so its
operands are read one after the other from the left.
-/

import BusBridge.Proofs.Java.ExpressionLanguage
import BusBridge.Proofs.Java.Layout

namespace BusBridge.Java

open ExpressionLanguage

namespace Expression

/-- The expressions that conditions are made of. -/
inductive IsLogical : Expression → Prop where
  | null : IsLogical .null
  | boolean (value : Bool) : IsLogical (.literal (.boolean value))
  | named (name : String) : IsLogical (.variable name)
  | call {target : Expression} {method : String} {arguments : List Expression}
      (called : target.IsLogical) (given : ∀ argument ∈ arguments, argument.IsLogical) :
      IsLogical (.call target method arguments)
  | binary {operator : Operator} {left right : Expression} (leading : left.IsLogical)
      (following : right.IsLogical) : IsLogical (.binary operator left right)

/-- The operands of the same operator to the right are taken over one by one. -/
def attach (operator : Operator) (left : Expression) : Expression → Expression
  | .binary inner first second =>
      if inner = operator then .binary operator (attach operator left first) second
      else .binary operator left (.binary inner first second)
  | right => .binary operator left right

mutual

/-- The expression where all operands of one operator are grouped to the left. -/
def regrouped : Expression → Expression
  | .call target method arguments =>
      .call target.regrouped method (allRegrouped arguments)
  | .binary operator left right => attach operator left.regrouped right.regrouped
  | other => other

def allRegrouped : List Expression → List Expression
  | [] => []
  | expression :: rest => expression.regrouped :: allRegrouped rest

end

def outermost? : Expression → Option Operator
  | .binary operator _ _ => some operator
  | _ => none

def tightness (expression : Expression) : Nat :=
  expression.outermost?.elim primary Operator.tightness

section Attach

variable {operator : Operator} {left right : Expression}

/-- Operands of another operator stay where they are. -/
theorem attach_of_outermost?_ne (other : right.outermost? ≠ some operator) :
    attach operator left right = .binary operator left right := by
  unfold attach
  split
  case h_1 inner first second => exact if_neg fun same => other (congrArg some same)
  case h_2 => rfl

/-- An attached operand leaves the operator outermost. -/
theorem outermost?_attach (operator : Operator) (left right : Expression) :
    (attach operator left right).outermost? = some operator := by
  unfold attach
  split
  case h_1 => split <;> rfl
  case h_2 => rfl

/-- Regrouping keeps the outermost operator. -/
theorem outermost?_regrouped (expression : Expression) :
    expression.regrouped.outermost? = expression.outermost? := by
  unfold regrouped
  split
  case h_1 => rfl
  case h_2 => exact outermost?_attach ..
  case h_3 => rfl

/-- Operands are taken over in the same order whichever of two joints is made first. -/
theorem attach_attach (operator : Operator) (first second third : Expression) :
    attach operator first (attach operator second third) =
      attach operator (attach operator first second) third := by
  fun_induction attach operator second third with
  | case1 left right ih => rw [attach, if_pos rfl, ih, attach, if_pos rfl]
  | case2 inner left right other =>
      have apart : (Expression.binary inner left right).outermost? ≠ some operator := by
        simpa [outermost?] using other
      rw [attach, if_pos rfl, attach_of_outermost?_ne apart]
  | case3 right other =>
      have none : right.outermost? ≠ some operator := by
        cases right <;> simp_all [outermost?]
      rw [attach, if_pos rfl, attach_of_outermost?_ne none]

end Attach

end Expression

namespace ExpressionLanguage

/-- The fragments are cut into these words, whatever stands behind them. -/
def Spells (layout : Layout) (read : List Word) : Prop :=
  ∀ more : Layout, EndsName (Layout.source 0 more) →
    cut [] (Layout.source 0 (layout ++ more)) = (cut [] (Layout.source 0 more)).map (read ++ ·)

namespace Spells

variable {layout front back : Layout} {read first second : List Word}

/-- No fragments spell no words. -/
theorem nil : Spells [] [] := by
  intro more _
  exact (Option.map_id' (x := cut [] (Layout.source 0 more))).symm

/-- A name is one word, however it is laid out. -/
theorem name {fragment : Fragment} {text : String} (source : fragment.source 0 = text.toList)
    (level : fragment.depthAfter 0 = 0) (filled : text.toList ≠ [])
    (continues : ∀ character ∈ text.toList, continuesIdentifier character = true) :
    Spells [fragment] [.name text] := by
  intro more ends
  rw [List.cons_append, List.nil_append, Layout.source, source, level,
    cut_name filled continues ends, String.ofList_toList]
  rfl

/-- Parentheses spell a word each. -/
theorem enclosed (spelled : Spells layout read) :
    Spells (enclosed .round layout) (.opening :: (read ++ [.closing])) := by
  intro more ends
  have inner := spelled (.leave .round :: more) (endsName_cons (by decide) _)
  show cut [] ('(' :: Layout.source 0 ((layout ++ [.leave .round]) ++ more)) = _
  rw [cut_opening, List.append_assoc]
  refine (congrArg _ inner).trans ?_
  show ((cut [] (')' :: Layout.source 0 more)).map _).map _ = _
  rw [cut_closing]
  cases cut [] (Layout.source 0 more) <;> simp

/-- An operator stands with a blank on each side. -/
theorem binary (operator : Operator) (leading : Spells front first)
    (following : Spells back second) :
    Spells (front ++ [.mark " ", .mark operator.symbol, .mark " "] ++ back)
      (first ++ .operator operator :: second) := by
  intro more ends
  have left := leading (.mark " " :: .mark operator.symbol :: .mark " " :: (back ++ more))
    (endsName_cons (by decide) _)
  rw [List.append_assoc, List.append_assoc]
  refine left.trans ?_
  show (cut [] (' ' :: (operator.symbol.toList ++ ' ' :: Layout.source 0 (back ++ more)))).map _ = _
  rw [cut_blank, cut_operator, cut_blank, following more ends]
  cases cut [] (Layout.source 0 more) <;> simp

/-- A method stands after a dot and before its arguments. -/
theorem member {method : String} (leading : Spells front first)
    (identifier : isIdentifier method = true) (following : Spells (.enter .round :: back) second) :
    Spells (front ++ [.mark ".", .name method] ++ .enter .round :: back)
      (first ++ .dot :: .name method :: second) := by
  intro more ends
  have left := leading (.mark "." :: .name method :: .enter .round :: (back ++ more))
    (endsName_cons (by decide) _)
  have bracket : EndsName (Layout.source 0 (.enter .round :: back ++ more)) :=
    endsName_cons (by decide) _
  rw [List.append_assoc, List.append_assoc]
  refine left.trans ?_
  show (cut [] ('.' :: (method.toList ++
    Layout.source 0 (.enter .round :: back ++ more)))).map _ = _
  rw [cut_dot, cut_name (toList_ne_nil_of_isIdentifier identifier)
    (continues_of_isIdentifier identifier) bracket, following more ends, String.ofList_toList]
  cases cut [] (Layout.source 0 more) <;> simp

/-- A comma stands with a blank after it. -/
theorem comma (leading : Spells front first) (following : Spells back second) :
    Spells (front ++ .mark ", " :: back) (first ++ .comma :: second) := by
  intro more ends
  have left := leading (.mark ", " :: (back ++ more)) (endsName_cons (by decide) _)
  rw [List.append_assoc]
  refine left.trans ?_
  show (cut [] (',' :: ' ' :: Layout.source 0 (back ++ more))).map _ = _
  rw [cut_comma, cut_blank, following more ends]
  cases cut [] (Layout.source 0 more) <;> simp

end Spells

end ExpressionLanguage

namespace Expression

/-- The words of an expression are read as it is regrouped, also behind an operator that the
expression is not kept apart from. -/
structure IsWrittenAs (expression : Expression) (read : List Word) : Prop where
  spelled : Spells expression.layout read
  derived : Derives (.level expression.tightness expression.regrouped) read
  joined : ∀ operator left first, expression.mixesWith operator = false →
    Derives (.level operator.tightness left) first →
      Derives (.level operator.tightness (attach operator left expression.regrouped))
        (first ++ .operator operator :: read)

variable {expression left right : Expression} {operator : Operator} {read first second : List Word}

/-- Member access binds tighter than all operators. -/
theorem tightness_lt_primary (operator : Operator) : operator.tightness < primary := by
  cases operator <;> decide

/-- No expression is looser than the loosest operator. -/
theorem one_le_tightness (expression : Expression) : 1 ≤ expression.tightness := by
  unfold tightness
  cases expression.outermost? with
  | none => decide
  | some operator => cases operator <;> decide

/-- An operand is grouped under another operator, unless it is an equality. -/
theorem mixesWith_eq_true_iff : expression.mixesWith operator = true ↔
    ∃ inner, expression.outermost? = some inner ∧ inner ≠ operator ∧ inner ≠ .equals := by
  cases expression <;> simp [mixesWith, outermost?]

/-- What is not kept apart from an operator binds tighter, or is the same operation. -/
theorem tightness_of_mixesWith (bare : expression.mixesWith operator = false) :
    expression.outermost? = some operator ∨ operator.tightness < expression.tightness := by
  cases outer : expression.outermost? with
  | none =>
      rw [tightness, outer]
      exact .inr (tightness_lt_primary operator)
  | some inner =>
      have kept : inner = operator ∨ inner = .equals := by
        refine Decidable.byContradiction fun mixed => ?_
        rw [not_or] at mixed
        rw [mixesWith_eq_true_iff.2 ⟨inner, outer, mixed⟩] at bare
        cases bare
      rw [tightness, outer]
      cases inner <;> cases operator <;> simp_all [Operator.tightness]

/-- A primary expression is written without parentheses. -/
theorem IsWrittenAs.of_primary (spelled : Spells expression.layout read)
    (plain : expression.outermost? = none)
    (derived : Derives (.level primary expression.regrouped) read) :
    expression.IsWrittenAs read where
  spelled := spelled
  derived := by rwa [tightness, plain]
  joined operator left first _ leading := by
    rw [attach_of_outermost?_ne (by simp [outermost?_regrouped, plain])]
    exact .binary operator leading (derived.loosen _ (tightness_lt_primary operator))

/-- The words of an operand, with its parentheses. -/
structure IsOperandAs (expression : Expression) (operator : Operator) (read : List Word) :
    Prop where
  spelled : Spells (parenthesized (expression.mixesWith operator) expression.layout) read
  derived : Derives (.level operator.tightness expression.regrouped) read
  joined : ∀ left first, Derives (.level operator.tightness left) first →
    Derives (.level operator.tightness (attach operator left expression.regrouped))
      (first ++ .operator operator :: read)

/-- Each expression is a primary one inside of parentheses. -/
theorem IsWrittenAs.grouped (written : expression.IsWrittenAs read) :
    Derives (.level primary expression.regrouped) (.opening :: (read ++ [.closing])) :=
  .group (written.derived.loosen 1 (one_le_tightness expression))

/-- Each expression may be an operand, if need be inside of parentheses. -/
theorem IsWrittenAs.operand (written : expression.IsWrittenAs read) (operator : Operator) :
    ∃ words, expression.IsOperandAs operator words := by
  cases mixes : expression.mixesWith operator with
  | false =>
      refine ⟨read, by simpa [parenthesized, mixes] using written.spelled, ?_,
        fun left first => written.joined operator left first mixes⟩
      refine written.derived.loosen _ ?_
      rcases tightness_of_mixesWith mixes with same | tighter
      · simp [tightness, same]
      · exact Nat.le_of_lt tighter
  | true =>
      obtain ⟨inner, outer, other, -⟩ := mixesWith_eq_true_iff.1 mixes
      refine ⟨.opening :: (read ++ [.closing]),
        by simpa [parenthesized, mixes] using written.spelled.enclosed,
        written.grouped.loosen _ (Nat.le_of_lt (tightness_lt_primary operator)),
        fun left first leading => ?_⟩
      rw [attach_of_outermost?_ne (by simp [outermost?_regrouped, outer, other])]
      exact .binary operator leading (written.grouped.loosen _ (tightness_lt_primary operator))

/-- Two operands make up an operation. -/
theorem IsOperandAs.binary (leading : left.IsOperandAs operator first)
    (following : right.IsOperandAs operator second) :
    (Expression.binary operator left right).IsWrittenAs
      (first ++ .operator operator :: second) := by
  have derived := following.joined _ _ leading.derived
  refine ⟨leading.spelled.binary operator following.spelled, derived, ?_⟩
  intro outer before words bare given
  rcases tightness_of_mixesWith bare with same | tighter
  -- Behind its own operator the operation is written bare, and its operands join one by one.
  · cases same
    rw [regrouped, attach_attach]
    have whole := following.joined _ _ (leading.joined _ _ given)
    simpa using whole
  · have other : (Expression.binary operator left right).regrouped.outermost? ≠ some outer := by
      rw [outermost?_regrouped]
      rintro same
      cases same
      exact Nat.lt_irrefl _ tighter
    rw [attach_of_outermost?_ne other]
    exact .binary outer given (derived.loosen _ tighter)

/-- In a condition exactly the operations are loose. -/
theorem isLoose_eq_isSome (logical : expression.IsLogical) :
    expression.isLoose = expression.outermost?.isSome := by
  cases logical <;> rfl

/-- The words of the target of a call, with its parentheses. -/
theorem IsWrittenAs.target (written : expression.IsWrittenAs read)
    (logical : expression.IsLogical) :
    ∃ words, Spells (parenthesized expression.isLoose expression.layout) words ∧
      Derives (.level primary expression.regrouped) words := by
  rw [isLoose_eq_isSome logical]
  cases outer : expression.outermost? with
  | none =>
      refine ⟨read, by simpa [parenthesized] using written.spelled, ?_⟩
      simpa [tightness, outer] using written.derived
  | some operator =>
      exact ⟨.opening :: (read ++ [.closing]),
        by simpa [parenthesized] using written.spelled.enclosed, written.grouped⟩

/-- Arguments are spelled and derived one by one. -/
theorem exists_words_of_arguments {arguments : List Expression}
    (each : ∀ argument ∈ arguments, ∃ read, argument.IsWrittenAs read) :
    ∃ words, Spells (separated ", " (layouts arguments)) words ∧
      Derives (.arguments (allRegrouped arguments)) words := by
  induction arguments with
  | nil => exact ⟨[], .nil, .noArguments⟩
  | cons head rest ih =>
      rw [List.forall_mem_cons] at each
      obtain ⟨read, written⟩ := each.1
      obtain ⟨words, spelled, derived⟩ := ih each.2
      have first := written.derived.loosen 1 (one_le_tightness head)
      cases rest with
      | nil => exact ⟨read, written.spelled, .lastArgument first⟩
      | cons next others =>
          exact ⟨read ++ .comma :: words, written.spelled.comma spelled,
            .moreArguments first derived⟩

/-- A condition is spelled with words that its regrouped form derives. -/
theorem IsLogical.exists_words (logical : expression.IsLogical)
    (valid : expression.layout.IsValid) : ∃ read, expression.IsWrittenAs read := by
  induction logical with
  | null =>
      exact ⟨_, .of_primary (.name rfl rfl (by decide) (List.all_eq_true.1 (by decide))) rfl .null⟩
  | boolean value =>
      refine ⟨_, .of_primary (.name ?_ rfl ?_ (List.all_eq_true.1 ?_)) rfl (.boolean value)⟩
      all_goals cases value <;> decide
  | named name =>
      have identifier : isIdentifier name = true := by simpa [layout] using valid
      exact ⟨_, .of_primary (.name rfl rfl (toList_ne_nil_of_isIdentifier identifier)
        (continues_of_isIdentifier identifier)) rfl (.named identifier)⟩
  | @call target method arguments called given leading each =>
      simp only [layout, Layout.isValid_append, Layout.isValid_parenthesized, Layout.isValid_cons,
        Layout.isValid_enclosed, Layout.isValid_separated, Layout.isValid_nil, and_true,
        Fragment.invalid?_name, layouts_eq_map, List.forall_mem_map] at valid
      obtain ⟨⟨validTarget, -, identifier⟩, validArguments⟩ := valid
      obtain ⟨_, written⟩ := leading validTarget
      obtain ⟨_, spelled, derived⟩ := written.target called
      obtain ⟨_, spelledAll, derivedAll⟩ := exists_words_of_arguments fun argument member =>
        each argument member (validArguments argument member)
      exact ⟨_, .of_primary (spelled.member identifier spelledAll.enclosed) rfl
        (.call derived identifier derivedAll)⟩
  | @binary operator left right _ _ leading following =>
      simp only [layout, Layout.isValid_append, Layout.isValid_parenthesized] at valid
      obtain ⟨_, writtenLeft⟩ := leading valid.1.1
      obtain ⟨_, writtenRight⟩ := following valid.2
      obtain ⟨_, operandLeft⟩ := writtenLeft.operand operator
      obtain ⟨_, operandRight⟩ := writtenRight.operand operator
      exact ⟨_, operandLeft.binary operandRight⟩

/-- The text of a logical expression has one reading, the regrouped expression. -/
theorem IsLogical.readsAs_iff (logical : expression.IsLogical) {owner text : String}
    (written : expression.layout.write owner = .ok text) (tree : Expression) :
    ReadsAs text tree ↔ tree = expression.regrouped := by
  have valid := (Layout.write_isOk_iff owner expression.layout).1 ⟨text, written⟩
  obtain ⟨read, spelled, derived, -⟩ := logical.exists_words valid
  have source : text = String.ofList (expression.layout.source 0) := by
    rw [Layout.write, (Layout.invalid?_eq_none_iff _).2 valid] at written
    exact (Except.ok.inj written).symm
  have whole : ReadsAs text expression.regrouped := by
    refine ⟨read, ?_, derived.loosen 1 (one_le_tightness expression)⟩
    rw [words, source, String.toList_ofList]
    simpa [Layout.source, cut, closeName] using spelled [] (by simp [EndsName, Layout.source])
  constructor
  · exact fun other => other.unique whole
  · rintro rfl
    exact whole

end Expression

end BusBridge.Java
