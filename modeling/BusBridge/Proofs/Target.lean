/-
This file proves that the class generated for a target has a name that source can hold.
-/

import BusBridge.Proofs.Java.Identifier
import BusBridge.Target
import Mathlib.Data.List.Nodup

namespace BusBridge

open Java

/-- The text is cut at the last separator. -/
theorem Text.splitLast?_eq_some {separator : Char} {text front back : String}
    (cut : Text.splitLast? separator text = some (front, back)) :
    text.toList = front.toList ++ separator :: back.toList ∧ separator ∉ back.toList := by
  have whole := List.takeWhile_append_dropWhile (p := (· != separator)) (l := text.toList.reverse)
  have after := List.all_takeWhile (p := (· != separator)) (l := text.toList.reverse)
  have first := List.head?_dropWhile_not (· != separator) text.toList.reverse
  simp only [Text.splitLast?] at cut
  split at cut
  case h_1 => cases cut
  case h_2 mark before split =>
    cases cut
    rw [split] at whole first
    have same : mark = separator := by simpa using first
    constructor
    · have reversed := congrArg List.reverse whole
      simp only [List.reverse_append, List.reverse_cons, List.reverse_reverse, same] at reversed
      simpa using reversed.symm
    · simp only [String.toList_ofList, List.mem_reverse]
      intro member
      exact absurd (List.all_eq_true.1 after separator member) (by simp)

theorem Text.not_mem_of_splitLast?_eq_none {separator : Char} {text : String}
    (cut : Text.splitLast? separator text = none) : separator ∉ text.toList := by
  simp only [Text.splitLast?] at cut
  split at cut
  case h_2 => cases cut
  case h_1 none =>
    have whole := List.takeWhile_append_dropWhile (p := (· != separator)) (l := text.toList.reverse)
    have kept := List.all_takeWhile (p := (· != separator)) (l := text.toList.reverse)
    rw [none, List.append_nil] at whole
    rw [whole] at kept
    intro member
    exact absurd (List.all_eq_true.1 kept separator (List.mem_reverse.2 member)) (by simp)

theorem Text.splitLast?_append {separator : Char} {back : List Char} (plain : separator ∉ back)
    (front : List Char) :
    Text.splitLast? separator (String.ofList (front ++ separator :: back)) =
      some (String.ofList front, String.ofList back) := by
  have passed : ∀ character ∈ back.reverse, (character != separator) = true := by
    intro character member
    simpa using fun same : character = separator => plain (same ▸ List.mem_reverse.1 member)
  simp [Text.splitLast?, List.dropWhile_append_of_pos passed, List.takeWhile_append_of_pos passed]

theorem Text.splitLast?_eq_none {separator : Char} {text : String}
    (plain : separator ∉ text.toList) : Text.splitLast? separator text = none := by
  cases cut : Text.splitLast? separator text with
  | none => rfl
  | some parts =>
      have joined := (Text.splitLast?_eq_some cut).1
      rw [joined] at plain
      exact absurd (List.mem_append_right _ List.mem_cons_self) plain

/-- A qualified name is parsed back to its class. -/
theorem ClassName.parse_qualified {className : ClassName}
    (plain : '.' ∉ className.simple.toList) : parse className.qualified = className := by
  obtain ⟨package, simple⟩ := className
  by_cases default : package = ""
  · subst default
    rw [qualified, if_pos rfl, parse, Text.splitLast?_eq_none plain]
  · have cut := Text.splitLast?_append plain package.toList
    have joined : String.ofList (package.toList ++ '.' :: simple.toList) =
        package ++ "." ++ simple := String.toList_inj.1 (by simp)
    rw [joined] at cut
    rw [qualified, if_neg default, parse, cut]
    simp

/-- A name that starts with a dot has the empty package, as the name without the dot has. -/
theorem ClassName.qualified_parse {name : String} (started : name.toList.head? ≠ some '.') :
    (parse name).qualified = name := by
  unfold parse
  split
  case h_1 package simple cut =>
    have joined := (Text.splitLast?_eq_some cut).1
    have named : package ≠ "" := by
      rintro rfl
      exact started (by rw [joined]; rfl)
    rw [qualified, if_neg named]
    exact String.toList_inj.1 (by simp [joined])
  case h_2 => rfl

/-- The parts of a qualified name are a package, which may be the default one, and an
identifier. -/
theorem ClassName.parse_of_isQualifiedName {name : String}
    (qualified : isQualifiedName name = true) :
    ((ClassName.parse name).package = "" ∨ isQualifiedName (ClassName.parse name).package = true) ∧
      isIdentifier (ClassName.parse name).simple = true := by
  unfold ClassName.parse
  split
  case h_1 package simple cut =>
    obtain ⟨joined, plain⟩ := Text.splitLast?_eq_some cut
    rw [← String.ofList_toList (s := name), joined, isQualifiedName_append, Bool.and_eq_true,
      isQualifiedName_of_not_mem plain] at qualified
    simpa using And.intro (Or.inr qualified.1) qualified.2
  case h_2 cut =>
    have plain := Text.not_mem_of_splitLast?_eq_none cut
    rw [← String.ofList_toList (s := name), isQualifiedName_of_not_mem plain] at qualified
    exact ⟨.inl rfl, by simpa using qualified⟩

/-- The class generated for a target with a qualified name has such a name again. -/
theorem Target.className_of_isQualifiedName {target : Target}
    (qualified : isQualifiedName target.typeName = true) :
    (target.className.package = "" ∨ isQualifiedName target.className.package = true) ∧
      isIdentifier target.className.simple = true := by
  obtain ⟨package, simple⟩ := ClassName.parse_of_isQualifiedName qualified
  obtain ⟨first, rest, split, starts, continues, -⟩ := (isIdentifier_iff _).1 simple
  simp only [Target.className]
  refine ⟨package, isIdentifier_replace_append split starts ?_ ?_⟩
  · have ending : ∀ strategy, (Target.suffix strategy).toList.all continuesIdentifier = true := by
      intro strategy
      cases strategy <;> decide
    intro character member
    rcases List.mem_append.1 member with member | member
    · exact continues character member
    · exact List.all_eq_true.1 (ending _) character member
  · cases target.strategy <;> decide

/-- A loader and the beans of different names are different targets. -/
theorem Target.nodup_loader_observers (contract : String) {beans : List String}
    (once : beans.Nodup) : (Target.loader contract :: beans.map Target.observer).Nodup := by
  have separate : Function.Injective Target.observer :=
    fun _ _ same => congrArg Target.typeName same
  rw [List.nodup_cons]
  exact ⟨by simp [Target.loader, Target.observer], once.map separate⟩

end BusBridge
