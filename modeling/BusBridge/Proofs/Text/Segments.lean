/-
This file proves when the segments of one text are the first segments of another.
-/

import Mathlib.Data.List.Infix
import BusBridge.Text.Basic

namespace BusBridge.Text

variable {separator : Char}

theorem intercalate_append {first second : List (List Char)} (some : first ≠ [])
    (more : second ≠ []) :
    [separator].intercalate (first ++ second) =
      [separator].intercalate first ++ separator :: [separator].intercalate second := by
  obtain ⟨head, others, rfl⟩ := List.exists_cons_of_ne_nil more
  induction first with
  | nil => exact absurd rfl some
  | cons part rest ih =>
      cases rest with
      | nil => simp [List.intercalate_cons_cons]
      | cons next rest =>
          have following := ih (by simp)
          rw [List.cons_append, List.cons_append, List.intercalate_cons_cons,
            List.intercalate_cons_cons, ← List.cons_append, following]
          simp

/-- The segments of a text start those of another one when the texts are equal, or when the other
text goes on with the separator. -/
theorem splitOn_prefix_iff {longer shorter : List Char} :
    shorter.splitOn separator <+: longer.splitOn separator ↔
      longer = shorter ∨ shorter ++ [separator] <+: longer := by
  constructor
  · rintro ⟨rest, whole⟩
    have joined : [separator].intercalate (shorter.splitOn separator ++ rest) = longer := by
      rw [whole, List.intercalate_splitOn]
    cases rest with
    | nil =>
        rw [List.append_nil, List.intercalate_splitOn] at joined
        exact .inl joined.symm
    | cons part others =>
        have parts : shorter.splitOn separator ≠ [] := List.splitOn_ne_nil separator shorter
        rw [intercalate_append parts (List.cons_ne_nil part others), List.intercalate_splitOn]
          at joined
        exact .inr ⟨[separator].intercalate (part :: others), by rw [← joined]; simp⟩
  · rintro (rfl | ⟨rest, rfl⟩)
    · exact List.prefix_rfl
    · rw [List.append_assoc, List.singleton_append, List.splitOn_append_cons_self]
      exact List.prefix_append _ _

theorem split_prefix_iff {longer shorter : String} :
    split separator shorter <+: split separator longer ↔
      longer = shorter ∨ shorter.toList ++ [separator] <+: longer.toList := by
  rw [split, split, List.prefix_map_iff_of_injective (fun _ _ => String.ofList_injective),
    splitOn_prefix_iff, String.toList_inj]

/-- A text is made of its segments. -/
theorem split_inj {first second : String} :
    split separator first = split separator second ↔ first = second := by
  refine ⟨fun same => ?_, fun same => same ▸ rfl⟩
  have parts := (List.map_inj_right (fun _ _ => String.ofList_injective)).1 same
  have joined := congrArg [separator].intercalate parts
  rwa [List.intercalate_splitOn, List.intercalate_splitOn, String.toList_inj] at joined

/-- The last segment is what follows the last separator. -/
theorem split_append {text front back : String}
    (cut : text.toList = front.toList ++ separator :: back.toList)
    (plain : separator ∉ back.toList) :
    split separator text = split separator front ++ [back] := by
  simp [split, cut, List.splitOn_append_cons_self, List.splitOn_eq_singleton plain]

/-- The first segment is what precedes the first separator. -/
theorem split_cons {text front back : String}
    (cut : text.toList = front.toList ++ separator :: back.toList)
    (plain : separator ∉ front.toList) :
    split separator text = front :: split separator back := by
  simp [split, cut, List.splitOn_append_cons_self, List.splitOn_eq_singleton plain]

/-- Texts that are ended by the separator are the segments of their concatenation, and an empty one
follows them. -/
theorem split_join {texts : List String} (plain : ∀ text ∈ texts, separator ∉ text.toList) :
    split separator (String.join (texts.map (· ++ String.singleton separator))) =
      texts ++ [""] := by
  induction texts with
  | nil => simp [split, List.splitOn_nil]
  | cons text rest ih =>
      rw [List.forall_mem_cons] at plain
      have cut : (String.join ((text :: rest).map (· ++ String.singleton separator))).toList =
          text.toList ++ separator ::
            (String.join (rest.map (· ++ String.singleton separator))).toList := by
        simp
      rw [split_cons cut plain.1, ih plain.2]
      rfl

theorem split_ne_nil (separator : Char) (text : String) : split separator text ≠ [] := by
  simp [split, List.splitOn_ne_nil]

end BusBridge.Text
