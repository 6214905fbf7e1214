/-
This file proves which packages a prefix covers: those that go on after its segments.
-/

import BusBridge.Proofs.Java.Identifier
import BusBridge.Proofs.Text.ByteOrder
import BusBridge.Proofs.Text.Segments
import BusBridge.Scan.Scanner

namespace BusBridge

open Java (isIdentifier isQualifiedName prefixProblem? segmentProblem?)

/-- A prefix that is a dotted sequence of identifiers covers the packages whose first segments
are its own. -/
def Covers (packagePrefix package : String) : Prop :=
  isQualifiedName packagePrefix = true ∧
    Text.split '.' packagePrefix <+: Text.split '.' package

instance (packagePrefix package : String) : Decidable (Covers packagePrefix package) :=
  inferInstanceAs (Decidable (_ ∧ _))

/-- A package below a prefix is not the default one. -/
theorem ne_empty_of_covers {packagePrefix package : String}
    (covers : Covers packagePrefix package) : package ≠ "" := by
  rintro rfl
  obtain ⟨qualified, within⟩ := covers
  have segments : ∀ segment ∈ Text.split '.' packagePrefix, isIdentifier segment = true :=
    List.all_eq_true.1 qualified
  have whole : Text.split '.' "" = [""] := by decide
  obtain ⟨segment, others, split⟩ :=
    List.exists_cons_of_ne_nil (Text.split_ne_nil '.' packagePrefix)
  rw [split, whole, List.cons_prefix_cons] at within
  rw [split, within.1] at segments
  exact absurd (segments "" List.mem_cons_self) (by decide)

/-- A package lies within another one when it is that one, or when its name goes on with a dot. -/
theorem isWithin_eq_true_iff {package outer : String} :
    isWithin package outer = true ↔
      package = outer ∨ outer.toList ++ ['.'] <+: package.toList := by
  have dot : String.utf8EncodeChar '.' = ['.'.toUInt8] := by decide
  have follows : (Text.startsWith outer package &&
      package.toUTF8[outer.utf8ByteSize]? == some '.'.toUInt8) = true ↔
        outer.toList ++ ['.'] <+: package.toList := by
    rw [Bool.and_eq_true, beq_iff_eq, Text.startsWith, List.isPrefixOf_iff_prefix]
    constructor
    · rintro ⟨⟨rest, whole⟩, next⟩
      obtain ⟨others, shape⟩ :=
        List.head?_eq_some_iff.1 ((Text.getElem?_utf8ByteSize_iff dot whole.symm).1 next)
      exact ⟨others, by rw [← whole, shape]; simp⟩
    · rintro ⟨others, whole⟩
      rw [List.append_assoc] at whole
      exact ⟨⟨_, whole⟩, (Text.getElem?_utf8ByteSize_iff dot whole.symm).2 rfl⟩
  rw [isWithin, Bool.or_eq_true, beq_iff_eq, follows]

/-- A package lies within another one exactly when the segments of that one are its first
segments. -/
theorem isWithin_iff_segments_prefix (package outer : String) :
    isWithin package outer = true ↔ Text.split '.' outer <+: Text.split '.' package := by
  rw [isWithin_eq_true_iff, Text.split_prefix_iff]

theorem covers_iff {packagePrefix package : String} :
    Covers packagePrefix package ↔
      isQualifiedName packagePrefix = true ∧ isWithin package packagePrefix = true := by
  rw [Covers, Text.split_prefix_iff, isWithin_eq_true_iff]

namespace Java

theorem segmentProblem?_eq_none_iff {segment : String} :
    segmentProblem? segment = none ↔ isIdentifier segment = true := by
  unfold segmentProblem?
  split
  case isTrue empty =>
    subst empty
    exact iff_of_false (Option.some_ne_none _) (by decide)
  case isFalse =>
    split
    case isTrue identifier => simp [identifier]
    case isFalse other => simp [other]

/-- A prefix has no problem exactly when it is a dotted sequence of identifiers. -/
theorem prefixProblem?_eq_none_iff {packagePrefix : String} :
    prefixProblem? packagePrefix = none ↔ isQualifiedName packagePrefix = true := by
  have segments : (Text.split '.' packagePrefix).findSome? segmentProblem? = none ↔
      isQualifiedName packagePrefix = true := by
    rw [List.findSome?_eq_none_iff, isQualifiedName, List.all_eq_true]
    simp only [segmentProblem?_eq_none_iff]
  unfold prefixProblem?
  split
  case isTrue empty =>
    subst empty
    exact iff_of_false (Option.some_ne_none _) (by decide)
  case isFalse =>
    split
    case isFalse => exact segments
    case isTrue dotted =>
      refine iff_of_false (Option.some_ne_none _) fun qualified => ?_
      rw [Bool.or_eq_true, decide_eq_true_eq, decide_eq_true_eq] at dotted
      have empty : isQualifiedName (String.ofList []) = false := by decide
      rw [← String.ofList_toList (s := packagePrefix)] at qualified
      rcases dotted with first | last
      · obtain ⟨rest, shape⟩ := List.head?_eq_some_iff.1 first
        rw [shape, ← List.nil_append ('.' :: rest), isQualifiedName_append, empty] at qualified
        cases qualified
      · obtain ⟨front, shape⟩ := List.getLast?_eq_some_iff.1 last
        rw [shape, isQualifiedName_append, empty, Bool.and_false] at qualified
        cases qualified

end Java

/-- The packages of a prefix are those that the universe lists, if the prefix is well formed. -/
theorem Scanner.packagesOf_eq_ok_iff {visible : Universe} {packagePrefix : String}
    {packages : List String} :
    packagesOf visible packagePrefix = .ok packages ↔
      isQualifiedName packagePrefix = true ∧
        visible.packagesUnder packagePrefix = .ok packages := by
  rw [packagesOf, ← Java.prefixProblem?_eq_none_iff]
  cases prefixProblem? packagePrefix with
  | some problem => simp
  | none => cases visible.packagesUnder packagePrefix <;> simp

end BusBridge
