/-
This file proves what the steps of callers keep of commit gates. Each class has at most one
current gate, and it is the latest one of the class. A gate is given up only after its commit
failed.
-/

import BusBridge.Engine.Commit
import Mathlib.Data.List.Nodup

namespace BusBridge.CommitGates

variable {commits : CommitGates} {keys : List String} {gate : GateId} {key : String}
  {state : GateState}

/-- The keys tell the class of each gate. -/
structure Kept (commits : CommitGates) (keys : List String) : Prop where
  lengths : keys.length = commits.gates.length
  single : (commits.current.map Prod.fst).Nodup
  keyed : ∀ entry ∈ commits.current, keys[entry.2]? = some entry.1
  latest : ∀ entry ∈ commits.current, ∀ gate, keys[gate]? = some entry.1 → gate ≤ entry.2
  retired : ∀ gate key, keys[gate]? = some key →
    (key, gate) ∈ commits.current ∨
      ∃ failure, commits.state? gate = some (.settled (.error failure))

theorem Kept.empty : Kept {} [] where
  lengths := rfl
  single := List.nodup_nil
  keyed := nofun
  latest := nofun
  retired := by simp

theorem mem_of_current? (known : commits.current? key = some gate) :
    (key, gate) ∈ commits.current := by
  obtain ⟨before, after, split, -⟩ := List.lookup_eq_some_iff.1 known
  simp [split]

theorem not_mem_of_current? (unknown : commits.current? key = none) (gate : GateId) :
    (key, gate) ∉ commits.current := by
  intro member
  simpa using List.lookup_eq_none_iff.1 unknown _ member

/-- A class without a gate gets one only with a gate for the class itself. -/
theorem isSome_current?_gateFor {other : String} (unknown : commits.current? other = none) :
    ((commits.gateFor key).2.current? other).isSome = true ↔ key = other := by
  unfold gateFor
  split
  case h_1 gate known =>
    have different : key ≠ other := by
      rintro rfl
      rw [unknown] at known
      cases known
    simp [unknown, different]
  case h_2 =>
    have absent : commits.current.lookup other = none := unknown
    by_cases same : key = other
    · simp [current?, List.lookup_append, absent, same]
    · have different : (other == key) = false := beq_false_of_ne (Ne.symm same)
      simp [current?, List.lookup_append, absent, same, List.lookup_cons, different]

theorem Kept.unique {other : GateId} (kept : Kept commits keys)
    (first : (key, gate) ∈ commits.current) (second : (key, other) ∈ commits.current) :
    gate = other :=
  congrArg Prod.snd (List.inj_on_of_nodup_map kept.single first second rfl)

/-- A gate whose commit did not fail is the current one of its class. -/
theorem Kept.mem_current (kept : Kept commits keys) (known : keys[gate]? = some key)
    (stands : commits.state? gate = some state)
    (unfailed : ∀ failure, state ≠ .settled (.error failure)) :
    (key, gate) ∈ commits.current := by
  rcases kept.retired gate key known with current | ⟨failure, failed⟩
  · exact current
  · exact absurd (Option.some.inj (stands.symm.trans failed)) (unfailed failure)

/-- The earlier one of two gates of a class failed. -/
theorem Kept.failed_of_lt {later : GateId} (kept : Kept commits keys)
    (known : keys[gate]? = some key) (alsoKnown : keys[later]? = some key) (before : gate < later) :
    ∃ failure, commits.state? gate = some (.settled (.error failure)) := by
  rcases kept.retired gate key known with current | failed
  · exact absurd (kept.latest _ current later alsoKnown) (Nat.not_le_of_lt before)
  · exact failed

theorem state?_set {other : GateId} :
    (CommitGates.mk (commits.gates.set gate state) commits.current).state? other =
      if gate = other then (commits.state? other).map fun _ => state else commits.state? other := by
  simp only [state?, List.getElem?_set]
  split
  case isFalse => rfl
  case isTrue same =>
    subst same
    split
    case isTrue inside => simp [inside]
    case isFalse outside => simp [List.getElem?_eq_none (Nat.le_of_not_lt outside)]

theorem state?_of_result? {result : Except Failure Unit}
    (settled : commits.result? gate = some result) :
    commits.state? gate = some (.settled result) := by
  unfold result? at settled
  split at settled <;> cases settled
  case h_1 found => exact found

/-- A new gate of a class without a current one becomes current. -/
theorem Kept.create (kept : Kept commits keys) (unknown : commits.current? key = none) :
    Kept ⟨commits.gates ++ [.unopened], commits.current ++ [(key, commits.gates.length)]⟩
      (keys ++ [key]) := by
  have known : ∀ gate name, (keys ++ [key])[gate]? = some name ↔
      keys[gate]? = some name ∨ gate = commits.gates.length ∧ name = key := by
    intro gate name
    rw [← kept.lengths]
    rcases Nat.lt_trichotomy gate keys.length with below | rfl | above
    · rw [List.getElem?_append_left below]
      simp [Nat.ne_of_lt below]
    · simp [eq_comm]
    · rw [List.getElem?_eq_none (by simp; omega), List.getElem?_eq_none (by omega)]
      simp [Nat.ne_of_gt above]
  constructor
  case lengths => simp [kept.lengths]
  case single =>
    rw [List.map_append, List.nodup_append]
    refine ⟨kept.single, List.nodup_singleton _, ?_⟩
    rintro _ old _ new rfl
    obtain ⟨entry, member, rfl⟩ := List.mem_map.1 old
    obtain rfl := List.mem_singleton.1 new
    exact not_mem_of_current? unknown entry.2 member
  case keyed =>
    intro entry member
    rw [known]
    rcases List.mem_append.1 member with old | new
    · exact .inl (kept.keyed entry old)
    · rw [List.mem_singleton.1 new]
      exact .inr ⟨rfl, rfl⟩
  case latest =>
    intro entry member gate named
    rcases List.mem_append.1 member with old | new
    · rcases (known gate entry.1).1 named with before | ⟨-, same⟩
      · exact kept.latest entry old gate before
      · have current : (key, entry.2) ∈ commits.current := same ▸ old
        exact absurd current (not_mem_of_current? unknown entry.2)
    · rw [List.mem_singleton.1 new]
      have inside := (List.getElem?_eq_some_iff.1 named).1
      rw [List.length_append, kept.lengths] at inside
      exact Nat.le_of_lt_succ inside
  case retired =>
    intro gate name named
    rcases (known gate name).1 named with before | ⟨rfl, rfl⟩
    · refine (kept.retired gate name before).imp (List.mem_append_left _) ?_
      rintro ⟨failure, failed⟩
      have inside := (List.getElem?_eq_some_iff.1 failed).1
      exact ⟨failure, (List.getElem?_append_left inside).trans failed⟩
    · exact .inl (List.mem_append_right _ (List.mem_singleton_self _))

/-- A gate that is not settled may go on. -/
theorem Kept.set (kept : Kept commits keys) {before : GateState}
    (stands : commits.state? gate = some before)
    (unfailed : ∀ failure, before ≠ .settled (.error failure)) :
    Kept { commits with gates := commits.gates.set gate state } keys := by
  constructor
  case lengths => simp [kept.lengths]
  case single => exact kept.single
  case keyed => exact kept.keyed
  case latest => exact kept.latest
  case retired =>
    intro other name named
    rcases kept.retired other name named with current | ⟨failure, failed⟩
    · exact .inl current
    · refine .inr ⟨failure, ?_⟩
      rw [state?_set, if_neg]
      · exact failed
      · rintro rfl
        exact unfailed failure (Option.some.inj (stands.symm.trans failed))

/-- A gate whose commit failed may be given up. -/
theorem Kept.retire (kept : Kept commits keys) {failure : Failure}
    (failed : commits.state? gate = some (.settled (.error failure))) :
    Kept (commits.retire key gate) keys := by
  have left : ∀ entry, entry ∈ (commits.retire key gate).current ↔
      entry ∈ commits.current ∧ (entry.1 = key → entry.2 ≠ gate) := by
    intro entry
    simp [CommitGates.retire, Classical.or_iff_not_imp_left]
  constructor
  case lengths => exact kept.lengths
  case single => exact kept.single.sublist (List.filter_sublist.map Prod.fst)
  case keyed => exact fun entry member => kept.keyed entry ((left entry).1 member).1
  case latest => exact fun entry member => kept.latest entry ((left entry).1 member).1
  case retired =>
    intro other name named
    by_cases own : other = gate
    · exact .inr ⟨failure, own ▸ failed⟩
    · exact (kept.retired other name named).imp_left fun current =>
        (left _).2 ⟨current, fun _ => own⟩

end BusBridge.CommitGates
