/-
This file inverts the successes of computations that may fail.
-/

import Mathlib.Data.List.Forall2

namespace BusBridge

variable {ε α β : Type}

/-- Outcomes of closed computations can be compared. -/
instance decidableEqExcept [DecidableEq ε] [DecidableEq α] : DecidableEq (Except ε α)
  | .ok first, .ok second => decidable_of_iff (first = second) (by simp)
  | .error first, .error second => decidable_of_iff (first = second) (by simp)
  | .ok _, .error _ => isFalse nofun
  | .error _, .ok _ => isFalse nofun

/-- Two steps succeed when the first one does, and the second one with its result. -/
theorem bind_eq_ok_iff {first : Except ε α} {rest : α → Except ε β} {value : β} :
    first >>= rest = .ok value ↔ ∃ middle, first = .ok middle ∧ rest middle = .ok value := by
  cases first with
  | error failure => simp [bind, Except.bind]
  | ok middle => simp [bind, Except.bind]

/-- Only a success is kept as an option. -/
theorem toOption_eq_some_iff {first : Except ε α} {value : α} :
    first.toOption = some value ↔ first = .ok value := by
  cases first <;> simp [Except.toOption]

/-- A changed result is that of a success. -/
theorem map_eq_ok_iff {first : Except ε α} {change : α → β} {value : β} :
    first.map change = .ok value ↔ ∃ middle, first = .ok middle ∧ change middle = value := by
  cases first with
  | error failure => simp [Except.map]
  | ok middle => simp [Except.map]

/-- A success is changed as any result is. -/
theorem eq_of_map_eq_ok {first : Except ε α} {change : α → β} {middle : α} {value : β}
    (made : first = .ok middle) (changed : first.map change = .ok value) :
    change middle = value :=
  Except.ok.inj (made ▸ changed)

/-- A failure is not changed. -/
theorem map_eq_error_iff {first : Except ε α} {change : α → β} {failure : ε} :
    first.map change = .error failure ↔ first = .error failure := by
  cases first with
  | error cause => simp [Except.map]
  | ok middle => simp [Except.map]

/-- Two steps fail when the first one does, or the second one with its result. -/
theorem bind_eq_error_iff {first : Except ε α} {rest : α → Except ε β} {failure : ε} :
    first >>= rest = .error failure ↔
      first = .error failure ∨ ∃ middle, first = .ok middle ∧ rest middle = .error failure := by
  cases first with
  | error cause => simp [bind, Except.bind]
  | ok middle => simp [bind, Except.bind]

/-- A change of the failure leaves a success. -/
theorem mapError_eq_ok_iff {first : Except ε α} {change : ε → β} {value : α} :
    first.mapError change = .ok value ↔ first = .ok value := by
  cases first with
  | error cause =>
      have mapped : (Except.error cause : Except ε α).mapError change = .error (change cause) := rfl
      simp [mapped]
  | ok middle =>
      have mapped : (Except.ok middle : Except ε α).mapError change = .ok middle := rfl
      simp [mapped]

/-- A changed failure is that of a failure. -/
theorem mapError_eq_error_iff {first : Except ε α} {change : ε → β} {failure : β} :
    first.mapError change = .error failure ↔
      ∃ cause, first = .error cause ∧ change cause = failure := by
  cases first with
  | error cause =>
      have mapped : (Except.error cause : Except ε α).mapError change = .error (change cause) := rfl
      simp [mapped]
  | ok middle =>
      have mapped : (Except.ok middle : Except ε α).mapError change = .ok middle := rfl
      simp [mapped]

/-- A check that is passed leaves what follows it. -/
theorem check_eq_ok_iff {refused : Prop} [Decidable refused] {failure : ε}
    {rest : Unit → Except ε β} {value : β} :
    (if refused then throw failure >>= rest else rest ()) = .ok value ↔
      ¬refused ∧ rest () = .ok value := by
  split
  case isTrue holds => simp [holds, throw, throwThe, MonadExceptOf.throw, bind, Except.bind]
  case isFalse holds => simp [holds]

/-- The items are changed one by one, in their order. -/
theorem forall₂_of_mapM {change : α → Except ε β} {items : List α} {results : List β}
    (changed : items.mapM change = .ok results) :
    List.Forall₂ (fun item result => change item = .ok result) items results := by
  induction items generalizing results with
  | nil => cases changed; exact .nil
  | cons head rest ih =>
      rw [List.mapM_cons] at changed
      obtain ⟨first, changedHead, following⟩ := bind_eq_ok_iff.1 changed
      obtain ⟨others, changedRest, same⟩ := bind_eq_ok_iff.1 following
      cases same
      exact .cons changedHead (ih changedRest)

/-- Each result was made from one of the items. -/
theorem exists_of_mem_mapM {change : α → Except ε β} {items : List α} {results : List β}
    (changed : items.mapM change = .ok results) :
    ∀ result ∈ results, ∃ item ∈ items, change item = .ok result := by
  have pairs := forall₂_of_mapM changed
  clear changed
  induction pairs with
  | nil => simp
  | cons made _ ih =>
      intro result member
      rcases List.mem_cons.1 member with rfl | member
      · exact ⟨_, List.mem_cons_self, made⟩
      · obtain ⟨item, inside, other⟩ := ih result member
        exact ⟨item, List.mem_cons_of_mem _ inside, other⟩

/-- Where a change gives nothing but one function's value, all items are mapped by it. -/
theorem eq_map_of_mapM {change : α → Except ε β} {value : α → β} {items : List α}
    {results : List β} (only : ∀ item result, change item = .ok result → result = value item)
    (changed : items.mapM change = .ok results) : results = items.map value := by
  have pairs := (forall₂_of_mapM changed).imp only
  clear changed
  induction pairs with
  | nil => rfl
  | cons same _ ih => rw [List.map_cons, same, ih]

/-- Each item was made into one of the results. -/
theorem mem_of_mapM {change : α → Except ε β} {items : List α} {results : List β}
    (changed : items.mapM change = .ok results) {item : α} (member : item ∈ items) {result : β}
    (made : change item = .ok result) : result ∈ results := by
  have pairs := forall₂_of_mapM changed
  clear changed
  induction pairs with
  | nil => cases member
  | cons changedHead _ ih =>
      rcases List.mem_cons.1 member with rfl | member
      · rw [changedHead] at made
        exact Except.ok.inj made ▸ List.mem_cons_self
      · exact List.mem_cons_of_mem _ (ih member)

/-- All items are changed exactly when each of them can be. -/
theorem mapM_isOk_iff {change : α → Except ε β} {items : List α} :
    (∃ results, items.mapM change = .ok results) ↔
      ∀ item ∈ items, ∃ result, change item = .ok result := by
  induction items with
  | nil => exact ⟨by simp, fun _ => ⟨[], rfl⟩⟩
  | cons head rest ih =>
      rw [List.mapM_cons, List.forall_mem_cons, ← ih]
      constructor
      · rintro ⟨results, changed⟩
        obtain ⟨first, changedHead, following⟩ := bind_eq_ok_iff.1 changed
        obtain ⟨others, changedRest, -⟩ := bind_eq_ok_iff.1 following
        exact ⟨⟨first, changedHead⟩, others, changedRest⟩
      · rintro ⟨⟨first, changedHead⟩, others, changedRest⟩
        exact ⟨first :: others, by rw [changedHead, changedRest]; rfl⟩

/-- The first item that cannot be changed fails all. -/
theorem mapM_eq_error_iff {change : α → Except ε β} {items : List α} {failure : ε} :
    items.mapM change = .error failure ↔
      ∃ before item after, items = before ++ item :: after ∧
        (∀ other ∈ before, ∃ result, change other = .ok result) ∧
        change item = .error failure := by
  induction items with
  | nil => simp [pure, Except.pure]
  | cons head rest ih =>
      rw [List.mapM_cons, bind_eq_error_iff]
      constructor
      · rintro (refused | ⟨first, changed, following⟩)
        · exact ⟨[], head, rest, rfl, nofun, refused⟩
        · obtain later | ⟨others, -, made⟩ := bind_eq_error_iff.1 following
          · obtain ⟨before, item, after, rfl, fine, refused⟩ := ih.1 later
            exact ⟨head :: before, item, after, rfl,
              List.forall_mem_cons.2 ⟨⟨first, changed⟩, fine⟩, refused⟩
          · cases made
      · rintro ⟨before, item, after, split, fine, refused⟩
        cases before with
        | nil =>
            cases split
            exact .inl refused
        | cons first others =>
            cases split
            obtain ⟨⟨result, changed⟩, fine⟩ := List.forall_mem_cons.1 fine
            exact .inr ⟨result, changed,
              bind_eq_error_iff.2 (.inl (ih.2 ⟨others, item, after, rfl, fine, refused⟩))⟩

/-- All items pass when each of them does. -/
theorem forM_discard_eq_ok_iff {change : α → Except ε β} {items : List α} :
    (items.forM fun item => discard (change item)) = .ok () ↔
      ∀ item ∈ items, ∃ result, change item = .ok result := by
  rw [List.forM_eq_forM]
  induction items with
  | nil => simp [pure, Except.pure]
  | cons head rest ih =>
      rw [List.forM_cons, bind_eq_ok_iff, List.forall_mem_cons, ← ih]
      cases change head with
      | error failure => simp [discard, Functor.discard, Functor.mapConst, Except.map]
      | ok result => simp [discard, Functor.discard, Functor.mapConst, Except.map]

end BusBridge
