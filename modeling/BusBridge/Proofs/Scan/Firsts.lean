/-
This file proves what is left of a list when items with a key that was seen before are left out.
-/

import Mathlib.Data.List.Forall2
import Mathlib.Data.List.Nodup

namespace BusBridge

variable {α κ : Type} [DecidableEq κ]

/-- An item is kept when it has no key, or a key that was not seen before it. -/
def firstsBy (key : α → Option κ) (seen : List κ) : List α → List α
  | [] => []
  | item :: rest =>
      match key item with
      | none => item :: firstsBy key seen rest
      | some name =>
          if name ∈ seen then firstsBy key seen rest
          else item :: firstsBy key (name :: seen) rest

variable {key : α → Option κ} {seen known : List κ} {items : List α}

/-- An item without a key is kept. -/
theorem firstsBy_cons_keyless {item : α} {rest : List α} (keyless : key item = none) :
    firstsBy key seen (item :: rest) = item :: firstsBy key seen rest := by
  rw [firstsBy, keyless]

/-- An item whose key was seen is dropped. -/
theorem firstsBy_cons_seen {item : α} {rest : List α} {name : κ} (named : key item = some name)
    (member : name ∈ seen) : firstsBy key seen (item :: rest) = firstsBy key seen rest := by
  simp [firstsBy, named, member]

/-- An item with a new key is kept, and its key is seen. -/
theorem firstsBy_cons_new {item : α} {rest : List α} {name : κ} (named : key item = some name)
    (new : name ∉ seen) :
    firstsBy key seen (item :: rest) = item :: firstsBy key (name :: seen) rest := by
  simp [firstsBy, named, new]

/-- First items keep their order. -/
theorem firstsBy_sublist (key : α → Option κ) (seen : List κ) (items : List α) :
    (firstsBy key seen items).Sublist items := by
  fun_induction firstsBy key seen items with
  | case1 => exact .slnil
  | case2 seen item rest keyless ih => exact ih.cons_cons item
  | case3 seen item rest name named member ih => exact ih.cons item
  | case4 seen item rest name named new ih => exact ih.cons_cons item

/-- What was seen matters only for the keys of the items. -/
theorem firstsBy_congr
    (same : ∀ item ∈ items, ∀ name, key item = some name → (name ∈ seen ↔ name ∈ known)) :
    firstsBy key seen items = firstsBy key known items := by
  induction items generalizing seen known with
  | nil => rfl
  | cons item rest ih =>
      have later := fun other member => same other (List.mem_cons_of_mem _ member)
      cases named : key item with
      | none => rw [firstsBy_cons_keyless named, firstsBy_cons_keyless named, ih later]
      | some name =>
          have agree := same item List.mem_cons_self name named
          by_cases member : name ∈ seen
          · rw [firstsBy_cons_seen named member, firstsBy_cons_seen named (agree.1 member),
              ih later]
          · rw [firstsBy_cons_new named member, firstsBy_cons_new named (mt agree.2 member)]
            congr 1
            refine ih fun other inside text called => ?_
            rw [List.mem_cons, List.mem_cons, later other inside text called]

/-- Items with the same keys are kept at the same places. -/
theorem firstsBy_forall₂ {related : α → α → Prop} {others : List α}
    (same : ∀ first second, related first second → key first = key second)
    (pairs : List.Forall₂ related items others) :
    List.Forall₂ related (firstsBy key seen items) (firstsBy key seen others) := by
  induction pairs generalizing seen with
  | nil => exact .nil
  | @cons first second _ _ pair _ ih =>
      cases named : key first with
      | none =>
          have also := (same first second pair).symm.trans named
          rw [firstsBy_cons_keyless named, firstsBy_cons_keyless also]
          exact .cons pair ih
      | some name =>
          have also := (same first second pair).symm.trans named
          by_cases member : name ∈ seen
          · rw [firstsBy_cons_seen named member, firstsBy_cons_seen also member]
            exact ih
          · rw [firstsBy_cons_new named member, firstsBy_cons_new also member]
            exact .cons pair ih

/-- The keys that are kept are those that were not seen before the list. -/
theorem mem_keys_firstsBy_iff {name : κ} :
    name ∈ (firstsBy key seen items).filterMap key ↔ name ∈ items.filterMap key ∧ name ∉ seen := by
  fun_induction firstsBy key seen items with
  | case1 => simp
  | case2 seen item rest keyless ih =>
      rw [List.filterMap_cons_none keyless, List.filterMap_cons_none keyless, ih]
  | case3 seen item rest first named member ih =>
      rw [ih, List.filterMap_cons_some named, List.mem_cons]
      constructor
      · rintro ⟨inside, new⟩
        exact ⟨.inr inside, new⟩
      · rintro ⟨rfl | inside, new⟩
        · exact absurd member new
        · exact ⟨inside, new⟩
  | case4 seen item rest first named new ih =>
      rw [List.filterMap_cons_some named, List.filterMap_cons_some named, List.mem_cons, ih,
        List.mem_cons, List.mem_cons]
      by_cases same : name = first
      · simp [same, new]
      · simp [same]

/-- No key is kept twice. -/
theorem nodup_keys_firstsBy (key : α → Option κ) (seen : List κ) (items : List α) :
    ((firstsBy key seen items).filterMap key).Nodup := by
  fun_induction firstsBy key seen items with
  | case1 => exact List.nodup_nil
  | case2 seen item rest keyless ih => rwa [List.filterMap_cons_none keyless]
  | case3 seen item rest name named member ih => exact ih
  | case4 seen item rest name named new ih =>
      rw [List.filterMap_cons_some named, List.nodup_cons]
      exact ⟨fun again => (mem_keys_firstsBy_iff.1 again).2 List.mem_cons_self, ih⟩

/-- Where every item has a key, the keys of a list are read off item by item. -/
theorem mem_map_firstsBy_iff {label : α → κ} {name : κ} :
    name ∈ (firstsBy (fun item => some (label item)) seen items).map label ↔
      name ∈ items.map label ∧ name ∉ seen := by
  have keys : name ∈ (firstsBy (fun item => some (label item)) seen items).filterMap
      (fun item => some (label item)) ↔
        name ∈ items.filterMap (fun item => some (label item)) ∧ name ∉ seen :=
    mem_keys_firstsBy_iff
  simpa only [List.filterMap_eq_map'] using keys

/-- No label is kept twice. -/
theorem nodup_map_firstsBy (label : α → κ) (seen : List κ) (items : List α) :
    ((firstsBy (fun item => some (label item)) seen items).map label).Nodup := by
  simpa only [List.filterMap_eq_map'] using
    nodup_keys_firstsBy (fun item => some (label item)) seen items

/-- The second list is filtered by what the first one has seen. -/
theorem firstsBy_append (first second : List α) :
    firstsBy key seen (first ++ second) =
      firstsBy key seen first ++ firstsBy key (first.filterMap key ++ seen) second := by
  induction first generalizing seen with
  | nil => rfl
  | cons item rest ih =>
      rw [List.cons_append]
      cases named : key item with
      | none =>
          rw [firstsBy_cons_keyless named, firstsBy_cons_keyless named, ih,
            List.filterMap_cons_none named, List.cons_append]
      | some name =>
          rw [List.filterMap_cons_some named]
          by_cases member : name ∈ seen
          · rw [firstsBy_cons_seen named member, firstsBy_cons_seen named member, ih]
            congr 1
            refine firstsBy_congr fun _ _ text _ => ?_
            simp only [List.mem_append, List.cons_append, List.mem_cons]
            constructor
            · exact .inr
            · rintro (rfl | inside)
              · exact .inr member
              · exact inside
          · rw [firstsBy_cons_new named member, firstsBy_cons_new named member, ih,
              List.cons_append]
            congr 2
            refine firstsBy_congr fun _ _ text _ => ?_
            simp only [List.mem_append, List.cons_append, List.mem_cons]
            exact or_left_comm

/-- Items that are told apart by their keys may be dropped before or after the repetitions. -/
theorem filter_firstsBy {keep : α → Bool}
    (byKey : ∀ first second, key first = key second → keep first = keep second) :
    (firstsBy key seen items).filter keep = firstsBy key seen (items.filter keep) := by
  fun_induction firstsBy key seen items with
  | case1 => rfl
  | case2 seen item rest keyless ih =>
      by_cases kept : keep item = true
      · rw [List.filter_cons_of_pos kept, List.filter_cons_of_pos kept,
          firstsBy_cons_keyless keyless, ih]
      · rw [List.filter_cons_of_neg kept, List.filter_cons_of_neg kept, ih]
  | case3 seen item rest name named member ih =>
      by_cases kept : keep item = true
      · rw [List.filter_cons_of_pos kept, firstsBy_cons_seen named member, ih]
      · rw [List.filter_cons_of_neg kept, ih]
  | case4 seen item rest name named new ih =>
      by_cases kept : keep item = true
      · rw [List.filter_cons_of_pos kept, List.filter_cons_of_pos kept,
          firstsBy_cons_new named new, ih]
      · rw [List.filter_cons_of_neg kept, List.filter_cons_of_neg kept, ih]
        -- The key of the dropped item is the key of no item that is left.
        refine firstsBy_congr fun other inside text called => ?_
        have different : text ≠ name := by
          rintro rfl
          have left := (List.mem_filter.1 inside).2
          rw [byKey other item (called.trans named.symm)] at left
          exact kept left
        simp [different]

/-- Items without a key are all kept. -/
theorem filterMap_firstsBy {β : Type} {pick : α → Option β}
    (keyed : ∀ item ∈ items, key item ≠ none → pick item = none) :
    (firstsBy key seen items).filterMap pick = items.filterMap pick := by
  induction items generalizing seen with
  | nil => rfl
  | cons item rest ih =>
      have later := fun other member => keyed other (List.mem_cons_of_mem _ member)
      cases named : key item with
      | none => rw [firstsBy_cons_keyless named, List.filterMap_cons, List.filterMap_cons, ih later]
      | some name =>
          have passed : pick item = none :=
            keyed item List.mem_cons_self (by rw [named]; exact Option.some_ne_none name)
          rw [List.filterMap_cons_none passed]
          by_cases member : name ∈ seen
          · rw [firstsBy_cons_seen named member, ih later]
          · rw [firstsBy_cons_new named member, List.filterMap_cons_none passed, ih later]

section Labels

variable {label : α → κ} {keep : α → Bool}

/-- A labelled item is kept exactly when its label is new. -/
theorem firstsBy_cons_labelled {item : α} {rest : List α} :
    firstsBy (fun item => some (label item)) seen (item :: rest) =
      if label item ∈ seen then firstsBy (fun item => some (label item)) seen rest
      else item :: firstsBy (fun item => some (label item)) (label item :: seen) rest := rfl

/-- Blocks without a common label are told apart before or after they are put together. -/
theorem firstsBy_flatMap {β : Type} {block : β → List α} {blocks : List β}
    (apart : blocks.Pairwise fun first second =>
      ∀ left ∈ block first, ∀ right ∈ block second, label left ≠ label right)
    (new : ∀ place ∈ blocks, ∀ item ∈ block place, label item ∉ seen) :
    firstsBy (fun item => some (label item)) seen (blocks.flatMap block) =
      blocks.flatMap fun place => firstsBy (fun item => some (label item)) [] (block place) := by
  induction blocks generalizing seen with
  | nil => rfl
  | cons place rest ih =>
      rw [List.pairwise_cons] at apart
      have unseen : firstsBy (fun item => some (label item)) seen (block place) =
          firstsBy (fun item => some (label item)) [] (block place) := by
        refine firstsBy_congr fun item member name named => ?_
        cases named
        simpa using new place List.mem_cons_self item member
      rw [List.flatMap_cons, List.flatMap_cons, firstsBy_append, unseen,
        ih apart.2 fun other later item member => ?_]
      rw [List.mem_append, not_or]
      refine ⟨fun known => ?_, new other (List.mem_cons_of_mem _ later) item member⟩
      rw [List.filterMap_eq_map'] at known
      obtain ⟨earlier, inside, same⟩ := List.mem_map.1 known
      exact apart.1 other later earlier inside item member same

/-- No item is kept whose label was seen. -/
theorem label_not_mem_of_mem_firstsBy {item : α}
    (member : item ∈ firstsBy (fun item => some (label item)) seen items) : label item ∉ seen :=
  (mem_map_firstsBy_iff.1 (List.mem_map_of_mem member)).2

/-- The items that are left stand in the order of their first places. -/
theorem pairwise_idxOf_firstsBy [DecidableEq α] :
    (firstsBy (fun item => some (label item)) seen (items.filter keep)).Pairwise
      fun first second => items.idxOf first < items.idxOf second := by
  induction items generalizing seen with
  | nil => exact .nil
  | cons item rest ih =>
      have moved : ∀ {known : List κ},
          item ∉ firstsBy (fun item => some (label item)) known (rest.filter keep) →
          (firstsBy (fun item => some (label item)) known (rest.filter keep)).Pairwise
            fun first second => (item :: rest).idxOf first < (item :: rest).idxOf second := by
        intro known left
        refine ih.imp_of_mem fun {first second} inFirst inSecond before => ?_
        rw [List.idxOf_cons_ne _ (ne_of_mem_of_not_mem inFirst left).symm,
          List.idxOf_cons_ne _ (ne_of_mem_of_not_mem inSecond left).symm]
        exact Nat.succ_lt_succ before
      by_cases kept : keep item = true
      · rw [List.filter_cons_of_pos kept]
        by_cases member : label item ∈ seen
        · rw [firstsBy_cons_labelled, if_pos member]
          exact moved fun again => label_not_mem_of_mem_firstsBy again member
        · have left : item ∉ firstsBy (fun item => some (label item)) (label item :: seen)
              (rest.filter keep) := fun again =>
            label_not_mem_of_mem_firstsBy again List.mem_cons_self
          rw [firstsBy_cons_labelled, if_neg member, List.pairwise_cons]
          refine ⟨fun other inside => ?_, moved left⟩
          rw [List.idxOf_cons_self, List.idxOf_cons_ne _ (ne_of_mem_of_not_mem inside left).symm]
          exact Nat.succ_pos _
      · rw [List.filter_cons_of_neg kept]
        refine moved fun again => kept ?_
        exact (List.mem_filter.1 ((firstsBy_sublist ..).mem again)).2

/-- An item that is left is the first that was kept with its label. -/
theorem find?_of_mem_firstsBy {item : α}
    (member : item ∈ firstsBy (fun item => some (label item)) seen (items.filter keep)) :
    items.find? (fun other => keep other && label other == label item) = some item := by
  induction items generalizing seen with
  | nil => cases member
  | cons head rest ih =>
      by_cases kept : keep head = true
      · rw [List.filter_cons_of_pos kept] at member
        by_cases known : label head ∈ seen
        · rw [firstsBy_cons_labelled, if_pos known] at member
          have different : label head ≠ label item :=
            ne_of_mem_of_not_mem known (label_not_mem_of_mem_firstsBy member)
          rw [List.find?_cons_of_neg (by simp [different]), ih member]
        · rw [firstsBy_cons_labelled, if_neg known] at member
          rcases List.mem_cons.1 member with rfl | member
          · rw [List.find?_cons_of_pos (by simp [kept])]
          · have different : label head ≠ label item :=
              ne_of_mem_of_not_mem List.mem_cons_self (label_not_mem_of_mem_firstsBy member)
            rw [List.find?_cons_of_neg (by simp [different]), ih member]
      · rw [List.filter_cons_of_neg kept] at member
        rw [List.find?_cons_of_neg (by simp [kept]), ih member]

end Labels

/-- The first item of a kind that is kept is the first of its kind exactly when that one is
kept. -/
theorem exists_find?_of_find?_and {items : List α} {keep kind : α → Bool} {item : α}
    (found : items.find? (fun other => keep other && kind other) = some item) :
    ∃ first, items.find? kind = some first ∧ (first = item ↔ keep first = true) := by
  have both : keep item = true ∧ kind item = true := by simpa using List.find?_some found
  obtain ⟨first, earliest⟩ := Option.isSome_iff_exists.1
    (List.find?_isSome.2 ⟨item, List.mem_of_find?_eq_some found, both.2⟩)
  refine ⟨first, earliest, fun same => same ▸ both.1, fun kept => ?_⟩
  obtain ⟨ofKind, before, after, split, others⟩ := List.find?_eq_some_iff_append.1 earliest
  have again : items.find? (fun other => keep other && kind other) = some first := by
    refine List.find?_eq_some_iff_append.2 ⟨by simp [kept, ofKind], before, after, split, ?_⟩
    intro other member
    have different : kind other = false := by simpa using others other member
    simp [different]
  exact Option.some.inj (again.symm.trans found)

end BusBridge
