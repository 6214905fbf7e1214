/-
This file proves what maps ordered by name hold after names are inserted.
-/

import BusBridge.NameMap

namespace BusBridge.NameMap

variable {α : Type}

/-- A name that is new takes its place among the others. -/
theorem insertInto_perm {name : String} {value : α} {entries : List (String × α)}
    (new : name ∉ entries.map Prod.fst) :
    (insertInto name value entries).Perm ((name, value) :: entries) := by
  induction entries with
  | nil => exact .refl _
  | cons head rest ih =>
      obtain ⟨different, others⟩ := not_or.1 (mt List.mem_cons.2 new)
      rw [insertInto, if_neg different]
      split
      case isTrue => exact .refl _
      case isFalse => exact ((ih others).cons head).trans (.swap ..)

/-- Distinct names are inserted without loss. -/
theorem foldl_insert_perm {map : NameMap α} {entries : List (String × α)}
    (distinct : ((map.entries ++ entries).map Prod.fst).Nodup) :
    (entries.foldl (fun map entry => map.insert entry.1 entry.2) map).entries.Perm
      (map.entries ++ entries) := by
  induction entries generalizing map with
  | nil => rw [List.append_nil]; exact .refl _
  | cons head rest ih =>
      have new : head.1 ∉ map.entries.map Prod.fst := by
        intro known
        rw [List.map_append, List.nodup_append] at distinct
        exact distinct.2.2 _ known _ List.mem_cons_self rfl
      have grown : ((map.insert head.1 head.2).entries ++ rest).Perm
          (map.entries ++ head :: rest) :=
        ((insertInto_perm new).append_right rest).trans List.perm_middle.symm
      exact (ih ((grown.map Prod.fst).nodup_iff.2 distinct)).trans grown

/-- The names of a map are sorted. -/
theorem names_sorted (map : NameMap α) : map.names.Pairwise (· < ·) :=
  List.pairwise_map.2 map.sorted

/-- Two maps with the same entries are equal, since these have only one order. -/
theorem eq_of_perm {first second : NameMap α} (same : first.entries.Perm second.entries) :
    first = second := by
  refine eq_of_entries_eq (same.eq_of_pairwise ?_ first.sorted second.sorted)
  intro entry other _ _ less greater
  exact absurd greater (String.lt_asymm less)

/-- A map is built again from its entries, in whatever order they come. -/
theorem ofList_of_perm {map : NameMap α} {entries : List (String × α)}
    (reordered : entries.Perm map.entries) : ofList entries = map := by
  have distinct : (entries.map Prod.fst).Nodup :=
    (reordered.map Prod.fst).nodup_iff.2 (map.names_sorted.imp fun less => String.ne_of_lt less)
  exact eq_of_perm ((foldl_insert_perm distinct).trans reordered)

/-- Entries that are in order are kept as they are. -/
theorem entries_ofList {entries : List (String × α)}
    (sorted : entries.Pairwise fun first second => first.1 < second.1) :
    (ofList entries).entries = entries := by
  have built : ofList entries = ⟨entries, sorted⟩ := ofList_of_perm (.refl _)
  rw [built]

/-- Values that are made from the names of a sorted list keep its order. -/
theorem entries_ofList_map {names : List String} (sorted : names.Pairwise (· < ·))
    (value : String → α) :
    (ofList (names.map fun name => (name, value name))).entries =
      names.map fun name => (name, value name) :=
  entries_ofList (List.pairwise_map.2 sorted)

/-- A map that is made of sorted names has these names. -/
theorem names_ofList_map {names : List String} (sorted : names.Pairwise (· < ·))
    (value : String → α) :
    (ofList (names.map fun name => (name, value name))).names = names := by
  simp [NameMap.names, entries_ofList_map sorted value, Function.comp_def]

/-- A value that is found is one of the entries. -/
theorem mem_of_lookup {κ β : Type} [BEq κ] [LawfulBEq κ] {entries : List (κ × β)} {name : κ}
    {value : β} (found : entries.lookup name = some value) : (name, value) ∈ entries := by
  obtain ⟨before, after, rfl, -⟩ := List.lookup_eq_some_iff.1 found
  simp

/-- Where no name occurs twice, each entry is found. -/
theorem lookup_of_mem {κ β : Type} [BEq κ] [LawfulBEq κ] {entries : List (κ × β)}
    (distinct : (entries.map Prod.fst).Nodup) {entry : κ × β} (member : entry ∈ entries) :
    entries.lookup entry.1 = some entry.2 := by
  obtain ⟨before, after, rfl⟩ := List.append_of_mem member
  refine List.lookup_eq_some_iff.2 ⟨before, after, rfl, fun earlier known => ?_⟩
  rw [List.map_append, List.nodup_append] at distinct
  have different := distinct.2.2 earlier.1 (List.mem_map_of_mem known) entry.1 (by simp)
  exact bne_iff_ne.2 different.symm

/-- The first entry of a name is found. -/
theorem lookup_cons_eq_ite {name : String} {entry : String × α} {entries : List (String × α)} :
    (entry :: entries).lookup name =
      if name = entry.1 then some entry.2 else entries.lookup name := by
  obtain ⟨key, value⟩ := entry
  by_cases own : name = key
  · simp [own]
  · have other : (name == key) = false := beq_false_of_ne own
    simp [List.lookup_cons, other, own]

/-- A value that is inserted is found, and the others are as they were. -/
theorem lookup_insertInto {name other : String} {value : α} {entries : List (String × α)} :
    (insertInto name value entries).lookup other =
      if other = name then some value else entries.lookup other := by
  induction entries with
  | nil => exact lookup_cons_eq_ite
  | cons head rest ih =>
      unfold insertInto
      split
      case isTrue => exact lookup_cons_eq_ite
      case isFalse =>
        split
        case isTrue same =>
          rw [lookup_cons_eq_ite, lookup_cons_eq_ite, same]
          split <;> rfl
        case isFalse different =>
          rw [lookup_cons_eq_ite, lookup_cons_eq_ite, ih]
          by_cases own : other = head.1
          · simp [own, Ne.symm different]
          · simp [own]

/-- A name has the value that was inserted last for it. -/
theorem find?_insert {map : NameMap α} {name other : String} {value : α} :
    (map.insert name value).find? other =
      if other = name then some value else map.find? other :=
  lookup_insertInto

/-- A name is in a map when it has a value. -/
theorem mem_names_iff {map : NameMap α} {name : String} :
    name ∈ map.names ↔ ∃ value, map.find? name = some value := by
  rw [names, find?, ← Option.isSome_iff_exists, List.lookup_isSome_iff, List.mem_map]
  simp only [beq_iff_eq, @eq_comm _ name]

end BusBridge.NameMap
