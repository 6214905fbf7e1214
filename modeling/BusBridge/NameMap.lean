/-
This file holds maps from names to values, ordered by name.
-/

namespace BusBridge

/-- Names are ordered by code points, which is also the order of their UTF-8 bytes. -/
structure NameMap (α : Type) where
  entries : List (String × α)
  sorted : entries.Pairwise fun first second => first.1 < second.1 := by simp

namespace NameMap

variable {α : Type}

theorem name_lt_of_not_lt {first second : String} (notLess : ¬first < second)
    (different : first ≠ second) : second < first := by
  apply Decidable.byContradiction
  intro notGreater
  exact different (String.le_antisymm notGreater notLess)

def insertInto (name : String) (value : α) : List (String × α) → List (String × α)
  | [] => [(name, value)]
  | entry :: rest =>
      if name < entry.1 then (name, value) :: entry :: rest
      else if name = entry.1 then (name, value) :: rest
      else entry :: insertInto name value rest

theorem mem_insertInto {name : String} {value : α} {entries : List (String × α)}
    {entry : String × α} (member : entry ∈ insertInto name value entries) :
    entry = (name, value) ∨ entry ∈ entries := by
  induction entries with
  | nil => simpa [insertInto] using member
  | cons head rest ih =>
      unfold insertInto at member
      split at member
      · simpa using member
      · split at member
        · simp only [List.mem_cons] at member ⊢
          exact member.imp_right Or.inr
        · simp only [List.mem_cons] at member ⊢
          rcases member with same | inRest
          · exact Or.inr (Or.inl same)
          · exact (ih inRest).imp_right Or.inr

theorem insertInto_sorted {name : String} {value : α} {entries : List (String × α)}
    (sorted : entries.Pairwise fun first second => first.1 < second.1) :
    (insertInto name value entries).Pairwise fun first second => first.1 < second.1 := by
  induction entries with
  | nil => simp [insertInto]
  | cons head rest ih =>
      rw [List.pairwise_cons] at sorted
      unfold insertInto
      split
      · rename_i less
        refine List.pairwise_cons.2 ⟨?_, List.pairwise_cons.2 sorted⟩
        intro entry member
        rcases List.mem_cons.1 member with same | inRest
        · simpa [same] using less
        · exact String.lt_trans less (sorted.1 entry inRest)
      · rename_i notLess
        split
        · rename_i same
          exact List.pairwise_cons.2 ⟨fun entry member => same ▸ sorted.1 entry member, sorted.2⟩
        · rename_i different
          refine List.pairwise_cons.2 ⟨?_, ih sorted.2⟩
          intro entry member
          rcases mem_insertInto member with same | inRest
          · simpa [same] using name_lt_of_not_lt notLess different
          · exact sorted.1 entry inRest

def empty : NameMap α := ⟨[], .nil⟩

instance : EmptyCollection (NameMap α) := ⟨empty⟩

instance : Inhabited (NameMap α) := ⟨empty⟩

/-- A name that is inserted again takes the new value. -/
def insert (map : NameMap α) (name : String) (value : α) : NameMap α where
  entries := insertInto name value map.entries
  sorted := insertInto_sorted map.sorted

def ofList (entries : List (String × α)) : NameMap α :=
  entries.foldl (fun map entry => map.insert entry.1 entry.2) empty

def find? (map : NameMap α) (name : String) : Option α :=
  map.entries.lookup name

def contains (map : NameMap α) (name : String) : Bool :=
  (map.find? name).isSome

def names (map : NameMap α) : List String :=
  map.entries.map Prod.fst

def size (map : NameMap α) : Nat :=
  map.entries.length

theorem eq_of_entries_eq {first second : NameMap α} (same : first.entries = second.entries) :
    first = second := by
  cases first
  cases second
  cases same
  rfl

instance [DecidableEq α] : DecidableEq (NameMap α) := fun first second =>
  decidable_of_iff (first.entries = second.entries)
    ⟨eq_of_entries_eq, fun same => congrArg entries same⟩

end NameMap

end BusBridge
