/-
This file proves what a commit of a sink does to its reservations and its sources.
-/

import BusBridge.Proofs.NameMap
import BusBridge.Store.Sink

namespace BusBridge.Sink

variable {sink changed : Sink} {files left : Files} {handle : WriteHandle} {source path : String}
  {fault : Option Files.ReplaceFault} {failure : StoreFailure} {qualified : String}

/-- An attempt to create a class leaves the class created, and no other. -/
theorem isCreated_tryCreate (sink : Sink) (created asked : ClassName) :
    (sink.tryCreate created).2.isCreated asked = true ↔
      asked = created ∨ sink.isCreated asked = true := by
  unfold tryCreate Reservations.reserve?
  by_cases taken : sink.reservations.isReserved created = true
  · rw [if_pos taken]
    refine ⟨.inr, fun held => held.elim (fun same => ?_) id⟩
    subst same
    exact taken
  · rw [if_neg taken]
    simp [isCreated, Reservations.isReserved]

/-- A commit that succeeds marks its class, and a memory sink takes the source. -/
theorem eq_of_commit_ok
    (stored : sink.commit files handle source fault = (.ok path, changed, left)) :
    changed.reservations = { sink.reservations with
        committed := handle.className :: sink.reservations.committed } ∧
      changed.storage = match sink.storage with
        | .memory sources => .memory (sources.insert handle.className.qualified source)
        | .directory path => .directory path := by
  unfold commit Reservations.commit at stored
  by_cases twice : sink.reservations.committed.contains handle.className = true
  · rw [if_pos twice] at stored
    cases stored
  · rw [if_neg twice] at stored
    dsimp only at stored
    cases storage : sink.storage with
    | memory sources =>
        rw [storage] at stored
        cases stored
        exact ⟨rfl, rfl⟩
    | directory =>
        rw [storage] at stored
        dsimp only at stored
        generalize writeSource files handle source fault = written at stored
        obtain ⟨result, files⟩ := written
        cases result <;> cases stored
        exact ⟨rfl, rfl⟩

/-- A commit that fails releases its class, or finds it committed. -/
theorem eq_of_commit_error
    (spoiled : sink.commit files handle source fault = (.error failure, changed, left)) :
    (handle.className ∈ sink.reservations.committed ∧ changed = sink) ∨
      changed = { sink with reservations := Reservations.release { sink.reservations with
        committed := handle.className :: sink.reservations.committed } handle.className } := by
  unfold commit Reservations.commit at spoiled
  by_cases twice : sink.reservations.committed.contains handle.className = true
  · rw [if_pos twice] at spoiled
    cases spoiled
    exact .inl ⟨List.contains_iff_mem.1 twice, rfl⟩
  · rw [if_neg twice] at spoiled
    dsimp only at spoiled
    cases storage : sink.storage with
    | memory sources =>
        rw [storage] at spoiled
        cases spoiled
    | directory =>
        rw [storage] at spoiled
        dsimp only at spoiled
        generalize writeSource files handle source fault = written at spoiled
        obtain ⟨result, files⟩ := written
        cases result <;> cases spoiled
        rw [← storage]
        exact .inr rfl

/-- Storing in memory cannot fail. -/
def inMemory (sink : Sink) : Bool :=
  match sink.storage with
  | .memory _ => true
  | .directory _ => false

theorem inMemory_commit (sink : Sink) (files : Files) (handle : WriteHandle) (source : String)
    (fault : Option Files.ReplaceFault) :
    (sink.commit files handle source fault).2.1.inMemory = sink.inMemory := by
  generalize stored : sink.commit files handle source fault = committed
  obtain ⟨failure | path, changed, left⟩ := committed
  · rcases eq_of_commit_error stored with ⟨-, rfl⟩ | rfl <;> rfl
  · obtain ⟨-, storage⟩ := eq_of_commit_ok stored
    rw [inMemory, inMemory, storage]
    cases sink.storage <;> rfl

/-- In memory, only a class that is committed already is refused. -/
theorem commit_ne_error (memory : sink.inMemory = true)
    (new : handle.className ∉ sink.reservations.committed) :
    (sink.commit files handle source fault).1 ≠ .error failure := by
  have unknown : sink.reservations.committed.contains handle.className = false := by
    simpa using new
  unfold commit Reservations.commit
  rw [if_neg (by rw [unknown]; nofun)]
  unfold inMemory at memory
  cases storage : sink.storage with
  | memory sources => nofun
  | directory path => simp [storage] at memory

/-- A class of the name was committed, and a memory sink has its source. -/
structure Holds (sink : Sink) (qualified : String) : Prop where
  marked : ∃ className ∈ sink.reservations.committed, className.qualified = qualified
  kept : ∀ sources, sink.storage = .memory sources → (sources.find? qualified).isSome = true

/-- A commit that succeeds adds its class to those that the sink holds. -/
theorem Holds.of_commit_ok
    (stored : sink.commit files handle source fault = (.ok path, changed, left))
    (before : handle.className.qualified = qualified ∨ sink.Holds qualified) :
    changed.Holds qualified := by
  obtain ⟨reservations, storage⟩ := eq_of_commit_ok stored
  constructor
  case marked =>
    rw [reservations]
    rcases before with own | held
    · exact ⟨handle.className, List.mem_cons_self, own⟩
    · obtain ⟨className, marked, same⟩ := held.marked
      exact ⟨className, List.mem_cons_of_mem _ marked, same⟩
  case kept =>
    intro sources taken
    rw [taken] at storage
    split at storage <;> cases storage
    case h_1 earlier memory =>
      rw [NameMap.find?_insert]
      split
      case isTrue => rfl
      case isFalse other =>
        rcases before with own | held
        · exact absurd own.symm other
        · exact held.kept earlier memory

/-- A commit that fails takes away no more than its own class. -/
theorem Holds.of_commit_error
    (spoiled : sink.commit files handle source fault = (.error failure, changed, left))
    (other : handle.className.qualified ≠ qualified) (held : sink.Holds qualified) :
    changed.Holds qualified := by
  rcases eq_of_commit_error spoiled with ⟨-, rfl⟩ | rfl
  · exact held
  · obtain ⟨className, marked, rfl⟩ := held.marked
    have different : className ≠ handle.className := fun same => other (same ▸ rfl)
    refine ⟨⟨className, List.mem_filter.2 ⟨List.mem_cons_of_mem _ marked, ?_⟩, rfl⟩, held.kept⟩
    simpa using different

end BusBridge.Sink
