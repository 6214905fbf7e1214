/-
This file proves which name a loader is refused for: while it is synthesized only a part of an
interface, in the name of this interface, and afterwards only a name of the loader itself.
-/

import BusBridge.Proofs.Java.NamePlaces
import BusBridge.Proofs.Synthesis.ProxyNames

namespace BusBridge.Synthesis

open Java (CompilationUnit Layout Mention Statement)

variable {context : SynthesisContext} {className : ClassName} {interface : TypeModel}
  {types earlier : List TypeModel}

/-- Among the interfaces of a list none has the same name before this one. -/
structure IsFirstOfName (types earlier : List TypeModel) (interface : TypeModel) : Prop where
  listed : ∃ later, types = earlier ++ interface :: later
  kind : interface.isInterface = true
  fresh : ∀ other ∈ earlier, other.isInterface = true → other.name ≠ interface.name

/-- The proxy and the registration of an interface are written, each of them on its own. -/
structure IsWritten (context : SynthesisContext) (interface : TypeModel) : Prop where
  proxy : ∃ text, (Statement.declareClass (proxyClass context interface)).write interface.name =
    .ok text
  registration : ∃ text, (registration context interface).write interface.name = .ok text

/-- An interface is written when all of its statements pass. -/
theorem isWritten_iff :
    IsWritten context interface ↔ ∃ statements, checkedStatements context interface =
      .ok statements := by
  have written : ∀ statement : Statement,
      (∃ text, statement.write interface.name = .ok text) ↔ statement.layout.IsValid :=
    fun statement => Layout.write_isOk_iff interface.name statement.layout
  simp only [checkedStatements_eq_ok_iff, exists_eq_left, loaderStatements, List.forall_mem_cons,
    ← written]
  constructor
  · rintro ⟨proxy, registration⟩
    exact ⟨proxy, registration, List.forall_mem_nil _⟩
  · rintro ⟨proxy, registration, -⟩
    exact ⟨proxy, registration⟩

/-- An interface with a new name occurs first. -/
theorem firstOccurrences_cons_fresh {seen : List String} {rest : List TypeModel}
    (fresh : interface.name ∉ seen) :
    firstOccurrences seen (interface :: rest) =
      interface :: firstOccurrences (interface.name :: seen) rest :=
  if_neg (mt List.contains_iff_mem.1 fresh)

/-- A type that is kept is the first of its name, and the types before it are kept before it. -/
theorem exists_split_of_firstOccurrences {seen : List String} {done rest : List TypeModel}
    (kept : firstOccurrences seen types = done ++ interface :: rest) :
    ∃ earlier later, types = earlier ++ interface :: later ∧
      firstOccurrences seen earlier = done ∧ interface.name ∉ seen ∧
      ∀ other ∈ earlier, other.name ≠ interface.name := by
  induction types generalizing seen done with
  | nil => simp [firstOccurrences] at kept
  | cons head tail ih =>
      by_cases known : head.name ∈ seen
      · rw [firstOccurrences, if_pos (List.contains_iff_mem.2 known)] at kept
        obtain ⟨earlier, later, rfl, before, fresh, others⟩ := ih kept
        refine ⟨head :: earlier, later, rfl, ?_, fresh, List.forall_mem_cons.2 ⟨?_, others⟩⟩
        · rw [firstOccurrences, if_pos (List.contains_iff_mem.2 known), before]
        · rintro same
          exact fresh (same ▸ known)
      · rw [firstOccurrences_cons_fresh known] at kept
        cases done with
        | nil =>
            cases kept
            exact ⟨[], tail, rfl, rfl, known, List.forall_mem_nil _⟩
        | cons first others =>
            obtain ⟨rfl, remaining⟩ := List.cons.inj kept
            obtain ⟨earlier, later, rfl, before, fresh, apart⟩ := ih remaining
            rw [List.mem_cons, not_or] at fresh
            refine ⟨head :: earlier, later, rfl, ?_, fresh.2,
              List.forall_mem_cons.2 ⟨fun same => fresh.1 same.symm, apart⟩⟩
            rw [firstOccurrences_cons_fresh known, before]

/-- An interface is loaded unless its name came earlier. -/
theorem mem_firstOccurrences_of_fresh {seen : List String} {later : List TypeModel}
    (unseen : interface.name ∉ seen) (fresh : ∀ other ∈ earlier, other.name ≠ interface.name) :
    interface ∈ firstOccurrences seen (earlier ++ interface :: later) := by
  induction earlier generalizing seen with
  | nil => rw [List.nil_append, firstOccurrences_cons_fresh unseen]; exact List.mem_cons_self
  | cons head tail ih =>
      obtain ⟨different, fresh⟩ := List.forall_mem_cons.1 fresh
      by_cases known : head.name ∈ seen
      · rw [List.cons_append, firstOccurrences, if_pos (List.contains_iff_mem.2 known)]
        exact ih unseen fresh
      · rw [List.cons_append, firstOccurrences_cons_fresh known]
        refine List.mem_cons_of_mem _ (ih (fun member => ?_) fresh)
        rcases List.mem_cons.1 member with same | member
        · exact different same.symm
        · exact unseen member

/-- The first interface of each name is loaded. -/
theorem IsFirstOfName.mem_loadedInterfaces (first : IsFirstOfName types earlier interface) :
    interface ∈ loadedInterfaces types := by
  obtain ⟨later, rfl⟩ := first.listed
  rw [loadedInterfaces, List.filter_append, List.filter_cons_of_pos first.kind]
  refine mem_firstOccurrences_of_fresh List.not_mem_nil fun other member => ?_
  obtain ⟨inside, kind⟩ := List.mem_filter.1 member
  exact first.fresh other inside kind

/-- The loaded interfaces before one of them are those of the types before it. -/
theorem exists_isFirstOfName {done rest : List TypeModel}
    (loaded : loadedInterfaces types = done ++ interface :: rest) :
    ∃ earlier, IsFirstOfName types earlier interface ∧ loadedInterfaces earlier = done := by
  obtain ⟨before, after, split, kept, -, apart⟩ := exists_split_of_firstOccurrences loaded
  obtain ⟨front, back, rfl, filtered, remaining⟩ := List.filter_eq_append_iff.1 split
  obtain ⟨passed, later, rfl, others, kind, -⟩ := List.filter_eq_cons_iff.1 remaining
  have all : (front ++ passed).filter TypeModel.isInterface = before := by
    rw [List.filter_append, filtered, List.filter_eq_nil_iff.2 others, List.append_nil]
  refine ⟨front ++ passed, ⟨⟨later, by rw [List.append_assoc]⟩, kind, ?_⟩, ?_⟩
  · intro other member held
    exact apart other (all ▸ List.mem_filter.2 ⟨member, held⟩)
  · rw [loadedInterfaces, all, kept]

/-- Statements that are written one by one are refused as if they were written together. -/
theorem forM_write_eq (owner : String) (statements : List Statement) :
    (statements.forM fun statement => discard (statement.write owner)) =
      ((Statement.lines statements).write owner).map fun _ => () := by
  rw [List.forM_eq_forM]
  induction statements with
  | nil => rfl
  | cons head rest ih =>
      have first : (Statement.lines (head :: rest)).invalid? =
          head.layout.invalid?.or (Statement.lines rest).invalid? := by
        rw [Statement.lines, List.cons_append, Layout.invalid?, List.findSome?_cons,
          List.findSome?_append]
        rfl
      rw [List.forM_cons, ih, Statement.write, Layout.write, Layout.write, Layout.write, first]
      cases head.layout.invalid? with
      | some identifier => rfl
      | none => cases (Statement.lines rest).invalid? <;> rfl

/-- An interface whose statements are refused is named in the failure, with the first of its names
that is not what Java expects. -/
theorem checkedStatements_eq_error_iff {failure : SynthesisFailure} :
    checkedStatements context interface = .error failure ↔ ∃ mention,
      Mention.firstInvalid? (Statement.allMentions (loaderStatements context interface)) =
        some mention ∧ failure = .invalidIdentifier interface.name mention.text := by
  have nothing : ∀ statements : List Statement,
      (pure statements : Except SynthesisFailure (List Statement)) ≠ .error failure := nofun
  rw [checkedStatements, bind_eq_error_iff, forM_write_eq, map_eq_error_iff]
  simp only [nothing, and_false, exists_false, or_false]
  rw [Layout.write_eq_error_iff, Statement.mentions_lines]

/-- The names that a loader takes from its class name and from its context, in their order. -/
def loaderMentions (className : ClassName) (context : SynthesisContext) : List Mention :=
  (if className.package = "" then [] else [.package className.package]) ++ [
    .name className.simple, .type context.loaderContract, .type context.bus.messageBus,
    .name context.busVariable]

/-- The statements of the interfaces stand behind the loader's own names. -/
theorem mentions_loaderUnit (statements : List Statement) :
    (loaderUnit className context statements).mentions =
      (if className.package = "" then [] else [.package className.package]) ++ [
        .name className.simple, .type context.loaderContract, .type "void", .name "loadProxies",
        .type context.bus.messageBus, .name context.busVariable] ++
        Statement.allMentions statements := by
  simp [loaderUnit, CompilationUnit.mentions, Java.Class.mentions, Java.Method.allMentions,
    Java.Method.mentions, Java.Parameter.mentions, Java.Parameter.final]
  rfl

/-- A loader fails with the first interface that is refused. -/
theorem synthesizeLoader_eq_error_iff {failure : SynthesisFailure} :
    synthesizeLoader className types context = .error failure ↔
      (loadedInterfaces types).mapM (checkedStatements context) = .error failure := by
  rw [synthesizeLoader, bind_eq_error_iff]
  refine or_iff_left ?_
  rintro ⟨_, _, made⟩
  cases made

/-- The first interface that is not written fails the loader. -/
theorem exists_refused {failure : SynthesisFailure}
    (failed : synthesizeLoader className types context = .error failure) :
    ∃ earlier interface, IsFirstOfName types earlier interface ∧
      (∀ before other, IsFirstOfName earlier before other → IsWritten context other) ∧
      checkedStatements context interface = .error failure := by
  obtain ⟨done, interface, rest, loaded, fine, refused⟩ :=
    mapM_eq_error_iff.1 (synthesizeLoader_eq_error_iff.1 failed)
  obtain ⟨earlier, first, passed⟩ := exists_isFirstOfName loaded
  refine ⟨earlier, interface, first, fun before other another => ?_, refused⟩
  exact isWritten_iff.2 (fine other (passed ▸ another.mem_loadedInterfaces))

/-- An interface that is refused is not written. -/
theorem not_isWritten_of_refused {failure : SynthesisFailure}
    (refused : checkedStatements context interface = .error failure) :
    ¬ IsWritten context interface := by
  intro written
  obtain ⟨statements, checked⟩ := isWritten_iff.1 written
  rw [refused] at checked
  cases checked

/-- What a loader holds was written before, part by part. -/
theorem isValid_of_synthesizeLoader {unit : CompilationUnit}
    (synthesized : synthesizeLoader className types context = .ok unit)
    (member : interface ∈ loadedInterfaces types) :
    ∀ statement ∈ loaderStatements context interface, statement.layout.IsValid := by
  obtain ⟨parts, checked, -⟩ := bind_eq_ok_iff.1 synthesized
  obtain ⟨statements, made⟩ := mapM_isOk_iff.1 ⟨parts, checked⟩ interface member
  obtain ⟨rfl, valid⟩ := checkedStatements_eq_ok_iff.1 made
  exact valid

/-- Statements are valid when all that they mention is. -/
theorem allMentions_isValid_iff {statements : List Statement} :
    (∀ mention ∈ Statement.allMentions statements, mention.IsValid) ↔
      ∀ statement ∈ statements, statement.layout.IsValid := by
  rw [← Statement.mentions_lines, ← Layout.isValid_iff_mentions, Statement.isValid_lines]

/-- Where the interfaces are written, the unit is refused only for one of the loader's own names. -/
theorem firstInvalid?_loaderUnit {statements : List Statement}
    (written : ∀ statement ∈ statements, statement.layout.IsValid) :
    Mention.firstInvalid? (loaderUnit className context statements).mentions =
      Mention.firstInvalid? (loaderMentions className context) := by
  have fixed : (Mention.type "void").IsValid ∧ (Mention.name "loadProxies").IsValid := by
    decide
  have inner : Mention.firstInvalid? (Statement.allMentions statements) = none :=
    Mention.firstInvalid?_eq_none_iff.2 (allMentions_isValid_iff.2 written)
  rw [mentions_loaderUnit, Mention.firstInvalid?_append, inner, Option.or_none, loaderMentions,
    Mention.firstInvalid?_append, Mention.firstInvalid?_append]
  simp only [Mention.firstInvalid?_cons, fixed, if_true]

/-- A loader is synthesized unless the proxy or the registration of an interface is not written, and
then the failure names the first such interface. What is refused afterwards is a name of the loader
itself. -/
theorem loader_failure_attributed (className : ClassName) (types : List TypeModel)
    (context : SynthesisContext) :
    ((∃ failure, synthesizeLoader className types context = .error failure) ↔
      ∃ earlier interface, IsFirstOfName types earlier interface ∧
        ¬ IsWritten context interface) ∧
    (∀ failure, synthesizeLoader className types context = .error failure →
      ∃ earlier interface mention, IsFirstOfName types earlier interface ∧
        ¬ IsWritten context interface ∧
        (∀ before other, IsFirstOfName earlier before other → IsWritten context other) ∧
        Mention.firstInvalid? (Statement.allMentions (loaderStatements context interface)) =
          some mention ∧
        failure = .invalidIdentifier interface.name mention.text) ∧
    ∀ unit, synthesizeLoader className types context = .ok unit →
      (∀ failure, generateLoader className types context = .error failure ↔
        ∃ mention, Mention.firstInvalid? (loaderMentions className context) = some mention ∧
          failure = .invalidIdentifier context.loaderContract mention.text) ∧
      ∀ earlier interface, IsFirstOfName types earlier interface →
        ∀ mention ∈ Statement.allMentions (loaderStatements context interface),
          mention.IsValid := by
  refine ⟨⟨?_, ?_⟩, fun failure failed => ?_, fun unit synthesized => ⟨fun failure => ?_, ?_⟩⟩
  · rintro ⟨failure, failed⟩
    obtain ⟨earlier, interface, first, -, refused⟩ := exists_refused failed
    exact ⟨earlier, interface, first, not_isWritten_of_refused refused⟩
  · rintro ⟨earlier, interface, first, unwritten⟩
    cases outcome : synthesizeLoader className types context with
    | error failure => exact ⟨failure, rfl⟩
    | ok unit =>
        have valid := isValid_of_synthesizeLoader outcome first.mem_loadedInterfaces
        exact absurd (isWritten_iff.2 ⟨_, checkedStatements_eq_ok_iff.2 ⟨rfl, valid⟩⟩) unwritten
  · obtain ⟨earlier, interface, first, fine, refused⟩ := exists_refused failed
    obtain ⟨mention, offends, named⟩ := checkedStatements_eq_error_iff.1 refused
    exact ⟨earlier, interface, mention, first, not_isWritten_of_refused refused, fine, offends,
      named⟩
  -- All that stands for the interfaces is written, so the rest is the loader's own.
  · have written : ∀ statement ∈ (loadedInterfaces types).flatMap (loaderStatements context),
        statement.layout.IsValid :=
      List.forall_mem_flatMap.2 fun interface => isValid_of_synthesizeLoader synthesized
    rw [← firstInvalid?_loaderUnit written, ← eq_loaderUnit_of_synthesizeLoader synthesized,
      ← unit.mentions_layout, ← Layout.write_eq_error_iff, generateLoader, synthesized]
    change (unit.write context.loaderContract).map _ = _ ↔ _
    exact map_eq_error_iff
  · intro earlier interface first
    exact allMentions_isValid_iff.2
      (isValid_of_synthesizeLoader synthesized first.mem_loadedInterfaces)

end BusBridge.Synthesis
