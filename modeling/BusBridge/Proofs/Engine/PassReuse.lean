/-
This file proves that a pass gives the same whether it makes its artifacts or finds them in a sound
cache, and so that a second engine on the cache of a first one does what that one did.
-/

import BusBridge.Proofs.Engine.PassAgain
import BusBridge.Proofs.Engine.PassPace
import BusBridge.Proofs.Engine.ScannedBean
import BusBridge.Proofs.Engine.SoundCache

namespace BusBridge

namespace Pipeline

variable {configuration : Configuration} {types : Universe} {target : Target}
  {done : List Target} {className : ClassName} {artifact : Artifact} {text : String}

/-- The source that is made for a target, if it is of the class. -/
def sourceOf? (configuration : Configuration) (types : Universe) (className : ClassName)
    (target : Target) : Option String :=
  match made configuration types target with
  | .ok artifact => if artifact.className = className then some artifact.source else none
  | .error _ => none

/-- A class has the source of the first target that has one for it. -/
def delivered? (configuration : Configuration) (types : Universe) (done : List Target)
    (className : ClassName) : Option String :=
  done.findSome? (sourceOf? configuration types className)

/-- The targets that are finished when a target of the plan is started. -/
def finishedBefore (configuration : Configuration) (types : Universe) (target : Target) :
    List Target :=
  (plannedTargets configuration types).take (PassRun.finishedAt configuration.maxPendingJobs
    ((plannedTargets configuration types).idxOf target))

/-- A target succeeds when its class is delivered before it is started, or when an artifact is made
for it. -/
def plannedResult (configuration : Configuration) (types : Universe) (target : Target) :
    Except Failure String :=
  if (delivered? configuration types (finishedBefore configuration types target)
      target.className).isSome then
    .ok target.className.qualified
  else (made configuration types target).map fun _ => target.className.qualified

/-- The first target of a class delivers its source. -/
theorem delivered?_append (done : List Target) (target : Target) (className : ClassName) :
    delivered? configuration types (done ++ [target]) className =
      (delivered? configuration types done className).or
        (sourceOf? configuration types className target) := by
  simp [delivered?, List.findSome?_append]

/-- A target gives a source to the class that it is made for. -/
theorem sourceOf?_eq_some_iff :
    sourceOf? configuration types className target = some text ↔
      made configuration types target = .ok ⟨className, text⟩ := by
  unfold sourceOf?
  cases made configuration types target with
  | error failure => simp
  | ok artifact =>
      obtain ⟨own, source⟩ := artifact
      simp

/-- A delivered source was made for one of the targets. -/
theorem exists_of_delivered? (delivered : delivered? configuration types done className =
      some text) : ∃ target ∈ done, made configuration types target = .ok ⟨className, text⟩ := by
  obtain ⟨target, member, own⟩ := List.exists_of_findSome?_eq_some delivered
  exact ⟨target, member, sourceOf?_eq_some_iff.1 own⟩

/-- A target brings nothing when its class is delivered, or when nothing is made for it. -/
theorem delivered?_of_standing
    (standing : (delivered? configuration types done target.className).isSome = true ∨
      ∃ failure, made configuration types target = .error failure) (className : ClassName) :
    delivered? configuration types (done ++ [target]) className =
      delivered? configuration types done className := by
  rw [delivered?_append]
  cases own : sourceOf? configuration types className target with
  | none => exact Option.or_none
  | some text =>
      have made := sourceOf?_eq_some_iff.1 own
      rcases standing with delivered | ⟨failure, failed⟩
      · obtain rfl : className = target.className := (isDeclared_of_made made).1
        obtain ⟨before, known⟩ := Option.isSome_iff_exists.1 delivered
        rw [known, Option.some_or]
      · cases failed.symm.trans made

/-- A target whose class is not delivered brings its own source. -/
theorem delivered?_of_free (made : made configuration types target = .ok artifact)
    (free : delivered? configuration types done artifact.className = none) (className : ClassName) :
    delivered? configuration types (done ++ [target]) className =
      if className = artifact.className then some artifact.source
      else delivered? configuration types done className := by
  rw [delivered?_append, sourceOf?, made]
  by_cases own : className = artifact.className
  · simp [own, free]
  · simp [own, Ne.symm own]

end Pipeline

namespace PassRun

open Pipeline

variable {types : Universe} {engine other : Engine} {run next : PassRun}
  {history after : PassHistory} {configuration : Configuration}

/-- What a pass with a sound cache has delivered: the classes of the targets that it has finished,
each with the source that the first of them has for it. -/
structure Delivers (types : Universe) (engine : Engine) (history : PassHistory) (run : PassRun) :
    Prop where
  created : ∀ className, run.pass.engine.sink.isCreated className = true ↔
    (delivered? engine.configuration types history.done className).isSome = true
  stored : ∀ className text,
    delivered? engine.configuration types history.done className = some text →
      run.source? className = some text
  sound : run.pass.engine.HasSoundCache types
  standing : ∀ pending ∈ history.started, pending.state = .alreadyGenerated ↔
    (delivered? engine.configuration types
      (finishedBefore engine.configuration types pending.target)
      pending.target.className).isSome = true
  cached : ∀ pending ∈ history.started, ∀ artifact, pending.state = .cached artifact →
    made engine.configuration types pending.target = .ok artifact
  results : ∀ entry ∈ history.finished,
    entry.2 = plannedResult engine.configuration types entry.1.target

/-- A step that leaves the stores delivers nothing. -/
theorem Delivers.quiet (delivers : Delivers types engine history run)
    (stores : run.pass.engine.SameStores next.pass.engine) :
    Delivers types engine history next := by
  have source (className : ClassName) : next.source? className = run.source? className := by
    rw [source?, source?, stores.sink, stores.files]
  constructor
  case created => exact stores.sink ▸ delivers.created
  case stored => exact fun className text own => (source className).trans (delivers.stored _ _ own)
  case sound => exact delivers.sound.sameStores stores
  case standing => exact delivers.standing
  case cached => exact delivers.cached
  case results => exact delivers.results

/-- What is finished when a target is started is known from the place of the target in the plan. -/
theorem Smooth.finishedBefore_eq (smooth : Smooth types engine history run)
    {pending : PendingTarget}
    (later : Smooth types engine { history with started := history.started ++ [pending] } next)
    (room : run.stage = .begun ∨ ∃ bean beans, run.stage = .generating (bean :: beans) ∧
      run.pass.inFlight.length ≠ run.pass.window) :
    finishedBefore engine.configuration types pending.target = history.done := by
  obtain ⟨rest, plan⟩ := later.isPrefix
  have once := later.nodup
  rw [List.map_append, List.map_singleton] at plan once
  have new : pending.target ∉ history.started.map PendingTarget.target := fun old =>
    (List.nodup_append.1 once).2.2 _ old _ (List.mem_singleton_self _) rfl
  have place : (plannedTargets engine.configuration types).idxOf pending.target =
      history.started.length := by
    rw [← plan, List.append_assoc, List.idxOf_append_of_notMem new, List.singleton_append,
      List.idxOf_cons_self, List.length_map, Nat.add_zero]
  rw [finishedBefore, place, ← smooth.remembered.length_finished smooth.prepared.serves room,
    ← plan, smooth.order.started, PassHistory.done]
  simp

/-- A target that is started finds its class delivered, or what was made for it in the cache, or it
gets a job. -/
theorem Delivers.start (delivers : Delivers types engine history run)
    (smooth : Smooth types engine history run) {pending : PendingTarget}
    (later : Smooth types engine { history with started := history.started ++ [pending] } next)
    (begins : run.pass.engine.Begins pending.target pending.state)
    (stores : run.pass.engine.SameStores next.pass.engine)
    (room : run.stage = .begun ∨ ∃ bean beans, run.stage = .generating (bean :: beans) ∧
      run.pass.inFlight.length ≠ run.pass.window)
    (separates : Digest.Separates (cachedTexts engine.configuration types)) :
    Delivers types engine { history with started := history.started ++ [pending] } next := by
  obtain ⟨created, stored, sound, -, -, results⟩ := delivers.quiet stores
  have same := smooth.order.configuration
  refine ⟨created, stored, sound, fun started member => ?_, fun started member => ?_, results⟩
  all_goals rcases List.mem_append.1 member with old | new
  · exact delivers.standing started old
  · rw [List.mem_singleton.1 new, begins.eq_alreadyGenerated_iff, delivers.created,
      smooth.finishedBefore_eq later room]
  · exact delivers.cached started old
  · rw [List.mem_singleton.1 new]
    intro artifact cached
    rw [cached] at begins
    cases begins with
    | cached _ found =>
        rw [← same] at separates ⊢
        have planned : pending.target ∈ plannedTargets run.pass.engine.configuration types :=
          same ▸ later.planned (by simp)
        exact delivers.sound.made_of_reusable? separates planned found

/-- What a target waits for is what is made for it. -/
theorem Delivers.artifactOf_eq (delivers : Delivers types engine history run)
    (order : Order engine history run) {pending : PendingTarget}
    (started : pending ∈ history.started) (waits : pending.state ≠ .alreadyGenerated)
    (received : ∀ job, pending.state = .running job → run.pass.engine.artifactOf pending.state =
      made run.pass.engine.configuration types pending.target) :
    run.pass.engine.artifactOf pending.state =
      made engine.configuration types pending.target := by
  cases state : pending.state with
  | alreadyGenerated => exact absurd state waits
  | cached artifact => exact (delivers.cached pending started artifact state).symm
  | running job => rw [← state, received job state, order.configuration]

/-- A target that waited has the result of its making. -/
theorem Delivers.plannedResult_eq (delivers : Delivers types engine history run)
    {pending : PendingTarget} (started : pending ∈ history.started)
    (waits : pending.state ≠ .alreadyGenerated) :
    plannedResult engine.configuration types pending.target =
      (made engine.configuration types pending.target).map
        fun _ => pending.target.className.qualified :=
  if_neg fun delivered => waits ((delivers.standing pending started).2 delivered)

/-- A target that brings no source may be finished. -/
theorem Delivers.pass (delivers : Delivers types engine history run) {oldest : PendingTarget}
    {result : Except Failure String} (stores : run.pass.engine.SameStores next.pass.engine)
    (standing : (delivered? engine.configuration types history.done
        oldest.target.className).isSome = true ∨
      ∃ failure, made engine.configuration types oldest.target = .error failure)
    (own : result = plannedResult engine.configuration types oldest.target) :
    Delivers types engine
      { history with finished := history.finished ++ [(oldest, result)] } next := by
  obtain ⟨created, stored, sound, begun, cached, results⟩ := delivers.quiet stores
  have done : PassHistory.done { history with finished := history.finished ++ [(oldest, result)] } =
      history.done ++ [oldest.target] := by
    simp [PassHistory.done]
  constructor
  case created =>
    intro className
    rw [done, delivered?_of_standing standing]
    exact created className
  case stored =>
    intro className text
    rw [done, delivered?_of_standing standing]
    exact stored className text
  case sound => exact sound
  case standing => exact begun
  case cached => exact cached
  case results =>
    intro entry member
    rcases List.mem_append.1 member with old | new
    · exact results entry old
    · rw [List.mem_singleton.1 new]
      exact own

/-- The first target of a class brings its source, and the sources of the other classes stay. -/
theorem Delivers.store (delivers : Delivers types engine history run)
    (smooth : Smooth types engine history run) {oldest : PendingTarget} {artifact : Artifact}
    (started : oldest ∈ history.started)
    (returned : made engine.configuration types oldest.target = .ok artifact)
    (free : run.pass.engine.sink.isCreated artifact.className = false)
    (same : run.pass.engine.SameRun next.pass.engine)
    (stores : Engine.Stores oldest.target artifact run.pass.engine next.pass.engine)
    (named : ∀ bean ∈ (types.survey ⟨engine.configuration.annotations.observes,
      engine.configuration.packages⟩).types, bean.package ≠ "")
    (own : .ok oldest.target.className.qualified =
      plannedResult engine.configuration types oldest.target) :
    Delivers types engine
      { history with finished := history.finished ++
        [(oldest, .ok oldest.target.className.qualified)] } next := by
  have configuration := smooth.order.configuration
  have planned := smooth.planned started
  have done : PassHistory.done { history with finished := history.finished ++
      [(oldest, .ok oldest.target.className.qualified)] } = history.done ++ [oldest.target] := by
    simp [PassHistory.done]
  have absent : delivered? engine.configuration types history.done artifact.className = none := by
    rw [← Option.not_isSome_iff_eq_none, ← delivers.created, free]
    exact Bool.false_ne_true
  constructor
  case created =>
    intro className
    rw [done, delivered?_of_free returned absent, stores.isCreated_iff, delivers.created]
    split
    case isTrue first => exact iff_of_true (.inl first) rfl
    case isFalse other => exact or_iff_right other
  case stored =>
    intro className text
    rw [done, delivered?_of_free returned absent]
    split
    case isTrue first =>
      rintro ⟨⟩
      exact first ▸ stores.own
    case isFalse other =>
      intro delivered
      -- The other sources stay, since no two planned targets share a class or a path.
      obtain ⟨earlier, finished, product⟩ := exists_of_delivered? delivered
      obtain ⟨ofClass, declared⟩ := isDeclared_of_made product
      refine stores.others className text declared.className other (fun default simple => ?_)
        (delivers.stored className text delivered)
      obtain ⟨entry, member, rfl⟩ := List.mem_map.1 finished
      have inPlan := smooth.planned (smooth.order.started_of_finished member)
      have simple : entry.1.target.className.simple = oldest.target.className.simple := by
        rw [← ofClass]
        exact simple
      have target := eq_of_default_package named inPlan planned default simple
      exact other (ofClass.trans (target ▸ (isDeclared_of_made returned).1.symm))
  case sound =>
    have sound := delivers.sound
    exact sound.takes same stores.toTakes (configuration ▸ planned) (configuration ▸ returned)
  case standing => exact delivers.standing
  case cached => exact delivers.cached
  case results =>
    intro entry member
    rcases List.mem_append.1 member with old | new
    · exact delivers.results entry old
    · rw [List.mem_singleton.1 new]
      exact own

/-- A target that is finished has its planned result. -/
theorem Delivers.finish (delivers : Delivers types engine history run)
    (smooth : Smooth types engine history run) {oldest : PendingTarget}
    {result : Except Failure String}
    (inFlight : run.pass.inFlight = oldest :: next.pass.inFlight)
    (received : ∀ job, oldest.state = .running job → run.pass.engine.artifactOf oldest.state =
      made run.pass.engine.configuration types oldest.target)
    (finishes : Engine.Finishes oldest run.pass.engine next.pass.engine result)
    (named : ∀ bean ∈ (types.survey ⟨engine.configuration.annotations.observes,
      engine.configuration.packages⟩).types, bean.package ≠ "") :
    Delivers types engine
      { history with finished := history.finished ++ [(oldest, result)] } next := by
  have started : oldest ∈ history.started :=
    smooth.order.started_of_inFlight (by rw [inFlight]; exact .head _)
  have own (waits : oldest.state ≠ .alreadyGenerated) :=
    delivers.artifactOf_eq smooth.order started waits received
  have planned (waits : oldest.state ≠ .alreadyGenerated) :=
    delivers.plannedResult_eq started waits
  cases finishes with
  | standing created held agrees =>
      refine delivers.pass agrees.sameStores (.inl ((delivers.created _).1 created)) ?_
      by_cases waits : oldest.state = .alreadyGenerated
      case pos => exact (if_pos ((delivers.standing oldest started).1 waits)).symm
      case neg =>
        obtain ⟨artifact, returned⟩ := held.resolve_left waits
        rw [planned waits, ← own waits, returned]
        rfl
  | failed waits failed agrees =>
      rw [own waits] at failed
      refine delivers.pass agrees.sameStores (.inr ⟨_, failed⟩) ?_
      rw [planned waits, failed]
      rfl
  | stored waits returned _ free same _ stores =>
      rw [own waits] at returned
      refine delivers.store smooth started returned free same
        (stores (isDeclared_of_made returned).2) named ?_
      rw [planned waits, returned]
      rfl

/-- A smooth run with a sound cache delivers what was planned. -/
theorem Smooth.delivers (smooth : Smooth types engine history run)
    (fresh : engine.sink.reservations = {}) (sound : engine.HasSoundCache types)
    (separates : Digest.Separates (cachedTexts engine.configuration types))
    (named : ∀ bean ∈ (types.survey ⟨engine.configuration.annotations.observes,
      engine.configuration.packages⟩).types, bean.package ≠ "") :
    Delivers types engine history run := by
  refine smooth.induction (motive := Delivers types engine) ?_ ?_
  · constructor
    case created =>
      simp [begin, Sink.isCreated, Reservations.isReserved, fresh, delivered?, PassHistory.done]
    case stored =>
      intro className text own
      cases own
    case sound => exact sound
    case standing | cached | results => exact List.forall_mem_nil _
  · intro history after run next before later advance delivers
    cases advance with
    | quiet _ stores => exact delivers.quiet stores
    | start pending _ begins stores room =>
        exact delivers.start before later begins stores room separates
    | finish inFlight received finishes =>
        exact delivers.finish before inFlight received finishes named

/-- With a sound cache, a pass reports the planned results, and its sink has the first source of
each class that was made for a planned target. -/
theorem Ends.delivers (ends : Ends types engine run) (prepared : engine.Prepared types)
    (fresh : engine.sink.reservations = {}) (sound : engine.HasSoundCache types)
    (separates : Digest.Separates (cachedTexts engine.configuration types))
    (named : ∀ bean ∈ (types.survey ⟨engine.configuration.annotations.observes,
      engine.configuration.packages⟩).types, bean.package ≠ "") :
    run.pass.report = {
      outcomes := (plannedTargets engine.configuration types).map fun target =>
        (target, plannedResult engine.configuration types target)
      scanWarnings := plannedWarnings engine.configuration types } ∧
    run.pass.engine.configuration = engine.configuration ∧
    run.pass.engine.HasSoundCache types ∧
    ∀ className, run.source? className = delivered? engine.configuration types
      (plannedTargets engine.configuration types) className := by
  obtain ⟨history, smooth⟩ := ends.exists_smooth prepared
  have delivers := smooth.delivers fresh sound separates named
  refine ⟨smooth.report_eq ends.finished delivers.results, smooth.order.configuration,
    delivers.sound, fun className => ?_⟩
  rw [← smooth.done_eq ends.finished]
  refine Option.ext fun text => ⟨fun held => ?_, delivers.stored className text⟩
  have committed := (Sink.stored?_eq_some_iff.1 held).1
  have created := smooth.steady.prepared.tidy.committed className committed
  obtain ⟨other, delivered⟩ := Option.isSome_iff_exists.1 ((delivers.created className).1 created)
  rw [delivered, ← delivers.stored className other delivered]
  exact held

/-- An engine starts whatever its files and its sink hold, and whether or not it uses its cache. -/
theorem exists_start_reusing {source : UniverseSource} {files : Files} {sink : Sink}
    (started : Engine.start configuration source files sink = .ok engine)
    (otherSource : UniverseSource) (left : Files) (otherSink : Sink) :
    ∃ other, Engine.start { configuration with reuseCachedArtifacts := true } otherSource left
      otherSink = .ok other := by
  simp only [Engine.start, bind_eq_ok_iff, check_eq_ok_iff, mapError_eq_ok_iff] at started ⊢
  obtain ⟨_, accepted, small, scheduler, created, -⟩ := started
  exact ⟨_, (), accepted, small, scheduler, created, rfl⟩

/-- A second engine that uses the cache of a first one, which had no entry for the planned targets
before, starts and comes to the end of its pass. It ends with the report of the first one, and its
sink has the same source for each class. The universe may be any in which no scanned bean is without
a package, as none is among the types in memory or in a directory. -/
theorem reuse_eq_clean {source : UniverseSource} (otherSource : UniverseSource)
    {files left : Files} {sink : Sink} (otherSink : Sink)
    (started : Engine.start configuration source files sink = .ok engine)
    (fresh : sink.reservations = {}) (alsoFresh : otherSink.reservations = {})
    (named : ∀ bean ∈ (types.survey ⟨configuration.annotations.observes,
      configuration.packages⟩).types, bean.package ≠ "")
    (uncached : ∀ target ∈ plannedTargets configuration types, ∀ part,
      engine.cache.part? files target part = none)
    (ends : Ends types engine run)
    (kept : ∀ target ∈ plannedTargets configuration types, ∀ part,
      engine.cache.part? left target part =
        engine.cache.part? run.pass.engine.files target part)
    (separates : Digest.Separates (cachedTexts configuration types)) :
    ∃ other, Engine.start { configuration with reuseCachedArtifacts := true } otherSource left
        otherSink = .ok other ∧
      (∀ next, Reachable other next →
        ∃ actions last, next.run? actions = some last ∧ last.stage = .finished) ∧
      ∀ next, Ends types other next →
        next.pass.report = run.pass.report ∧
          ∀ className, next.source? className = run.source? className := by
  have prepared : engine.Prepared types := .start started fresh
  obtain ⟨other, alsoStarted⟩ := exists_start_reusing started otherSource left otherSink
  have alsoPrepared : other.Prepared types := .start alsoStarted alsoFresh
  obtain ⟨-, scheduler, -, first⟩ := Engine.start_eq_ok started
  obtain ⟨-, otherScheduler, -, second⟩ := Engine.start_eq_ok alsoStarted
  have own : engine.configuration = configuration := by rw [first]
  have configuration : other.configuration = { configuration with reuseCachedArtifacts := true } :=
    by rw [second]
  have initial : engine.files = files := by rw [first]
  have inherited : other.files = left := by rw [second]
  have cache : other.cache = engine.cache := by rw [second, first]
  subst own
  have empty : engine.HasSoundCache types := .of_uncached fun target planned part => by
    rw [Engine.cached?, initial]
    exact uncached target planned part
  obtain ⟨report, same, sound, stored⟩ :=
    ends.delivers prepared (by rw [first]; exact fresh) empty separates named
  -- What the first pass cached was made of the same types, so the second may use it.
  have alsoSound : other.HasSoundCache types := by
    rw [← same] at kept configuration
    refine sound.congr (by rw [configuration]; rfl) (by rw [configuration]; rfl)
      fun target planned part => ?_
    rw [Engine.cached?, Engine.cached?, cache, inherited, ends.reached.source_and_cache_eq.2]
    exact kept target planned part
  have fits : other.configuration.maxPendingJobs ≤ GenerationPass.maximalWindow :=
    configuration ▸ ends.fits prepared.serves
  refine ⟨other, alsoStarted, fun next reached => reached.exists_finished alsoPrepared.serves fits,
    fun next alsoEnds => ?_⟩
  obtain ⟨alsoReport, -, -, alsoStored⟩ := alsoEnds.delivers alsoPrepared
    (by rw [second]; exact alsoFresh) alsoSound (configuration ▸ separates) (configuration ▸ named)
  rw [configuration] at alsoReport alsoStored
  exact ⟨alsoReport.trans report.symm, fun className =>
    (alsoStored className).trans (stored className).symm⟩

/-- The crowded method fails the one bean, and so the loader alone is cached. -/
def crowdedBean : List TypeDeclaration :=
  [⟨"shop.Orders", .classType, [⟨"Observes", .empty, false⟩], [crowded]⟩]

/-- The bean that failed fails in the second engine as well, which takes the loader from the cache
of the first one. -/
theorem crowdedBean_reused : ∃ engine run other next,
    Engine.start reusing (.memory (.ofTypes crowdedBean)) {} .memory = .ok engine ∧
      Ends (MemoryUniverse.ofTypes crowdedBean).toUniverse engine run ∧
      run.pass.report.failures = [crowdedFailure] ∧
      Engine.start reusing (.memory (.ofTypes crowdedBean)) run.pass.engine.files .memory =
        .ok other ∧
      Ends (MemoryUniverse.ofTypes crowdedBean).toUniverse other next ∧
      next.pass.report = run.pass.report ∧
      ∀ className, next.source? className = run.source? className := by
  obtain ⟨engine, starts⟩ := Option.isSome_iff_exists.1 (show (Engine.start reusing
    (.memory (.ofTypes crowdedBean)) {} .memory).toOption.isSome = true by decide +kernel)
  have started := toOption_eq_some_iff.1 starts
  obtain ⟨run, undisturbed, -⟩ := exists_undisturbed started (by decide)
  have first := undisturbed.ends
  have fails : plannedFailures reusing (MemoryUniverse.ofTypes crowdedBean).toUniverse =
      [crowdedFailure] := by
    decide +kernel
  obtain ⟨other, alsoStarted, -, agrees⟩ := reuse_eq_clean
    (.memory (.ofTypes crowdedBean)) .memory started rfl rfl
    (fun _ member => (VisibleTypes.inserted crowdedBean).package_ne_empty member)
    (fun _ _ _ => Files.content?_empty _) first (fun _ _ _ => rfl) (by decide +kernel)
  obtain ⟨-, scheduler, -, same⟩ := Engine.start_eq_ok alsoStarted
  have fits : reusing.maxPendingJobs ≤ GenerationPass.maximalWindow := by decide
  obtain ⟨next, second⟩ := exists_ends (.start alsoStarted) (by rw [same]; exact fits)
    (Engine.tasks_of_start alsoStarted ▸ Nat.zero_le 1) (.of_source fun files => by rw [same]; rfl)
    (by rw [same]; rfl)
  exact ⟨engine, run, other, next, started, first,
    (undisturbed.failures_eq (by decide +kernel)).trans fails, alsoStarted, second,
    agrees next second⟩

end PassRun

end BusBridge
