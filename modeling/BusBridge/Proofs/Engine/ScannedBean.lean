/-
This file proves which declaration of a scanned bean its subscriptions are synthesized from: the
first of its name, which is the scanned one exactly when it carries the observes annotation.
-/

import BusBridge.Proofs.Engine.Pipeline
import BusBridge.Proofs.Java.SourceLexemes
import BusBridge.Proofs.Model.Build
import BusBridge.Proofs.Scan.Faults
import BusBridge.Proofs.Scan.InMemory
import BusBridge.Proofs.Synthesis.Loader
import BusBridge.Proofs.Synthesis.ObserverClass
import BusBridge.Universe.Directory

namespace BusBridge

open Java (CompilationUnit Literal Statement)

namespace DirectoryUniverse

/-- A type in another package than its directory is refused. -/
theorem package_of_readDescriptor {files : Files} {package path : String}
    {declaration : TypeDeclaration}
    (described : readDescriptor files package path = .ok declaration) :
    declaration.package = package := by
  rw [readDescriptor] at described
  split at described
  case h_1 => cases described
  case h_2 =>
    split at described
    case h_1 => cases described
    case h_2 =>
      split at described
      case isFalse => cases described
      case isTrue placed =>
        cases described
        exact placed

/-- A universe in a directory shows each type in its own package. -/
theorem isPlaced (visible : DirectoryUniverse) (files : Files) :
    (visible.toUniverse files).IsPlaced := by
  intro package declarations read declaration member
  simp only [toUniverse, typesIn] at read
  split at read
  case isTrue => cases read
  case isFalse =>
    split at read
    case h_1 => cases read
    case h_2 =>
      obtain ⟨name, -, described⟩ := exists_of_mem_mapM read declaration member
      exact package_of_readDescriptor described

/-- A directory below another one adds its name to the package. -/
theorem ne_empty_of_mem_packagesBelow {files : Files} {depth : Nat}
    {package directory other : String} (named : package ≠ "")
    (member : other ∈ packagesBelow files depth package directory) : other ≠ "" := by
  induction depth generalizing package directory with
  | zero =>
      rw [packagesBelow, List.mem_singleton] at member
      exact member ▸ named
  | succ depth ih =>
      rw [packagesBelow, List.mem_cons, List.mem_flatMap] at member
      rcases member with rfl | ⟨⟨child, childDirectory⟩, inside, below⟩
      · exact named
      · refine ih (fun default => ?_) below
        unfold childPackages at inside
        split at inside
        case h_1 => cases inside
        case h_2 =>
          obtain ⟨name, -, joined⟩ := List.mem_map.1 inside
          have dotted := congrArg (String.toList ∘ Prod.fst) joined
          simp [default] at dotted

end DirectoryUniverse

/-- Types that were inserted into memory, or that lie in the files of a directory. -/
inductive VisibleTypes where
  | inserted (declarations : List TypeDeclaration)
  | stored (directory : DirectoryUniverse) (files : Files)

namespace VisibleTypes

def toUniverse : VisibleTypes → Universe
  | .inserted declarations => (MemoryUniverse.ofTypes declarations).toUniverse
  | .stored directory files => directory.toUniverse files

/-- The universes of an engine show each type in its own package. -/
theorem isPlaced (visible : VisibleTypes) : visible.toUniverse.IsPlaced := by
  cases visible with
  | inserted declarations => exact MemoryUniverse.isPlaced_ofTypes declarations
  | stored directory files => exact directory.isPlaced files

/-- No type of the default package is found. -/
theorem package_ne_empty (visible : VisibleTypes) {request : ScanRequest}
    {found : TypeDeclaration} (member : found ∈ (visible.toUniverse.survey request).types) :
    found.package ≠ "" := by
  cases visible with
  | inserted declarations =>
      obtain ⟨-, -, packagePrefix, -, covers⟩ :=
        (MemoryUniverse.shows_ofTypes declarations).of_mem_types_survey member
      exact ne_empty_of_covers covers
  | stored directory files =>
      obtain ⟨package, visited, offered⟩ := Universe.offered_of_mem_survey member
      obtain ⟨types, read, inside, -⟩ := ScanStop.mem_offered_package_iff.1 offered
      rw [directory.isPlaced files package types read found inside]
      obtain ⟨packagePrefix, -, packages, listed, inPackages⟩ :=
        Universe.mem_packagesOn_iff.1 visited
      obtain ⟨qualified, listed⟩ := Scanner.packagesOf_eq_ok_iff.1 listed
      have named : packagePrefix ≠ "" := by
        rintro rfl
        exact absurd qualified (by decide)
      simp only [toUniverse, DirectoryUniverse.toUniverse, DirectoryUniverse.packagesUnder]
        at listed
      split at listed
      case isTrue =>
        cases listed
        exact DirectoryUniverse.ne_empty_of_mem_packagesBelow named inPackages
      case isFalse => cases listed

end VisibleTypes

namespace Universe

variable {visible : Universe} {request : ScanRequest} {found : TypeDeclaration}

/-- A type that is found in a package is one that it declares. -/
theorem exists_of_find?_typesOf {package : String} {holds : TypeDeclaration → Bool}
    (first : (visible.typesOf package).find? holds = some found) :
    ∃ declarations, visible.typesIn package = .ok declarations ∧
      declarations.find? holds = some found := by
  rw [typesOf] at first
  cases read : visible.typesIn package with
  | error failure => rw [read] at first; cases first
  | ok declarations => exact ⟨declarations, rfl, by rwa [read] at first⟩

/-- A package offers those of its types that carry the marker. -/
theorem offered_eq_filter (visible : Universe) (marker package : String) :
    (ScanStop.package package).offered visible marker =
      (visible.typesOf package).filter (·.carries marker) := by
  rw [ScanStop.offered, Scanner.packageEntry, typesOf]
  cases visible.typesIn package <;> rfl

/-- A type that is found is the first of its name in its package among those with the marker. -/
theorem IsPlaced.find?_of_mem_survey (placed : visible.IsPlaced)
    (member : found ∈ (visible.survey request).types) :
    (visible.typesOf found.package).find? (fun other =>
      other.carries request.marker && other.name == found.name) = some found := by
  simp only [types_survey, offered_eq_filter, ← List.filter_flatMap] at member
  have first := find?_of_mem_firstsBy member
  rw [List.find?_flatMap] at first
  obtain ⟨package, -, first⟩ := List.exists_of_findSome?_eq_some first
  obtain ⟨declarations, read, listed⟩ := exists_of_find?_typesOf first
  rwa [placed package declarations read found (List.mem_of_find?_eq_some listed)]

end Universe

namespace TypeDeclaration

variable {declaration : TypeDeclaration} {marker : String}

/-- Some method has a parameter with the annotation. -/
def marksParameter (declaration : TypeDeclaration) (marker : String) : Bool :=
  declaration.methods.any fun method =>
    method.parameters.any fun parameter => annotated parameter.annotations marker

/-- A type with a marked parameter carries the marker. -/
theorem carries_of_marksParameter (marks : declaration.marksParameter marker = true) :
    declaration.carries marker = true := by
  obtain ⟨method, inside, marked⟩ := List.any_eq_true.1 marks
  rw [carries, Bool.or_eq_true]
  exact .inr (List.any_eq_true.2 ⟨method, inside, by simp [marked]⟩)

end TypeDeclaration

/-- A model marks the parameters that its declaration marks. -/
theorem TypeModel.Mirrors.marksParameter {type : TypeModel} {declaration : TypeDeclaration}
    (mirrors : type.Mirrors declaration) (marker : String) :
    (type.methods.any fun method =>
        method.parameters.any fun parameter => annotated parameter.annotations marker) =
      declaration.marksParameter marker := by
  have marked : type.methods.map (fun method => method.parameters.map ParameterModel.annotations) =
      declaration.methods.map fun method =>
        method.parameters.map ParameterDeclaration.annotations :=
    map_eq_of_forall₂ mirrors.methods fun _ _ method =>
      map_eq_of_forall₂ method.parameters fun _ _ parameter => parameter.annotations
  have same := congrArg (·.any (·.any (annotated · marker))) marked
  simpa only [TypeDeclaration.marksParameter, List.any_map, Function.comp_def] using same

namespace Synthesis

variable {configuration : Configuration} {bean : TypeModel} {declaration : TypeDeclaration}
  {className : ClassName} {artifact : Artifact} {point : InjectionPoint} {statement : Statement}

/-- A model has a point to subscribe exactly when its declaration marks a parameter. -/
theorem points_eq_nil_iff (mirrors : bean.Mirrors declaration) :
    configuration.registry.points bean = [] ↔
      declaration.marksParameter configuration.annotations.observes = false := by
  rw [← mirrors.marksParameter, Bool.eq_false_iff]
  simp only [DecoratorRegistry.points, List.flatMap_eq_nil_iff, List.map_eq_nil_iff,
    List.filter_eq_nil_iff, Configuration.registry, DecoratorRegistry.contains_standard_iff,
    annotated, List.any_eq_true, beq_iff_eq, ne_eq, not_exists, not_and]
  rfl

/-- A subscription names its event in the first of its literals. -/
theorem literals_subscriptionStatement (point : InjectionPoint) (context : SynthesisContext) :
    (subscriptionStatement point context).literals =
      .text (eventSubject context.bus.subjectPrefix point.parameter.type.erasure) ::
        point.parameter.qualifiers.names.map Literal.text := by
  have added : ∀ names : List String, ∀ rest : List Statement,
      Statement.allLiterals (names.map addQualifier ++ rest) =
        names.map Literal.text ++ Statement.allLiterals rest := by
    intro names rest
    induction names with
    | nil => rfl
    | cons name others ih =>
        simp only [List.map_cons, List.cons_append, Statement.allLiterals, ih]
        simp [addQualifier, methodQualifiers, Java.Expression.text, Statement.literals,
          Java.Expression.literals, Java.Expression.allLiterals]
  simp [subscriptionStatement, Java.Expression.text, Java.Method.overriding, callbackBody,
    Statement.declareFinal, added, envelopeEntry, qualifiersAgree, methodQualifiers,
    messageQualifiers, deliverPayload, Statement.literals, Statement.allLiterals,
    Java.Method.literals, Java.Method.allLiterals, Java.Expression.literals,
    Java.Expression.allLiterals]

/-- The class of a bean, with one subscription for each of its points. -/
def subscribingUnit (configuration : Configuration) (className : ClassName) (bean : TypeModel) :
    CompilationUnit :=
  observerUnit className bean configuration.context
    ((configuration.registry.points bean).map (subscriptionStatement · configuration.context))

/-- The source of a bean is its class, written. -/
theorem write_of_generateObserver
    (generated : generateObserver className bean configuration.registry configuration.context =
      .ok artifact) :
    (subscribingUnit configuration className bean).write bean.name = .ok artifact.source := by
  obtain ⟨unit, synthesized, generated⟩ := bind_eq_ok_iff.1 generated
  obtain ⟨source, written, same⟩ := bind_eq_ok_iff.1 generated
  obtain ⟨statements, decorated, made⟩ := bind_eq_ok_iff.1 synthesized
  cases same
  cases made
  have subscriptions : ∀ point statement, configuration.registry.decorate point
      configuration.context = .ok statement →
        statement = subscriptionStatement point configuration.context := fun _ _ made =>
    ((DecoratorRegistry.observesOnly_standard _).accepted_of_decorate made).2
  rwa [eq_map_of_mapM subscriptions decorated] at written

/-- Where there is no point, no decorator is asked, and only the names may be refused. -/
theorem generateObserver_of_points_eq_nil
    (pointless : configuration.registry.points bean = []) :
    generateObserver className bean configuration.registry configuration.context =
      ((subscribingUnit configuration className bean).write bean.name).map (⟨className, ·⟩) := by
  rw [generateObserver, synthesizeObserver, subscribingUnit, pointless]
  rfl

/-- Each point of a bean has a subject and the names of its qualifiers. -/
theorem literals_subscribingUnit :
    (subscribingUnit configuration className bean).literals =
      (configuration.registry.points bean).flatMap fun point =>
        .text (eventSubject configuration.bus.subjectPrefix point.parameter.type.erasure) ::
          point.parameter.qualifiers.names.map Literal.text := by
  have all : ∀ points : List InjectionPoint,
      Statement.allLiterals (points.map (subscriptionStatement · configuration.context)) =
        points.flatMap fun point =>
          (subscriptionStatement point configuration.context).literals := by
    intro points
    induction points with
    | nil => rfl
    | cons point rest ih => rw [List.map_cons, Statement.allLiterals, ih, List.flatMap_cons]
  have inside : (subscribingUnit configuration className bean).literals =
      Statement.allLiterals ((configuration.registry.points bean).map
        (subscriptionStatement · configuration.context)) :=
    (List.append_nil _).trans (List.append_nil _)
  simp only [inside, all, literals_subscriptionStatement]
  rfl

/-- The source of a bean's class shows whether the class subscribes anything. -/
theorem read_subscribingUnit {owner source : String}
    (written : (subscribingUnit configuration className bean).write owner = .ok source) :
    ∃ read, Java.readSource source = some read ∧
      (read.filterMap Java.Lexeme.text? = [] ↔ configuration.registry.points bean = []) := by
  have texts : ∀ value ∈ (subscribingUnit configuration className bean).literals,
      value.IsSingleUnit := by
    rintro value member character rfl
    simp [literals_subscribingUnit] at member
  obtain ⟨read, taken, back⟩ := CompilationUnit.exists_lexemes written texts
  refine ⟨read, taken, ?_⟩
  rw [back.texts, literals_subscribingUnit, List.map_eq_nil_iff, List.filterMap_flatMap,
    List.flatMap_eq_nil_iff, List.eq_nil_iff_forall_not_mem]
  simp [Literal.text?]

end Synthesis

namespace Pipeline

variable {configuration : Configuration} {declaration first found : TypeDeclaration}
  {types : Universe} {artifact : Artifact}

/-- Where one declaration of a bean subscribes nothing, another one gives the same class exactly
when it subscribes nothing either. -/
theorem subscriptionsOf_eq_iff_of_silent (named : first.name = found.name)
    (made : subscriptionsOf configuration first = .ok artifact)
    (silent : first.marksParameter configuration.annotations.observes = false) :
    subscriptionsOf configuration found = .ok artifact ↔
      (∃ model, configuration.builder.build .observerSubscription found = .ok model) ∧
        found.marksParameter configuration.annotations.observes = false := by
  obtain ⟨model, built, generated⟩ := subscriptionsOf_eq_ok_iff.1 made
  have mirrors := ModelBuilder.mirrors_build built
  have pointless := (Synthesis.points_eq_nil_iff mirrors).2 silent
  have written := Synthesis.write_of_generateObserver generated
  rw [subscriptionsOf_eq_ok_iff]
  constructor
  · rintro ⟨other, builtOther, generatedOther⟩
    have again := Synthesis.write_of_generateObserver generatedOther
    obtain ⟨read, taken, empty⟩ := Synthesis.read_subscribingUnit written
    obtain ⟨reread, retaken, emptyOther⟩ := Synthesis.read_subscribingUnit again
    obtain rfl : read = reread := Option.some.inj (taken.symm.trans retaken)
    exact ⟨⟨other, builtOther⟩,
      (Synthesis.points_eq_nil_iff (ModelBuilder.mirrors_build builtOther)).1
        (emptyOther.1 (empty.2 pointless))⟩
  · rintro ⟨⟨other, builtOther⟩, silentOther⟩
    have mirrorsOther := ModelBuilder.mirrors_build builtOther
    have pointlessOther := (Synthesis.points_eq_nil_iff mirrorsOther).2 silentOther
    refine ⟨other, builtOther, ?_⟩
    rw [← generated, Synthesis.generateObserver_of_points_eq_nil pointless,
      Synthesis.generateObserver_of_points_eq_nil pointlessOther, Synthesis.subscribingUnit,
      Synthesis.subscribingUnit, pointless, pointlessOther, Synthesis.observerUnit,
      Synthesis.observerUnit, TypeModel.sourceName, TypeModel.sourceName, mirrors.name,
      mirrorsOther.name, named]

/-- When the pipeline of a scanned bean returns a class, the class is synthesized from the first
declaration of the bean's name. It is the class of the scanned declaration exactly when that first
one carries the observes annotation, or when neither of them subscribes anything. -/
theorem returned_for_scanned_iff (visible : VisibleTypes) (configuration : Configuration)
    (calls : List Scanner.Call) (scanner : Scanner) {found : TypeDeclaration} {artifact : Artifact}
    (member : found ∈ ((Scanner.after visible.toUniverse calls).scan visible.toUniverse
      ⟨configuration.annotations.observes, configuration.packages⟩).1.types)
    (returned : (ofTarget configuration visible.toUniverse (.observer found.name) scanner).result =
      .returned artifact) :
    ∃ declarations first,
      visible.toUniverse.typesIn found.package = .ok declarations ∧
      declarations.find? (·.name == found.name) = some first ∧
      subscriptionsOf configuration first = .ok artifact ∧
      (first = found ↔ first.carries configuration.annotations.observes = true) ∧
      (subscriptionsOf configuration found = .ok artifact ↔
        first.carries configuration.annotations.observes = true ∨
          (∃ model, configuration.builder.build .observerSubscription found = .ok model) ∧
            found.marksParameter configuration.annotations.observes = false) := by
  rw [Scanner.scan_after] at member
  obtain ⟨first, earliest, same⟩ :=
    exists_find?_of_find?_and (visible.isPlaced.find?_of_mem_survey member)
  have named : first.name = found.name := by simpa using List.find?_some earliest
  have made : subscriptionsOf configuration first = .ok artifact := by
    rw [result_observer_eq scanner earliest] at returned
    exact eq_ok_of_ending returned
  obtain ⟨declarations, read, listed⟩ := Universe.exists_of_find?_typesOf earliest
  refine ⟨declarations, first, read, listed, made, same, ?_⟩
  by_cases carried : first.carries configuration.annotations.observes = true
  · exact iff_of_true (same.2 carried ▸ made) (.inl carried)
  · have silent : first.marksParameter configuration.annotations.observes = false :=
      Bool.eq_false_iff.2 (mt TypeDeclaration.carries_of_marksParameter carried)
    rw [subscriptionsOf_eq_iff_of_silent named made silent]
    exact (or_iff_right carried).symm

/-- The configuration that gives nothing but a package. -/
def plainConfiguration : Configuration := { packages := ["com.example"] }

/-- The bean observes an event in a parameter. -/
def observingOrders : TypeDeclaration where
  name := "com.example.Orders"
  kind := .classType
  annotations := []
  methods := [{
    name := "placed"
    returnType := "void"
    annotations := []
    parameters := [{
      name := some "order"
      type := "com.example.Order"
      annotations := [⟨plainConfiguration.annotations.observes, .empty, false⟩] }] }]

/-- Another type with the name of the bean. -/
def plainOrders : TypeDeclaration :=
  ⟨"com.example.Orders", .classType, [], []⟩

/-- A computed class of subscriptions exists. -/
theorem exists_subscriptionsOf (declaration : TypeDeclaration)
    (made : (subscriptionsOf plainConfiguration declaration).isOk = true) :
    ∃ artifact, subscriptionsOf plainConfiguration declaration = .ok artifact := by
  cases outcome : subscriptionsOf plainConfiguration declaration with
  | error failure => rw [outcome] at made; cases made
  | ok artifact => exact ⟨artifact, rfl⟩

/-- The annotated type is the first one, and the other one changes nothing. -/
theorem returned_for_annotated_first :
    let visible := (VisibleTypes.inserted [observingOrders, plainOrders]).toUniverse
    ∃ artifact,
      observingOrders ∈ ((Scanner.after visible []).scan visible
        ⟨plainConfiguration.annotations.observes, plainConfiguration.packages⟩).1.types ∧
      (ofTarget plainConfiguration visible (.observer observingOrders.name) {}).result =
        .returned artifact ∧
      subscriptionsOf plainConfiguration observingOrders = .ok artifact := by
  intro visible
  obtain ⟨artifact, made⟩ := exists_subscriptionsOf observingOrders (by decide +kernel)
  have member : observingOrders ∈ ((Scanner.after visible []).scan visible
      ⟨plainConfiguration.annotations.observes, plainConfiguration.packages⟩).1.types := by
    decide +kernel
  have earliest : (visible.typesOf "com.example").find? (·.name == "com.example.Orders") =
      some observingOrders := by
    decide +kernel
  have returned : (ofTarget plainConfiguration visible (.observer observingOrders.name) {}).result =
      .returned artifact :=
    (result_observer_eq {} earliest).trans (congrArg ending made)
  have whole : visible.typesIn "com.example" = .ok [observingOrders, plainOrders] := by
    decide +kernel
  obtain ⟨declarations, first, read, listed, -, -, scanned⟩ :=
    returned_for_scanned_iff (.inserted [observingOrders, plainOrders]) plainConfiguration [] {}
      member returned
  obtain rfl := Except.ok.inj (whole.symm.trans read)
  obtain rfl : observingOrders = first := Option.some.inj listed
  exact ⟨artifact, member, returned, scanned.2 (.inl (by decide +kernel))⟩

/-- The scan finds the annotated type behind the other one, but the class that is returned for it
is the other one's, which subscribes nothing. -/
theorem returned_for_annotated_second :
    let visible := (VisibleTypes.inserted [plainOrders, observingOrders]).toUniverse
    plainConfiguration.validate = .ok () ∧
    observingOrders ∈ (({} : Scanner).scan visible
      ⟨plainConfiguration.annotations.observes, plainConfiguration.packages⟩).1.types ∧
    ∃ artifact,
      (ofTarget plainConfiguration visible (.observer observingOrders.name) {}).result =
        .returned artifact ∧
      subscriptionsOf plainConfiguration observingOrders ≠ .ok artifact := by
  intro visible
  obtain ⟨artifact, made⟩ := exists_subscriptionsOf plainOrders (by decide +kernel)
  have earliest : (visible.typesOf "com.example").find? (·.name == "com.example.Orders") =
      some plainOrders := by
    decide +kernel
  refine ⟨Configuration.validate_package, by decide +kernel, artifact,
    (result_observer_eq {} earliest).trans (congrArg ending made), fun same => ?_⟩
  have named : plainOrders.name = observingOrders.name := rfl
  obtain ⟨-, silent⟩ :=
    (subscriptionsOf_eq_iff_of_silent named made (by decide +kernel)).1 same
  exact absurd silent (by decide +kernel)

end Pipeline

end BusBridge
