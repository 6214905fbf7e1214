/-
This file says what a scan finds without saying how a scanner remembers what it read, and proves
that a scanner whose entries report its universe finds just that.
-/

import BusBridge.Proofs.NameMap
import BusBridge.Proofs.Scan.Firsts
import BusBridge.Scan.Scanner

namespace BusBridge

/-- A scan stops at each package of a prefix, or at a prefix that offers no packages. -/
inductive ScanStop where
  | refusal (text : String) (failure : ScanFailure)
  | package (name : String)

namespace ScanStop

def package? : ScanStop → Option String
  | .refusal .. => none
  | .package name => some name

/-- A refusal is no package. -/
@[simp] theorem package?_refusal (text : String) (failure : ScanFailure) :
    (refusal text failure).package? = none := rfl

/-- A package stop is that of its package. -/
@[simp] theorem package?_package (name : String) : (package name).package? = some name := rfl

variable (visible : Universe) (marker : String)

/-- What a stop is passed over for, if it is passed over. -/
def skip? : ScanStop → Option ScanSkip
  | .refusal text failure => some (.wholePrefix text failure)
  | .package name =>
      match Scanner.packageEntry visible name with
      | .ok _ => none
      | .error failure => some (.onePackage name failure)

/-- The types of a stop that carry the marker. -/
def offered : ScanStop → List TypeDeclaration
  | .refusal .. => []
  | .package name =>
      match Scanner.packageEntry visible name with
      | .ok declarations => declarations.filter (·.carries marker)
      | .error _ => []

end ScanStop

namespace Universe

def stopsOf (visible : Universe) (packagePrefix : String) : List ScanStop :=
  match Scanner.packagesOf visible packagePrefix with
  | .error failure => [.refusal packagePrefix failure]
  | .ok packages => packages.map .package

/-- The stops at all prefixes in their order, where no package is visited again. -/
def route (visible : Universe) (prefixes : List String) : List ScanStop :=
  firstsBy ScanStop.package? [] (prefixes.flatMap visible.stopsOf)

/-- The marked types on the route, by the first of each name, and the stops passed over. -/
def survey (visible : Universe) (request : ScanRequest) : ScanOutcome where
  types := firstsBy (fun declaration : TypeDeclaration => some declaration.name) []
    ((visible.route request.prefixes).flatMap (ScanStop.offered visible request.marker))
  skips := (visible.route request.prefixes).filterMap (ScanStop.skip? visible)

end Universe

namespace ScanOutcome

/-- An outcome that goes on with more types, of which it takes those with new names. -/
def extend (outcome : ScanOutcome) (types : List TypeDeclaration) (skips : List ScanSkip) :
    ScanOutcome where
  types := outcome.types ++
    firstsBy (fun declaration : TypeDeclaration => some declaration.name) outcome.typeNames types
  skips := outcome.skips ++ skips

variable {outcome : ScanOutcome}

/-- An outcome that gets nothing stays as it is. -/
@[simp] theorem extend_nil : outcome.extend [] [] = outcome := by
  simp [extend, firstsBy]

/-- A skip is one more warning. -/
theorem addSkip_eq_extend (skip : ScanSkip) : outcome.addSkip skip = outcome.extend [] [skip] := by
  simp [addSkip, extend, firstsBy]

/-- The names that an outcome has taken are seen by what follows. -/
theorem extend_extend (types more : List TypeDeclaration) (skips others : List ScanSkip) :
    (outcome.extend types skips).extend more others =
      outcome.extend (types ++ more) (skips ++ others) := by
  simp only [extend, typeNames, firstsBy_append, List.append_assoc, ScanOutcome.mk.injEq,
    List.append_cancel_left_eq, and_true]
  refine firstsBy_congr fun _ _ name _ => ?_
  rw [List.map_append, List.mem_append, List.mem_append, mem_map_firstsBy_iff,
    List.filterMap_eq_map']
  tauto

/-- The marked types of a package are added in their order. -/
theorem foldl_addType (marker : String) (declarations : List TypeDeclaration) :
    declarations.foldl (addType marker) outcome =
      outcome.extend (declarations.filter (·.carries marker)) [] := by
  induction declarations generalizing outcome with
  | nil => simp
  | cons declaration rest ih =>
      have one : addType marker outcome declaration =
          outcome.extend ([declaration].filter (·.carries marker)) [] := by
        by_cases carried : declaration.carries marker = true
        · by_cases known : declaration.name ∈ outcome.typeNames
          · simp [addType, extend, firstsBy, carried, known]
          · simp [addType, extend, firstsBy, carried, known]
        · simp [addType, extend, firstsBy, carried]
      rw [List.foldl_cons, ih, one, extend_extend, ← List.filter_append]
      rfl

/-- What is met at the stops is met at once. -/
theorem foldl_extend (visible : Universe) (marker : String) (stops : List ScanStop) :
    stops.foldl (fun outcome stop =>
        outcome.extend (stop.offered visible marker) (stop.skip? visible).toList) outcome =
      outcome.extend (stops.flatMap (ScanStop.offered visible marker))
        (stops.filterMap (ScanStop.skip? visible)) := by
  induction stops generalizing outcome with
  | nil => simp
  | cons stop rest ih =>
      rw [List.foldl_cons, ih, extend_extend, List.flatMap_cons]
      cases met : stop.skip? visible with
      | none => rw [List.filterMap_cons_none met]; rfl
      | some skip => rw [List.filterMap_cons_some met]; rfl

end ScanOutcome

namespace Scanner

variable {scanner : Scanner} {visible : Universe} {marker : String} {progress : Progress}

/-- The packages that a scanner remembers. -/
def held (scanner : Scanner) : List String :=
  scanner.packages.map Prod.fst

/-- Whatever a scanner remembers is what its universe answers, and it remembers no package
twice. -/
structure Reports (scanner : Scanner) (visible : Universe) : Prop where
  once : scanner.held.Nodup
  packages : ∀ entry ∈ scanner.packages, entry.2 = packageEntry visible entry.1
  outcomes : ∀ entry ∈ scanner.outcomes, entry.2 = visible.survey entry.1

/-- A scanner that asked nothing answers right. -/
theorem reports_empty (visible : Universe) : ({} : Scanner).Reports visible :=
  ⟨List.nodup_nil, nofun, nofun⟩

/-- A package is loaded as the universe has it, whether or not it was read before. -/
theorem Reports.load (reports : scanner.Reports visible) (package : String) :
    (scanner.load visible package).1 = packageEntry visible package ∧
      (scanner.load visible package).2.Reports visible := by
  rw [Scanner.load]
  split
  case h_1 entry held => exact ⟨reports.packages _ (NameMap.mem_of_lookup held), reports⟩
  case h_2 absent =>
    refine ⟨rfl, ?_, fun entry member => ?_, reports.outcomes⟩
    · have new : package ∉ scanner.held := by
        intro member
        obtain ⟨entry, inside, rfl⟩ := List.mem_map.1 member
        simpa using List.lookup_eq_none_iff.1 absent entry inside
      have grown : (scanner.held ++ [package]).Nodup := by
        rw [List.nodup_append]
        refine ⟨reports.once, List.nodup_singleton package, fun name member other same => ?_⟩
        rw [List.mem_singleton.1 same]
        exact ne_of_mem_of_not_mem member new
      simpa [held] using grown
    · rcases List.mem_append.1 member with old | new
      · exact reports.packages entry old
      · rw [List.mem_singleton.1 new]

/-- One stop of a scan under way. -/
def visitStop (visible : Universe) (marker : String) (progress : Progress) : ScanStop → Progress
  | .refusal text failure =>
      { progress with outcome := progress.outcome.addSkip (.wholePrefix text failure) }
  | .package name => visitPackage visible marker progress name

/-- A prefix is visited stop by stop. -/
theorem visitPrefix_eq_foldl (packagePrefix : String) :
    visitPrefix visible marker progress packagePrefix =
      (visible.stopsOf packagePrefix).foldl (visitStop visible marker) progress := by
  rw [visitPrefix, Universe.stopsOf]
  cases packagesOf visible packagePrefix with
  | error failure => rfl
  | ok packages =>
      exact (List.foldl_map (f := ScanStop.package) (g := visitStop visible marker)).symm

/-- A package is visited once. -/
theorem visitPackage_of_visited {package : String} (visited : package ∈ progress.visited) :
    visitPackage visible marker progress package = progress := by
  rw [visitPackage, if_pos (List.contains_iff_mem.2 visited)]

/-- A package that is visited for the first time is read, and joins the visited ones. -/
theorem visitPackage_of_new {package : String} (reports : progress.scanner.Reports visible)
    (new : package ∉ progress.visited) :
    visitPackage visible marker progress package =
      ⟨(progress.scanner.load visible package).2, package :: progress.visited,
        progress.outcome.extend ((ScanStop.package package).offered visible marker)
          ((ScanStop.package package).skip? visible).toList⟩ := by
  have unvisited : ¬progress.visited.contains package = true := mt List.contains_iff_mem.1 new
  simp only [visitPackage, if_neg unvisited, (reports.load package).1, ScanStop.offered,
    ScanStop.skip?]
  cases packageEntry visible package with
  | ok declarations => simp [ScanOutcome.foldl_addType]
  | error failure => simp [ScanOutcome.addSkip_eq_extend]

/-- A scan under way goes on as the universe answers, and its scanner keeps reporting it. -/
theorem foldl_visitStop (reports : progress.scanner.Reports visible) (stops : List ScanStop) :
    (stops.foldl (visitStop visible marker) progress).scanner.Reports visible ∧
      (stops.foldl (visitStop visible marker) progress).outcome =
        progress.outcome.extend
          ((firstsBy ScanStop.package? progress.visited stops).flatMap
            (ScanStop.offered visible marker))
          ((firstsBy ScanStop.package? progress.visited stops).filterMap
            (ScanStop.skip? visible)) := by
  rw [← ScanOutcome.foldl_extend]
  induction stops generalizing progress with
  | nil => exact ⟨reports, rfl⟩
  | cons stop rest ih =>
      rw [List.foldl_cons]
      cases stop with
      | refusal text failure =>
          rw [firstsBy_cons_keyless (ScanStop.package?_refusal text failure)]
          have met : (visitStop visible marker progress (.refusal text failure)).outcome =
              progress.outcome.extend [] [.wholePrefix text failure] :=
            ScanOutcome.addSkip_eq_extend _
          obtain ⟨kept, found⟩ :
            (rest.foldl (visitStop visible marker)
              (visitStop visible marker progress (.refusal text failure))).scanner.Reports visible ∧
              _ := ih reports
          exact ⟨kept, by rw [found, met]; rfl⟩
      | package name =>
          by_cases visited : name ∈ progress.visited
          · rw [firstsBy_cons_seen (ScanStop.package?_package name) visited, visitStop,
              visitPackage_of_visited visited]
            exact ih reports
          · rw [firstsBy_cons_new (ScanStop.package?_package name) visited, visitStop,
              visitPackage_of_new reports visited]
            exact ih (reports.load name).2

/-- A scan surveys the universe, and keeps the answers right. -/
theorem Reports.scanAnew (reports : scanner.Reports visible) (request : ScanRequest) :
    (scanner.scanAnew visible request).1 = visible.survey request ∧
      (scanner.scanAnew visible request).2.Reports visible := by
  have walked : request.prefixes.foldl (visitPrefix visible request.marker) ⟨scanner, [], {}⟩ =
      (request.prefixes.flatMap visible.stopsOf).foldl (visitStop visible request.marker)
        ⟨scanner, [], {}⟩ := by
    rw [List.foldl_flatMap]
    congr 1
    funext progress packagePrefix
    exact visitPrefix_eq_foldl packagePrefix
  have start : (⟨scanner, [], {}⟩ : Progress).scanner.Reports visible := reports
  obtain ⟨kept, found⟩ := foldl_visitStop start (request.prefixes.flatMap visible.stopsOf)
  rw [Scanner.scanAnew, walked]
  exact ⟨found, kept⟩

/-- A scan finds what the universe holds, whatever the scanner remembers. -/
theorem Reports.scan (reports : scanner.Reports visible) (request : ScanRequest) :
    (scanner.scan visible request).1 = visible.survey request ∧
      (scanner.scan visible request).2.Reports visible := by
  rw [Scanner.scan]
  split
  case h_1 outcome held => exact ⟨reports.outcomes _ (NameMap.mem_of_lookup held), reports⟩
  case h_2 =>
    obtain ⟨found, kept⟩ := reports.scanAnew request
    refine ⟨found, kept.once, kept.packages, fun entry member => ?_⟩
    rcases List.mem_append.1 member with old | new
    · exact kept.outcomes entry old
    · rw [List.mem_singleton.1 new, found]

end Scanner

end BusBridge
