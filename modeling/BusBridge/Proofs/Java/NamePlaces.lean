/-
This file proves which name a tree is refused for: the first one, in the order of the source,
that is not what Java expects in its place. The names are listed from the tree alone, and the
layout tells where each of them stands in the source.
-/

import BusBridge.Proofs.Java.Layout

namespace BusBridge.Java

/-- A text that a tree gives for a package, a name or a type. -/
inductive Mention where
  | package (text : String)
  | name (text : String)
  | type (text : String)
  deriving DecidableEq, Repr

def Mention.text : Mention → String
  | .package text | .name text | .type text => text

/-- The text is what Java expects in its place. -/
def Mention.IsValid : Mention → Prop
  | .package text => isQualifiedName text = true
  | .name text => isIdentifier text = true
  | .type text => TypeReference.problem? text = none

instance Mention.decidableIsValid : DecidablePred Mention.IsValid
  | .package text => inferInstanceAs (Decidable (isQualifiedName text = true))
  | .name text => inferInstanceAs (Decidable (isIdentifier text = true))
  | .type text => inferInstanceAs (Decidable (TypeReference.problem? text = none))

/-- The first of the names that is not what Java expects in its place. -/
def Mention.firstInvalid? (mentions : List Mention) : Option Mention :=
  mentions.find? fun mention => !decide mention.IsValid

namespace Mention

/-- The first offence is looked for from the front. -/
@[simp] theorem firstInvalid?_cons (mention : Mention) (rest : List Mention) :
    firstInvalid? (mention :: rest) =
      if mention.IsValid then firstInvalid? rest else some mention := by
  rw [firstInvalid?, List.find?_cons]
  by_cases valid : mention.IsValid <;> simp [valid, firstInvalid?]

/-- The first part is judged before the second. -/
theorem firstInvalid?_append (first second : List Mention) :
    firstInvalid? (first ++ second) = (firstInvalid? first).or (firstInvalid? second) :=
  List.find?_append

/-- Nothing offends exactly when every mention is valid. -/
theorem firstInvalid?_eq_none_iff {mentions : List Mention} :
    firstInvalid? mentions = none ↔ ∀ mention ∈ mentions, mention.IsValid := by
  simp [firstInvalid?]

end Mention

def Parameter.mentions (parameter : Parameter) : List Mention :=
  [.type parameter.type, .name parameter.name]

def Field.mentions (field : Field) : List Mention :=
  [.type field.type, .name field.name]

mutual

/-- The names and types of a tree, in the order in which Java writes its parts. -/
def Expression.mentions : Expression → List Mention
  | .null | .self | .literal _ => []
  | .variable name => [.name name]
  | .field target name => target.mentions ++ [.name name]
  | .staticField type name => [.type type, .name name]
  | .call target method arguments =>
      target.mentions ++ .name method :: Expression.allMentions arguments
  | .staticCall type method arguments =>
      .type type :: .name method :: Expression.allMentions arguments
  | .create type arguments => .type type :: Expression.allMentions arguments
  | .createAnonymous type methods => .type type :: Method.allMentions methods
  | .classLiteral type => [.type type]
  | .createArray element items => .type element :: Expression.allMentions items
  | .cast type value => .type type :: value.mentions
  | .binary _ left right => left.mentions ++ right.mentions

def Expression.allMentions : List Expression → List Mention
  | [] => []
  | expression :: rest => expression.mentions ++ Expression.allMentions rest

def Statement.mentions : Statement → List Mention
  | .evaluate value | .returnValue value => value.mentions
  | .declare _ type name initial => .type type :: .name name :: initial.mentions
  | .assign target value => target.mentions ++ value.mentions
  | .conditional condition body => condition.mentions ++ Statement.allMentions body
  | .returnNothing => []
  | .declareClass declaration => declaration.mentions

def Statement.allMentions : List Statement → List Mention
  | [] => []
  | statement :: rest => statement.mentions ++ Statement.allMentions rest

def Method.mentions : Method → List Mention
  | ⟨annotations, _, returnType, name, parameters, body⟩ =>
      annotations.map .name ++ .type returnType :: .name name ::
        parameters.flatMap Parameter.mentions ++ Statement.allMentions body

def Method.allMentions : List Method → List Mention
  | [] => []
  | method :: rest => method.mentions ++ Method.allMentions rest

def Class.mentions : Class → List Mention
  | ⟨_, name, interfaces, fields, methods⟩ =>
      .name name :: interfaces.map .type ++ fields.flatMap Field.mentions ++
        Method.allMentions methods

end

/-- The default package is not written. -/
def CompilationUnit.mentions (unit : CompilationUnit) : List Mention :=
  (if unit.package = "" then [] else [.package unit.package]) ++
    unit.classes.flatMap Class.mentions

/-- The package is empty or qualified, and every name and every type in the classes is what Java
expects in its place. -/
structure CompilationUnit.IsWellNamed (unit : CompilationUnit) : Prop where
  package : unit.package = "" ∨ isQualifiedName unit.package = true
  classes : ∀ declaration ∈ unit.classes, ∀ mention ∈ declaration.mentions, mention.IsValid

def Fragment.mention? : Fragment → Option Mention
  | .package text => some (.package text)
  | .name text => some (.name text)
  | .type text => some (.type text)
  | _ => none

def Layout.mentions (layout : Layout) : List Mention :=
  layout.filterMap Fragment.mention?

namespace Layout

variable {first second layout : Layout} {layouts : List Layout} {fragment : Fragment}

@[simp] theorem mentions_nil : mentions [] = [] := rfl

/-- The mention of the first fragment, if it is one, comes first. -/
@[simp] theorem mentions_cons :
    mentions (fragment :: layout) = fragment.mention?.toList ++ layout.mentions := by
  unfold mentions
  cases found : fragment.mention? <;> simp [found]

/-- The mentions of two layouts come one after the other. -/
@[simp] theorem mentions_append :
    (first ++ second).mentions = first.mentions ++ second.mentions :=
  List.filterMap_append

/-- Layouts of many items mention what each one does. -/
@[simp] theorem mentions_flatMap {α : Type} {items : List α} {lay : α → Layout} :
    mentions (items.flatMap lay) = items.flatMap fun item => (lay item).mentions := by
  induction items with
  | nil => rfl
  | cons item rest ih => simp [ih]

end Layout

section Trees

attribute [local simp] Fragment.mention?

namespace Layout

variable {layout : Layout} {layouts : List Layout}

/-- Brackets mention nothing. -/
@[simp] theorem mentions_enclosed {bracket : Bracket} :
    (enclosed bracket layout).mentions = layout.mentions := by
  simp [enclosed]

/-- Indentation mentions nothing. -/
@[simp] theorem mentions_indented : (indented layout).mentions = layout.mentions := by
  simp [indented]

/-- Parentheses that may be needed mention nothing. -/
@[simp] theorem mentions_parenthesized {needed : Bool} :
    (parenthesized needed layout).mentions = layout.mentions := by
  unfold parenthesized
  split
  · exact mentions_enclosed
  · rfl

/-- Separators mention nothing. -/
@[simp] theorem mentions_separated {separator : String} :
    (separated separator layouts).mentions = layouts.flatMap mentions := by
  fun_induction separated separator layouts with
  | case1 => rfl
  | case2 layout => simp
  | case3 head rest _ ih => simp [ih]

/-- Empty lines mention nothing. -/
@[simp] theorem mentions_spaced : (spaced layouts).mentions = layouts.flatMap mentions := by
  fun_induction spaced layouts with
  | case1 => rfl
  | case2 layout => simp
  | case3 head rest _ ih => simp [ih]

/-- The blanks around the items of an array mention nothing. -/
@[simp] theorem mentions_itemLayout : (itemLayout layouts).mentions = layouts.flatMap mentions := by
  cases layouts <;> simp [itemLayout]

end Layout

/-- Modifiers are keywords and mention nothing. -/
@[simp] theorem mentions_modifierLayout (modifiers : List Modifier) :
    Layout.mentions (modifierLayout modifiers) = [] := by
  simp [modifierLayout]

/-- A parameter is laid out with its type before its name. -/
@[simp] theorem Parameter.mentions_layout (parameter : Parameter) :
    parameter.layout.mentions = parameter.mentions := by
  unfold Parameter.layout
  split <;> simp [Parameter.mentions]

/-- A field is laid out with its type before its name. -/
@[simp] theorem Field.mentions_layout (field : Field) : field.layout.mentions = field.mentions := by
  simp [Field.layout, Field.mentions]

/-- An annotation is judged as a name. -/
@[simp] theorem mentions_annotationLayout (name : String) :
    (annotationLayout name).mentions = [.name name] := by
  simp [annotationLayout]

/-- Each implemented interface is judged as a type. -/
@[simp] theorem mentions_interfaceLayout (types : List String) :
    (interfaceLayout types).mentions = types.map .type := by
  cases types with
  | nil => rfl
  | cons type rest =>
      simp [interfaceLayout, List.flatMap_map, ← List.map_eq_flatMap]

mutual

/-- The layout of an expression shows its mentions in their order. -/
theorem Expression.mentions_layout : ∀ expression : Expression,
    expression.layout.mentions = expression.mentions
  | .null | .self | .literal _ | .variable _ | .staticField .. | .classLiteral _ => by
      simp [Expression.layout, Expression.mentions]
  | .field target name => by
      simp [Expression.layout, Expression.mentions, target.mentions_layout]
  | .call target method arguments => by
      simp [Expression.layout, Expression.mentions, target.mentions_layout,
        Expression.mentions_layouts arguments]
  | .staticCall type method arguments => by
      simp [Expression.layout, Expression.mentions, Expression.mentions_layouts arguments]
  | .create type arguments => by
      simp [Expression.layout, Expression.mentions, Expression.mentions_layouts arguments]
  | .createAnonymous type methods => by
      simp [Expression.layout, Expression.mentions, Method.mentions_layouts methods]
  | .createArray element items => by
      simp [Expression.layout, Expression.mentions, Expression.mentions_layouts items]
  | .cast type value => by
      simp [Expression.layout, Expression.mentions, value.mentions_layout]
  | .binary operator left right => by
      simp [Expression.layout, Expression.mentions, left.mentions_layout, right.mentions_layout]

/-- The layouts of several expressions show their mentions in their order. -/
theorem Expression.mentions_layouts : ∀ expressions : List Expression,
    (Expression.layouts expressions).flatMap Layout.mentions =
      Expression.allMentions expressions
  | [] => rfl
  | expression :: rest => by
      simp [Expression.layouts, Expression.allMentions, expression.mentions_layout,
        Expression.mentions_layouts rest]

/-- The layout of a statement shows its mentions in their order. -/
theorem Statement.mentions_layout : ∀ statement : Statement,
    statement.layout.mentions = statement.mentions
  | .evaluate value => by
      simp [Statement.layout, Statement.mentions, value.mentions_layout]
  | .declare isFinal type name initial => by
      cases isFinal <;> simp [Statement.layout, Statement.mentions, initial.mentions_layout]
  | .assign target value => by
      simp [Statement.layout, Statement.mentions, target.mentions_layout, value.mentions_layout]
  | .conditional condition body => by
      simp [Statement.layout, Statement.mentions, condition.mentions_layout,
        Statement.mentions_lines body]
  | .returnNothing => by
      simp [Statement.layout, Statement.mentions]
  | .returnValue value => by
      simp [Statement.layout, Statement.mentions, value.mentions_layout]
  | .declareClass declaration => by
      simp [Statement.layout, Statement.mentions, declaration.mentions_layout]

/-- The lines of a body show its mentions in their order. -/
theorem Statement.mentions_lines : ∀ statements : List Statement,
    (Statement.lines statements).mentions = Statement.allMentions statements
  | [] => rfl
  | statement :: rest => by
      simp [Statement.lines, Statement.allMentions, statement.mentions_layout,
        Statement.mentions_lines rest]

/-- The layout of a method shows its mentions in their order. -/
theorem Method.mentions_layout : ∀ method : Method, method.layout.mentions = method.mentions
  | ⟨annotations, modifiers, returnType, name, parameters, body⟩ => by
      simp [Method.layout, Method.mentions, Statement.mentions_lines body, List.flatMap_map,
        ← List.map_eq_flatMap]

/-- The layouts of several methods show their mentions in their order. -/
theorem Method.mentions_layouts : ∀ methods : List Method,
    (Method.layouts methods).flatMap Layout.mentions = Method.allMentions methods
  | [] => rfl
  | method :: rest => by
      simp [Method.layouts, Method.allMentions, method.mentions_layout,
        Method.mentions_layouts rest]

/-- The layout of a class shows its mentions in their order. -/
theorem Class.mentions_layout : ∀ declaration : Class,
    declaration.layout.mentions = declaration.mentions
  | ⟨modifiers, name, interfaces, fields, methods⟩ => by
      have between : Layout.mentions
          (if fields.isEmpty || methods.isEmpty then [] else [.blankLine]) = [] := by
        split <;> rfl
      simp only [Class.layout, Class.mentions, Layout.mentions_append, Layout.mentions_indented,
        Layout.mentions_flatMap, Layout.mentions_spaced, between,
        Method.mentions_layouts methods]
      simp

end

/-- The layout of a unit shows its mentions in their order. -/
theorem CompilationUnit.mentions_layout (unit : CompilationUnit) :
    unit.layout.mentions = unit.mentions := by
  have package : (packageLayout unit.package).mentions =
      if unit.package = "" then [] else [.package unit.package] := by
    unfold packageLayout
    split <;> simp
  simp [CompilationUnit.layout, CompilationUnit.mentions, package, List.flatMap_map,
    Class.mentions_layout]

end Trees

/-- A name of a layout, with the number of characters that its source has before it. -/
structure Place where
  offset : Nat
  mention : Mention
  deriving DecidableEq

def Place.stop (place : Place) : Nat :=
  place.offset + place.mention.text.length

/-- The text of the name stands at its offset. -/
def Place.StandsIn (place : Place) (source : List Char) : Prop :=
  (source.drop place.offset).take place.mention.text.length = place.mention.text.toList

/-- The names of a layout that starts after so many characters, and where its source has them. -/
def Layout.places (depth offset : Nat) : Layout → List Place
  | [] => []
  | fragment :: rest =>
      fragment.mention?.toList.map (Place.mk offset) ++
        Layout.places (fragment.depthAfter depth) (offset + (fragment.source depth).length) rest

/-- A fragment that mentions a text is written as that text, at any depth. -/
theorem Fragment.source_of_mention? {fragment : Fragment} {mention : Mention} (depth : Nat)
    (found : fragment.mention? = some mention) :
    fragment.source depth = mention.text.toList := by
  cases fragment <;> cases found <;> rfl

namespace Layout

/-- The places of a layout are those of its mentions, in their order. -/
theorem map_mention_places (depth offset : Nat) (layout : Layout) :
    (layout.places depth offset).map Place.mention = layout.mentions := by
  induction layout generalizing depth offset with
  | nil => rfl
  | cons fragment rest ih =>
      have named : Place.mention ∘ Place.mk offset = id := rfl
      simp [places, ih, named]

/-- No place lies before the start of the layout. -/
theorem offset_le_of_mem_places {depth offset : Nat} {layout : Layout} {place : Place}
    (member : place ∈ layout.places depth offset) : offset ≤ place.offset := by
  induction layout generalizing depth offset with
  | nil => cases member
  | cons fragment rest ih =>
      rcases List.mem_append.1 member with here | later
      · obtain ⟨mention, -, rfl⟩ := List.mem_map.1 here
        exact Nat.le_refl offset
      · exact Nat.le_of_add_right_le (ih later)

/-- Each mention is found in the source at its place. -/
theorem standsIn_of_mem_places {depth : Nat} {layout : Layout} {place : Place}
    (passed : List Char) (member : place ∈ layout.places depth passed.length) :
    place.StandsIn (passed ++ layout.source depth) := by
  induction layout generalizing depth passed with
  | nil => cases member
  | cons fragment rest ih =>
      rw [source]
      rcases List.mem_append.1 member with here | later
      · obtain ⟨mention, found, rfl⟩ := List.mem_map.1 here
        have written := fragment.source_of_mention? depth (Option.mem_toList.1 found)
        simp [Place.StandsIn, written, ← String.length_toList]
      · rw [← List.append_assoc]
        apply ih
        rwa [List.length_append]

end Layout

/-- The source of a tree, whatever its names are. -/
def CompilationUnit.source (unit : CompilationUnit) : List Char :=
  unit.layout.source 0

def CompilationUnit.places (unit : CompilationUnit) : List Place :=
  unit.layout.places 0 0

/-- A unit is well named when each of its mentions is valid. -/
theorem CompilationUnit.isWellNamed_iff (unit : CompilationUnit) :
    unit.IsWellNamed ↔ ∀ mention ∈ unit.mentions, mention.IsValid := by
  have package : unit.package = "" ∨ isQualifiedName unit.package = true ↔
      ∀ mention ∈ if unit.package = "" then [] else [Mention.package unit.package],
        mention.IsValid := by
    split
    case isTrue default => simp [default]
    case isFalse named => simp [named, Mention.IsValid]
  rw [CompilationUnit.mentions, List.forall_mem_append, ← package, List.forall_mem_flatMap]
  exact ⟨fun named => ⟨named.package, named.classes⟩, fun ⟨outer, inner⟩ => ⟨outer, inner⟩⟩

/-- A fragment is refused for the text that it mentions. -/
theorem Fragment.invalid?_eq_some_iff {fragment : Fragment} {text : String} :
    fragment.invalid? = some text ↔
      ∃ mention, fragment.mention? = some mention ∧ ¬ mention.IsValid ∧ mention.text = text := by
  cases fragment <;> simp [invalid?, mention?, Mention.IsValid, Mention.text, isTypeReference]

/-- A fragment is accepted unless what it mentions is invalid. -/
theorem Fragment.invalid?_eq_none_iff {fragment : Fragment} :
    fragment.invalid? = none ↔
      ∀ mention, fragment.mention? = some mention → mention.IsValid := by
  cases fragment <;> simp [invalid?, mention?, Mention.IsValid, isTypeReference]

/-- A layout is judged by its mentions alone. -/
theorem Layout.isValid_iff_mentions (layout : Layout) :
    layout.IsValid ↔ ∀ mention ∈ layout.mentions, mention.IsValid := by
  unfold IsValid mentions
  simp only [Fragment.invalid?_eq_none_iff, List.mem_filterMap]
  grind

/-- A layout is refused for the first of its names that is not what Java expects. -/
theorem Layout.invalid?_eq_map_firstInvalid? (layout : Layout) :
    layout.invalid? = (Mention.firstInvalid? layout.mentions).map Mention.text := by
  induction layout with
  | nil => rfl
  | cons fragment rest ih =>
      rw [invalid?, List.findSome?_cons, mentions_cons]
      cases judged : fragment.invalid? with
      | some text =>
          obtain ⟨mention, found, invalid, rfl⟩ := Fragment.invalid?_eq_some_iff.1 judged
          simp [found, invalid]
      | none =>
          have valid := Fragment.invalid?_eq_none_iff.1 judged
          rw [Mention.firstInvalid?_append, Mention.firstInvalid?_eq_none_iff.2, Option.none_or]
          · exact ih
          · exact fun mention member => valid mention (Option.mem_toList.1 member)

/-- A layout is refused for the first of its mentions that is invalid. -/
theorem Layout.write_eq_error_iff {owner : String} {layout : Layout} {failure : SynthesisFailure} :
    layout.write owner = .error failure ↔ ∃ mention,
      Mention.firstInvalid? layout.mentions = some mention ∧
        failure = .invalidIdentifier owner mention.text := by
  rw [write, invalid?_eq_map_firstInvalid?]
  cases Mention.firstInvalid? layout.mentions with
  | none => simp
  | some mention => simp [eq_comm]

/-- The text that a layout is refused for stands before every other one that it could be refused
for. -/
theorem Layout.exists_place_of_invalid? {layout : Layout} {text : String} (depth offset : Nat)
    (refused : layout.invalid? = some text) :
    ∃ place ∈ layout.places depth offset, place.mention.text = text ∧
      ¬ place.mention.IsValid ∧
      ∀ other ∈ layout.places depth offset, ¬ other.mention.IsValid →
        other = place ∨ place.stop ≤ other.offset := by
  induction layout generalizing depth offset with
  | nil => cases refused
  | cons fragment rest ih =>
      cases judged : fragment.invalid? with
      | some here =>
          obtain rfl : here = text := by
            simpa [invalid?, judged] using refused
          obtain ⟨mention, found, invalid, same⟩ := Fragment.invalid?_eq_some_iff.1 judged
          have written := fragment.source_of_mention? depth found
          refine ⟨⟨offset, mention⟩, by simp [places, found], same, invalid, ?_⟩
          intro other member _
          rw [places, found] at member
          rcases List.mem_cons.1 member with rfl | later
          · exact .inl rfl
          · have after := offset_le_of_mem_places later
            rw [written, String.length_toList] at after
            exact .inr after
      | none =>
          have next : invalid? rest = some text := by
            simpa [invalid?, judged] using refused
          obtain ⟨place, shown, same, invalid, first⟩ := ih _ _ next
          refine ⟨place, List.mem_append_right _ shown, same, invalid, ?_⟩
          intro other member offends
          rcases List.mem_append.1 member with here | later
          · obtain ⟨mention, found, rfl⟩ := List.mem_map.1 here
            exact absurd (Fragment.invalid?_eq_none_iff.1 judged mention
              (Option.mem_toList.1 found)) offends
          · exact first other later offends

/-- No name that is not what Java expects in its place starts earlier in the source. -/
structure CompilationUnit.IsFirstInvalid (unit : CompilationUnit) (place : Place) : Prop where
  shown : place ∈ unit.places
  invalid : ¬ place.mention.IsValid
  first : ∀ other ∈ unit.places, ¬ other.mention.IsValid → other = place ∨
    place.stop ≤ other.offset

/-- A tree is written exactly when it is well named, and any other tree is refused for the first
name in its source that is not what Java expects there. -/
theorem CompilationUnit.write_judges_names (owner : String) (unit : CompilationUnit) :
    (∀ text, unit.write owner = .ok text ↔
      unit.IsWellNamed ∧ text = String.ofList unit.source) ∧
    (¬ unit.IsWellNamed → ∃ place, unit.IsFirstInvalid place ∧
      unit.write owner = .error (.invalidIdentifier owner place.mention.text)) ∧
    unit.places.map Place.mention = unit.mentions ∧
    ∀ place ∈ unit.places, place.StandsIn unit.source := by
  have judged : unit.layout.invalid? = none ↔ unit.IsWellNamed := by
    rw [Layout.invalid?_eq_none_iff, Layout.isValid_iff_mentions, unit.mentions_layout,
      unit.isWellNamed_iff]
  refine ⟨fun text => ?_, fun misnamed => ?_, ?_, fun place member => ?_⟩
  · rw [← judged, CompilationUnit.write, Layout.write]
    split
    case h_1 identifier refused => simp [refused]
    case h_2 accepted =>
      rw [Except.ok.injEq]
      exact ⟨fun same => ⟨accepted, same.symm⟩, fun written => written.2.symm⟩
  · obtain ⟨text, refused⟩ := Option.ne_none_iff_exists'.1 (mt judged.1 misnamed)
    obtain ⟨place, shown, rfl, invalid, first⟩ :=
      Layout.exists_place_of_invalid? 0 0 refused
    refine ⟨place, ⟨shown, invalid, first⟩, ?_⟩
    rw [CompilationUnit.write, Layout.write, refused]
  · rw [CompilationUnit.places, Layout.map_mention_places, unit.mentions_layout]
  · exact Layout.standsIn_of_mem_places [] member

end BusBridge.Java
