/-
This file reads the text of expressions by the grammar of Java: equality binds tighter than `&&`,
and `&&` tighter than `||`, operators of one tightness group to the left, and parentheses override
both. It proves that no text has two readings.
-/

import BusBridge.Java.Fragment
import BusBridge.Proofs.Java.Identifier

namespace BusBridge.Java

/-- An operator takes the operands that bind tighter, and to its left those that bind the same. -/
def Operator.tightness : Operator → Nat
  | .either => 1
  | .both => 2
  | .equals => 3

namespace ExpressionLanguage

/-- Keywords and literals are names too. -/
inductive Word where
  | name (text : String)
  | operator (operator : Operator)
  | opening
  | closing
  | dot
  | comma
  deriving DecidableEq, Repr

def Word.ofMark? : Char → Option Word
  | '(' => some .opening
  | ')' => some .closing
  | '.' => some .dot
  | ',' => some .comma
  | _ => none

def whiteSpace : List Char := [' ', '\t', '\n', '\r', '\x0c']

/-- The pending characters of a name are held in reverse. -/
def closeName (pending : List Char) (words : List Word) : List Word :=
  if pending.isEmpty then words else .name (String.ofList pending.reverse) :: words

/-- A name is a longest run of name characters, and white space only separates. -/
def cut (pending : List Char) : List Char → Option (List Word)
  | [] => some (closeName pending [])
  | '=' :: '=' :: rest =>
      (cut [] rest).map fun words => closeName pending (.operator .equals :: words)
  | '&' :: '&' :: rest =>
      (cut [] rest).map fun words => closeName pending (.operator .both :: words)
  | '|' :: '|' :: rest =>
      (cut [] rest).map fun words => closeName pending (.operator .either :: words)
  | character :: rest =>
      if continuesIdentifier character then cut (character :: pending) rest
      else
        match Word.ofMark? character with
        | some word => (cut [] rest).map fun words => closeName pending (word :: words)
        | none => if character ∈ whiteSpace then (cut [] rest).map (closeName pending) else none

def words (text : String) : Option (List Word) :=
  cut [] text.toList

/-- A name ends before this text. -/
def EndsName (text : List Char) : Prop :=
  ∀ character ∈ text.head?, continuesIdentifier character = false

/-- A name ends where another character stands. -/
theorem endsName_cons {character : Char} (other : continuesIdentifier character = false)
    (rest : List Char) : EndsName (character :: rest) := by
  intro first same
  cases same
  exact other

/-- A character that continues a name is held back. -/
theorem cut_continues {character : Char} (continues : continuesIdentifier character = true)
    (pending rest : List Char) :
    cut pending (character :: rest) = cut (character :: pending) rest := by
  have symbols : character ∉ ['=', '&', '|'] := by
    intro member
    simp only [List.mem_cons, List.not_mem_nil, or_false] at member
    rcases member with rfl | rfl | rfl <;> exact absurd continues (by decide)
  rw [cut.eq_def]
  split
  case h_1 same => cases same
  case h_5 same => cases same; exact if_pos continues
  -- The other cases start with a symbol of two characters.
  all_goals exact absurd (by simp_all) symbols

/-- All characters of a name are held back. -/
theorem cut_append {name : List Char}
    (continues : ∀ character ∈ name, continuesIdentifier character = true)
    (pending rest : List Char) :
    cut pending (name ++ rest) = cut (name.reverse ++ pending) rest := by
  induction name generalizing pending with
  | nil => rfl
  | cons head tail ih =>
      rw [List.forall_mem_cons] at continues
      rw [List.cons_append, cut_continues continues.1, ih continues.2]
      simp

/-- A name that is pending is closed by what is no part of it. -/
theorem cut_of_endsName {text : List Char} (ends : EndsName text) (pending : List Char) :
    cut pending text = (cut [] text).map (closeName pending) := by
  have closed (rest : List Char) (word : Word) :
      (cut [] rest).map (fun words => closeName pending (word :: words)) =
        ((cut [] rest).map fun words => closeName [] (word :: words)).map (closeName pending) := by
    rw [Option.map_map]
    rfl
  unfold cut
  split
  case h_1 => rfl
  case h_2 => exact closed ..
  case h_3 => exact closed ..
  case h_4 => exact closed ..
  case h_5 character rest _ _ _ =>
    have other : ¬continuesIdentifier character = true := by simp [ends character rfl]
    rw [if_neg other, if_neg other]
    split
    case h_1 => exact closed ..
    case h_2 =>
      split
      case isTrue =>
        rw [Option.map_map]
        rfl
      case isFalse => rfl

/-- A name that ends is cut off as one word. -/
theorem cut_name {name : List Char} {rest : List Char} (filled : name ≠ [])
    (continues : ∀ character ∈ name, continuesIdentifier character = true)
    (ends : EndsName rest) :
    cut [] (name ++ rest) = (cut [] rest).map (.name (String.ofList name) :: ·) := by
  rw [cut_append continues, cut_of_endsName ends]
  congr 1
  funext words
  simp [closeName, filled]

section Marks

variable (rest : List Char)

/-- A blank is no word. -/
theorem cut_blank : cut [] (' ' :: rest) = cut [] rest :=
  Option.map_id' (x := cut [] rest)

/-- An opening parenthesis is a word of its own. -/
theorem cut_opening : cut [] ('(' :: rest) = (cut [] rest).map (.opening :: ·) := rfl

/-- A closing parenthesis is a word of its own. -/
theorem cut_closing : cut [] (')' :: rest) = (cut [] rest).map (.closing :: ·) := rfl

/-- A dot is a word of its own. -/
theorem cut_dot : cut [] ('.' :: rest) = (cut [] rest).map (.dot :: ·) := rfl

/-- A comma is a word of its own. -/
theorem cut_comma : cut [] (',' :: rest) = (cut [] rest).map (.comma :: ·) := rfl

/-- An operator is one word, of however many characters. -/
theorem cut_operator (operator : Operator) :
    cut [] (operator.symbol.toList ++ rest) = (cut [] rest).map (.operator operator :: ·) := by
  cases operator <;> rfl

end Marks

/-- The parts of the grammar with the trees that they mean. A level holds the operators that bind
at least as tight, and the tightest level has none. -/
inductive Phrase where
  | level (tightness : Nat) (tree : Expression)
  | arguments (trees : List Expression)

/-- The tightness of what is no operation. -/
def primary : Nat := 4

inductive Derives : Phrase → List Word → Prop where
  | null : Derives (.level primary .null) [.name "null"]
  | boolean (value : Bool) :
      Derives (.level primary (.literal (.boolean value)))
        [.name (if value then "true" else "false")]
  | named {name : String} (identifier : isIdentifier name = true) :
      Derives (.level primary (.variable name)) [.name name]
  | group {tree : Expression} {inner : List Word} (derived : Derives (.level 1 tree) inner) :
      Derives (.level primary tree) (.opening :: (inner ++ [.closing]))
  | call {target : Expression} {method : String} {arguments : List Expression}
      {front inner : List Word} (called : Derives (.level primary target) front)
      (identifier : isIdentifier method = true) (given : Derives (.arguments arguments) inner) :
      Derives (.level primary (.call target method arguments))
        (front ++ .dot :: .name method :: .opening :: (inner ++ [.closing]))
  | binary (operator : Operator) {left right : Expression} {first second : List Word}
      (leading : Derives (.level operator.tightness left) first)
      (following : Derives (.level (operator.tightness + 1) right) second) :
      Derives (.level operator.tightness (.binary operator left right))
        (first ++ .operator operator :: second)
  | looser {tightness : Nat} {tree : Expression} {read : List Word}
      (derived : Derives (.level (tightness + 1) tree) read) :
      Derives (.level tightness tree) read
  | noArguments : Derives (.arguments []) []
  | lastArgument {tree : Expression} {read : List Word} (derived : Derives (.level 1 tree) read) :
      Derives (.arguments [tree]) read
  | moreArguments {tree next : Expression} {others : List Expression} {read rest : List Word}
      (derived : Derives (.level 1 tree) read) (more : Derives (.arguments (next :: others)) rest) :
      Derives (.arguments (tree :: next :: others)) (read ++ .comma :: rest)

/-- The text is read as this tree. -/
def ReadsAs (text : String) (tree : Expression) : Prop :=
  ∃ read, words text = some read ∧ Derives (.level 1 tree) read

/-- An expression may stand wherever a looser one may. -/
theorem Derives.loosen {tightness : Nat} {tree : Expression} {read : List Word} (looser : Nat)
    (derived : Derives (.level tightness tree) read) (le : looser ≤ tightness) :
    Derives (.level looser tree) read := by
  induction le with
  | refl => exact derived
  | step _ ih => exact ih derived.looser

/-! A reader that goes over the words once finds the tree of any derivation, so there is one. -/

/-- What stands to the left of an operand and is not finished. -/
inductive Frame where
  | operation (operator : Operator) (left : Expression)
  | group
  | arguments (target : Expression) (method : String) (given : List Expression)

/-- What the next word belongs to. -/
inductive Expected where
  | operand
  | continuation (operand : Expression)
  | method (target : Expression)
  | arguments (target : Expression) (method : String)

structure State where
  frames : List Frame
  expected : Expected

/-- The operations that bind at least as tight are finished by the operand. -/
def reduce (tightness : Nat) : List Frame → Expression → List Frame × Expression
  | .operation operator left :: frames, operand =>
      if tightness ≤ operator.tightness then
        reduce tightness frames (.binary operator left operand)
      else (.operation operator left :: frames, operand)
  | frames, operand => (frames, operand)

def readOperand (frames : List Frame) : Word → Option State
  | .name "null" => some ⟨frames, .continuation .null⟩
  | .name "true" => some ⟨frames, .continuation (.literal (.boolean true))⟩
  | .name "false" => some ⟨frames, .continuation (.literal (.boolean false))⟩
  | .name name => some ⟨frames, .continuation (.variable name)⟩
  | .opening => some ⟨.group :: frames, .operand⟩
  | .closing =>
      match frames with
      | .arguments target method [] :: outer => some ⟨outer, .continuation (.call target method [])⟩
      | _ => none
  | _ => none

def readContinuation (frames : List Frame) (operand : Expression) : Word → Option State
  | .operator operator =>
      let (outer, left) := reduce operator.tightness frames operand
      some ⟨.operation operator left :: outer, .operand⟩
  | .dot => some ⟨frames, .method operand⟩
  | .comma =>
      match reduce 1 frames operand with
      | (.arguments target method given :: outer, last) =>
          some ⟨.arguments target method (given ++ [last]) :: outer, .operand⟩
      | _ => none
  | .closing =>
      match reduce 1 frames operand with
      | (.group :: outer, inner) => some ⟨outer, .continuation inner⟩
      | (.arguments target method given :: outer, last) =>
          some ⟨outer, .continuation (.call target method (given ++ [last]))⟩
      | _ => none
  | _ => none

def step (state : State) (word : Word) : Option State :=
  match state.expected, word with
  | .operand, word => readOperand state.frames word
  | .continuation operand, word => readContinuation state.frames operand word
  | .method target, .name method => some ⟨state.frames, .arguments target method⟩
  | .arguments target method, .opening =>
      some ⟨.arguments target method [] :: state.frames, .operand⟩
  | _, _ => none

/-- Where an operand is due, the reader reads one. -/
theorem step_operand (frames : List Frame) (word : Word) :
    step ⟨frames, .operand⟩ word = readOperand frames word := rfl

/-- After an operand, the reader reads what goes on with it. -/
theorem step_continuation (frames : List Frame) (operand : Expression) (word : Word) :
    step ⟨frames, .continuation operand⟩ word = readContinuation frames operand word := rfl

def run (state : State) (read : List Word) : Option State :=
  read.foldlM step state

/-- A run goes on from the state that it has led to. -/
theorem run_append {state middle : State} {first : List Word} (led : run state first = some middle)
    (second : List Word) : run state (first ++ second) = run middle second := by
  rw [run, List.foldlM_append, show first.foldlM step state = some middle from led]
  rfl

/-- A run takes one step for each word. -/
theorem run_cons {state middle : State} {word : Word} (led : step state word = some middle)
    (rest : List Word) : run state (word :: rest) = run middle rest := by
  rw [run, List.foldlM_cons, led]
  rfl

/-- No operation that waits for the operand binds as tight. -/
def Stops (tightness : Nat) : List Frame → Prop
  | .operation operator _ :: _ => operator.tightness < tightness
  | _ => True

section Reduction

variable {frames outer : List Frame} {operand inner : Expression} {tightness : Nat}

/-- Nothing is reduced where the open operators bind looser. -/
theorem reduce_of_stops (stops : Stops tightness frames) :
    reduce tightness frames operand = (frames, operand) := by
  unfold reduce
  split
  case h_1 => exact if_neg (Nat.not_le.2 stops)
  case h_2 => rfl

/-- What stops an operator stops a tighter one. -/
theorem Stops.succ (stops : Stops tightness frames) : Stops (tightness + 1) frames := by
  unfold Stops at stops ⊢
  split
  case h_1 => exact Nat.lt_succ_of_lt stops
  case h_2 => trivial

/-- Nothing is reduced in front of a member access. -/
theorem stops_primary (frames : List Frame) : Stops primary frames := by
  unfold Stops
  split
  case h_1 operator _ _ => cases operator <;> decide
  case h_2 => trivial

/-- What was finished for a tighter level is finished for a looser one. -/
theorem reduce_reduce {looser : Nat} (le : looser ≤ tightness)
    (reduced : reduce tightness frames operand = (outer, inner)) :
    reduce looser frames operand = reduce looser outer inner := by
  induction frames generalizing operand with
  | nil => cases reduced; rfl
  | cons frame rest ih =>
      cases frame with
      | group => cases reduced; rfl
      | arguments => cases reduced; rfl
      | operation operator left =>
          rw [reduce] at reduced
          split at reduced
          case isTrue tight =>
            rw [reduce, if_pos (Nat.le_trans le tight)]
            exact ih reduced
          case isFalse => cases reduced; rfl

end Reduction

/-- Where a phrase is expected, its words are read, and the operand that is left over finishes it.
No argument follows an empty list of them. -/
def Phrase.IsRead (phrase : Phrase) (read : List Word) : Prop :=
  match phrase with
  | .level tightness tree => ∀ frames, Stops tightness frames →
      ∃ inner operand, run ⟨frames, .operand⟩ read = some ⟨inner, .continuation operand⟩ ∧
        reduce tightness inner operand = (frames, tree)
  | .arguments trees => ∀ frames target method given, (trees = [] → given = []) →
      run ⟨.arguments target method given :: frames, .operand⟩ (read ++ [.closing]) =
        some ⟨frames, .continuation (.call target method (given ++ trees))⟩

section Reading

variable {tree left right : Expression} {read first second inner : List Word}

/-- An operand of one word is finished at once. -/
theorem isRead_word {word : Word}
    (alone : ∀ frames, readOperand frames word = some ⟨frames, .continuation tree⟩) :
    (Phrase.level primary tree).IsRead [word] := by
  intro frames stops
  have finished := (step_operand frames word).trans (alone frames)
  exact ⟨frames, tree, run_cons finished [], reduce_of_stops stops⟩

/-- An identifier is read as a variable. -/
theorem readOperand_of_isIdentifier {name : String} (identifier : isIdentifier name = true)
    (frames : List Frame) :
    readOperand frames (.name name) = some ⟨frames, .continuation (.variable name)⟩ := by
  have word : ∀ reserved ∈ reservedWords, name ≠ reserved := by
    rintro _ reserved rfl
    obtain ⟨-, -, -, -, -, free⟩ := (isIdentifier_iff name).1 identifier
    rw [isReserved, List.contains_iff_mem.2 reserved] at free
    cases free
  unfold readOperand
  split
  case h_1 same => exact absurd (Word.name.inj same) (word _ (by decide))
  case h_2 same => exact absurd (Word.name.inj same) (word _ (by decide))
  case h_3 same => exact absurd (Word.name.inj same) (word _ (by decide))
  case h_4 same => rw [Word.name.inj same]
  all_goals simp_all

/-- A group is read as what it encloses. -/
theorem isRead_group (derived : (Phrase.level 1 tree).IsRead inner) :
    (Phrase.level primary tree).IsRead (.opening :: (inner ++ [.closing])) := by
  intro frames stops
  obtain ⟨reached, operand, led, reduced⟩ := derived (.group :: frames) trivial
  have closed : step ⟨reached, .continuation operand⟩ .closing =
      some ⟨frames, .continuation tree⟩ := by
    rw [step_continuation, readContinuation.eq_def]
    simp only [reduced]
  refine ⟨frames, tree, ?_, reduce_of_stops stops⟩
  show run ⟨.group :: frames, .operand⟩ (inner ++ [.closing]) = _
  rw [run_append led, run_cons closed]
  rfl

/-- A call is read after its target. -/
theorem isRead_call {target : Expression} {method : String} {arguments : List Expression}
    (called : (Phrase.level primary target).IsRead first)
    (given : (Phrase.arguments arguments).IsRead inner) :
    (Phrase.level primary (.call target method arguments)).IsRead
      (first ++ .dot :: .name method :: .opening :: (inner ++ [.closing])) := by
  intro frames stops
  obtain ⟨reached, operand, led, reduced⟩ := called frames stops
  rw [reduce_of_stops (stops_primary reached)] at reduced
  cases reduced
  refine ⟨frames, .call target method arguments, ?_, reduce_of_stops stops⟩
  rw [run_append led]
  exact given frames target method [] fun _ => rfl

/-- An operator associates to the left. -/
theorem isRead_binary (operator : Operator)
    (leading : (Phrase.level operator.tightness left).IsRead first)
    (following : (Phrase.level (operator.tightness + 1) right).IsRead second) :
    (Phrase.level operator.tightness (.binary operator left right)).IsRead
      (first ++ .operator operator :: second) := by
  intro frames stops
  obtain ⟨reached, operand, led, reduced⟩ := leading frames stops
  obtain ⟨ended, last, read, finished⟩ :=
    following (.operation operator left :: frames) (Nat.lt_succ_self _)
  have begun : step ⟨reached, .continuation operand⟩ (.operator operator) =
      some ⟨.operation operator left :: frames, .operand⟩ := by
    rw [step_continuation, readContinuation.eq_def]
    simp only [reduced]
  refine ⟨ended, last, ?_, ?_⟩
  · rw [run_append led, run_cons begun, read]
  · rw [reduce_reduce (Nat.le_succ _) finished, reduce, if_pos (Nat.le_refl _),
      reduce_of_stops stops]

/-- A tighter expression is read where a looser one is due. -/
theorem isRead_looser {tightness : Nat}
    (derived : (Phrase.level (tightness + 1) tree).IsRead read) :
    (Phrase.level tightness tree).IsRead read := by
  intro frames stops
  obtain ⟨reached, operand, led, reduced⟩ := derived frames stops.succ
  exact ⟨reached, operand, led,
    (reduce_reduce (Nat.le_succ _) reduced).trans (reduce_of_stops stops)⟩

/-- The last argument is read on its own. -/
theorem isRead_lastArgument (derived : (Phrase.level 1 tree).IsRead read) :
    (Phrase.arguments [tree]).IsRead read := by
  intro frames target method given _
  obtain ⟨reached, operand, led, reduced⟩ := derived (.arguments target method given :: frames)
    trivial
  have closed : step ⟨reached, .continuation operand⟩ .closing =
      some ⟨frames, .continuation (.call target method (given ++ [tree]))⟩ := by
    rw [step_continuation, readContinuation.eq_def]
    simp only [reduced]
  rw [run_append led, run_cons closed]
  rfl

/-- An argument is read before the ones after it. -/
theorem isRead_moreArguments {next : Expression} {others : List Expression}
    (derived : (Phrase.level 1 tree).IsRead read)
    (more : (Phrase.arguments (next :: others)).IsRead inner) :
    (Phrase.arguments (tree :: next :: others)).IsRead (read ++ .comma :: inner) := by
  intro frames target method given _
  obtain ⟨reached, operand, led, reduced⟩ := derived (.arguments target method given :: frames)
    trivial
  have parted : step ⟨reached, .continuation operand⟩ .comma =
      some ⟨.arguments target method (given ++ [tree]) :: frames, .operand⟩ := by
    rw [step_continuation, readContinuation.eq_def]
    simp only [reduced]
  rw [List.append_assoc, run_append led, List.cons_append, run_cons parted,
    more frames target method (given ++ [tree]) (by simp), List.append_assoc]
  rfl

end Reading

/-- The reader reads all that the grammar derives. -/
theorem Derives.isRead {phrase : Phrase} {read : List Word} (derived : Derives phrase read) :
    phrase.IsRead read := by
  -- The frames are arbitrary, because a phrase is read within those of the phrases around it.
  induction derived with
  | null => exact isRead_word fun _ => rfl
  | boolean value => cases value <;> exact isRead_word fun _ => rfl
  | named identifier => exact isRead_word (readOperand_of_isIdentifier identifier)
  | group _ inner => exact isRead_group inner
  | call _ _ _ called given => exact isRead_call called given
  | binary operator _ _ leading following => exact isRead_binary operator leading following
  | looser _ inner => exact isRead_looser inner
  | noArguments =>
      intro frames target method given empty
      rw [empty rfl]
      rfl
  | lastArgument _ last => exact isRead_lastArgument last
  | moreArguments _ _ first more => exact isRead_moreArguments first more

/-- No words are read as two trees. -/
theorem Derives.unique {first second : Expression} {read : List Word}
    (one : Derives (.level 1 first) read) (other : Derives (.level 1 second) read) :
    first = second := by
  obtain ⟨reached, operand, led, reduced⟩ := one.isRead [] trivial
  obtain ⟨reached', operand', led', reduced'⟩ := other.isRead [] trivial
  rw [led] at led'
  cases led'
  rw [reduced] at reduced'
  exact (Prod.mk.inj reduced').2

/-- A text has at most one reading. -/
theorem ReadsAs.unique {text : String} {first second : Expression} (one : ReadsAs text first)
    (other : ReadsAs text second) : first = second := by
  obtain ⟨read, cut, derived⟩ := one
  obtain ⟨read', cut', derived'⟩ := other
  rw [cut] at cut'
  cases cut'
  exact derived.unique derived'

end ExpressionLanguage

end BusBridge.Java
