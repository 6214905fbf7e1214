/-
This file holds the lexical rules of Java for literals. Unicode escapes are translated before
anything else, and text and character literals are read from the UTF-16 units that come out.
-/

import BusBridge.Java.Escape
import BusBridge.Json.Reader

namespace BusBridge.Java

/-- A backslash that follows another one starts no Unicode escape, unless that one follows a third.
The marker of an escape may be repeated. -/
def translate : List Char → Option (List Nat)
  | [] => some []
  | '\\' :: 'u' :: rest =>
      match _marked : rest.dropWhile (· = 'u') with
      | first :: second :: third :: fourth :: after =>
          (Json.unit? first second third fourth).bind fun unit =>
            (translate after).map (unit :: ·)
      | _ => none
  | '\\' :: next :: rest => (translate rest).map ('\\'.toNat :: utf16Units next ++ ·)
  | character :: rest => (translate rest).map (utf16Units character ++ ·)
termination_by source => source.length
decreasing_by
  · have shorter := (List.dropWhile_suffix (· = 'u') (l := rest)).length_le
    rw [_marked] at shorter
    simp only [List.length_cons] at shorter ⊢
    omega
  · simp only [List.length_cons]
    omega
  · exact Nat.lt_succ_self _

/-- The characters that stand for others after a backslash. -/
def namedEscapes : List (Char × Char) := [
  ('b', '\x08'), ('s', ' '), ('t', '\t'), ('n', '\n'), ('f', '\x0c'), ('r', '\r'), ('"', '"'),
  ('\'', '\''), ('\\', '\\')]

def namedEscape? (unit : Nat) : Option Nat :=
  (namedEscapes.find? fun entry => entry.1.toNat = unit).map fun entry => entry.2.toNat

def octalDigit? (unit : Nat) : Option Nat :=
  if '0'.toNat ≤ unit && unit ≤ '7'.toNat then some (unit - '0'.toNat) else none

/-- No more than the allowed digits belong to the escape. -/
def readOctal : Nat → Nat → List Nat → Nat × List Nat
  | allowed + 1, value, unit :: rest =>
      match octalDigit? unit with
      | some digit => readOctal allowed (8 * value + digit) rest
      | none => (value, unit :: rest)
  | _, value, rest => (value, rest)

/-- An octal escape ends at `\377`, so it has three digits only when the first is small. -/
def readEscape? : List Nat → Option (Nat × List Nat)
  | [] => none
  | unit :: rest =>
      match octalDigit? unit with
      | some digit => some (readOctal (if digit ≤ 3 then 2 else 1) digit rest)
      | none => (namedEscape? unit).map fun value => (value, rest)

theorem length_readOctal_le (allowed value : Nat) (units : List Nat) :
    (readOctal allowed value units).2.length ≤ units.length := by
  fun_induction readOctal allowed value units with
  | case1 allowed value unit rest digit known ih => simp; omega
  | case2 => simp
  | case3 => simp

theorem length_readEscape?_lt {units after : List Nat} {value : Nat}
    (read : readEscape? units = some (value, after)) : after.length < units.length := by
  unfold readEscape? at read
  split at read
  case h_1 => cases read
  case h_2 unit rest =>
    split at read
    case h_1 digit known =>
      have shorter := length_readOctal_le (if digit ≤ 3 then 2 else 1) digit rest
      rw [Option.some.inj read] at shorter
      exact Nat.lt_succ_of_le shorter
    case h_2 =>
      obtain ⟨named, -, same⟩ := Option.map_eq_some_iff.1 read
      cases same
      simp

/-- The units of a literal up to its closing quote, and what follows. A literal ends on its line. -/
def readLiteral (quote : Nat) : List Nat → Option (List Nat × List Nat)
  | [] => none
  | unit :: rest =>
      if unit = quote then some ([], rest)
      else if unit = '\n'.toNat || unit = '\r'.toNat then none
      else if unit = '\\'.toNat then
        match _escaped : readEscape? rest with
        | none => none
        | some (value, after) => (readLiteral quote after).map (Prod.map (value :: ·) id)
      else (readLiteral quote rest).map (Prod.map (unit :: ·) id)
termination_by units => units.length
decreasing_by
  · have shorter := length_readEscape?_lt _escaped
    exact Nat.lt_succ_of_lt shorter
  · exact Nat.lt_succ_self _

theorem length_readLiteral_lt {quote : Nat} {units value after : List Nat}
    (read : readLiteral quote units = some (value, after)) : after.length < units.length := by
  fun_induction readLiteral quote units generalizing value with
  | case1 => cases read
  | case2 rest => cases read; simp
  | case3 => cases read
  | case4 => cases read
  | case5 rest escaped continued found differs line ih =>
      obtain ⟨⟨inner, remaining⟩, readRest, same⟩ := Option.map_eq_some_iff.1 read
      cases same
      have shorter := length_readEscape?_lt found
      exact Nat.lt_succ_of_lt (Nat.lt_trans (ih readRest) shorter)
  | case6 unit rest other line plain ih =>
      obtain ⟨⟨inner, remaining⟩, readRest, same⟩ := Option.map_eq_some_iff.1 read
      cases same
      exact Nat.lt_succ_of_lt (ih readRest)

/-- Everything outside of literals stays as it is. -/
inductive Lexeme where
  | text (value : List Nat)
  | character (value : Nat)
  | code (unit : Nat)
  deriving DecidableEq, Repr

/-- Text blocks and comments are left out: a source that has one of them is not read. -/
def lexemes : List Nat → Option (List Lexeme)
  | [] => some []
  | unit :: rest =>
      if unit = '"'.toNat then
        if rest.take 2 = ['"'.toNat, '"'.toNat] then none
        else
          match _literal : readLiteral unit rest with
          | some (value, after) => (lexemes after).map (.text value :: ·)
          | none => none
      else if unit = '\''.toNat then
        match _literal : readLiteral unit rest with
        | some ([value], after) => (lexemes after).map (.character value :: ·)
        | _ => none
      else if unit = '/'.toNat && (rest.head? = some '/'.toNat || rest.head? = some '*'.toNat) then
        none
      else (lexemes rest).map (.code unit :: ·)
termination_by units => units.length
decreasing_by
  · have shorter := length_readLiteral_lt _literal
    exact Nat.lt_succ_of_lt shorter
  · have shorter := length_readLiteral_lt _literal
    exact Nat.lt_succ_of_lt shorter
  · exact Nat.lt_succ_self _

/-- The lexemes of Java source. -/
def readSource (source : String) : Option (List Lexeme) :=
  (translate source.toList).bind lexemes

end BusBridge.Java
