/-
This file holds the tables of a TOML document while it is read. A table is opened at most once
by a header, and a dotted key ends in a table that dotted keys made.
-/

import BusBridge.Json.Basic

namespace BusBridge.Toml

inductive TableStyle where
  | implied
  | opened
  | dotted
  deriving DecidableEq, Repr

/-- Arrays and inline tables are values, which nothing extends. -/
inductive Entry where
  | value (value : Json)
  | table (style : TableStyle) (entries : List (String × Entry))
  | tables (items : List (List (String × Entry)))

abbrev Table := List (String × Entry)

def Table.replace (key : String) (entry : Entry) : Table → Table
  | [] => [(key, entry)]
  | head :: rest =>
      if head.1 = key then (key, entry) :: rest else head :: Table.replace key entry rest

/-- The last table of an array is the one that later lines extend. -/
def modifyLast (change : Table → Option Table) (items : List Table) : Option (List Table) :=
  match items.reverse with
  | [] => none
  | last :: before => (change last).map fun changed => (changed :: before).reverse

/-- The path names tables that exist. -/
def Table.modifyAt (change : Table → Option Table) : List String → Table → Option Table
  | [], table => change table
  | key :: path, table => do
      match ← table.lookup key with
      | .table style entries =>
          let changed ← Table.modifyAt change path entries
          return table.replace key (.table style changed)
      | .tables items =>
          let changed ← modifyLast (Table.modifyAt change path) items
          return table.replace key (.tables changed)
      | .value _ => none

/-- The tables on the way to a header are implied by it. -/
def Table.descend (last : String → Table → Option Table) : List String → Table → Option Table
  | [], _ => none
  | [key], table => last key table
  | key :: path, table =>
      match table.lookup key with
      | none => do
          let changed ← Table.descend last path []
          return table.replace key (.table .implied changed)
      | some (.table style entries) => do
          let changed ← Table.descend last path entries
          return table.replace key (.table style changed)
      | some (.tables items) => do
          let changed ← modifyLast (Table.descend last path) items
          return table.replace key (.tables changed)
      | some (.value _) => none

def openLast (key : String) (table : Table) : Option Table :=
  match table.lookup key with
  | none => some (table.replace key (.table .opened []))
  | some (.table .implied entries) => some (table.replace key (.table .opened entries))
  | some _ => none

def appendLast (key : String) (table : Table) : Option Table :=
  match table.lookup key with
  | none => some (table.replace key (.tables [[]]))
  | some (.tables items) => some (table.replace key (.tables (items ++ [[]])))
  | some _ => none

def Table.open (path : List String) (table : Table) : Option Table :=
  table.descend openLast path

def Table.append (path : List String) (table : Table) : Option Table :=
  table.descend appendLast path

/-- A key is given one value. -/
def assignLast (value : Json) (key : String) (table : Table) : Option Table :=
  match table.lookup key with
  | none => some (table.replace key (.value value))
  | some _ => none

/--
A path leads through tables that no header has opened, and through the last table of an array.
It may end in a table where `mayEnd` holds.
-/
def Table.extend (value : Json) (mayEnd : Bool) : List String → Table → Option Table
  | [], _ => none
  | [key], table => if mayEnd then assignLast value key table else none
  | key :: path, table =>
      match table.lookup key with
      | none => do
          let changed ← Table.extend value true path []
          return table.replace key (.table .dotted changed)
      | some (.table .opened _) => none
      | some (.table style entries) => do
          let changed ← Table.extend value (style = .dotted) path entries
          return table.replace key (.table style changed)
      | some (.tables items) => do
          let changed ← modifyLast (Table.extend value false path) items
          return table.replace key (.tables changed)
      | some (.value _) => none

def Table.assign (value : Json) (path : List String) (table : Table) : Option Table :=
  table.extend value true path

mutual

def Entry.toJson : Entry → Json
  | .value held => held
  | .table _ entries => .object (Entry.members entries)
  | .tables items => .array (Entry.objects items)

def Entry.members : List (String × Entry) → List (String × Json)
  | [] => []
  | (key, entry) :: rest => (key, entry.toJson) :: Entry.members rest

def Entry.objects : List (List (String × Entry)) → List Json
  | [] => []
  | entries :: rest => .object (Entry.members entries) :: Entry.objects rest

end

def Table.toJson (table : Table) : Json :=
  .object (Entry.members table)

end BusBridge.Toml
