/-
This file holds the gate between the program and the place where its log goes.
-/

import BusBridge.Log.Record

namespace BusBridge

/-- A new gate has no outlet and lets the level `info` through. -/
structure LogGate where
  level : LogLevel := .info
  hasOutlet : Bool := false
  deriving DecidableEq, Repr

namespace LogGate

def isEnabled (gate : LogGate) (level : LogLevel) : Bool :=
  gate.level.passes level

/-- The outlet keeps every record that it gets. -/
def forward (gate : LogGate) (outlet : List LogRecord) (record : LogRecord) : List LogRecord :=
  if gate.isEnabled record.level && gate.hasOutlet then outlet ++ [record] else outlet

end LogGate

def recordsAt (level : LogLevel) (records : List LogRecord) : List LogRecord :=
  records.filter fun record => record.level == level

/-- Before a filter is installed there is nothing to replace. -/
structure FilterHandle where
  filter : Option LogLevel := none
  deriving DecidableEq, Repr

namespace FilterHandle

def isInstalled (handle : FilterHandle) : Bool :=
  handle.filter.isSome

def replace (handle : FilterHandle) (level : LogLevel) : Except String FilterHandle :=
  if handle.isInstalled then .ok ⟨some level⟩
  else .error "reload handle not initialized"

end FilterHandle

end BusBridge
