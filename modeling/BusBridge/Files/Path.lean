/-
This file holds paths: texts whose segments are separated by slashes.
-/

import BusBridge.Text.Basic

namespace BusBridge.Path

def isAbsolute (path : String) : Bool :=
  path.toList.head? == some '/'

/-- An absolute part takes the place of the base. -/
def join (base part : String) : String :=
  if isAbsolute part then part
  else if base = "" || base.toList.getLast? = some '/' then base ++ part
  else base ++ "/" ++ part

/-- Repeated slashes and single dots stand for nothing. -/
def segments (path : String) : List String :=
  (Text.split '/' path).filter fun segment => segment != "" && segment != "."

/-- A slash at the end stays in the directory before it, as a single dot does. -/
def steps (path : String) : List String :=
  let pieces := Text.split '/' path
  pieces.filter (· != "") ++ if pieces.getLast? = some "" then ["."] else []

/-- The path of the segments, from the same start. -/
def along (path : String) (segments : List String) : String :=
  (if isAbsolute path then "/" else "") ++ "/".intercalate segments

/-- The path without what stands for nothing. -/
def plain (path : String) : String :=
  along path (segments path)

/-- The path without its last segment. -/
def parent (path : String) : String :=
  along path (segments path).dropLast

/-- The last segment is a single dot, with or without slashes after it. -/
def endsInDot (path : String) : Bool :=
  ((Text.split '/' path).filter (· != "")).getLast? == some "."

/-- Two dots name no file. -/
def fileName? (path : String) : Option String :=
  match (segments path).getLast? with
  | some ".." => none
  | last => last

/-- Another name takes the place of the last one, or is put after a path that names no file. -/
def withFileName (path name : String) : String :=
  join (if (fileName? path).isSome then parent path else path) name

/-- A name that only starts with a dot has no extension. -/
def extension? (path : String) : Option String :=
  match (fileName? path).bind (Text.splitLast? '.') with
  | some ("", _) => none
  | found => found.map Prod.snd

end BusBridge.Path
