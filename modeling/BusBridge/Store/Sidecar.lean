/-
This file holds the sidecar of a cached source: what the source was generated for, and its
checksum.
-/

import BusBridge.Json.Printer
import BusBridge.Json.Reader
import BusBridge.Target.Json

namespace BusBridge

structure Sidecar where
  formatVersion : String
  target : Target
  className : String
  checksum : String
  deriving DecidableEq, Repr, Inhabited

namespace Sidecar

def toJson (sidecar : Sidecar) : Json :=
  .object [
    ("format_version", .text sidecar.formatVersion),
    ("target", sidecar.target.toJson),
    ("class_name", .text sidecar.className),
    ("checksum", .text sidecar.checksum)]

def ofJson? (value : Json) : Option Sidecar := do
  match ← value.record? ["format_version", "target", "class_name", "checksum"] with
  | [formatVersion, target, className, checksum] =>
      return {
        formatVersion := ← Json.required Json.text? formatVersion
        target := ← Json.required Target.ofJson? target
        className := ← Json.required Json.text? className
        checksum := ← Json.required Json.text? checksum }
  | _ => none

def print (sidecar : Sidecar) : String :=
  sidecar.toJson.print

def ofBytes? (content : ByteArray) : Option Sidecar :=
  (Json.parseBytes? content).bind ofJson?

end Sidecar

end BusBridge
