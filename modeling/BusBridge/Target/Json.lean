/-
This file reads targets and class names from JSON values and writes them.
-/

import BusBridge.Json.Basic
import BusBridge.Target

namespace BusBridge

namespace Strategy

def ofJson? (value : Json) : Option Strategy :=
  value.word?.bind ofName?

end Strategy

namespace Target

def toJson (target : Target) : Json :=
  .object [("type_name", .text target.typeName), ("strategy", .text target.strategy.name)]

def ofJson? (value : Json) : Option Target := do
  match ← value.record? ["type_name", "strategy"] with
  | [typeName, strategy] =>
      return {
        typeName := ← Json.required Json.text? typeName
        strategy := ← Json.required Strategy.ofJson? strategy }
  | _ => none

end Target

namespace ClassName

def toJson (name : ClassName) : Json :=
  .object [("package", .text name.package), ("simple", .text name.simple)]

/-- A qualified name stands for its parts. -/
def ofJson? : Json → Option ClassName
  | .text qualified => some (parse qualified)
  | value => do
      match ← value.record? ["package", "simple"] with
      | [package, simple] =>
          return ⟨← Json.required Json.text? package, ← Json.required Json.text? simple⟩
      | _ => none

end ClassName

end BusBridge
