/-
This file holds what synthesized code takes from a configuration, and the names that it makes.
-/

import BusBridge.Character.Upper
import BusBridge.Configuration.Basic
import BusBridge.Text.Basic

namespace BusBridge

/-- The two variables are the parameters of a generated method. -/
structure SynthesisContext where
  bus : BusApi := {}
  annotations : AnnotationNames := {}
  loaderContract : String := ({} : Configuration).loaderContract
  busVariable : String := "bus"
  instanceVariable : String := "instance"
  deriving DecidableEq, Repr, Inhabited

def SynthesisContext.ofConfiguration (configuration : Configuration) : SynthesisContext where
  bus := configuration.bus
  annotations := configuration.annotations
  loaderContract := configuration.loaderContract

namespace Synthesis

def setterName (property : String) : String :=
  "set" ++ Text.capitalize property

/-- The whole name goes into the class name, so equal simple names stay apart. -/
def proxyClassName (interface : String) : String :=
  Text.replace '$' '_' (Text.replace '.' '_' interface) ++ "Impl"

/-- The subject that carries the calls to an interface. -/
def callSubject (interface : String) : String :=
  interface ++ ":RPC"

/-- The subject that carries the events of a type. -/
def eventSubject (subjectPrefix eventType : String) : String :=
  subjectPrefix ++ eventType

end Synthesis

end BusBridge
