/-!
The switches of a session.
-/

set_option autoImplicit false

namespace JvmFacts

structure Config where
  /-- Nullness is read from type qualifiers, else plainly. -/
  useTypeQualifiers : Bool
  /-- Classes are resolved side by side, so that it is not settled in which order. -/
  parallelResolution : Bool
  /-- The size of the hierarchy is logged once it is built. -/
  debugHierarchy : Bool
  /-- The built-in promises are loaded after the first pass. -/
  loadBuiltIns : Bool
  deriving DecidableEq, Repr

namespace Config

def usual : Config := ⟨true, true, false, true⟩

def minimal : Config := ⟨false, false, false, false⟩

def comprehensive : Config := { usual with debugHierarchy := true }

end Config

end JvmFacts
