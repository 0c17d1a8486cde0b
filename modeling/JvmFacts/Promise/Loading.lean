import JvmFacts.Diagnostics
import JvmFacts.Registry

/-!
Loading built-in entries into a table. Each entry is interned first; one that cannot be is skipped
with a warning.
-/

set_option autoImplicit false

namespace JvmFacts

/-- A method that built-in tables mention. -/
structure KnownMethod where
  owner : String
  name : String
  signature : String
  isStatic : Bool := false

structure Loading (τ : Type) where
  table : τ
  registry : Registry
  log : List LogRecord := []

namespace Loading

variable {τ δ : Type}

def skip (kind entry : String) (fault : Fault) : LogRecord :=
  ⟨.warn, s!"skipping {kind} entry {entry}: {fault.message}"⟩

/-- Interns one entry and records it. -/
def take (kind entry : String) (intern : Interning δ) (record : δ → τ → τ) (l : Loading τ) :
    Loading τ :=
  match intern.run.run l.registry with
  | (.ok descriptor, registry) => { l with table := record descriptor l.table, registry }
  | (.error fault, registry) => { l with registry, log := l.log ++ [skip kind entry fault] }

def takeMethod (kind : String) (method : KnownMethod) (record : MethodDescriptor → τ → τ) :
    Loading τ → Loading τ :=
  take kind s!"{method.owner}.{method.name}"
    (Registry.internMethod method.owner method.name method.signature method.isStatic) record

def takeClass (kind : String) (name : String) (record : ClassDescriptor → τ → τ) :
    Loading τ → Loading τ :=
  take kind name (Registry.internClass name) record

end Loading

end JvmFacts
