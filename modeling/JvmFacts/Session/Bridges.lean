import JvmFacts.Method.Basic

/-!
Bridge methods and the methods they forward to. Each direction is kept by the id of the method asked
about, so a later bridge for the same method takes the place of the earlier one.
-/

set_option autoImplicit false

namespace JvmFacts

structure Bridges where
  targets : Table Nat Method := []
  sources : Table Nat Method := []
  deriving DecidableEq, Repr

namespace Bridges

def empty : Bridges := {}

def set (b : Bridges) (source target : Method) : Bridges :=
  { targets := b.targets.insert source.descriptor.id target
    sources := b.sources.insert target.descriptor.id source }

/-- What the bridge forwards to. -/
def target? (b : Bridges) (source : MethodDescriptor) : Option Method :=
  b.targets.find? source.id

/-- The bridge that forwards to the method. -/
def source? (b : Bridges) (target : MethodDescriptor) : Option Method :=
  b.sources.find? target.id

def size (b : Bridges) : Nat :=
  b.targets.length

end Bridges

end JvmFacts
