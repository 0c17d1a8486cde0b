import JvmFacts.Method.Basic
import JvmFacts.Promise.Nullness

/-!
Nullness from annotations read as type qualifiers. Answers are remembered by the id of the method
and the slot, and those of a method are forgotten when its annotations change.
-/

set_option autoImplicit false

namespace JvmFacts

structure QualifiedNullness where
  memo : Table (Nat × Slot) (Option Nullness) := []
  isLoaded : Bool := false
  deriving DecidableEq, Repr

namespace QualifiedNullness

def empty : QualifiedNullness := {}

/-- How many answers are remembered. -/
def size (q : QualifiedNullness) : Nat :=
  q.memo.length

/-- The remembered answer, or the one that the annotations give now, which is then remembered. -/
def resolve (q : QualifiedNullness) (m : MethodBody) (annotations : MethodAnnotations)
    (slot : Slot) : Option Nullness × QualifiedNullness :=
  let key := (m.descriptor.id, slot)
  match q.memo.find? key with
  | some answer => (answer, q)
  | none =>
    let answer := Nullness.ofQualifiers? (annotations.inSlot slot)
    (answer, { q with memo := q.memo.insert key answer })

def forget (q : QualifiedNullness) (id : Nat) : QualifiedNullness :=
  { q with memo := q.memo.filter fun entry => entry.1.1 != id }

/-- The methods whose first parameter may always be null: `equals` on any object. -/
def isObjectEquals (m : MethodBody) : Bool :=
  m.name == "equals" && m.signature == "(Ljava/lang/Object;)Z" && !m.has .accStatic

end QualifiedNullness

end JvmFacts
