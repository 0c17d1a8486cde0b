import JvmFacts.Method.Basic

/-!
Facts about methods that a run gathers: which always throw, which are unsupported, which hand on a
parameter, and which member an access method stands for. Facts hang on the id of a method, so every
making of one method shares them.
-/

set_option autoImplicit false

namespace JvmFacts

structure FactTables where
  throwers : List Nat := []
  unsupported : List Nat := []
  identities : List Nat := []
  forwards : Table Nat MethodDescriptor := []
  accesses : Table Nat FieldDescriptor := []
  deriving DecidableEq, Repr

namespace FactTables

def empty : FactTables := {}

/-- How many facts are recorded. -/
def size (t : FactTables) : Nat :=
  t.throwers.length + t.unsupported.length + t.identities.length + t.forwards.length +
    t.accesses.length

def alwaysThrows (t : FactTables) (id : Nat) : Bool :=
  t.throwers.contains id

def isUnsupported (t : FactTables) (id : Nat) : Bool :=
  t.unsupported.contains id

def isIdentity (t : FactTables) (id : Nat) : Bool :=
  t.identities.contains id

def forwardsTo? (t : FactTables) (id : Nat) : Option MethodDescriptor :=
  t.forwards.find? id

def accesses? (t : FactTables) (id : Nat) : Option FieldDescriptor :=
  t.accesses.find? id

def insertIf (holds : Bool) (id : Nat) (ids : List Nat) : List Nat :=
  if holds && !ids.contains id then ids ++ [id] else ids

def insertSome {α : Type} (id : Nat) : Option α → Table Nat α → Table Nat α
  | none, t => t
  | some value, t => t.insert id value

/-- Adds what a prepared method brings. Marks are never taken back; a target replaces an earlier
one. -/
def record (t : FactTables) (p : PreparedMethod) : FactTables :=
  let id := p.body.descriptor.id
  { throwers := insertIf p.alwaysThrows id t.throwers
    unsupported := insertIf p.isUnsupported id t.unsupported
    identities := insertIf p.isIdentity id t.identities
    forwards := insertSome id p.forwardsTo t.forwards
    accesses := insertSome id p.accesses t.accesses }

theorem mem_insertIf (holds : Bool) (id other : Nat) (ids : List Nat) :
    other ∈ insertIf holds id ids ↔ other ∈ ids ∨ (holds = true ∧ id = other) := by
  unfold insertIf
  by_cases new : (holds && !ids.contains id) = true
  · simp only [Bool.and_eq_true] at new
    simp only [new, ↓reduceIte, List.mem_append, List.mem_singleton, true_and, Bool.and_self]
    rw [eq_comm (a := other)]
  · simp only [new, Bool.false_eq_true, ↓reduceIte]
    constructor
    · exact Or.inl
    · rintro (held | ⟨rfl, rfl⟩)
      · exact held
      · simpa using new

theorem find?_insertSome {α : Type} (id other : Nat) (value : Option α) (t : Table Nat α) :
    (insertSome id value t).find? other =
      if id = other then value.or (t.find? other) else t.find? other := by
  cases value with
  | none => simp [insertSome]
  | some value =>
    simp only [insertSome, Table.find?_insert]
    split <;> simp_all

end FactTables

end JvmFacts
