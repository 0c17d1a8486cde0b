import JvmFacts.Class.Path
import JvmFacts.Session.Methods

/-!
Classes in a session: resolving what a reader delivers, remembering it by the id of the class, and
looking classes up by name.

A class is made only after all of it is prepared, so a class that fails leaves nothing behind but
descriptors. Failures are not remembered.
-/

set_option autoImplicit false

namespace JvmFacts.Session

def makeClass (p : PreparedClass) (s : Session) : ResolvedClass × Session :=
  let (methods, s) := makeAll p.methods s
  ({ serial := s.classesMade
     descriptor := p.descriptor
     superclass := p.superclass
     interfaces := p.interfaces
     flags := p.flags
     sourceFile := p.sourceFile
     fields := p.fields
     methods },
    { s with classesMade := s.classesMade + 1 })

def resolve (c : ClassDescriptor) (parsed : ParsedClass) : Working ResolvedClass := do
  let prepared ← interning (parsed.prepare c)
  modifyGet (makeClass prepared)

/-- Reads a class and resolves it. -/
def readClass (reader : ClassReader) (c : ClassDescriptor) : Working ResolvedClass := do
  match reader c with
  | .error fault => throw fault
  | .ok parsed => resolve c parsed

def rememberClass (c : ClassDescriptor) (record : ResolvedClass) (s : Session) : Session :=
  { s with run := { s.run with classes := s.run.classes.insert c.id record } }

/-- The class as this run knows it; it is read when it is not known. -/
def classRecord (reader : ClassReader) (c : ClassDescriptor) : Working ResolvedClass := do
  match (← get).run.classes.find? c.id with
  | some known => pure known
  | none =>
    let fresh ← ExceptT.adapt (Fault.unavailable c.name) (readClass reader c)
    modify (rememberClass c fresh)
    pure fresh

def knowsClass (s : Session) (c : ClassDescriptor) : Bool :=
  s.run.classes.contains c.id

def knowsDepth (s : Session) (c : ClassDescriptor) : Bool :=
  s.run.depths.contains c.id

/-- Remembers a depth unless one is there, and tells the one that is. -/
def rememberDepth (c : ClassDescriptor) (depth : Nat) (s : Session) : Nat × Session :=
  match s.run.depths.find? c.id with
  | some known => (known, s)
  | none => (depth, { s with run := { s.run with depths := s.run.depths.insert c.id depth } })

/-- The number of superclasses above a class, in at most so many steps. A class without superclass
has depth zero. -/
def depthWithin (reader : ClassReader) : (steps : Nat) → ClassDescriptor → Working Nat
  | 0, _ => throw (.other "superclass chain does not end")
  | steps + 1, c => do
    match (← get).run.depths.find? c.id with
    | some known => pure known
    | none =>
      let depth ← ExceptT.adapt (Fault.unavailable c.name) do
        let record ← classRecord reader c
        match record.superclass with
        | none => pure 0
        | some parent =>
          let above ← depthWithin reader steps parent
          pure (above + 1)
      modifyGet (rememberDepth c depth)

/-- A chain that does not close on itself passes each class that can be read and each class that is
remembered at most once. -/
def depth (path : ClassPath) (c : ClassDescriptor) : Working Nat := do
  depthWithin path.read (path.span + (← get).run.classes.length + 1) c

/-- A class by dotted or slashed name. -/
def lookup (reader : ClassReader) (name : String) : Working ResolvedClass := do
  if name.isEmpty then throw (.invalidDescriptor .emptyLookup)
  if !Name.isClass name then throw (.classNotFound (.invalidName name) none)
  ExceptT.adapt (fun fault => .classNotFound (.unresolved name) (some fault)) do
    let c ← interning (Registry.internClass (Name.slashed name))
    classRecord reader c

theorem lookup_of_empty (reader : ClassReader) :
    lookup reader "" = throw (.invalidDescriptor .emptyLookup) := by
  rfl

theorem lookup_of_invalid {reader : ClassReader} {name : String} (written : name ≠ "")
    (invalid : Name.isClass name = false) :
    lookup reader name = throw (.classNotFound (.invalidName name) none) := by
  have nonempty : ¬ name.isEmpty = true := mt String.isEmpty_iff.1 written
  simp only [lookup, if_neg nonempty, invalid, Bool.not_false, ↓reduceIte]
  rfl

theorem lookup_of_valid {reader : ClassReader} {name : String} (valid : Name.isClass name = true) :
    lookup reader name = ExceptT.adapt
      (fun fault => .classNotFound (.unresolved name) (some fault))
      (interning (Registry.internClass (Name.slashed name)) >>= classRecord reader) := by
  have written : ¬ name.isEmpty = true :=
    mt String.isEmpty_iff.1 (Name.ne_empty_of_isClass valid)
  simp only [lookup, if_neg written, valid, Bool.not_true, Bool.false_eq_true, ↓reduceIte]

/-- A name is turned down at once, or all else hangs on its class. -/
theorem lookup_cases (reader : ClassReader) (name : String) :
    (Name.isClass name = false ∧ ∃ fault, lookup reader name = throw fault) ∨
      (Name.isClass name = true ∧ ∃ wrap, lookup reader name = ExceptT.adapt wrap
        (interning (Registry.internClass (Name.slashed name)) >>= classRecord reader)) := by
  cases valid : Name.isClass name with
  | true => exact Or.inr ⟨rfl, _, lookup_of_valid valid⟩
  | false =>
    by_cases empty : name = ""
    · rw [empty]
      exact Or.inl ⟨rfl, _, lookup_of_empty reader⟩
    · exact Or.inl ⟨rfl, _, lookup_of_invalid empty valid⟩

/-- The class that declares a method, if it can be had. -/
def declaringClass (reader : ClassReader) (m : Method) : StateM Session (Option ResolvedClass) := do
  let outcome ← (classRecord reader m.owner).run
  pure outcome.toOption

end JvmFacts.Session
