import JvmFacts.Class.Parsed

/-!
Where classes are read from.

A reader answers each class with its structure or with a fault. A class path is a reader held in
memory: classes by slashed name, and replacements that are looked at first and may be faults.
-/

set_option autoImplicit false

namespace JvmFacts

abbrev ClassReader := ClassDescriptor → Except Fault ParsedClass

structure ClassPath where
  classes : Table String ParsedClass := []
  replacements : Table String (Except Fault ParsedClass) := []

namespace ClassPath

def size (path : ClassPath) : Nat :=
  path.classes.length

def isEmpty (path : ClassPath) : Bool :=
  path.classes.isEmpty

def add (path : ClassPath) (parsed : ParsedClass) : ClassPath :=
  { path with classes := path.classes.insert (Name.slashed parsed.name) parsed }

def replace (path : ClassPath) (name : String) (outcome : Except Fault ParsedClass) : ClassPath :=
  { path with replacements := path.replacements.insert name outcome }

/-- Takes a replacement away, if there is one of exactly this name. -/
def restore (path : ClassPath) (name : String) : ClassPath :=
  { path with replacements := path.replacements.erase name }

def isReplaced (path : ClassPath) (name : String) : Bool :=
  path.replacements.contains name

def read (path : ClassPath) : ClassReader := fun c =>
  match path.replacements.find? c.name with
  | some outcome => outcome
  | none =>
    match path.classes.find? c.name with
    | some parsed => .ok parsed
    | none => .error (.missingClass c.name)

/-- More than the number of classes that can be read. -/
def span (path : ClassPath) : Nat :=
  path.classes.length + path.replacements.length + 1

end ClassPath

end JvmFacts
