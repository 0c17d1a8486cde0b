import JvmFacts.Annotation

/-!
Which annotation classes are still there at run time. A class of which nothing is known is taken to
be.
-/

set_option autoImplicit false

namespace JvmFacts

/-- By the id of the annotation class. -/
structure RetentionTable where
  entries : Table Nat Bool := []
  deriving DecidableEq, Repr

namespace RetentionTable

def empty : RetentionTable := {}

def set (t : RetentionTable) (c : ClassDescriptor) (atRuntime : Bool) : RetentionTable :=
  { t with entries := t.entries.insert c.id atRuntime }

/-- Reads the element `value` of a retention annotation; one that is no enum says nothing. -/
def record (t : RetentionTable) (c : ClassDescriptor) (retention : Annotation) : RetentionTable :=
  match retention.enumConstant? "value" with
  | some constant => t.set c (constant == "RUNTIME")
  | none => t

/-- Known not to be there. -/
def isLacking (t : RetentionTable) (c : ClassDescriptor) : Bool :=
  t.entries.find? c.id == some false

end RetentionTable

end JvmFacts
