import JvmFacts.Signature.Parser

/-!
What can go wrong, by cause, and the one text of each cause.

A fault may wrap the fault that led to it. A fault counts as "the class does not exist" when the one
at the bottom of the wrapping says so.
-/

set_option autoImplicit false

namespace JvmFacts

/-- Why something is no descriptor. -/
inductive NameFault where
  | emptyClassName
  | className (name : String)
  | methodName (name : String)
  | methodSignature (signature : String)
  | fieldName (name : String)
  | fieldSignature (signature : String)
  | emptyLookup
  | malformedSignature (signature : String) (why : SignatureFault)
  | reported (text : String)
  deriving DecidableEq, Repr

def NameFault.message : NameFault → String
  | emptyClassName => "empty class name"
  | className name => s!"invalid class name '{name}'"
  | methodName name => s!"invalid method name '{name}'"
  | methodSignature signature => s!"invalid method signature '{signature}'"
  | fieldName name => s!"invalid field name '{name}'"
  | fieldSignature signature => s!"invalid field signature '{signature}'"
  | emptyLookup => "Class name is empty"
  | malformedSignature signature why => why.message signature
  | reported text => text

inductive LookupFault where
  | invalidName (name : String)
  | unresolved (name : String)
  | reported (text : String)
  deriving DecidableEq, Repr

def LookupFault.message : LookupFault → String
  | invalidName name => s!"Invalid class name: {name}"
  | unresolved name => s!"Class not found: {name}"
  | reported text => text

/-- Why the structure of a class contradicts itself. -/
inductive StructureFault where
  | otherClass (expected declared : String)
  | foreignMethod (method signature expected declared : String)
  | reported (file : String) (line : Nat) (text : String)
  deriving DecidableEq, Repr

def StructureFault.message : StructureFault → String
  | otherClass expected declared => s!"classfile for {expected} declares class {declared}"
  | foreignMethod method signature expected declared =>
    s!"method {method}{signature} of {expected} is declared in {declared}"
  | reported _ _ text => text

/-- The message, after the place that a reader of class files named. -/
def StructureFault.render (fault : StructureFault) : String :=
  match fault with
  | reported file line text => s!"{file}:{line}: {text}"
  | _ => fault.message

inductive GraphFault where
  | noSource (node count : Nat)
  | noTarget (node count : Nat)
  | reported (text : String)
  deriving DecidableEq, Repr

def GraphFault.message : GraphFault → String
  | noSource node count => s!"source node n{node} does not exist in graph with {count} nodes"
  | noTarget node count => s!"target node n{node} does not exist in graph with {count} nodes"
  | reported text => text

inductive Fault where
  | invalidDescriptor (why : NameFault)
  | classNotFound (why : LookupFault) (cause : Option Fault)
  | missingClass (name : String)
  | classUnavailable (name : String) (cause : Fault)
  | malformed (why : StructureFault)
  | unsupported (operation : String)
  | file (text : String)
  | graph (why : GraphFault)
  | other (text : String)
  deriving Repr

namespace Fault

def message : Fault → String
  | invalidDescriptor why => s!"Invalid descriptor - {why.message}"
  | classNotFound why _ => why.message
  | missingClass name => s!"Missing class - {name}"
  | classUnavailable name _ => s!"Class {name} is unavailable"
  | malformed why => s!"Malformed - {why.render}"
  | unsupported operation => s!"Operation not supported by this context - {operation}"
  | file text => text
  | graph why => why.message
  | other text => text

/-- The fault that this one wraps. -/
def cause? : Fault → Option Fault
  | classNotFound _ cause => cause
  | classUnavailable _ cause => some cause
  | _ => none

/-- The class does not exist, by this fault or by the one it wraps. -/
def isMissingClass : Fault → Bool
  | missingClass _ => true
  | classUnavailable _ cause => cause.isMissingClass
  | classNotFound _ (some cause) => cause.isMissingClass
  | _ => false

/-- Something lies beneath this fault; a failed file operation has its own cause. -/
def hasCause : Fault → Bool
  | file _ => true
  | fault => fault.cause?.isSome

/-- Says which class could not be had, unless the fault says so itself. -/
def unavailable (name : String) : Fault → Fault
  | classUnavailable inner cause => classUnavailable inner cause
  | fault => classUnavailable name fault

@[simp] theorem isMissingClass_unavailable (name : String) (fault : Fault) :
    (unavailable name fault).isMissingClass = fault.isMissingClass := by
  cases fault <;> simp only [unavailable, isMissingClass]

end Fault

end JvmFacts
