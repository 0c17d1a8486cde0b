import JvmFacts.Annotation
import JvmFacts.Diagnostics
import JvmFacts.Flags
import JvmFacts.Method.ParameterMask

/-!
Drafts of methods.

A scanner of class files gathers what it sees of a method one step at a time. Names and signatures
are plain text here; nothing is checked before the draft is prepared against a registry.
-/

set_option autoImplicit false

namespace JvmFacts

/-- A member as it is written, before it is interned. -/
structure MemberReference where
  owner : String
  name : String
  signature : String
  isStatic : Bool
  deriving DecidableEq, Repr

structure MethodDraft where
  className : String
  name : String
  signature : String
  flags : MethodFlags
  sourceSignature : Option String := none
  exceptions : List String := []
  named : ParameterMask := 0
  explicitlySynthetic : ParameterMask := 0
  alwaysThrows : Bool := false
  isUnsupported : Bool := false
  usesConcurrency : Bool := false
  isStub : Bool := false
  hasBackBranch : Bool := false
  isIdentity : Bool := false
  callCount : Nat := 0
  forwardsTo : Option MemberReference := none
  accesses : Option MemberReference := none
  annotations : AnnotationTable := []
  parameterAnnotations : ParameterTable := []

/-- One thing seen of a method. -/
inductive DraftStep where
  | setFlags (flags : MethodFlags)
  | addFlags (flags : MethodFlags)
  | sourceSignature (signature : String)
  | exceptions (names : List String)
  | named (parameter : Nat)
  | synthetic (parameter : Nat)
  | alwaysThrows
  | unsupported
  | concurrency
  | stub
  | backBranch
  | identity
  | calls (count : Nat)
  | forwardsTo (method : MemberReference)
  | accesses (field : MemberReference)
  | annotate (added : Annotation)
  | annotateParameter (parameter : Nat) (added : Annotation)

namespace MethodDraft

/-- A method whose first parameter carries an annotation does not merely hand it on, so it is not
taken for an identity after that. -/
def apply (d : MethodDraft) : DraftStep → MethodDraft
  | .setFlags flags => { d with flags := flags }
  | .addFlags flags => { d with flags := d.flags.union flags }
  | .sourceSignature signature => { d with sourceSignature := some signature }
  | .exceptions names => { d with exceptions := names }
  | .named parameter => { d with named := d.named.mark parameter }
  | .synthetic parameter => { d with explicitlySynthetic := d.explicitlySynthetic.mark parameter }
  | .alwaysThrows => { d with alwaysThrows := true }
  | .unsupported => { d with isUnsupported := true }
  | .concurrency => { d with usesConcurrency := true }
  | .stub => { d with isStub := true }
  | .backBranch => { d with hasBackBranch := true }
  | .identity => { d with isIdentity := d.isIdentity || !d.parameterAnnotations.contains 0 }
  | .calls count => { d with callCount := count }
  | .forwardsTo method => { d with forwardsTo := some method }
  | .accesses field => { d with accesses := some field }
  | .annotate a => { d with annotations := d.annotations.add a }
  | .annotateParameter parameter a =>
    { d with parameterAnnotations := d.parameterAnnotations.add parameter a }

def applyAll (d : MethodDraft) (steps : List DraftStep) : MethodDraft :=
  steps.foldl apply d

def droppedMark (d : MethodDraft) (parameter : Nat) (mark : String) : Option LogRecord :=
  if ParameterMask.isTracked parameter then none
  else some ⟨.debug, s!"{d.className}.{d.name}{d.signature}: parameter {parameter} " ++
    s!"is beyond the tracked range, {mark} bit dropped"⟩

/-- What the log hears of a step: a mark on a parameter that cannot carry one. -/
def remark? (d : MethodDraft) : DraftStep → Option LogRecord
  | .named parameter => d.droppedMark parameter "has-name"
  | .synthetic parameter => d.droppedMark parameter "synthetic"
  | _ => none

def syntheticMask (d : MethodDraft) : ParameterMask :=
  ParameterMask.synthetic d.named d.explicitlySynthetic

def isStatic (d : MethodDraft) : Bool :=
  d.flags.has .accStatic

@[simp] theorem applyAll_nil (d : MethodDraft) : d.applyAll [] = d := rfl

@[simp] theorem applyAll_cons (d : MethodDraft) (step : DraftStep) (rest : List DraftStep) :
    d.applyAll (step :: rest) = (d.apply step).applyAll rest := rfl

theorem applyAll_append (d : MethodDraft) (first second : List DraftStep) :
    d.applyAll (first ++ second) = (d.applyAll first).applyAll second := by
  induction first generalizing d with
  | nil => rfl
  | cons step rest ih => exact ih (d.apply step)

end MethodDraft

end JvmFacts
