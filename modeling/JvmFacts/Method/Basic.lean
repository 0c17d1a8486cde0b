import JvmFacts.Method.Draft
import JvmFacts.Registry
import JvmFacts.Text.Quoted

/-!
Methods. What a class file says of a method is fixed once the method is made; annotations and the
facts that a run gathers about it are kept by the run.

Preparing a draft interns the method and the members it stands for. It can fail, and touches nothing
but the registry.
-/

set_option autoImplicit false

namespace JvmFacts

/-- What is fixed about a method. -/
structure MethodBody where
  descriptor : MethodDescriptor
  flags : MethodFlags
  sourceSignature : Option String
  exceptions : List String
  syntheticParameters : ParameterMask
  callCount : Nat
  usesConcurrency : Bool
  hasBackBranch : Bool
  isStub : Bool
  deriving DecidableEq, Repr

/-- A method that was made; the serial number tells makings apart. -/
structure Method extends MethodBody where
  serial : Nat
  deriving DecidableEq, Repr

inductive ElementKind where
  | constructor | method
  deriving DecidableEq, Repr

def ElementKind.all : List ElementKind := [.constructor, .method]

def ElementKind.label : ElementKind → String
  | .constructor => "CONSTRUCTOR"
  | .method => "METHOD"

namespace MethodBody

def name (m : MethodBody) : String :=
  m.descriptor.name

def signature (m : MethodBody) : String :=
  m.descriptor.signature

def owner (m : MethodBody) : ClassDescriptor :=
  m.descriptor.owner

def has (m : MethodBody) (flag : MethodFlag) : Bool :=
  m.flags.has flag

/-- The signature taken apart. Every descriptor that a registry hands out has one that parses. -/
def parsed? (m : MethodBody) : Option MethodSignature :=
  MethodSignature.parse? m.signature.toList

def parameterCount (m : MethodBody) : Nat :=
  match m.parsed? with
  | some s => s.parameters.length
  | none => 0

def returnsReference (m : MethodBody) : Bool :=
  match m.parsed? with
  | some s => s.result.isReference
  | none => false

def isSyntheticParameter (m : MethodBody) (parameter : Nat) : Bool :=
  m.syntheticParameters.holds parameter

def elementKind (m : MethodBody) : ElementKind :=
  if m.name = Name.constructorName then .constructor else .method

/-- By descriptor, then flags, then source signature, where none comes first. -/
instance : Ord MethodBody where
  compare := compareLex (compareOn descriptor) <|
    compareLex (compareOn fun m => m.flags.bits.toNat) (compareOn sourceSignature)

/-- Methods are equal when the order cannot tell them apart. -/
def equal (a b : MethodBody) : Bool :=
  compare a b == .eq

def debug (m : MethodBody) : String :=
  let source := match m.sourceSignature with
    | some signature => "Some(" ++ Text.quote signature ++ ")"
    | none => "None"
  let exceptions := "[" ++ ", ".intercalate (m.exceptions.map Text.quote) ++ "]"
  "MethodInfo \x7b descriptor: " ++ m.descriptor.debug ++
    ", access_flags: MethodAccessFlags(" ++ m.flags.render ++
    "), source_signature: " ++ source ++
    ", exceptions: " ++ exceptions ++
    ", variable_is_synthetic: " ++ toString m.syntheticParameters.toNat ++
    ", method_call_count: " ++ toString m.callCount ++ ", .. \x7d"

end MethodBody

/-- A draft whose members are interned, with the facts and annotations it brings. -/
structure PreparedMethod where
  body : MethodBody
  alwaysThrows : Bool
  isUnsupported : Bool
  isIdentity : Bool
  forwardsTo : Option MethodDescriptor
  accesses : Option FieldDescriptor
  annotations : AnnotationTable
  parameterAnnotations : ParameterTable

def MemberReference.intern (kind : MemberKind) (r : MemberReference) :
    Interning (MemberDescriptor kind) :=
  Registry.internMember kind r.owner r.name r.signature r.isStatic

/-- Interns the member that is referred to, if any. -/
def MemberReference.internAll? (kind : MemberKind) :
    Option MemberReference → Interning (Option (MemberDescriptor kind))
  | none => pure none
  | some r => some <$> r.intern kind

namespace MethodDraft

/-- The method comes first, then the method and the field that it stands for. -/
def prepare (d : MethodDraft) : Interning PreparedMethod := do
  let descriptor ← Registry.internMethod d.className d.name d.signature d.isStatic
  let forwardsTo ← MemberReference.internAll? .method d.forwardsTo
  let accesses ← MemberReference.internAll? .field d.accesses
  let exceptions ← d.exceptions.mapM Registry.canonical
  let sourceSignature ← d.sourceSignature.mapM Registry.canonical
  pure
    { body :=
        { descriptor, flags := d.flags, sourceSignature, exceptions
          syntheticParameters := d.syntheticMask
          callCount := d.callCount
          usesConcurrency := d.usesConcurrency
          hasBackBranch := d.hasBackBranch
          isStub := d.isStub }
      alwaysThrows := d.alwaysThrows
      isUnsupported := d.isUnsupported
      isIdentity := d.isIdentity
      forwardsTo, accesses
      annotations := d.annotations
      parameterAnnotations := d.parameterAnnotations }

end MethodDraft

end JvmFacts
