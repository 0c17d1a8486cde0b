import JvmFacts.Name

/-!
Descriptors: what a registry hands out for a class, a method or a field.

Each registry carries a token, so descriptors of different registries differ even when all they say
agrees. The order compares what descriptors say and then their ids; it never looks at the token.
-/

set_option autoImplicit false

namespace JvmFacts

/-- A class by its slashed name, with the number it was given and the registry that gave it. -/
structure ClassDescriptor where
  registry : Nat
  id : Nat
  name : String
  deriving DecidableEq, Repr

inductive MemberKind where
  | method | field
  deriving DecidableEq, Repr

def MemberKind.label : MemberKind → String
  | method => "method"
  | field => "field"

/-- What a descriptor stands for: a class, or a member of one. -/
inductive DescriptorKind where
  | ofClass
  | ofMember (kind : MemberKind)
  deriving DecidableEq, Repr

def DescriptorKind.all : List DescriptorKind := [.ofClass, .ofMember .method, .ofMember .field]

def DescriptorKind.label : DescriptorKind → String
  | .ofClass => "class"
  | .ofMember kind => kind.label

structure MemberDescriptor (kind : MemberKind) where
  id : Nat
  owner : ClassDescriptor
  name : String
  signature : String
  isStatic : Bool
  deriving DecidableEq, Repr

abbrev MethodDescriptor := MemberDescriptor .method

abbrev FieldDescriptor := MemberDescriptor .field

inductive Descriptor where
  | ofClass (c : ClassDescriptor)
  | ofMethod (m : MethodDescriptor)
  | ofField (f : FieldDescriptor)
  deriving DecidableEq, Repr

/-- How ids are written. -/
def idText (id : Nat) : String :=
  s!"#{id}"

namespace ClassDescriptor

instance : Ord ClassDescriptor where
  compare := compareLex (compareOn name) (compareOn id)

def isArray (c : ClassDescriptor) : Bool :=
  Name.isArray c.name

def dottedName (c : ClassDescriptor) : String :=
  Name.dotted c.name

/-- The name behind its last slash. -/
def simpleName (c : ClassDescriptor) : String :=
  String.ofList (c.name.toList.reverse.takeWhile (· != '/')).reverse

/-- The dotted name before its last slash, empty when there is none. -/
def packageName (c : ClassDescriptor) : String :=
  Name.dotted (String.ofList (c.name.toList.reverse.dropWhile (· != '/')).tail.reverse)

def signature (c : ClassDescriptor) : String :=
  if c.isArray then c.name else "L" ++ c.name ++ ";"

def debug (c : ClassDescriptor) : String :=
  s!"ClassDescriptor({c.name}, {idText c.id})"

end ClassDescriptor

def MemberKind.debugName : MemberKind → String
  | method => "MethodDescriptor"
  | field => "FieldDescriptor"

namespace MemberDescriptor

variable {kind : MemberKind}

def className (m : MemberDescriptor kind) : String :=
  m.owner.name

instance : Ord (MemberDescriptor kind) where
  compare := compareLex (compareOn className) <| compareLex (compareOn name) <|
    compareLex (compareOn signature) <| compareLex (compareOn isStatic) (compareOn id)

def text (m : MemberDescriptor kind) : String :=
  s!"{m.className}.{m.name}{m.signature}"

def debug (m : MemberDescriptor kind) : String :=
  s!"{kind.debugName}({m.text}, static: {m.isStatic}, {idText m.id})"

end MemberDescriptor

namespace Descriptor

def kind : Descriptor → DescriptorKind
  | ofClass _ => .ofClass
  | ofMethod _ => .ofMember .method
  | ofField _ => .ofMember .field

def id : Descriptor → Nat
  | ofClass c => c.id
  | ofMethod m => m.id
  | ofField f => f.id

/-- The class itself, or the class that declares the member. -/
def owner : Descriptor → ClassDescriptor
  | ofClass c => c
  | ofMethod m => m.owner
  | ofField f => f.owner

def text : Descriptor → String
  | ofClass c => c.name
  | ofMethod m => m.text
  | ofField f => f.text

def debug : Descriptor → String
  | ofClass c => c.debug
  | ofMethod m => m.debug
  | ofField f => f.debug

def asMethod? : Descriptor → Option MethodDescriptor
  | ofMethod m => some m
  | _ => none

def asField? : Descriptor → Option FieldDescriptor
  | ofField f => some f
  | _ => none

/-- Only descriptors of one kind compare. -/
def compare? : Descriptor → Descriptor → Option Ordering
  | ofClass a, ofClass b => some (compare a b)
  | ofMethod a, ofMethod b => some (compare a b)
  | ofField a, ofField b => some (compare a b)
  | _, _ => none

end Descriptor

/-- Ascending, with equal elements left in the order they had. -/
def sortAscending {α : Type} [Ord α] (items : List α) : List α :=
  items.mergeSort fun a b => (compare a b).isLE

instance : Std.TransOrd ClassDescriptor :=
  inferInstanceAs (Std.TransCmp (compareLex (compareOn ClassDescriptor.name)
    (compareOn ClassDescriptor.id)))

instance {kind : MemberKind} : Std.TransOrd (MemberDescriptor kind) :=
  inferInstanceAs (Std.TransCmp (compareLex (compareOn MemberDescriptor.className) <|
    compareLex (compareOn MemberDescriptor.name) <|
    compareLex (compareOn MemberDescriptor.signature) <|
    compareLex (compareOn MemberDescriptor.isStatic) (compareOn MemberDescriptor.id)))

theorem pairwise_sortAscending {α : Type} [Ord α] [Std.TransOrd α] (items : List α) :
    (sortAscending items).Pairwise fun a b => (compare a b).isLE = true := by
  apply List.pairwise_mergeSort
  · intro a b c
    exact Std.TransCmp.isLE_trans
  · intro a b
    cases order : compare a b with
    | gt =>
      rw [Std.OrientedCmp.lt_of_gt order]
      rfl
    | _ => rfl

theorem ClassDescriptor.compare_eq_iff {a b : ClassDescriptor} :
    compare a b = .eq ↔ a.name = b.name ∧ a.id = b.id := by
  refine compareLex_eq_eq.trans ?_
  simp only [compareOn, Std.LawfulEqOrd.compare_eq_iff_eq]

theorem MemberDescriptor.compare_eq_iff {kind : MemberKind} {a b : MemberDescriptor kind} :
    compare a b = .eq ↔ a.owner.name = b.owner.name ∧ a.name = b.name ∧
      a.signature = b.signature ∧ a.isStatic = b.isStatic ∧ a.id = b.id := by
  refine compareLex_eq_eq.trans ?_
  simp only [compareLex_eq_eq, compareOn, className, Std.LawfulEqOrd.compare_eq_iff_eq]

end JvmFacts
