/-!
Type signatures of the JVM: the grammar as a type, and the text of each signature.

A field type is a number of array brackets over a primitive letter or over a class name between
an L and a semicolon. A method signature is a parenthesised list of field types followed by a field
type or by V. The text of a value determines it on values that are `Proper`.
-/

set_option autoImplicit false

namespace JvmFacts

inductive Primitive where
  | byte | char | double | float | int | long | short | boolean
  deriving DecidableEq, Repr

namespace Primitive

def letter : Primitive → Char
  | byte => 'B'
  | char => 'C'
  | double => 'D'
  | float => 'F'
  | int => 'I'
  | long => 'J'
  | short => 'S'
  | boolean => 'Z'

def ofLetter? : Char → Option Primitive
  | 'B' => some byte
  | 'C' => some char
  | 'D' => some double
  | 'F' => some float
  | 'I' => some int
  | 'J' => some long
  | 'S' => some short
  | 'Z' => some boolean
  | _ => none

@[simp] theorem ofLetter?_letter (p : Primitive) : ofLetter? p.letter = some p := by
  cases p <;> rfl

theorem letter_of_ofLetter? {c : Char} {p : Primitive} (read : ofLetter? c = some p) :
    p.letter = c := by
  unfold ofLetter? at read
  split at read <;> cases read <;> rfl

end Primitive

/-- What the brackets of an array stand before. -/
inductive BaseType where
  | primitive (p : Primitive)
  | object (name : List Char)
  deriving DecidableEq, Repr

structure FieldType where
  dimensions : Nat
  base : BaseType
  deriving DecidableEq, Repr

inductive ResultType where
  | void
  | value (type : FieldType)
  deriving DecidableEq, Repr

structure MethodSignature where
  parameters : List FieldType
  result : ResultType
  deriving DecidableEq, Repr

/-- An array has at most this many dimensions. -/
def maxDimensions : Nat := 255

/-- The characters that no class name in a signature holds. -/
def isNameBreak (c : Char) : Bool :=
  c == ';' || c == '.' || c == '[' || c == '(' || c == ')' || c == '<' || c == '>'

/-- No two slashes stand side by side. -/
def noDoubleSlash : List Char → Bool
  | '/' :: '/' :: _ => false
  | _ :: rest => noDoubleSlash rest
  | [] => true

/-- A class name as it may stand between the L and the semicolon. -/
def isObjectName (name : List Char) : Bool :=
  !name.isEmpty && name.head? != some '/' && name.getLast? != some '/' && noDoubleSlash name &&
    !name.any isNameBreak

namespace BaseType

def text : BaseType → List Char
  | primitive p => [p.letter]
  | object name => 'L' :: (name ++ [';'])

def Proper : BaseType → Prop
  | primitive _ => True
  | object name => isObjectName name = true

instance (t : BaseType) : Decidable t.Proper := by
  cases t <;> simp only [Proper] <;> infer_instance

end BaseType

namespace FieldType

def text (t : FieldType) : List Char :=
  List.replicate t.dimensions '[' ++ t.base.text

def Proper (t : FieldType) : Prop :=
  t.dimensions ≤ maxDimensions ∧ t.base.Proper

instance (t : FieldType) : Decidable t.Proper := by
  unfold Proper
  infer_instance

/-- Arrays and objects are references. -/
def isReference (t : FieldType) : Bool :=
  match t.dimensions, t.base with
  | 0, .primitive _ => false
  | _, _ => true

end FieldType

namespace ResultType

def text : ResultType → List Char
  | void => ['V']
  | value t => t.text

def Proper : ResultType → Prop
  | void => True
  | value t => t.Proper

instance (t : ResultType) : Decidable t.Proper := by
  cases t <;> simp only [Proper] <;> infer_instance

def isReference : ResultType → Bool
  | void => false
  | value t => t.isReference

end ResultType

namespace MethodSignature

def text (s : MethodSignature) : List Char :=
  '(' :: (s.parameters.flatMap FieldType.text ++ ')' :: s.result.text)

def Proper (s : MethodSignature) : Prop :=
  (∀ t ∈ s.parameters, t.Proper) ∧ s.result.Proper

end MethodSignature

end JvmFacts
