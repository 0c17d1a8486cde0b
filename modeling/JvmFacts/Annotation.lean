import JvmFacts.Descriptor
import JvmFacts.Double
import JvmFacts.NameTable
import JvmFacts.Table

/-!
Annotations: the class that was applied and its named elements. A method or a parameter carries at
most one annotation of each class, and the later one replaces the earlier.
-/

set_option autoImplicit false

namespace JvmFacts

inductive ElementValue where
  | boolean (value : Bool)
  | integer (value : Int)
  | double (value : Double)
  | string (value : String)
  | enum (typeSignature constant : String)
  | classLiteral (signature : String)
  | nested (type : ClassDescriptor) (values : List (String × ElementValue))
  | array (items : List ElementValue)

structure Annotation where
  type : ClassDescriptor
  values : NameTable ElementValue := []

mutual

/-- Equality element by element, in which doubles compare as numbers. -/
def ElementValue.equal : ElementValue → ElementValue → Bool
  | .boolean a, .boolean b => a == b
  | .integer a, .integer b => a == b
  | .double a, .double b => a.equal b
  | .string a, .string b => a == b
  | .enum s a, .enum t b => s == t && a == b
  | .classLiteral a, .classLiteral b => a == b
  | .nested s a, .nested t b => s == t && equalNamed a b
  | .array a, .array b => equalAll a b
  | _, _ => false

def equalAll : List ElementValue → List ElementValue → Bool
  | [], [] => true
  | a :: as, b :: bs => a.equal b && equalAll as bs
  | _, _ => false

def equalNamed : List (String × ElementValue) → List (String × ElementValue) → Bool
  | [], [] => true
  | (m, a) :: as, (n, b) :: bs => m == n && a.equal b && equalNamed as bs
  | _, _ => false

end

namespace Annotation

def equal (a b : Annotation) : Bool :=
  a.type == b.type && equalNamed a.values b.values

def set (a : Annotation) (name : String) (value : ElementValue) : Annotation :=
  { a with values := NameTable.insert name value a.values }

def value? (a : Annotation) (name : String) : Option ElementValue :=
  a.values.find? name

/-- The constant of an element that is an enum. -/
def enumConstant? (a : Annotation) (name : String) : Option String :=
  match a.value? name with
  | some (.enum _ constant) => some constant
  | _ => none

def toElement (a : Annotation) : ElementValue :=
  .nested a.type a.values

end Annotation

/-- The annotations of one method or of one parameter, by class. -/
abbrev AnnotationTable := Table ClassDescriptor Annotation

def AnnotationTable.add (t : AnnotationTable) (a : Annotation) : AnnotationTable :=
  Table.insert a.type a t

/-- The annotations of all parameters, by index. -/
abbrev ParameterTable := Table Nat AnnotationTable

namespace ParameterTable

def of (t : ParameterTable) (parameter : Nat) : AnnotationTable :=
  (t.find? parameter).getD []

def add (t : ParameterTable) (parameter : Nat) (a : Annotation) : ParameterTable :=
  Table.insert parameter (AnnotationTable.add (ParameterTable.of t parameter) a) t

end ParameterTable

/-- Where an annotation of a method stands: on its result, or on a parameter. -/
abbrev Slot := Option Nat

/-- All annotations of one method. -/
structure MethodAnnotations where
  own : AnnotationTable := []
  parameters : ParameterTable := []

namespace MethodAnnotations

def empty : MethodAnnotations := {}

def inSlot (a : MethodAnnotations) : Slot → AnnotationTable
  | none => a.own
  | some parameter => ParameterTable.of a.parameters parameter

def add (a : MethodAnnotations) (slot : Slot) (added : Annotation) : MethodAnnotations :=
  match slot with
  | none => { a with own := AnnotationTable.add a.own added }
  | some parameter =>
    { a with parameters := ParameterTable.add a.parameters parameter added }

/-- Only the slot that is written to changes, and there only the annotation of that class. -/
theorem find?_inSlot_add (a : MethodAnnotations) (slot other : Slot) (added : Annotation)
    (type : ClassDescriptor) :
    ((a.add slot added).inSlot other).find? type =
      if slot = other ∧ added.type = type then some added
      else (a.inSlot other).find? type := by
  cases slot with
  | none =>
    cases other with
    | none => simp [add, inSlot, AnnotationTable.add, Table.find?_insert]
    | some parameter => simp [add, inSlot]
  | some parameter =>
    cases other with
    | none => simp [add, inSlot]
    | some further =>
      simp only [add, inSlot, ParameterTable.of, ParameterTable.add, Table.find?_insert,
        Option.some.injEq]
      by_cases same : parameter = further
      · subst same
        simp [AnnotationTable.add, Table.find?_insert]
      · simp [same]

end MethodAnnotations

end JvmFacts
