import JvmFacts.Annotation

/-!
What a method promises about null, and how annotations say so.

Read plainly, the class of an annotation says it. Read as a type qualifier, `Nonnull` may say
something else in its element `when`, or nothing.
-/

set_option autoImplicit false

namespace JvmFacts

inductive Nullness where
  | checkForNull | nonnull | nullable | unknown
  deriving DecidableEq, Repr

namespace Nullness

def all : List Nullness := [checkForNull, nonnull, nullable, unknown]

def label : Nullness → String
  | checkForNull => "CheckForNull"
  | nonnull => "Nonnull"
  | nullable => "Nullable"
  | unknown => "UnknownNullness"

def ofLabel? (text : String) : Option Nullness :=
  all.find? (·.label == text)

/-- The class whose annotations carry the element `when`. -/
def qualifierClass : String := "javax/annotation/Nonnull"

/-- The class of the annotation that is put on parameters of `equals`. -/
def checkForNullClass : String := "javax/annotation/CheckForNull"

/-- The element that qualifies. -/
def qualifierElement : String := "when"

def annotationClasses : List (String × Nullness) :=
  [("javax/annotation/CheckForNull", checkForNull),
    ("edu/umd/cs/findbugs/annotations/CheckForNull", checkForNull),
    ("javax/annotation/Nonnull", nonnull),
    ("edu/umd/cs/findbugs/annotations/NonNull", nonnull),
    ("org/jetbrains/annotations/NotNull", nonnull),
    ("androidx/annotation/NonNull", nonnull),
    ("javax/annotation/Nullable", nullable),
    ("edu/umd/cs/findbugs/annotations/Nullable", nullable),
    ("org/jetbrains/annotations/Nullable", nullable),
    ("androidx/annotation/Nullable", nullable),
    ("edu/umd/cs/findbugs/annotations/UnknownNullness", unknown)]

/-- The meaning of an annotation class in either spelling. -/
def ofAnnotationClass? (name : String) : Option Nullness :=
  Table.find? (Name.slashed name) annotationClasses

def ofWhen? (constant : String) : Option Nullness :=
  Table.find? constant
    [("ALWAYS", nonnull), ("MAYBE", checkForNull), ("NEVER", checkForNull), ("UNKNOWN", unknown)]

/-- What annotations say by their classes alone, the first that says anything. -/
def ofClasses? (t : AnnotationTable) : Option Nullness :=
  t.keys.findSome? fun type => ofAnnotationClass? type.name

/-- What one annotation says as a type qualifier. -/
def ofQualifier? (a : Annotation) : Option Nullness :=
  if a.type.name = qualifierClass then
    match a.enumConstant? qualifierElement with
    | some constant => ofWhen? constant
    | none => some nonnull
  else ofAnnotationClass? a.type.name

/-- What annotations say as type qualifiers, the first that says anything. -/
def ofQualifiers? (t : AnnotationTable) : Option Nullness :=
  t.values.findSome? ofQualifier?

end Nullness

end JvmFacts
