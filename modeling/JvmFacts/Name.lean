import JvmFacts.Signature.Parser
import JvmFacts.Text.Blank

/-!
Names of classes, methods and fields.

A class name is written with slashes or with dots between its segments, never with both; an array
is named by its type signature. Names are kept in slashed form.
-/

set_option autoImplicit false

namespace JvmFacts.Name

def isArray (name : String) : Bool :=
  name.toList.head? == some '['

def swap (old new : Char) (name : String) : String :=
  String.ofList (name.toList.map fun c => if c = old then new else c)

/-- The slashed form. The name of an array is a signature and stays as it is. -/
def slashed (name : String) : String :=
  if isArray name then name else swap '.' '/' name

def dotted (name : String) : String :=
  swap '/' '.' name

/-- The stretches between separators; there is one more of them than separators. -/
def segments (separates : Char → Bool) : List Char → List (List Char)
  | [] => [[]]
  | c :: rest =>
    if separates c then [] :: segments separates rest
    else
      match segments separates rest with
      | [] => [[c]]
      | first :: more => (c :: first) :: more

def isSeparator (c : Char) : Bool :=
  c == '.' || c == '/'

/-- The characters that no segment of a class name holds, blanks apart. -/
def isReserved (c : Char) : Bool :=
  c == ';' || c == '[' || c == '(' || c == ')' || c == '<' || c == '>' || c == ':'

def isSegment (segment : List Char) : Bool :=
  !segment.isEmpty && segment.all fun c => !Text.isBlank c && !isReserved c

def isFieldType (text : String) : Bool :=
  (FieldType.parse? text.toList).isSome

def isMethodSignature (text : String) : Bool :=
  (MethodSignature.parse? text.toList).isSome

/-- A type signature of an object or an array, judged by its first character. -/
def isReference (text : String) : Bool :=
  match text.toList with
  | 'L' :: _ => true
  | '[' :: _ => true
  | _ => false

def isClass (name : String) : Bool :=
  let text := name.toList
  if text.isEmpty then false
  else if isArray name then isFieldType name
  else if text.contains '.' && text.contains '/' then false
  else (segments isSeparator text).all isSegment

def isField (name : String) : Bool :=
  let text := name.toList
  !text.isEmpty && !text.any fun c => c == '.' || c == ';' || c == '[' || c == '/'

def constructorName : String := "<init>"

def initializerName : String := "<clinit>"

/-- Angle brackets stand only in the names of the constructor and of the class initializer. -/
def isMethod (name : String) : Bool :=
  name == constructorName || name == initializerName ||
    (isField name && !name.toList.any fun c => c == '<' || c == '>')

@[simp] theorem segments_nil (separates : Char → Bool) : segments separates [] = [[]] := rfl

theorem segments_ne_nil (separates : Char → Bool) (text : List Char) :
    segments separates text ≠ [] := by
  cases text with
  | nil => simp
  | cons c rest =>
    simp only [segments]
    split
    · simp
    · split <;> simp

theorem slashed_of_isArray {name : String} (array : isArray name = true) :
    slashed name = name := by
  simp [slashed, array]

theorem ne_empty_of_isClass {name : String} (valid : isClass name = true) : name ≠ "" := by
  rintro rfl
  exact absurd valid (by decide)

end JvmFacts.Name
