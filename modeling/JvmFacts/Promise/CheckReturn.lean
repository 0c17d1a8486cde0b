import JvmFacts.Method.Basic
import JvmFacts.Promise.Loading

/-!
How strongly the result of a method has to be used.

An annotation of the method decides first, then an entry for the method, then the default of its
class. Constructors and methods without a result have no default.
-/

set_option autoImplicit false

namespace JvmFacts

/-- From harmless to an error. -/
inductive CheckReturn where
  | ignore | low | medium | high
  deriving DecidableEq, Repr

namespace CheckReturn

def all : List CheckReturn := [ignore, low, medium, high]

def label : CheckReturn → String
  | ignore => "ignore"
  | low => "low"
  | medium => "medium"
  | high => "high"

def ofLabel? (text : String) : Option CheckReturn :=
  all.find? (·.label == text)

def rank : CheckReturn → Nat
  | ignore => 0
  | low => 1
  | medium => 2
  | high => 3

/-- The values are listed from weakest to strongest. -/
def listedAscending : Bool :=
  decide (all.Pairwise fun a b => a.rank < b.rank)

/-- The annotation classes that ask for the result to be used. -/
def demandingClasses : List String :=
  ["javax/annotation/CheckReturnValue", "edu/umd/cs/findbugs/annotations/CheckReturnValue",
    "com/google/errorprone/annotations/CheckReturnValue"]

/-- The annotation class that frees from using the result. -/
def freeingClass : String := "com/google/errorprone/annotations/CanIgnoreReturnValue"

def ofAnnotationClass? (name : String) : Option CheckReturn :=
  if name = freeingClass then some ignore
  else if demandingClasses.contains name then some medium
  else none

/-- What annotations say, the first that says anything. -/
def ofAnnotations? (t : AnnotationTable) : Option CheckReturn :=
  t.keys.findSome? fun type => ofAnnotationClass? type.name

def knownMethods : List (KnownMethod × CheckReturn) :=
  [(⟨"java/lang/String", "getBytes", "(Ljava/lang/String;)[B", false⟩, ignore),
    (⟨"java/lang/String", "charAt", "(I)C", false⟩, low),
    (⟨"java/io/File", "createNewFile", "()Z", false⟩, medium),
    (⟨"java/io/File", "delete", "()Z", false⟩, medium),
    (⟨"java/io/File", "mkdir", "()Z", false⟩, medium),
    (⟨"java/io/File", "mkdirs", "()Z", false⟩, medium),
    (⟨"java/io/File", "renameTo", "(Ljava/io/File;)Z", false⟩, medium),
    (⟨"java/io/InputStream", "skip", "(J)J", false⟩, medium),
    (⟨"java/io/InputStream", "read", "([B)I", false⟩, medium),
    (⟨"java/util/concurrent/locks/Lock", "tryLock", "()Z", false⟩, high),
    (⟨"java/util/concurrent/BlockingQueue", "offer", "(Ljava/lang/Object;)Z", false⟩, medium),
    (⟨"java/util/concurrent/locks/Condition", "await",
      "(JLjava/util/concurrent/TimeUnit;)Z", false⟩, medium)]

def knownClasses : List (String × CheckReturn) :=
  [("java/lang/String", medium), ("java/math/BigDecimal", high), ("java/math/BigInteger", high),
    ("java/time/LocalDate", high), ("java/time/Instant", high)]

end CheckReturn

/-- Entries by the ids of methods and of classes. -/
structure CheckReturnTable where
  methods : Table Nat CheckReturn := []
  classes : Table Nat CheckReturn := []
  isLoaded : Bool := false
  deriving DecidableEq, Repr

namespace CheckReturnTable

def empty : CheckReturnTable := {}

def setMethod (t : CheckReturnTable) (m : MethodDescriptor) (value : CheckReturn) :
    CheckReturnTable :=
  { t with methods := t.methods.insert m.id value }

def setClass (t : CheckReturnTable) (c : ClassDescriptor) (value : CheckReturn) :
    CheckReturnTable :=
  { t with classes := t.classes.insert c.id value }

def summary (t : CheckReturnTable) : LogRecord :=
  ⟨.debug, s!"loaded {t.methods.length} check-return method entries and " ++
    s!"{t.classes.length} class defaults"⟩

def takeMethod (l : Loading CheckReturnTable) (entry : KnownMethod × CheckReturn) :
    Loading CheckReturnTable :=
  l.takeMethod "check-return" entry.1 fun m t => t.setMethod m entry.2

def takeClass (l : Loading CheckReturnTable) (entry : String × CheckReturn) :
    Loading CheckReturnTable :=
  l.takeClass "check-return" entry.1 fun c t => t.setClass c entry.2

/-- The built-in entries, methods before classes, once per table. -/
def load (t : CheckReturnTable) (registry : Registry) : Loading CheckReturnTable :=
  if t.isLoaded then ⟨t, registry, []⟩
  else
    let start : Loading CheckReturnTable := ⟨{ t with isLoaded := true }, registry, []⟩
    let methods := CheckReturn.knownMethods.foldl takeMethod start
    let both := CheckReturn.knownClasses.foldl takeClass methods
    { both with log := both.log ++ [summary both.table] }

/-- Judged by the text of the signature. -/
def returnsVoid (m : MethodBody) : Bool :=
  m.signature.toList.reverse.take 2 == ['V', ')']

def resolve (t : CheckReturnTable) (m : MethodBody) (annotations : AnnotationTable) :
    Option CheckReturn :=
  match CheckReturn.ofAnnotations? annotations with
  | some value => some value
  | none =>
    match t.methods.find? m.descriptor.id with
    | some value => some value
    | none =>
      if m.name = Name.constructorName || returnsVoid m then none
      else t.classes.find? m.owner.id

end CheckReturnTable

end JvmFacts
