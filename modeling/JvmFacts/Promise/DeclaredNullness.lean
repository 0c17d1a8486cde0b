import JvmFacts.Method.Basic
import JvmFacts.Promise.Loading
import JvmFacts.Promise.Nullness

/-!
Nullness from annotations read plainly, and from a table where they say nothing.
-/

set_option autoImplicit false

namespace JvmFacts

/-- Entries by the id of a method and the slot. -/
structure DeclaredNullness where
  entries : Table (Nat × Slot) Nullness := []
  isLoaded : Bool := false
  deriving DecidableEq, Repr

namespace DeclaredNullness

def empty : DeclaredNullness := {}

def set (t : DeclaredNullness) (m : MethodDescriptor) (slot : Slot) (value : Nullness) :
    DeclaredNullness :=
  { t with entries := t.entries.insert (m.id, slot) value }

/-- Results come before parameters. -/
def known : List (KnownMethod × Slot × Nullness) :=
  [(⟨"java/lang/Class", "getResource", "(Ljava/lang/String;)Ljava/net/URL;", false⟩, none,
      .checkForNull),
    (⟨"java/lang/ClassLoader", "getResource", "(Ljava/lang/String;)Ljava/net/URL;", false⟩, none,
      .checkForNull),
    (⟨"java/io/File", "listFiles", "()[Ljava/io/File;", false⟩, none, .checkForNull),
    (⟨"java/lang/String", "toString", "()Ljava/lang/String;", false⟩, none, .nonnull),
    (⟨"java/lang/Object", "equals", "(Ljava/lang/Object;)Z", false⟩, some 0, .checkForNull),
    (⟨"java/lang/String", "<init>", "(Ljava/lang/String;)V", false⟩, some 0, .nonnull),
    (⟨"java/util/Objects", "requireNonNull", "(Ljava/lang/Object;)Ljava/lang/Object;", true⟩,
      some 0, .nullable)]

def takeKnown (l : Loading DeclaredNullness) (entry : KnownMethod × Slot × Nullness) :
    Loading DeclaredNullness :=
  l.takeMethod "nullness" entry.1 fun m t => t.set m entry.2.1 entry.2.2

/-- The built-in entries, once per table. -/
def load (t : DeclaredNullness) (registry : Registry) : Loading DeclaredNullness :=
  if t.isLoaded then ⟨t, registry, []⟩
  else known.foldl takeKnown ⟨{ t with isLoaded := true }, registry, []⟩

def resolve (t : DeclaredNullness) (m : MethodBody) (annotations : MethodAnnotations)
    (slot : Slot) : Option Nullness :=
  match Nullness.ofClasses? (annotations.inSlot slot) with
  | some value => some value
  | none => t.entries.find? (m.descriptor.id, slot)

end DeclaredNullness

end JvmFacts
