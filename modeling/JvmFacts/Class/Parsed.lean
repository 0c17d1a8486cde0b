import JvmFacts.Method.Basic

/-!
Classes as a reader of class files delivers them, and the members and supertypes they turn into.

Preparing a class interns everything it mentions. It can fail at any of its parts, and touches
nothing but the registry.
-/

set_option autoImplicit false

namespace JvmFacts

structure ParsedField where
  name : String
  signature : String
  isStatic : Bool
  deriving DecidableEq, Repr

structure ParsedClass where
  name : String
  superclass : Option String := some "java/lang/Object"
  interfaces : List String := []
  flags : ClassFlags := ClassFlags.usual
  sourceFile : Option String := none
  fields : List ParsedField := []
  methods : List MethodDraft := []

/-- A class whose names are interned and whose methods are prepared. -/
structure PreparedClass where
  descriptor : ClassDescriptor
  superclass : Option ClassDescriptor
  interfaces : List ClassDescriptor
  flags : ClassFlags
  sourceFile : Option String
  fields : List FieldDescriptor
  methods : List PreparedMethod

/-- A class with its methods made. -/
structure ResolvedClass where
  serial : Nat
  descriptor : ClassDescriptor
  superclass : Option ClassDescriptor
  interfaces : List ClassDescriptor
  flags : ClassFlags
  sourceFile : Option String
  fields : List FieldDescriptor
  methods : List Method
  deriving DecidableEq, Repr

namespace ParsedClass

def internField (owner : ClassDescriptor) (f : ParsedField) : Interning FieldDescriptor :=
  Registry.internField owner.name f.name f.signature f.isStatic

/-- Every method has to be declared in the class that carries it. -/
def prepareMethod (owner : ClassDescriptor) (d : MethodDraft) : Interning PreparedMethod := do
  if Name.slashed d.className ≠ owner.name then
    throw (.malformed (.foreignMethod d.name d.signature owner.name d.className))
  d.prepare

/-- The name is compared first, then come superclass, interfaces, fields and methods in this
order. -/
def prepare (descriptor : ClassDescriptor) (parsed : ParsedClass) : Interning PreparedClass := do
  if Name.slashed parsed.name ≠ descriptor.name then
    throw (.malformed (.otherClass descriptor.name parsed.name))
  let superclass ← parsed.superclass.mapM Registry.internClass
  let interfaces ← parsed.interfaces.mapM Registry.internClass
  let fields ← parsed.fields.mapM (internField descriptor)
  let methods ← parsed.methods.mapM (prepareMethod descriptor)
  let sourceFile ← parsed.sourceFile.mapM Registry.canonical
  pure { descriptor, superclass, interfaces, flags := parsed.flags, sourceFile, fields, methods }

end ParsedClass

namespace ResolvedClass

def isInterface (c : ResolvedClass) : Bool :=
  c.flags.has .accInterface

/-- The method that this descriptor names. -/
def method? (c : ResolvedClass) (descriptor : MethodDescriptor) : Option Method :=
  c.methods.find? (·.descriptor == descriptor)

/-- The first method of this name and signature, static or not. -/
def findMethod? (c : ResolvedClass) (name signature : String) : Option Method :=
  c.methods.find? fun m => m.name == name && m.signature == signature

/-- The methods with a body: neither abstract nor native. -/
def concreteMethodCount (c : ResolvedClass) : Nat :=
  c.methods.countP fun m => !m.has .accAbstract && !m.has .accNative

end ResolvedClass

end JvmFacts
