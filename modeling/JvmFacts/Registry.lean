import JvmFacts.Descriptor
import JvmFacts.Fault

/-!
The registry of descriptors.

Asking twice for the same class or member gives the same descriptor. Ids count up from one over
classes, methods and fields together, and one is used up only when a descriptor is made. A member is
looked at name first, then signature, then class, so a call that is turned down leaves the registry
as it was.
-/

set_option autoImplicit false

namespace JvmFacts

/-- Lists grow at the end, so their order is the order of interning. -/
structure Registry where
  token : Nat
  strings : List String := []
  classes : List ClassDescriptor := []
  methods : List MethodDescriptor := []
  fields : List FieldDescriptor := []
  nextId : Nat := 1
  deriving DecidableEq, Repr

/-- Work on a registry that may fail; what was interned before a failure stays. -/
abbrev Interning := ExceptT Fault (StateM Registry)

namespace Registry

/-- Takes the text into the table of texts, once. -/
def addString (r : Registry) (value : String) : Registry :=
  if r.strings.contains value then r else { r with strings := r.strings ++ [value] }

/-- The one copy of a text that all descriptors share. -/
def canonical (value : String) : Interning String := do
  modify (addString · value)
  pure value

/-- The class of exactly this slashed name. -/
def findClass? (r : Registry) (name : String) : Option ClassDescriptor :=
  r.classes.find? (·.name == name)

/-- The class of this name in either spelling; nothing is interned. -/
def getClass? (r : Registry) (name : String) : Option ClassDescriptor :=
  r.findClass? (Name.slashed name)

def newClass (r : Registry) (name : String) : ClassDescriptor :=
  ⟨r.token, r.nextId, name⟩

def pushClass (r : Registry) (c : ClassDescriptor) : Registry :=
  { r with classes := r.classes ++ [c], nextId := r.nextId + 1 }

/-- Takes in a slashed name that is known to be valid. -/
def addClass (r : Registry) (name : String) : ClassDescriptor × Registry :=
  match r.findClass? name with
  | some c => (c, r)
  | none =>
    let c := r.newClass name
    (c, (r.addString name).pushClass c)

def checkClass (name : String) : Except NameFault Unit :=
  if name.isEmpty then .error .emptyClassName
  else if Name.isClass name then .ok ()
  else .error (.className name)

def internClass (name : String) : Interning ClassDescriptor := do
  match checkClass name with
  | .error why => throw (.invalidDescriptor why)
  | .ok () => modifyGet (addClass · (Name.slashed name))

/-- The name between L and semicolon, where the text has that form and is not empty in between. -/
def nameInSignature? (signature : String) : Option String :=
  match signature.toList with
  | 'L' :: rest =>
    if rest.getLast? = some ';' ∧ rest ≠ [';'] then some (String.ofList rest.dropLast) else none
  | _ => none

/-- The class that a type signature names; a text of another form is taken as a name. -/
def internSignature (signature : String) : Interning ClassDescriptor :=
  internClass ((nameInSignature? signature).getD signature)

def members (r : Registry) : (kind : MemberKind) → List (MemberDescriptor kind)
  | .method => r.methods
  | .field => r.fields

/-- The member of this class, name, signature and staticness. -/
def findMember? (r : Registry) {kind : MemberKind} (owner : ClassDescriptor)
    (name signature : String) (isStatic : Bool) : Option (MemberDescriptor kind) :=
  (r.members kind).find? fun m =>
    m.owner.id == owner.id && m.name == name && m.signature == signature && m.isStatic == isStatic

def pushMember (r : Registry) {kind : MemberKind} (m : MemberDescriptor kind) : Registry :=
  match kind, m with
  | .method, m => { r with methods := r.methods ++ [m], nextId := r.nextId + 1 }
  | .field, m => { r with fields := r.fields ++ [m], nextId := r.nextId + 1 }

def addMember (kind : MemberKind) (r : Registry) (owner : ClassDescriptor)
    (name signature : String) (isStatic : Bool) : MemberDescriptor kind × Registry :=
  let r := (r.addString name).addString signature
  match r.findMember? owner name signature isStatic with
  | some m => (m, r)
  | none =>
    let m : MemberDescriptor kind := ⟨r.nextId, owner, name, signature, isStatic⟩
    (m, r.pushMember m)

def checkMember : MemberKind → (name signature : String) → Except NameFault Unit
  | .method, name, signature =>
    if !Name.isMethod name then .error (.methodName name)
    else if !Name.isMethodSignature signature then .error (.methodSignature signature)
    else .ok ()
  | .field, name, signature =>
    if !Name.isField name then .error (.fieldName name)
    else if !Name.isFieldType signature then .error (.fieldSignature signature)
    else .ok ()

def internMember (kind : MemberKind) (owner name signature : String) (isStatic : Bool) :
    Interning (MemberDescriptor kind) := do
  match checkMember kind name signature with
  | .error why => throw (.invalidDescriptor why)
  | .ok () =>
    let c ← internClass owner
    modifyGet (addMember kind · c name signature isStatic)

def internMethod (owner name signature : String) (isStatic : Bool) : Interning MethodDescriptor :=
  internMember .method owner name signature isStatic

def internField (owner name signature : String) (isStatic : Bool) : Interning FieldDescriptor :=
  internMember .field owner name signature isStatic

/-- A descriptor of the kind asked for. For a class only its name counts. -/
def intern (kind : DescriptorKind) (owner name signature : String) (isStatic : Bool) :
    Interning Descriptor :=
  match kind with
  | .ofClass => .ofClass <$> internClass owner
  | .ofMember .method => .ofMethod <$> internMethod owner name signature isStatic
  | .ofMember .field => .ofField <$> internField owner name signature isStatic

/-- One request for a descriptor. -/
inductive Request where
  | ofClass (name : String)
  | ofSignature (signature : String)
  | ofMember (kind : MemberKind) (owner name signature : String) (isStatic : Bool)
  | ofKind (kind : DescriptorKind) (owner name signature : String) (isStatic : Bool)

def Request.work : Request → Interning Descriptor
  | ofClass name => .ofClass <$> internClass name
  | ofSignature signature => .ofClass <$> internSignature signature
  | ofMember .method owner name signature isStatic =>
    .ofMethod <$> internMethod owner name signature isStatic
  | ofMember .field owner name signature isStatic =>
    .ofField <$> internField owner name signature isStatic
  | ofKind kind owner name signature isStatic => intern kind owner name signature isStatic

/-- The registry after a request. -/
def serve (r : Registry) (q : Request) : Registry :=
  (q.work.run.run r).2

/-- Serves those of the requests that the last registry has nothing to add for. -/
def serveWithin (last : Registry) (requests : List Request) (r : Registry) : Registry :=
  requests.foldl (fun r q => if last.serve q = last then r.serve q else r) r

@[simp] theorem token_addString (r : Registry) (value : String) :
    (r.addString value).token = r.token := by
  unfold addString
  split <;> rfl

@[simp] theorem classes_addString (r : Registry) (value : String) :
    (r.addString value).classes = r.classes := by
  unfold addString
  split <;> rfl

@[simp] theorem members_addString (r : Registry) (value : String) (kind : MemberKind) :
    (r.addString value).members kind = r.members kind := by
  unfold addString
  split
  · rfl
  · cases kind <;> rfl

@[simp] theorem nextId_addString (r : Registry) (value : String) :
    (r.addString value).nextId = r.nextId := by
  unfold addString
  split <;> rfl

/-- A class that is known is handed out again and nothing changes. -/
theorem addClass_of_find {r : Registry} {name : String} {c : ClassDescriptor}
    (known : r.findClass? name = some c) : r.addClass name = (c, r) := by
  simp only [addClass, known]

theorem internClass_run_of_error {r : Registry} {name : String} {why : NameFault}
    (refused : checkClass name = .error why) :
    (internClass name).run.run r = (.error (.invalidDescriptor why), r) := by
  simp only [internClass, refused]
  rfl

theorem internClass_run_of_ok {r : Registry} {name : String} (accepted : checkClass name = .ok ()) :
    (internClass name).run.run r =
      (.ok (r.addClass (Name.slashed name)).1, (r.addClass (Name.slashed name)).2) := by
  simp only [internClass, accepted]
  rfl

end Registry

end JvmFacts
