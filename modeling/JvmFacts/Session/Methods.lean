import JvmFacts.Session.State

/-!
Methods in a session: making them, keeping them in the table of the run, and annotating them.

The table keeps the first method that was made for a descriptor. An annotation that is added tells
every listener that is still there.
-/

set_option autoImplicit false

namespace JvmFacts.Session

/-- Makes a prepared method: from here on its facts and annotations count. -/
def makeMethod (p : PreparedMethod) (s : Session) : Method × Session :=
  let serial := s.methodsMade
  ({ p.body with serial },
    { s with
      methodsMade := serial + 1
      annotations := s.annotations.insert serial ⟨p.annotations, p.parameterAnnotations⟩
      run := { s.run with facts := s.run.facts.record p } })

/-- Puts a method into the table unless its descriptor is there, and tells which one the table
holds. -/
def keepMethod (m : Method) (s : Session) : Method × Session :=
  match s.run.methods.find? m.descriptor with
  | some held => (held, s)
  | none => (m, { s with run := { s.run with methods := s.run.methods.insert m.descriptor m } })

def makeAndKeep (p : PreparedMethod) (s : Session) : Method × Session :=
  let (m, s) := s.makeMethod p
  s.keepMethod m

def makeAll : List PreparedMethod → Session → List Method × Session
  | [], s => ([], s)
  | p :: rest, s =>
    let (m, s) := s.makeAndKeep p
    let (more, s) := makeAll rest s
    (m :: more, s)

/-- Prepares and makes a method; the table is not touched. -/
def buildMethod (d : MethodDraft) : Working Method := do
  let prepared ← interning d.prepare
  modifyGet (makeMethod prepared)

def method? (s : Session) (descriptor : MethodDescriptor) : Option Method :=
  s.run.methods.find? descriptor

def annotationsOf (s : Session) (m : Method) : MethodAnnotations :=
  (s.annotations.find? m.serial).getD .empty

def hear (s : Session) (index : Nat) (text : String) : Session :=
  { s with recorders := s.recorders.modify index fun r =>
      if r.isLive then { r with heard := r.heard ++ [text] } else r }

def isLive (s : Session) : Listener → Bool
  | .qualifiedNullness => true
  | .recorder index => (s.recorders[index]?).any Recorder.isLive

def tell (m : Method) (s : Session) : Listener → Session
  | .qualifiedNullness =>
    s.modifyDatabasesOf s.runNumber fun d =>
      { d with qualified := d.qualified.map (·.forget m.descriptor.id) }
  | .recorder index => s.hear index m.descriptor.text

/-- Tells every listener that the method gained an annotation. -/
def notify (s : Session) (m : Method) : Session :=
  s.run.listeners.foldl (tell m) s

def annotate (s : Session) (m : Method) (slot : Slot) (a : Annotation) : Session :=
  let annotated : Session :=
    { s with annotations := s.annotations.insert m.serial ((s.annotationsOf m).add slot a) }
  annotated.notify m

def liveListenerCount (s : Session) : Nat :=
  s.run.listeners.countP s.isLive

/-- Registers a listener; those that were dropped are struck off first. -/
def listen (s : Session) (listener : Listener) : Session :=
  { s with run := { s.run with listeners := s.run.listeners.filter s.isLive ++ [listener] } }

/-- Registers a new recorder of the host and tells its number. -/
def addRecorder (s : Session) : Nat × Session :=
  let index := s.recorders.length
  let grown : Session := { s with recorders := s.recorders ++ [{}] }
  (index, grown.listen (.recorder index))

def heard (s : Session) (index : Nat) : List String :=
  (s.recorders[index]?).elim [] Recorder.heard

def dropRecorder (s : Session) (index : Nat) : Session :=
  { s with recorders := s.recorders.modify index fun r => { r with isLive := false } }

def forwardsTo? (s : Session) (m : Method) : Option MethodDescriptor :=
  s.run.facts.forwardsTo? m.descriptor.id

def accesses? (s : Session) (m : Method) : Option FieldDescriptor :=
  s.run.facts.accesses? m.descriptor.id

/-- The method that is really called: what an access method forwards to, or the method itself. -/
def calledMethod (s : Session) (m : Method) : MethodDescriptor :=
  (s.forwardsTo? m).getD m.descriptor

theorem keepMethod_registry (m : Method) (s : Session) :
    (s.keepMethod m).2.registry = s.registry := by
  unfold keepMethod
  split <;> rfl

/-- What the table answers for a descriptor is settled by the first method kept for it. -/
theorem method?_keepMethod (m : Method) (s : Session) (descriptor : MethodDescriptor) :
    (s.keepMethod m).2.method? descriptor =
      (s.method? descriptor).or (if m.descriptor = descriptor then some m else none) := by
  unfold keepMethod method?
  split
  · rename_i held found
    by_cases same : m.descriptor = descriptor
    · subst same
      simp only [found, Option.some_or]
    · simp only [same, ↓reduceIte, Option.or_none]
  · rename_i absent
    simp only [Table.find?_insert]
    by_cases same : m.descriptor = descriptor
    · subst same
      simp only [↓reduceIte, absent, Option.none_or]
    · simp only [same, ↓reduceIte, Option.or_none]

end JvmFacts.Session
