import JvmFacts.Session.Classes

/-!
Databases of a session. Each is created when it is first asked for, once per run.

Whoever holds a database of a past run can still ask it and change it; such a database is named by
the number of its run.
-/

set_option autoImplicit false

namespace JvmFacts

/-- The two ways to answer nullness questions. -/
inductive NullnessSource where
  | declared | qualified
  deriving DecidableEq, Repr

def Config.nullnessSource (config : Config) : NullnessSource :=
  if config.useTypeQualifiers then .qualified else .declared

namespace Session

def modifyDatabases (s : Session) (change : Databases → Databases) : Session :=
  s.modifyDatabasesOf s.runNumber change

def hierarchyOf (s : Session) (run : Nat) : Hierarchy :=
  (s.databasesOf run).hierarchy.getD .empty

def hierarchy (s : Session) : Hierarchy :=
  s.hierarchyOf s.runNumber

def createHierarchy (s : Session) : Session :=
  s.modifyDatabases fun d => { d with hierarchy := some (d.hierarchy.getD .empty) }

def checkReturn (s : Session) : CheckReturnTable :=
  s.run.databases.checkReturn.getD .empty

def createCheckReturn (s : Session) : Session :=
  s.modifyDatabases fun d => { d with checkReturn := some (d.checkReturn.getD .empty) }

def createDeclared (s : Session) : Session :=
  s.modifyDatabases fun d => { d with declared := some (d.declared.getD .empty) }

/-- This database listens to annotations from its creation on. -/
def createQualified (s : Session) : Session :=
  match s.run.databases.qualified with
  | some _ => s
  | none => (s.modifyDatabases fun d => { d with qualified := some {} }).listen .qualifiedNullness

def createNullness (s : Session) : NullnessSource → Session
  | .declared => s.createDeclared
  | .qualified => s.createQualified

def retention (s : Session) : RetentionTable :=
  s.run.databases.retention.getD .empty

def createRetention (s : Session) : Session :=
  s.modifyDatabases fun d => { d with retention := some (d.retention.getD .empty) }

/-- The counts at the first time they were asked for in this run. Taking them creates the
hierarchy. -/
def takeCensus (s : Session) : Census × Session :=
  match s.run.databases.census with
  | some census => (census, s)
  | none =>
    let s := s.createHierarchy
    let census : Census :=
      ⟨s.registry.classes.length, s.hierarchy.vertexCount, s.run.methods.length⟩
    (census, s.modifyDatabases fun d => { d with census := some census })

/-- Adds a class to the hierarchy of a run. -/
def addToHierarchy (run : Nat) (c : ResolvedClass) (kind : VertexKind) (s : Session) :
    Except Fault Unit × Session :=
  match (s.hierarchyOf run).add c kind with
  | .ok grown => (.ok (), s.modifyDatabasesOf run fun d => { d with hierarchy := some grown })
  | .error why => (.error (.graph why), s)

def checkReturnOf (s : Session) (m : Method) : Option CheckReturn :=
  s.checkReturn.resolve m.toMethodBody (s.annotationsOf m).own

def setCheckReturn (s : Session) (change : CheckReturnTable → CheckReturnTable) : Session :=
  s.modifyDatabases fun d => { d with checkReturn := d.checkReturn.map change }

/-- Loads the built-in entries into the table that is there. -/
def loadCheckReturn (s : Session) : Session :=
  let loaded := s.checkReturn.load s.registry
  let interned : Session := { s with registry := loaded.registry }
  (interned.setCheckReturn fun _ => loaded.table).addLog loaded.log

def declaredOf (s : Session) (run : Nat) : DeclaredNullness :=
  (s.databasesOf run).declared.getD .empty

def qualifiedOf (s : Session) (run : Nat) : QualifiedNullness :=
  (s.databasesOf run).qualified.getD .empty

def setDeclared (s : Session) (run : Nat) (t : DeclaredNullness) : Session :=
  s.modifyDatabasesOf run fun d => { d with declared := some t }

def setQualified (s : Session) (run : Nat) (q : QualifiedNullness) : Session :=
  s.modifyDatabasesOf run fun d => { d with qualified := some q }

/-- The nullness of a slot by a database of this or of a past run. -/
def nullnessOf (source : NullnessSource) (run : Nat) (m : Method) (slot : Slot) (s : Session) :
    Option Nullness × Session :=
  match source with
  | .declared => ((s.declaredOf run).resolve m.toMethodBody (s.annotationsOf m) slot, s)
  | .qualified =>
    let (answer, q) := (s.qualifiedOf run).resolve m.toMethodBody (s.annotationsOf m) slot
    (answer, s.setQualified run q)

def isNullnessLoaded (s : Session) (source : NullnessSource) (run : Nat) : Bool :=
  match source with
  | .declared => (s.declaredOf run).isLoaded
  | .qualified => (s.qualifiedOf run).isLoaded

/-- Methods that compare with any object and say nothing about their parameter. -/
def wantsCheckForNull (s : Session) (m : Method) : Bool :=
  QualifiedNullness.isObjectEquals m.toMethodBody &&
    (Nullness.ofQualifiers? ((s.annotationsOf m).inSlot (some 0))).isNone

/-- Annotates the methods of a list that want it, and counts them. -/
def annotateEquals (type : ClassDescriptor) : List Method → Session → Nat × Session
  | [], s => (0, s)
  | m :: rest, s =>
    if s.wantsCheckForNull m then
      let (added, s) := annotateEquals type rest (s.annotate m (some 0) ⟨type, []⟩)
      (added + 1, s)
    else annotateEquals type rest s

/-- Marks the parameter of every `equals` in the table, once per database. -/
def loadQualified (run : Nat) (s : Session) : Session :=
  let q := s.qualifiedOf run
  if q.isLoaded then s
  else
    let s := s.setQualified run { q with isLoaded := true }
    match (interning (Registry.internClass Nullness.checkForNullClass)).run.run s with
    | (.error fault, s) =>
      s.addLog [⟨.warn, s!"cannot intern {Nullness.checkForNullClass}: {fault.message}"⟩]
    | (.ok type, s) =>
      let (added, s) := annotateEquals type s.allMethods s
      s.addLog [⟨.debug, s!"added @CheckForNull to {added} equals methods"⟩]

def loadDeclared (run : Nat) (s : Session) : Session :=
  let loaded := (s.declaredOf run).load s.registry
  let interned : Session := { s with registry := loaded.registry }
  (interned.setDeclared run loaded.table).addLog loaded.log

def loadNullness (s : Session) (source : NullnessSource) (run : Nat) : Session :=
  match source with
  | .declared => s.loadDeclared run
  | .qualified => s.loadQualified run

/-- Loads the built-in promises. Only the first pass does, and only where the switch is on. -/
def updateDatabases (s : Session) (pass : Nat) : Session :=
  if pass ≠ 0 || !s.config.loadBuiltIns then s
  else
    let s := s.createCheckReturn.loadCheckReturn
    let source := s.config.nullnessSource
    (s.createNullness source).loadNullness source s.runNumber

def setRetention (s : Session) (change : RetentionTable → RetentionTable) : Session :=
  s.modifyDatabases fun d => { d with retention := d.retention.map change }

end Session

end JvmFacts
