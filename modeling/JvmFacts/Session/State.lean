import JvmFacts.Session.Config
import JvmFacts.Session.Run

/-!
The state of a session.

A session is a series of runs. What belongs to a run is forgotten with it; descriptors, the
annotations of methods that someone still holds, and the databases of past runs stay.
-/

set_option autoImplicit false

namespace JvmFacts

/-- How a session treats its class path: it has none of its own, or it keeps a list of entries. -/
inductive Paths where
  | fixed
  | entries (names : List String)
  deriving DecidableEq, Repr

structure Session where
  config : Config
  registry : Registry
  paths : Paths := .fixed
  reporter : Reporter := .collect []
  run : Run := .empty
  /-- How many runs came before this one. -/
  runNumber : Nat := 0
  /-- The databases of past runs by the number of the run. -/
  retired : Table Nat Databases := []
  /-- The annotations of methods by serial number. -/
  annotations : Table Nat MethodAnnotations := []
  /-- How many methods were made. -/
  methodsMade : Nat := 0
  /-- How many classes were resolved. -/
  classesMade : Nat := 0
  recorders : List Recorder := []
  log : List LogRecord := []

/-- Work in a session that may fail; what was done before a failure stays done. -/
abbrev Working := ExceptT Fault (StateM Session)

namespace Session

def start (config : Config) (registry : Registry) (paths : Paths) (reporter : Reporter) : Session :=
  { config, registry, paths, reporter }

def addLog (s : Session) (records : List LogRecord) : Session :=
  { s with log := s.log ++ records }

/-- Hands a failure to the reporter. -/
def report (s : Session) (r : Report) : Session :=
  match s.reporter with
  | .log => s.addLog [r.toLog]
  | .collect events => { s with reporter := .collect (events ++ [r.toEvent]) }

def events? (s : Session) : Option (List Event) :=
  s.reporter.events?

/-- Interning in the registry of the session. -/
def interning {α : Type} (work : Interning α) : Working α :=
  ExceptT.mk fun s =>
    let (outcome, registry) := work.run.run s.registry
    (outcome, { s with registry })

def databaseCount (s : Session) : Nat :=
  s.run.databases.count

/-- All methods in ascending order of their descriptors. -/
def allMethods (s : Session) : List Method :=
  s.run.methods.values.mergeSort fun a b => (compare a.descriptor b.descriptor).isLE

/-- The databases of a run, past or present. -/
def databasesOf (s : Session) (run : Nat) : Databases :=
  if run = s.runNumber then s.run.databases else (s.retired.find? run).getD .empty

def modifyDatabasesOf (s : Session) (run : Nat) (change : Databases → Databases) : Session :=
  if run = s.runNumber then { s with run := { s.run with databases := change s.run.databases } }
  else { s with retired := s.retired.insert run (change (s.databasesOf run)) }

/-- Begins a new run. Nothing of the old one is left but its databases, for those who hold them. -/
def reset (s : Session) : Session :=
  { s with
    run := .empty
    runNumber := s.runNumber + 1
    retired := s.retired.insert s.runNumber s.run.databases }

/-- Drops class records and depths. -/
def purgeClasses (s : Session) : Session :=
  { s with run := { s.run with classes := [], depths := [] } }

def setBridge (s : Session) (source target : Method) : Session :=
  { s with run := { s.run with bridges := s.run.bridges.set source target } }

def clearBridges (s : Session) : Session :=
  { s with run := { s.run with bridges := .empty } }

def clearFacts (s : Session) : Session :=
  { s with run := { s.run with facts := .empty } }

theorem run_reset (s : Session) : s.reset.run = .empty := rfl

theorem registry_reset (s : Session) : s.reset.registry = s.registry := rfl

theorem interning_run {α : Type} (work : Interning α) (s : Session) :
    (interning work).run.run s =
      ((work.run.run s.registry).1, { s with registry := (work.run.run s.registry).2 }) := rfl

end Session

end JvmFacts
