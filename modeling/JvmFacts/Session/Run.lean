import JvmFacts.Hierarchy
import JvmFacts.Method.Facts
import JvmFacts.Promise.CheckReturn
import JvmFacts.Promise.DeclaredNullness
import JvmFacts.Promise.QualifiedNullness
import JvmFacts.Promise.Retention
import JvmFacts.Session.Bridges

/-!
What one run of a session gathers: facts, class records, methods, bridges and databases, and who
listens. All of it is forgotten with the run.
-/

set_option autoImplicit false

namespace JvmFacts

/-- Who is told when a method gains an annotation. -/
inductive Listener where
  | qualifiedNullness
  | recorder (index : Nat)
  deriving DecidableEq, Repr

/-- A listener of the host that writes down what it is told, until it is dropped. -/
structure Recorder where
  heard : List String := []
  isLive : Bool := true
  deriving DecidableEq, Repr

/-- How many classes, vertices and methods there were when the counts were taken. -/
structure Census where
  classes : Nat
  vertices : Nat
  methods : Nat
  deriving DecidableEq, Repr

/-- The databases of one run, each there once it was asked for. -/
structure Databases where
  hierarchy : Option Hierarchy := none
  checkReturn : Option CheckReturnTable := none
  declared : Option DeclaredNullness := none
  qualified : Option QualifiedNullness := none
  retention : Option RetentionTable := none
  census : Option Census := none

def Databases.empty : Databases := {}

/-- How many databases were asked for. -/
def Databases.count (d : Databases) : Nat :=
  d.hierarchy.isSome.toNat + d.checkReturn.isSome.toNat + d.declared.isSome.toNat +
    d.qualified.isSome.toNat + d.retention.isSome.toNat + d.census.isSome.toNat

/-- All that one run gathers. Class records and depths hang on the ids of classes, methods on their
descriptors. -/
structure Run where
  facts : FactTables := .empty
  listeners : List Listener := []
  classes : Table Nat ResolvedClass := []
  depths : Table Nat Nat := []
  methods : Table MethodDescriptor Method := []
  bridges : Bridges := .empty
  databases : Databases := .empty

def Run.empty : Run := {}

end JvmFacts
