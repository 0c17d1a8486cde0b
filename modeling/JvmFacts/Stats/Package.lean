import JvmFacts.NameTable
import JvmFacts.Stats.Counts

/-!
Statistics of the classes of a package.

A package counts its findings and the size of its classes, and keeps an entry for each class. Until
it has an entry it may hold a preset number of classes and a preset size, which the first class
that is added wipes out.

Sizes have 32 bits like counts and wrap around as these do.
-/

set_option autoImplicit false

namespace JvmFacts

/-- A reported problem: how urgent it is, and in which class. -/
structure Finding where
  priority : Nat
  className : String
  sourceFile : Option String
  deriving DecidableEq, Repr

def Finding.priority? (f : Finding) : Option Priority :=
  Priority.ofNumber? f.priority

structure ClassStats where
  name : String
  sourceFile : Option String
  isInterface : Bool := false
  bugs : BugCounts := .zero
  size : UInt32 := 0
  deriving DecidableEq, Repr

namespace ClassStats

def count (c : ClassStats) (p : Priority) : ClassStats :=
  { c with bugs := c.bugs.count p }

/-- A finding of another priority is passed over. -/
def addFinding (c : ClassStats) (f : Finding) : ClassStats :=
  match f.priority? with
  | some p => c.count p
  | none => c

def clearBugs (c : ClassStats) : ClassStats :=
  { c with bugs := .zero }

end ClassStats

structure PackageStats where
  name : String
  bugs : BugCounts := .zero
  size : UInt32 := 0
  classCount : Nat := 0
  members : NameTable ClassStats := []
  deriving DecidableEq, Repr

namespace PackageStats

def new (name : String) : PackageStats :=
  { name }

def preset (name : String) (classCount : Nat) (size : UInt32) : PackageStats :=
  { name, size, classCount }

def member? (p : PackageStats) (name : String) : Option ClassStats :=
  p.members.find? name

/-- The entry of a class, or a new one. A source file is only taken with a new entry. -/
def memberOr (p : PackageStats) (name : String) (sourceFile : Option String) : ClassStats :=
  (p.member? name).getD { name, sourceFile }

/-- Writes the entry of a class. A new entry makes the class count the number of entries. -/
def put (p : PackageStats) (c : ClassStats) : PackageStats :=
  let members := NameTable.insert c.name c p.members
  { p with
    members
    classCount := if p.members.contains c.name then p.classCount else members.length }

/-- Counts a finding for the package and for its class. -/
def addFinding (p : PackageStats) (f : Finding) : PackageStats :=
  match f.priority? with
  | none => p
  | some priority =>
    let counted : PackageStats := { p with bugs := p.bugs.count priority }
    counted.put ((p.memberOr f.className f.sourceFile).count priority)

/-- The finding makes no count wrap around, be it of the package or of the class. -/
def findingFits (p : PackageStats) (f : Finding) : Bool :=
  f.priority?.all fun priority =>
    p.bugs.countFits priority && (p.memberOr f.className f.sourceFile).bugs.countFits priority

/-- What is preset goes when the first entry comes. -/
def dropPreset (p : PackageStats) : PackageStats :=
  if p.members.isEmpty then { p with size := 0, classCount := 0 } else p

/-- Adds or replaces the entry of a class; the size of the package grows only if that is asked
for. -/
def addStats (p : PackageStats) (c : ClassStats) (growsPackage : Bool) : PackageStats :=
  let added := p.dropPreset.put c
  if growsPackage then { added with size := added.size + c.size } else added

/-- The class does not make the size of the package wrap around. -/
def statsFit (p : PackageStats) (c : ClassStats) (growsPackage : Bool) : Bool :=
  !growsPackage || fits p.dropPreset.size c.size

def addClass (p : PackageStats) (name : String) (sourceFile : Option String) (isInterface : Bool)
    (size : UInt32) (growsPackage : Bool) : PackageStats :=
  p.addStats { p.memberOr name sourceFile with isInterface, size } growsPackage

def setSize (p : PackageStats) (size : UInt32) : PackageStats :=
  { p with size }

def setClassCount (p : PackageStats) (classCount : Nat) : PackageStats :=
  { p with classCount }

/-- Counts, size and number of classes from the entries. -/
def recompute (p : PackageStats) : PackageStats :=
  let classes := p.members.values
  { p with
    bugs := (classes.map ClassStats.bugs).foldl BugCounts.add .zero
    size := (classes.map ClassStats.size).foldr (· + ·) 0
    classCount := classes.length }

/-- No sum over the entries wraps around. -/
def recomputeFits (p : PackageStats) : Bool :=
  let classes := p.members.values
  (List.range BugCounts.slotCount).all (fun n => sumFits 0 (classes.map fun c => c.bugs.slot n)) &&
    sumFits 0 (classes.map ClassStats.size)

def clearBugs (p : PackageStats) : PackageStats :=
  { p with
    bugs := .zero
    members := p.members.map fun (name, c) => (name, c.clearBugs) }

/-- Keeps the entries of the classes that are wanted. Nothing else changes. -/
def retain (p : PackageStats) (wanted : String → Bool) : PackageStats :=
  { p with members := p.members.filter fun entry => wanted entry.1 }

/-- One line about the package. -/
def headline (p : PackageStats) : String :=
  s!"{p.name}, {p.classCount} classes, {p.size} ncss"

end PackageStats

end JvmFacts
