import JvmFacts.Session.Databases

/-!
Declaring the application classes of a run.

All classes that are known when it starts are resolved, and those that can be enter the hierarchy,
as application classes or as library classes. The others are reported and passed over.

Classes may be resolved side by side. Then it is settled neither which of them is done first nor, since
one resolution runs into another, in which order their descriptors are interned, so both are given from
outside; that the methods of two classes are made in turns is left out, for no entry belongs to both.
What was resolved enters in the order of interning in any case.
-/

set_option autoImplicit false

namespace JvmFacts.Session

/-- The classes that are no arrays, in the order of interning. -/
def namedClasses (s : Session) : List ClassDescriptor :=
  s.registry.classes.filter fun c => !c.isArray

def resolveAll (reader : ClassReader) :
    List ClassDescriptor → StateM Session (List (ClassDescriptor × Except Fault ResolvedClass))
  | [] => pure []
  | c :: rest => do
    let outcome ← (classRecord reader c).run
    let more ← resolveAll reader rest
    pure ((c, outcome) :: more)

/-- How classes come to be resolved side by side: the order in which they are done, and what is interned
ahead of its turn. -/
structure Schedule where
  order : List ClassDescriptor → List ClassDescriptor
  perm : ∀ classes, (order classes).Perm classes
  ahead : List Registry.Request := []

/-- One class after the other, as they are given. -/
def Schedule.inTurn : Schedule where
  order := id
  perm := List.Perm.refl

/-- The order in which the classes that are known are resolved. -/
def resolutionOrder (s : Session) (schedule : Schedule) : List ClassDescriptor :=
  if s.config.parallelResolution then schedule.order s.namedClasses else s.namedClasses

/-- Interns ahead of its turn what resolving the classes in turn would intern as well. With all of that
ahead, the descriptors come in any order there is. -/
def internAhead (reader : ClassReader) (schedule : Schedule) (s : Session) : Session :=
  if s.config.parallelResolution then
    let last := ((resolveAll reader (s.resolutionOrder schedule)).run s).2.registry
    { s with registry := last.serveWithin schedule.ahead s.registry }
  else s

/-- Resolves all classes that are known. -/
def resolveKnown (reader : ClassReader) (schedule : Schedule) :
    StateM Session (List (ClassDescriptor × Except Fault ResolvedClass)) := do
  let order := (← get).resolutionOrder schedule
  modify (internAhead reader schedule)
  resolveAll reader order

/-- The outcomes in the order of these classes. -/
def collect (classes : List ClassDescriptor)
    (outcomes : List (ClassDescriptor × Except Fault ResolvedClass)) :
    List (ClassDescriptor × Except Fault ResolvedClass) :=
  classes.filterMap fun c => outcomes.find? fun entry => entry.1 = c

/-- A class that does not exist is reported as missing, any other failure with its cause. -/
def failureReport (c : ClassDescriptor) (fault : Fault) : Report :=
  if fault.isMissingClass then .missing fault
  else .failureOf s!"Unable to get class info for {c.dottedName}" fault

def enter (applications : List ClassDescriptor) (s : Session)
    (entry : ClassDescriptor × Except Fault ResolvedClass) : Session :=
  let (c, outcome) := entry
  match outcome with
  | .error fault => s.report (failureReport c fault)
  | .ok record =>
    let kind := if applications.contains c then .application else .library
    match s.addToHierarchy s.runNumber record kind with
    | (.ok (), s) => s
    | (.error fault, s) => s.report (failureReport c fault)

def declareApplications (reader : ClassReader) (schedule : Schedule)
    (applications : List ClassDescriptor) : StateM Session Unit := do
  let classes := (← get).namedClasses
  let outcomes ← resolveKnown reader schedule
  modify fun s => (collect classes outcomes).foldl (enter applications) s.createHierarchy
  modify fun s =>
    if s.config.debugHierarchy then
      s.addLog [⟨.debug, s!"{s.hierarchy.vertexCount} vertices in inheritance graph"⟩]
    else s

end JvmFacts.Session
