import JvmFacts.Class.Parsed
import JvmFacts.Digraph.Search

/-!
The inheritance hierarchy: a vertex for each known class, an edge from each class to its superclass
and to its interfaces.

A class gets a vertex when it is added or when it is named as a supertype, and its edges when it is
added for the first time. A vertex that was only named is unresolved.
-/

set_option autoImplicit false

namespace JvmFacts

inductive VertexKind where
  | application | library | unresolved
  deriving DecidableEq, Repr

def VertexKind.all : List VertexKind := [.application, .library, .unresolved]

def VertexKind.label : VertexKind → String
  | .application => "application"
  | .library => "library"
  | .unresolved => "unresolved"

/-- Application stays application; anything else becomes what the class was added as. -/
def VertexKind.upgrade (added old : VertexKind) : VertexKind :=
  if old = .application then .application else added

inductive InheritanceKind where
  | superclass | interface
  deriving DecidableEq, Repr

def InheritanceKind.all : List InheritanceKind := [.superclass, .interface]

def InheritanceKind.label : InheritanceKind → String
  | .superclass => "superclass"
  | .interface => "interface"

structure ClassVertex where
  descriptor : ClassDescriptor
  kind : VertexKind
  isInterface : Bool
  deriving DecidableEq, Repr

structure Hierarchy where
  graph : Digraph ClassVertex InheritanceKind := .empty
  places : Table ClassDescriptor Nat := []
  linked : List ClassDescriptor := []
  deriving Repr

namespace Hierarchy

def empty : Hierarchy := {}

def place? (h : Hierarchy) (c : ClassDescriptor) : Option Nat :=
  h.places.find? c

/-- Makes sure that a class has a vertex, an unresolved one if it is new, and tells its number. -/
def ensure (h : Hierarchy) (c : ClassDescriptor) : Nat × Hierarchy :=
  match h.place? c with
  | some node => (node, h)
  | none =>
    let node := h.graph.nodeCount
    (node, { h with
      graph := h.graph.addNode ⟨c, .unresolved, false⟩
      places := h.places.insert c node })

def describe (h : Hierarchy) (node : Nat) (kind : VertexKind) (isInterface : Bool) : Hierarchy :=
  { h with graph := h.graph.modifyNode node fun v =>
      { v with kind := VertexKind.upgrade kind v.kind, isInterface } }

/-- An edge from a vertex to the vertex of a supertype, which is made if need be. -/
def link (h : Hierarchy) (node : Nat) (supertype : ClassDescriptor) (kind : InheritanceKind) :
    Except GraphFault Hierarchy := do
  let (target, h) := h.ensure supertype
  let graph ← h.graph.addEdge node target kind
  pure { h with graph }

/-- The supertypes of a class as its edges go: the superclass first, then the interfaces. -/
def supertypesOf (c : ResolvedClass) : List (ClassDescriptor × InheritanceKind) :=
  c.superclass.toList.map (·, .superclass) ++ c.interfaces.map (·, .interface)

def linkAll (h : Hierarchy) (node : Nat) :
    List (ClassDescriptor × InheritanceKind) → Except GraphFault Hierarchy
  | [] => .ok h
  | (supertype, kind) :: rest =>
    match h.link node supertype kind with
    | .error fault => .error fault
    | .ok h => linkAll h node rest

/-- A class is linked only once, whatever it is added as later. -/
def add (h : Hierarchy) (c : ResolvedClass) (kind : VertexKind) : Except GraphFault Hierarchy :=
  let (node, h) := h.ensure c.descriptor
  let h := h.describe node kind c.isInterface
  if h.linked.contains c.descriptor then .ok h
  else { h with linked := h.linked ++ [c.descriptor] }.linkAll node (supertypesOf c)

def contains (h : Hierarchy) (c : ClassDescriptor) : Bool :=
  (h.place? c).isSome

def vertex? (h : Hierarchy) (c : ClassDescriptor) : Option ClassVertex :=
  (h.place? c).bind h.graph.node?

def kind? (h : Hierarchy) (c : ClassDescriptor) : Option VertexKind :=
  (h.vertex? c).map ClassVertex.kind

def isApplication (h : Hierarchy) (c : ClassDescriptor) : Bool :=
  h.kind? c == some .application

def applicationClasses (h : Hierarchy) : List ClassDescriptor :=
  let vertices := h.graph.nodes.toList.filter (·.kind == .application)
  sortAscending (vertices.map ClassVertex.descriptor)

def descriptorAt? (h : Hierarchy) (node : Nat) : Option ClassDescriptor :=
  (h.graph.node? node).map ClassVertex.descriptor

/-- A class is a subtype of itself and of what its edges lead to. -/
def isSubtype (h : Hierarchy) (a b : ClassDescriptor) : Bool :=
  if a = b then true
  else
    match h.place? a, h.place? b with
    | some source, some target => (h.graph.search source).contains target
    | _, _ => false

def directSupertypes (h : Hierarchy) (c : ClassDescriptor) : List ClassDescriptor :=
  match h.place? c with
  | none => []
  | some node => (h.graph.successors node).filterMap h.descriptorAt?

/-- All proper supertypes in the order of the search. -/
def supertypes (h : Hierarchy) (c : ClassDescriptor) : List ClassDescriptor :=
  match h.place? c with
  | none => []
  | some node => (h.graph.search node).tail.filterMap h.descriptorAt?

/-- All proper subtypes in ascending order. -/
def subtypes (h : Hierarchy) (c : ClassDescriptor) : List ClassDescriptor :=
  match h.place? c with
  | none => []
  | some node => sortAscending ((h.graph.searchBack node).tail.filterMap h.descriptorAt?)

def vertexCount (h : Hierarchy) : Nat :=
  h.graph.nodeCount

def edgeCount (h : Hierarchy) : Nat :=
  h.graph.edgeCount

end Hierarchy

end JvmFacts
