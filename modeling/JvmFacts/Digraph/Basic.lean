import JvmFacts.Fault

/-!
Directed graphs with labelled nodes and edges. Nodes and edges are numbered from zero in the order
they came, are never removed, and may be parallel or loop. Each node lists the edges that leave and
that enter it, in the order of their numbers.
-/

set_option autoImplicit false

namespace JvmFacts

structure Edge (ε : Type) where
  source : Nat
  target : Nat
  label : ε
  deriving Repr

structure Digraph (ν ε : Type) where
  nodes : Array ν := #[]
  edges : Array (Edge ε) := #[]
  outgoing : Array (Array Nat) := #[]
  incoming : Array (Array Nat) := #[]
  deriving Repr

namespace Digraph

variable {ν ε : Type}

def empty : Digraph ν ε := {}

def nodeCount (g : Digraph ν ε) : Nat :=
  g.nodes.size

def edgeCount (g : Digraph ν ε) : Nat :=
  g.edges.size

def isEmpty (g : Digraph ν ε) : Bool :=
  g.nodes.isEmpty

def contains (g : Digraph ν ε) (node : Nat) : Bool :=
  node < g.nodeCount

def node? (g : Digraph ν ε) (node : Nat) : Option ν :=
  g.nodes[node]?

def edge? (g : Digraph ν ε) (edge : Nat) : Option (Edge ε) :=
  g.edges[edge]?

def addNode (g : Digraph ν ε) (label : ν) : Digraph ν ε :=
  { g with
    nodes := g.nodes.push label
    outgoing := g.outgoing.push #[]
    incoming := g.incoming.push #[] }

/-- Relabels a node; a number of no node changes nothing. -/
def modifyNode (g : Digraph ν ε) (node : Nat) (change : ν → ν) : Digraph ν ε :=
  { g with nodes := g.nodes.modify node change }

/-- Both ends have to be there; the source is looked at first. -/
def addEdge (g : Digraph ν ε) (source target : Nat) (label : ε) :
    Except GraphFault (Digraph ν ε) :=
  if g.nodeCount ≤ source then .error (.noSource source g.nodeCount)
  else if g.nodeCount ≤ target then .error (.noTarget target g.nodeCount)
  else .ok
    { g with
      edges := g.edges.push ⟨source, target, label⟩
      outgoing := g.outgoing.modify source (·.push g.edgeCount)
      incoming := g.incoming.modify target (·.push g.edgeCount) }

/-- The edges with these numbers. -/
def edgesAt (g : Digraph ν ε) (lists : Array (Array Nat)) (node : Nat) : List (Edge ε) :=
  ((lists[node]?).getD #[]).toList.filterMap g.edge?

def edgesFrom (g : Digraph ν ε) (node : Nat) : List (Edge ε) :=
  g.edgesAt g.outgoing node

def edgesInto (g : Digraph ν ε) (node : Nat) : List (Edge ε) :=
  g.edgesAt g.incoming node

def successors (g : Digraph ν ε) (node : Nat) : List Nat :=
  (g.edgesFrom node).map Edge.target

def predecessors (g : Digraph ν ε) (node : Nat) : List Nat :=
  (g.edgesInto node).map Edge.source

@[simp] theorem nodeCount_empty : (empty : Digraph ν ε).nodeCount = 0 := rfl

@[simp] theorem nodeCount_addNode (g : Digraph ν ε) (label : ν) :
    (g.addNode label).nodeCount = g.nodeCount + 1 :=
  Array.size_push ..

@[simp] theorem nodeCount_modifyNode (g : Digraph ν ε) (node : Nat) (change : ν → ν) :
    (g.modifyNode node change).nodeCount = g.nodeCount :=
  Array.size_modify

theorem nodeCount_addEdge {g grown : Digraph ν ε} {source target : Nat} {label : ε}
    (added : g.addEdge source target label = .ok grown) : grown.nodeCount = g.nodeCount := by
  unfold addEdge at added
  split at added
  · cases added
  · split at added
    · cases added
    · cases added
      rfl

/-- An edge is taken exactly when both of its ends are nodes. -/
theorem addEdge_isOk (g : Digraph ν ε) (source target : Nat) (label : ε) :
    (g.addEdge source target label).isOk = (g.contains source && g.contains target) := by
  unfold addEdge contains
  by_cases low : g.nodeCount ≤ source
  · simp [low, Nat.not_lt.2 low, Except.isOk, Except.toBool]
  · by_cases high : g.nodeCount ≤ target
    · simp [low, high, Nat.not_lt.2 high, Except.isOk, Except.toBool]
    · simp [low, high, Nat.not_le.1 low, Nat.not_le.1 high, Except.isOk, Except.toBool]

end Digraph

end JvmFacts
