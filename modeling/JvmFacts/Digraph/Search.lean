import JvmFacts.Digraph.Basic

/-!
Searching a directed graph from one node.

A node is marked when it is put on the stack, so it is put there once. The neighbours of a node go
on the stack last first, and the node on top is visited next. Marking a node takes it from the
unmarked ones to the stack, so each visit lessens the sum of both, and the search ends.
-/

set_option autoImplicit false

namespace JvmFacts.Digraph

/-- Puts a node on the stack unless it is marked or is no node. -/
def discover (state : List Nat × Array Bool) (node : Nat) : List Nat × Array Bool :=
  if state.2[node]? = some false then (node :: state.1, state.2.set! node true) else state

/-- Puts neighbours on the stack, the last of them first. -/
def discoverAll (state : List Nat × Array Bool) (neighbours : List Nat) : List Nat × Array Bool :=
  neighbours.reverse.foldl discover state

/-- Unmarked nodes and stacked ones together. -/
def pending (state : List Nat × Array Bool) : Nat :=
  state.2.count false + state.1.length

theorem pending_discover (state : List Nat × Array Bool) (node : Nat) :
    pending (discover state node) = pending state := by
  unfold discover
  split
  · rename_i unmarked
    obtain ⟨inside, held⟩ := Array.getElem?_eq_some_iff.1 unmarked
    have some_left : 0 < state.2.count false := by
      rw [Array.count_pos_iff]
      exact held ▸ Array.getElem_mem inside
    simp only [pending, Array.set!_eq_setIfInBounds, Array.setIfInBounds, inside, ↓reduceDIte,
      Array.count_set, held, List.length_cons]
    simp only [BEq.rfl, ↓reduceIte, Bool.true_beq, Bool.false_eq_true]
    omega
  · rfl

theorem pending_discoverAll (state : List Nat × Array Bool) (neighbours : List Nat) :
    pending (discoverAll state neighbours) = pending state := by
  unfold discoverAll
  induction neighbours.reverse generalizing state with
  | nil => rfl
  | cons node rest ih => exact (ih (discover state node)).trans (pending_discover state node)

/-- The nodes in the order they come off the stack. -/
def visit (neighbours : Nat → List Nat) : List Nat × Array Bool → List Nat
  | ([], _) => []
  | (node :: stack, marks) =>
    node :: visit neighbours (discoverAll (stack, marks) (neighbours node))
termination_by state => pending state
decreasing_by
  rw [pending_discoverAll]
  simp only [pending, List.length_cons]
  omega

variable {ν ε : Type}

/-- What a search that starts at a node has marked and stacked at first; nothing when there is no
such node. -/
def searchStart (g : Digraph ν ε) (start : Nat) : List Nat × Array Bool :=
  if g.contains start then ([start], (Array.replicate g.nodeCount false).set! start true)
  else ([], #[])

/-- The nodes that edges lead to from the start, in the order of the search. -/
def search (g : Digraph ν ε) (start : Nat) : List Nat :=
  visit g.successors (g.searchStart start)

/-- The same against the direction of the edges. -/
def searchBack (g : Digraph ν ε) (start : Nat) : List Nat :=
  visit g.predecessors (g.searchStart start)

theorem visit_nil (neighbours : Nat → List Nat) (marks : Array Bool) :
    visit neighbours ([], marks) = [] := by
  rw [visit]

theorem visit_cons (neighbours : Nat → List Nat) (node : Nat) (stack : List Nat)
    (marks : Array Bool) :
    visit neighbours (node :: stack, marks) =
      node :: visit neighbours (discoverAll (stack, marks) (neighbours node)) := by
  rw [visit]

theorem search_outside {g : Digraph ν ε} {start : Nat} (outside : g.contains start = false) :
    g.search start = [] := by
  simp only [search, searchStart, outside, Bool.false_eq_true, ↓reduceIte, visit_nil]

end JvmFacts.Digraph
