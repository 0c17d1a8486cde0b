import JvmFacts.Digraph.Basic
import Mathlib.Data.List.Basic
import Mathlib.Data.List.Induction

/-!
The lists of edges that a graph keeps at its nodes. In a graph that was built by adding nodes and
edges, a node lists exactly the edges that leave it and those that enter it, in the order they came.
-/

set_option autoImplicit false

namespace JvmFacts.Digraph

variable {ν ε : Type}

/-- The numbers of the edges with a property, ascending. -/
def edgeNumbers (g : Digraph ν ε) (p : Edge ε → Bool) : List Nat :=
  (List.range g.edgeCount).filter fun i => (g.edge? i).any p

/-- Each node has a list, and it holds the numbers of the edges that have this side there. -/
structure Listed (g : Digraph ν ε) (lists : Array (Array Nat)) (side : Edge ε → Nat) : Prop where
  size : lists.size = g.nodeCount
  holds : ∀ node < g.nodeCount,
    lists[node]? = some (g.edgeNumbers fun e => side e == node).toArray

structure WellFormed (g : Digraph ν ε) : Prop where
  ends : ∀ e ∈ g.edges, e.source < g.nodeCount ∧ e.target < g.nodeCount
  outgoing : g.Listed g.outgoing Edge.source
  incoming : g.Listed g.incoming Edge.target

private theorem filterMap_range_filter {α : Type} (items : List α) (p : α → Bool) :
    ((List.range items.length).filter fun i => (items[i]?).any p).filterMap (items[·]?) =
      items.filter p := by
  induction items using List.reverseRecOn with
  | nil => rfl
  | append_singleton items last ih =>
    have earlier : ∀ i ∈ List.range items.length, (items ++ [last])[i]? = items[i]? := by
      intro i within
      exact List.getElem?_append_left (List.mem_range.1 within)
    have front : (List.range items.length).filter (fun i => ((items ++ [last])[i]?).any p) =
        (List.range items.length).filter (fun i => (items[i]?).any p) := by
      apply List.filter_congr
      intro i within
      rw [earlier i within]
    have images : ((List.range items.length).filter (fun i => (items[i]?).any p)).filterMap
          ((items ++ [last])[·]?) =
        ((List.range items.length).filter (fun i => (items[i]?).any p)).filterMap (items[·]?) := by
      apply List.filterMap_congr
      intro i member
      exact earlier i (List.mem_of_mem_filter member)
    rw [List.length_append, List.length_singleton, List.range_succ, List.filter_append, front,
      List.filterMap_append, images, ih, List.filter_append]
    congr 1
    cases held : p last <;> simp [held]

/-- Looking up the numbers gives the edges themselves. -/
theorem filterMap_edgeNumbers (g : Digraph ν ε) (p : Edge ε → Bool) :
    (g.edgeNumbers p).filterMap g.edge? = g.edges.toList.filter p := by
  have look : g.edge? = fun i => g.edges.toList[i]? := by
    funext i
    exact (Array.getElem?_toList ..).symm
  simp only [edgeNumbers, edgeCount, look, ← Array.length_toList]
  exact filterMap_range_filter g.edges.toList p

theorem Listed.edgesAt {g : Digraph ν ε} {lists : Array (Array Nat)} {side : Edge ε → Nat}
    (listed : g.Listed lists side) (within : ∀ e ∈ g.edges, side e < g.nodeCount) (node : Nat) :
    g.edgesAt lists node = g.edges.toList.filter fun e => side e == node := by
  unfold Digraph.edgesAt
  by_cases inside : node < g.nodeCount
  · rw [listed.holds node inside, Option.getD_some]
    exact filterMap_edgeNumbers g _
  · have absent : lists[node]? = none := by
      rw [Array.getElem?_eq_none_iff, listed.size]
      omega
    have none_there : g.edges.toList.filter (fun e => side e == node) = [] := by
      rw [List.filter_eq_nil_iff]
      intro e member
      have low := within e (Array.mem_toList_iff.1 member)
      simp only [beq_iff_eq]
      omega
    rw [absent, none_there]
    rfl

theorem WellFormed.edgesFrom {g : Digraph ν ε} (wf : g.WellFormed) (node : Nat) :
    g.edgesFrom node = g.edges.toList.filter fun e => e.source == node :=
  wf.outgoing.edgesAt (fun e member => (wf.ends e member).1) node

theorem WellFormed.edgesInto {g : Digraph ν ε} (wf : g.WellFormed) (node : Nat) :
    g.edgesInto node = g.edges.toList.filter fun e => e.target == node :=
  wf.incoming.edgesAt (fun e member => (wf.ends e member).2) node

theorem WellFormed.target_lt {g : Digraph ν ε} (wf : g.WellFormed) {node : Nat} {e : Edge ε}
    (leaves : e ∈ g.edgesFrom node) : e.target < g.nodeCount := by
  rw [wf.edgesFrom] at leaves
  exact (wf.ends e (Array.mem_toList_iff.1 (List.mem_of_mem_filter leaves))).2

theorem WellFormed.mem_successors {g : Digraph ν ε} (wf : g.WellFormed) {node next : Nat} :
    next ∈ g.successors node ↔ ∃ e ∈ g.edges, e.source = node ∧ e.target = next := by
  simp only [successors, wf.edgesFrom, List.mem_map, List.mem_filter, Array.mem_toList_iff,
    beq_iff_eq, and_assoc]

theorem WellFormed.mem_predecessors {g : Digraph ν ε} (wf : g.WellFormed) {node next : Nat} :
    next ∈ g.predecessors node ↔ ∃ e ∈ g.edges, e.target = node ∧ e.source = next := by
  simp only [predecessors, wf.edgesInto, List.mem_map, List.mem_filter, Array.mem_toList_iff,
    beq_iff_eq, and_assoc]

theorem WellFormed.successor_lt {g : Digraph ν ε} (wf : g.WellFormed) {node next : Nat}
    (edge : next ∈ g.successors node) : next < g.nodeCount := by
  obtain ⟨e, member, -, rfl⟩ := wf.mem_successors.1 edge
  exact (wf.ends e member).2

theorem WellFormed.predecessor_lt {g : Digraph ν ε} (wf : g.WellFormed) {node next : Nat}
    (edge : next ∈ g.predecessors node) : next < g.nodeCount := by
  obtain ⟨e, member, -, rfl⟩ := wf.mem_predecessors.1 edge
  exact (wf.ends e member).1

theorem wellFormed_empty : (empty : Digraph ν ε).WellFormed where
  ends := by
    intro e member
    exact absurd member (Array.not_mem_empty e)
  outgoing := ⟨rfl, fun node low => absurd low (Nat.not_lt_zero node)⟩
  incoming := ⟨rfl, fun node low => absurd low (Nat.not_lt_zero node)⟩

/-! ## A new node -/

theorem edgeNumbers_eq_nil {g : Digraph ν ε} {p : Edge ε → Bool}
    (lacking : ∀ e ∈ g.edges, p e = false) : g.edgeNumbers p = [] := by
  unfold edgeNumbers
  rw [List.filter_eq_nil_iff]
  intro i _ found
  obtain ⟨e, held, has⟩ := (Option.any_eq_true _ _).1 found
  have member : e ∈ g.edges := Array.mem_of_getElem? held
  rw [lacking e member] at has
  cases has

/-- No edge mentions the new node yet, so its list is the empty one. -/
theorem Listed.addNode {g : Digraph ν ε} {lists : Array (Array Nat)} {side : Edge ε → Nat}
    (listed : g.Listed lists side) (within : ∀ e ∈ g.edges, side e < g.nodeCount) (label : ν) :
    (g.addNode label).Listed (lists.push #[]) side where
  size := by
    rw [Array.size_push, listed.size, nodeCount_addNode]
  holds := by
    intro node low
    rw [nodeCount_addNode] at low
    rw [Array.getElem?_push, listed.size]
    by_cases new : node = g.nodeCount
    · have lacking : ∀ e ∈ (g.addNode label).edges, (side e == node) = false := by
        intro e member
        have below := within e member
        simp only [beq_eq_false_iff_ne]
        omega
      rw [if_pos new, edgeNumbers_eq_nil lacking]
    · rw [if_neg new]
      exact listed.holds node (by omega)

theorem WellFormed.addNode {g : Digraph ν ε} (wf : g.WellFormed) (label : ν) :
    (g.addNode label).WellFormed where
  ends := by
    intro e member
    have low := wf.ends e member
    rw [nodeCount_addNode]
    omega
  outgoing := wf.outgoing.addNode (fun e member => (wf.ends e member).1) label
  incoming := wf.incoming.addNode (fun e member => (wf.ends e member).2) label

theorem WellFormed.modifyNode {g : Digraph ν ε} (wf : g.WellFormed) (node : Nat)
    (change : ν → ν) : (g.modifyNode node change).WellFormed where
  ends := by
    intro e member
    rw [nodeCount_modifyNode]
    exact wf.ends e member
  outgoing := by
    refine ⟨?_, ?_⟩
    · rw [nodeCount_modifyNode]
      exact wf.outgoing.size
    · rw [nodeCount_modifyNode]
      exact wf.outgoing.holds
  incoming := by
    refine ⟨?_, ?_⟩
    · rw [nodeCount_modifyNode]
      exact wf.incoming.size
    · rw [nodeCount_modifyNode]
      exact wf.incoming.holds

/-! ## A new edge -/

/-- All that a new edge does: it comes last, and last in the lists of its two ends. -/
theorem addEdge_cases {g grown : Digraph ν ε} {source target : Nat} {label : ε}
    (added : g.addEdge source target label = .ok grown) :
    source < g.nodeCount ∧ target < g.nodeCount ∧ grown =
      { g with
        edges := g.edges.push ⟨source, target, label⟩
        outgoing := g.outgoing.modify source (·.push g.edgeCount)
        incoming := g.incoming.modify target (·.push g.edgeCount) } := by
  unfold addEdge at added
  split at added
  · cases added
  · split at added
    · cases added
    · cases added
      exact ⟨by omega, by omega, rfl⟩

theorem edgeNumbers_push {g grown : Digraph ν ε} {e : Edge ε}
    (edges : grown.edges = g.edges.push e) (p : Edge ε → Bool) :
    grown.edgeNumbers p = g.edgeNumbers p ++ if p e then [g.edgeCount] else [] := by
  have count : grown.edgeCount = g.edgeCount + 1 := by
    simp only [edgeCount, edges, Array.size_push]
  have earlier : ∀ i ∈ List.range g.edgeCount, (grown.edge? i).any p = (g.edge? i).any p := by
    intro i within
    have low : i < g.edges.size := List.mem_range.1 within
    simp only [edge?, edges, Array.getElem?_push_lt low, Array.getElem?_eq_getElem low]
  have last : grown.edge? g.edgeCount = some e := by
    simp only [edge?, edges, edgeCount, Array.getElem?_push_size]
  unfold edgeNumbers
  rw [count, List.range_succ, List.filter_append, List.filter_congr earlier]
  congr 1
  cases held : p e <;> simp [last, held]

theorem Listed.addEdge {g grown : Digraph ν ε} {lists : Array (Array Nat)} {side : Edge ε → Nat}
    {e : Edge ε} (listed : g.Listed lists side) (edges : grown.edges = g.edges.push e)
    (nodes : grown.nodeCount = g.nodeCount) :
    grown.Listed (lists.modify (side e) (·.push g.edgeCount)) side where
  size := by
    rw [Array.size_modify, listed.size, nodes]
  holds := by
    intro node low
    rw [nodes] at low
    rw [Array.getElem?_modify, listed.holds node low, edgeNumbers_push edges]
    by_cases here : side e = node
    · simp [here]
    · simp [here]

theorem WellFormed.addEdge {g grown : Digraph ν ε} {source target : Nat} {label : ε}
    (wf : g.WellFormed) (added : g.addEdge source target label = .ok grown) :
    grown.WellFormed := by
  have count := nodeCount_addEdge added
  obtain ⟨low, high, rfl⟩ := addEdge_cases added
  refine ⟨?_, ?_, ?_⟩
  · intro e member
    rw [count]
    rcases Array.mem_push.1 member with held | rfl
    · exact wf.ends e held
    · exact ⟨low, high⟩
  · exact wf.outgoing.addEdge rfl count
  · exact wf.incoming.addEdge rfl count

/-- Between two nodes an edge can always be drawn. -/
theorem exists_addEdge {g : Digraph ν ε} {source target : Nat} (low : source < g.nodeCount)
    (high : target < g.nodeCount) (label : ε) : ∃ grown, g.addEdge source target label = .ok grown := by
  unfold Digraph.addEdge
  rw [if_neg (by omega), if_neg (by omega)]
  exact ⟨_, rfl⟩

theorem WellFormed.edgesFrom_addEdge {g grown : Digraph ν ε} {source target : Nat} {label : ε}
    (wf : g.WellFormed) (added : g.addEdge source target label = .ok grown) (node : Nat) :
    grown.edgesFrom node =
      g.edgesFrom node ++ if source = node then [⟨source, target, label⟩] else [] := by
  rw [(wf.addEdge added).edgesFrom, wf.edgesFrom]
  obtain ⟨-, -, rfl⟩ := addEdge_cases added
  rw [Array.toList_push, List.filter_append]
  congr 1
  by_cases here : source = node
  · simp [here]
  · simp [here]

/-! ## Graphs as they are drawn -/

inductive Drawing (ν ε : Type) where
  | node (label : ν)
  | edge (source target : Nat) (label : ε)

/-- An edge that is refused changes nothing. -/
def draw (g : Digraph ν ε) : Drawing ν ε → Digraph ν ε
  | .node label => g.addNode label
  | .edge source target label => (g.addEdge source target label).toOption.getD g

def drawAll (drawings : List (Drawing ν ε)) : Digraph ν ε :=
  drawings.foldl draw empty

theorem WellFormed.draw {g : Digraph ν ε} (wf : g.WellFormed) (d : Drawing ν ε) :
    (g.draw d).WellFormed := by
  cases d with
  | node label => exact wf.addNode label
  | edge source target label =>
    change ((g.addEdge source target label).toOption.getD g).WellFormed
    cases drawn : g.addEdge source target label with
    | error fault => exact wf
    | ok grown => exact wf.addEdge drawn

theorem wellFormed_drawAll (drawings : List (Drawing ν ε)) :
    (drawAll drawings : Digraph ν ε).WellFormed := by
  have drawn : ∀ g : Digraph ν ε, g.WellFormed → (drawings.foldl draw g).WellFormed := by
    induction drawings with
    | nil => exact fun g wf => wf
    | cons d rest ih => exact fun g wf => ih (g.draw d) (wf.draw d)
  exact drawn empty wellFormed_empty

/-! ## All edges -/

/-- Taking the items of one number after those of another takes all of them, up to the order. -/
private theorem flatMap_filter_perm {α : Type} (side : α → Nat) (items : List α) (count : Nat) :
    ((List.range count).flatMap fun n => items.filter fun a => side a == n).Perm
      (items.filter fun a => side a < count) := by
  induction count with
  | zero => simp
  | succ count ih =>
    have below : ∀ n, (decide (n < count) && decide (n < count + 1)) = decide (n < count) := by grind
    have here : ∀ n, (!decide (n < count) && decide (n < count + 1)) = (n == count) := by grind
    have parts := List.filter_append_perm (fun a => decide (side a < count))
      (items.filter fun a => side a < count + 1)
    simp only [List.filter_filter, below, here] at parts
    rw [List.range_succ, List.flatMap_append, List.flatMap_singleton]
    exact (ih.append_right _).trans parts

/-- So none is counted twice or left out when the items of every number are counted. -/
theorem length_flatMap_filter {α : Type} {side : α → Nat} {items : List α} {count : Nat}
    (within : ∀ a ∈ items, side a < count) :
    ((List.range count).flatMap fun n => items.filter fun a => side a == n).length =
      items.length := by
  have all : items.filter (fun a => side a < count) = items :=
    List.filter_eq_self.2 fun a member => decide_eq_true (within a member)
  have parts := flatMap_filter_perm side items count
  rw [all] at parts
  exact parts.length_eq

/-- Every edge leaves one node. -/
theorem WellFormed.edgeCount_eq {g : Digraph ν ε} (wf : g.WellFormed) :
    g.edgeCount = ((List.range g.nodeCount).flatMap g.edgesFrom).length := by
  rw [funext wf.edgesFrom, length_flatMap_filter fun e member =>
    (wf.ends e (Array.mem_toList_iff.1 member)).1, Array.length_toList]
  rfl

end JvmFacts.Digraph
