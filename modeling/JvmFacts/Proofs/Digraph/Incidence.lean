import Mathlib.Algebra.GroupWithZero.Nat
import JvmFacts.Proofs.Digraph.Delivery
import JvmFacts.Proofs.Lists

/-!
Graphs that are edited step by step, with every write at a place that has to be there. However the
edits are mixed, refused ones among them, no write misses its place; each edge stands once in the list
of the node it leaves and once in that of the node it enters, in no other list, and in the order the
edges came; and whoever follows the lists finds every edge and every mark looked for.
-/

set_option autoImplicit false

namespace JvmFacts.Digraph

variable {ν ε : Type}

/-! ## Edits -/

/-- Work on a graph; it breaks off when it writes where nothing is. -/
abbrev Editing (ν ε α : Type) : Type := StateT (Digraph ν ε) Option α

inductive Edit (ν ε : Type) where
  | addNode (label : ν)
  | relabel (node : Nat) (change : ν → ν)
  | addEdge (source target : Nat) (label : ε)

inductive Reply where
  | node (number : Nat)
  | relabelled (found : Bool)
  | edge (number : Nat)
  | refused (why : GraphFault)

/-- Puts a number last in a node's list, which has to be there. -/
def enlist (lists : Array (Array Nat)) (node number : Nat) : Option (Array (Array Nat)) :=
  if node < lists.size then some (lists.modify node (·.push number)) else none

/-- Draws an edge in place: the ends are looked at first, then the edge and its two entries are
written one after the other. -/
def drawEdge (source target : Nat) (label : ε) : Editing ν ε Reply := do
  let before ← get
  if before.nodeCount ≤ source then
    return .refused (.noSource source before.nodeCount)
  if before.nodeCount ≤ target then
    return .refused (.noTarget target before.nodeCount)
  let number := before.edgeCount
  modify fun g => { g with edges := g.edges.push ⟨source, target, label⟩ }
  let outgoing ← liftM (enlist (← get).outgoing source number)
  modify fun g => { g with outgoing }
  let incoming ← liftM (enlist (← get).incoming target number)
  modify fun g => { g with incoming }
  return .edge number

def perform : Edit ν ε → Editing ν ε Reply
  | .addNode label => do
    let before ← get
    set (before.addNode label)
    return .node before.nodeCount
  | .relabel node change => do
    let before ← get
    set (before.modifyNode node change)
    return .relabelled (before.contains node)
  | .addEdge source target label => drawEdge source target label

def performAll (edits : List (Edit ν ε)) : Editing ν ε (List Reply) :=
  edits.mapM perform

/-- The edges that come of edits to a graph with so many nodes: those that join nodes which are
there by then. -/
def drawn (count : Nat) : List (Edit ν ε) → List (Edge ε)
  | [] => []
  | .addNode _ :: rest => drawn (count + 1) rest
  | .relabel _ _ :: rest => drawn count rest
  | .addEdge source target label :: rest =>
    if source < count ∧ target < count then ⟨source, target, label⟩ :: drawn count rest
    else drawn count rest

/-- Drawing an edge in place comes to what adding it does, and a refused edge leaves no trace. -/
theorem WellFormed.run_drawEdge {g : Digraph ν ε} (wf : g.WellFormed) (source target : Nat)
    (label : ε) :
    (drawEdge source target label).run g = some
      (match g.addEdge source target label with
        | .ok grown => (.edge g.edgeCount, grown)
        | .error why => (.refused why, g)) := by
  unfold Digraph.addEdge
  by_cases low : g.nodeCount ≤ source
  · simp [drawEdge, low]
  by_cases high : g.nodeCount ≤ target
  · simp [drawEdge, low, high]
  have leaves : source < g.outgoing.size := by
    rw [wf.outgoing.size]
    omega
  have enters : target < g.incoming.size := by
    rw [wf.incoming.size]
    omega
  simp [drawEdge, low, high, enlist, leaves, enters]

/-- One edit of a well-formed graph: it goes through, the graph stays well-formed, and of the edges
that were to come those of this edit are now there. -/
theorem WellFormed.perform {g : Digraph ν ε} (wf : g.WellFormed) (edit : Edit ν ε)
    (rest : List (Edit ν ε)) :
    ∃ reply after, (perform edit).run g = some (reply, after) ∧ after.WellFormed ∧
      after.edges.toList ++ drawn after.nodeCount rest =
        g.edges.toList ++ drawn g.nodeCount (edit :: rest) := by
  cases edit with
  | addNode label =>
    refine ⟨_, _, rfl, wf.addNode label, ?_⟩
    rw [nodeCount_addNode]
    rfl
  | relabel node change =>
    refine ⟨_, _, rfl, wf.modifyNode node change, ?_⟩
    rw [nodeCount_modifyNode]
    rfl
  | addEdge source target label =>
    have run := wf.run_drawEdge source target label
    have taken := g.addEdge_isOk source target label
    cases added : g.addEdge source target label with
    | error why =>
      rw [added] at run taken
      refine ⟨_, _, run, wf, ?_⟩
      have missing : ¬(source < g.nodeCount ∧ target < g.nodeCount) := by
        simpa [Except.isOk, Except.toBool, contains] using taken
      rw [drawn, if_neg missing]
    | ok grown =>
      rw [added] at run
      refine ⟨_, _, run, wf.addEdge added, ?_⟩
      have count := nodeCount_addEdge added
      obtain ⟨low, high, rfl⟩ := addEdge_cases added
      rw [drawn, if_pos ⟨low, high⟩, count, Array.toList_push, List.append_assoc]
      rfl

theorem WellFormed.performAll {g : Digraph ν ε} (wf : g.WellFormed) (edits : List (Edit ν ε)) :
    ∃ replies after, (performAll edits).run g = some (replies, after) ∧ after.WellFormed ∧
      after.edges.toList = g.edges.toList ++ drawn g.nodeCount edits := by
  induction edits generalizing g with
  | nil => exact ⟨[], g, rfl, wf, (List.append_nil _).symm⟩
  | cons edit rest ih =>
    obtain ⟨reply, next, first, sound, shared⟩ := wf.perform edit rest
    obtain ⟨replies, after, others, wf', edges⟩ := ih sound
    refine ⟨reply :: replies, after, ?_, wf', edges.trans shared⟩
    unfold Digraph.performAll at others ⊢
    rw [List.mapM_cons]
    simp [first, others]

/-! ## Entries of the lists -/

/-- What the lists on one side of the edges owe: each edge is entered once, in the list of the node
it has on this side, and in no other; within a list the edges stand in the order they came. -/
structure Incident (g : Digraph ν ε) (lists : Array (Array Nat)) (side : Edge ε → Nat) : Prop where
  size : lists.size = g.nodeCount
  bounded : ∀ numbers ∈ lists, ∀ i ∈ numbers, i < g.edgeCount
  once : ∀ i e, g.edge? i = some e → ∀ node numbers, lists[node]? = some numbers →
    numbers.count i = if side e = node then 1 else 0
  ascending : ∀ numbers ∈ lists, numbers.toList.Pairwise (· < ·)
  /-- The degrees in this direction add up to the number of edges. -/
  total : (lists.toList.map Array.size).sum = g.edgeCount

theorem lt_of_edge? {g : Digraph ν ε} {i : Nat} {e : Edge ε} (held : g.edge? i = some e) :
    i < g.edgeCount :=
  (Array.getElem?_eq_some_iff.1 held).1

theorem mem_edgeNumbers {g : Digraph ν ε} {p : Edge ε → Bool} {i : Nat} :
    i ∈ g.edgeNumbers p ↔ ∃ e, g.edge? i = some e ∧ p e = true := by
  unfold edgeNumbers
  rw [List.mem_filter, List.mem_range, Option.any_eq_true, and_iff_right_iff_imp]
  rintro ⟨e, held, -⟩
  exact lt_of_edge? held

theorem pairwise_edgeNumbers (g : Digraph ν ε) (p : Edge ε → Bool) :
    (g.edgeNumbers p).Pairwise (· < ·) :=
  List.pairwise_lt_range.filter _

theorem Listed.of_mem {g : Digraph ν ε} {lists : Array (Array Nat)} {side : Edge ε → Nat}
    (listed : g.Listed lists side) {numbers : Array Nat} (member : numbers ∈ lists) :
    ∃ node, numbers = (g.edgeNumbers fun e => side e == node).toArray := by
  obtain ⟨node, low, rfl⟩ := Array.mem_iff_getElem.1 member
  have held := listed.holds node (listed.size ▸ low)
  rw [Array.getElem?_eq_getElem low] at held
  exact ⟨node, Option.some.inj held⟩

theorem Listed.toList_eq {g : Digraph ν ε} {lists : Array (Array Nat)} {side : Edge ε → Nat}
    (listed : g.Listed lists side) : lists.toList =
      (List.range g.nodeCount).map fun node => (g.edgeNumbers fun e => side e == node).toArray := by
  apply List.ext_getElem?
  intro node
  rw [Array.getElem?_toList, List.getElem?_map]
  by_cases inside : node < g.nodeCount
  · rw [listed.holds node inside, List.getElem?_range inside, Option.map_some]
  · rw [Array.getElem?_eq_none (by rw [listed.size]; omega),
      List.getElem?_eq_none (by rw [List.length_range]; omega), Option.map_none]

theorem Listed.incident {g : Digraph ν ε} {lists : Array (Array Nat)} {side : Edge ε → Nat}
    (listed : g.Listed lists side) (within : ∀ e ∈ g.edges, side e < g.nodeCount) :
    g.Incident lists side where
  size := listed.size
  bounded := by
    intro numbers member i entered
    obtain ⟨node, rfl⟩ := listed.of_mem member
    obtain ⟨e, held, -⟩ := mem_edgeNumbers.1 (List.mem_toArray.1 entered)
    exact lt_of_edge? held
  once := by
    intro i e held node numbers there
    have low : node < g.nodeCount := listed.size ▸ (Array.getElem?_eq_some_iff.1 there).1
    obtain rfl := Option.some.inj (there.symm.trans (listed.holds node low))
    have distinct : (g.edgeNumbers fun e => side e == node).Nodup :=
      (g.pairwise_edgeNumbers _).imp Nat.ne_of_lt
    have entered : i ∈ (g.edgeNumbers fun e => side e == node) ↔ side e = node := by
      simp [mem_edgeNumbers, held]
    rw [List.count_toArray, distinct.count, if_congr entered rfl rfl]
  ascending := by
    intro numbers member
    obtain ⟨node, rfl⟩ := listed.of_mem member
    exact g.pairwise_edgeNumbers _
  total := by
    let place (i : Nat) : Nat := ((g.edge? i).map side).getD 0
    have there : ∀ i ∈ List.range g.edgeCount, ∃ e ∈ g.edges, g.edge? i = some e := by
      intro i low
      have inside : i < g.edges.size := List.mem_range.1 low
      exact ⟨g.edges[i], Array.getElem_mem inside, Array.getElem?_eq_getElem inside⟩
    have numbers : ∀ node, (g.edgeNumbers fun e => side e == node) =
        (List.range g.edgeCount).filter fun i => place i == node := by
      intro node
      apply List.filter_congr
      intro i low
      obtain ⟨e, -, held⟩ := there i low
      simp [place, held]
    have placed : ∀ i ∈ List.range g.edgeCount, place i < g.nodeCount := by
      intro i low
      obtain ⟨e, member, held⟩ := there i low
      simpa [place, held] using within e member
    calc (lists.toList.map Array.size).sum
        = ((List.range g.nodeCount).flatMap fun node =>
            (List.range g.edgeCount).filter fun i => place i == node).length := by
          simp [listed.toList_eq, numbers, List.length_flatMap, Function.comp_def]
      _ = (List.range g.edgeCount).length := length_flatMap_filter placed
      _ = g.edgeCount := List.length_range

/-! ## Following the lists -/

/-- The edges a node lists, looked up one after the other; nothing when one of them is not there. A
number of no node lists none. -/
def follow (g : Digraph ν ε) (lists : Array (Array Nat)) (node : Nat) : Option (List (Edge ε)) :=
  ((lists[node]?).getD #[]).toList.mapM g.edge?

/-- No entry leads to an edge that is not there, so following the entries is reading the edges. -/
theorem Incident.follow {g : Digraph ν ε} {lists : Array (Array Nat)} {side : Edge ε → Nat}
    (incident : g.Incident lists side) (node : Nat) :
    g.follow lists node = some (g.edgesAt lists node) := by
  apply mapM_eq_some_filterMap
  intro i entered
  have low : i < g.edgeCount := by
    cases there : lists[node]? with
    | none => simp [there] at entered
    | some numbers =>
      rw [there, Option.getD_some, Array.mem_toList_iff] at entered
      exact incident.bounded numbers (Array.mem_of_getElem? there) i entered
  exact Option.isSome_of_mem (Array.getElem?_eq_getElem low)

/-- What a graph owes to whoever follows its edges, when these are the edges that were drawn. -/
structure Incidence (g : Digraph ν ε) (edges : List (Edge ε)) : Prop where
  drawn : g.edges.toList = edges
  ends : ∀ e ∈ edges, e.source < g.nodeCount ∧ e.target < g.nodeCount
  outgoing : g.Incident g.outgoing Edge.source
  incoming : g.Incident g.incoming Edge.target
  /-- Every edge that is looked for is found, and they come in the order they were drawn. -/
  leaving : ∀ node, g.follow g.outgoing node = some (edges.filter fun e => e.source == node)
  entering : ∀ node, g.follow g.incoming node = some (edges.filter fun e => e.target == node)
  /-- A search finds the mark of every neighbour, in either direction, up to its end. -/
  along : ∀ start, ∃ last, Delivers g.successors (g.searchStart start) (g.search start) last ∧
    ask g.successors last = .finished
  against : ∀ start, ∃ last,
    Delivers g.predecessors (g.searchStart start) (g.searchBack start) last ∧
      ask g.predecessors last = .finished

theorem WellFormed.incidence {g : Digraph ν ε} (wf : g.WellFormed) :
    g.Incidence g.edges.toList where
  drawn := rfl
  ends := fun e member => wf.ends e (Array.mem_toList_iff.1 member)
  outgoing := wf.outgoing.incident fun e member => (wf.ends e member).1
  incoming := wf.incoming.incident fun e member => (wf.ends e member).2
  leaving := by
    intro node
    rw [← wf.edgesFrom]
    exact (wf.outgoing.incident fun e member => (wf.ends e member).1).follow node
  entering := by
    intro node
    rw [← wf.edgesInto]
    exact (wf.incoming.incident fun e member => (wf.ends e member).2).follow node
  along := delivers_search fun _ _ => wf.successor_lt
  against := delivers_search fun _ _ => wf.predecessor_lt

/-- Whatever the edits, they all go through, and they leave a graph whose entries are those of the
edges that were drawn. A further edge is then drawn as adding it draws it, or is refused because one
of its ends is missing, and the graph stays as it is. -/
theorem incidence_performAll (edits : List (Edit ν ε)) :
    ∃ replies g, (performAll edits).run empty = some (replies, g) ∧
      g.Incidence (drawn 0 edits) ∧
      ∀ source target label,
        (source < g.nodeCount ∧ target < g.nodeCount ∧
          ∃ grown, g.addEdge source target label = .ok grown ∧
            (perform (.addEdge source target label)).run g = some (.edge g.edgeCount, grown)) ∨
        (¬(source < g.nodeCount ∧ target < g.nodeCount) ∧
          ∃ why, g.addEdge source target label = .error why ∧
            (perform (.addEdge source target label)).run g = some (.refused why, g)) := by
  obtain ⟨replies, g, run, wf, edges⟩ := wellFormed_empty.performAll edits
  have incidence := wf.incidence
  rw [edges] at incidence
  refine ⟨replies, g, run, incidence, ?_⟩
  intro source target label
  have drawing := wf.run_drawEdge source target label
  cases added : g.addEdge source target label with
  | ok grown =>
    rw [added] at drawing
    obtain ⟨low, high, -⟩ := addEdge_cases added
    exact Or.inl ⟨low, high, grown, rfl, drawing⟩
  | error why =>
    rw [added] at drawing
    refine Or.inr ⟨?_, why, rfl, drawing⟩
    rintro ⟨low, high⟩
    obtain ⟨grown, added'⟩ := exists_addEdge low high label
    cases added.symm.trans added'

end JvmFacts.Digraph
