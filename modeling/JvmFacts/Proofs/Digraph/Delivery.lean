import Mathlib.Data.List.Perm.Subperm
import JvmFacts.Proofs.Digraph.Reachability

/-!
A search that is asked for one node after the other. In a graph that was drawn node by node and edge
by edge it comes to an end, never looks up a mark that is not there, and by then has delivered just
the nodes that edges lead to from the start, each of them once and after a node that leads to it.
-/

set_option autoImplicit false

namespace JvmFacts.Digraph

open Relation (ReflTransGen)

variable {neighbours : Nat → List Nat}

/-! ## One node after the other -/

/-- What comes of asking a search for its next node. -/
inductive Outcome where
  | finished
  /-- A neighbour has no mark that could be looked up. -/
  | astray
  | found (node : Nat) (after : List Nat × Array Bool)

/-- Takes the node on top of the stack, after its neighbours were looked up and stacked. -/
def ask (neighbours : Nat → List Nat) : List Nat × Array Bool → Outcome
  | ([], _) => .finished
  | (node :: stack, marks) =>
    if ∀ next ∈ neighbours node, next < marks.size then
      .found node (discoverAll (stack, marks) (neighbours node))
    else .astray

/-- Asked again and again, a search delivers these nodes and gets from one state to another. -/
inductive Delivers (neighbours : Nat → List Nat) :
    List Nat × Array Bool → List Nat → List Nat × Array Bool → Prop
  | nothing {state : List Nat × Array Bool} : Delivers neighbours state [] state
  | more {state after last : List Nat × Array Bool} {node : Nat} {nodes : List Nat}
      (asked : ask neighbours state = .found node after)
      (rest : Delivers neighbours after nodes last) : Delivers neighbours state (node :: nodes) last

/-- With a mark for every neighbour, what is visited is delivered, and then the search is finished. -/
theorem delivers_visit {state : List Nat × Array Bool}
    (within : ∀ node, ∀ next ∈ neighbours node, next < state.2.size) :
    ∃ last, Delivers neighbours state (visit neighbours state) last ∧
      ask neighbours last = .finished := by
  fun_induction visit neighbours state with
  | case1 marks => exact ⟨([], marks), .nothing, rfl⟩
  | case2 node stack marks ih =>
    have asked : ask neighbours (node :: stack, marks) =
        .found node (discoverAll (stack, marks) (neighbours node)) := if_pos (within node)
    rw [size_discoverAll] at ih
    obtain ⟨last, rest, finished⟩ := ih within
    exact ⟨last, .more asked rest, finished⟩

/-- A node comes after one that it is a neighbour of, unless it was on the stack at the outset. -/
theorem exists_earlier_of_visit {state : List Nat × Array Bool} {before rest : List Nat} {node : Nat}
    (visited : visit neighbours state = before ++ node :: rest) :
    node ∈ state.1 ∨ ∃ earlier ∈ before, node ∈ neighbours earlier := by
  fun_induction visit neighbours state generalizing before with
  | case1 marks =>
    have member : node ∈ ([] : List Nat) := by
      rw [visited]
      exact List.mem_append_right _ (List.mem_cons_self ..)
    cases member
  | case2 top stack marks ih =>
    cases before with
    | nil =>
      obtain ⟨rfl, -⟩ := List.cons.inj visited
      exact Or.inl (List.mem_cons_self ..)
    | cons first before =>
      obtain ⟨rfl, later⟩ := List.cons.inj visited
      rcases ih later with waiting | ⟨earlier, member, edge⟩
      · rcases mem_discoverAll.1 waiting with held | ⟨edge, -⟩
        · exact Or.inl (List.mem_cons_of_mem _ held)
        · exact Or.inr ⟨top, List.mem_cons_self .., edge⟩
      · exact Or.inr ⟨earlier, List.mem_cons_of_mem _ member, edge⟩

/-! ## From the start -/

variable {ν ε : Type}

/-- All that a search along some edges owes to the one who asks it from a start. -/
structure Sweeps (g : Digraph ν ε) (neighbours : Nat → List Nat) (edge : Nat → Nat → Prop)
    (start : Nat) (found : List Nat) : Prop where
  /-- The start is a node that has a mark. -/
  marked : ∀ node ∈ (g.searchStart start).1, (g.searchStart start).2[node]? = some true
  /-- All nodes are delivered without going astray, and the next time the search is finished. -/
  ends : ∃ last, Delivers neighbours (g.searchStart start) found last ∧
    ask neighbours last = .finished
  bounded : found.length ≤ g.nodeCount
  mem_iff : ∀ node, node ∈ found ↔ start < g.nodeCount ∧ ReflTransGen edge start node
  distinct : found.Nodup
  first : found.head? = if start < g.nodeCount then some start else none
  later : ∀ before node rest, found = before ++ node :: rest → before ≠ [] →
    ∃ earlier ∈ before, edge earlier node

theorem start_of_mem_searchStart {g : Digraph ν ε} {start node : Nat}
    (stacked : node ∈ (g.searchStart start).1) : node = start ∧ start < g.nodeCount := by
  by_cases inside : start < g.nodeCount
  · rw [searchStart_of_lt inside] at stacked
    exact ⟨List.mem_singleton.1 stacked, inside⟩
  · rw [searchStart_of_le (Nat.le_of_not_lt inside)] at stacked
    cases stacked

section

variable {g : Digraph ν ε} (within : ∀ node, ∀ next ∈ neighbours node, next < g.nodeCount)
  (start : Nat)

theorem head?_visit (neighbours : Nat → List Nat) (g : Digraph ν ε) (start : Nat) :
    (visit neighbours (g.searchStart start)).head? =
      if start < g.nodeCount then some start else none := by
  by_cases inside : start < g.nodeCount
  · rw [visit_of_lt neighbours inside, if_pos inside, List.head?_cons]
  · rw [searchStart_of_le (Nat.le_of_not_lt inside), visit_nil, if_neg inside, List.head?_nil]

/-- The start comes first and not again, so every other node comes after one that leads to it. -/
theorem exists_earlier {before rest : List Nat} {node : Nat}
    (parts : visit neighbours (g.searchStart start) = before ++ node :: rest)
    (some_before : before ≠ []) : ∃ earlier ∈ before, node ∈ neighbours earlier := by
  rcases exists_earlier_of_visit parts with waiting | earlier
  · obtain ⟨rfl, inside⟩ := start_of_mem_searchStart waiting
    have first := head?_visit neighbours g node
    have once := nodup_visit neighbours g node
    rw [parts, List.head?_append_of_ne_nil _ some_before, if_pos inside] at first
    rw [parts, List.nodup_append] at once
    exact absurd rfl (once.2.2 node (List.mem_of_head? first) node (List.mem_cons_self ..))
  · exact earlier

include within

theorem delivers_search : ∃ last,
    Delivers neighbours (g.searchStart start) (visit neighbours (g.searchStart start)) last ∧
      ask neighbours last = .finished := by
  by_cases inside : start < g.nodeCount
  · apply delivers_visit
    have size : (g.searchStart start).2.size = g.nodeCount := by
      simp [searchStart_of_lt inside]
    rw [size]
    exact within
  · rw [searchStart_of_le (Nat.le_of_not_lt inside), visit_nil]
    exact ⟨_, .nothing, rfl⟩

theorem mem_visit_iff {node : Nat} : node ∈ visit neighbours (g.searchStart start) ↔
    start < g.nodeCount ∧ ReflTransGen (Leads neighbours) start node := by
  by_cases inside : start < g.nodeCount
  · rw [mem_visit_searchStart (within _ _) inside, and_iff_right inside]
  · rw [searchStart_of_le (Nat.le_of_not_lt inside), visit_nil]
    exact iff_of_false List.not_mem_nil fun both => inside both.1

theorem length_visit_le : (visit neighbours (g.searchStart start)).length ≤ g.nodeCount := by
  have numbers : visit neighbours (g.searchStart start) ⊆ List.range g.nodeCount := by
    intro node visited
    obtain ⟨inside, path⟩ := (mem_visit_iff within start).1 visited
    rw [List.mem_range]
    rcases path.cases_tail with rfl | ⟨last, -, edge⟩
    · exact inside
    · exact within last node edge
  have fewer := ((nodup_visit neighbours g start).subperm numbers).length_le
  rwa [List.length_range] at fewer

theorem sweeps_visit : Sweeps g neighbours (Leads neighbours) start
    (visit neighbours (g.searchStart start)) where
  marked := (g.stacked_searchStart start).marked
  ends := delivers_search within start
  bounded := length_visit_le within start
  mem_iff := fun _ => mem_visit_iff within start
  distinct := nodup_visit neighbours g start
  first := head?_visit neighbours g start
  later := fun _ _ _ => exists_earlier start

end

/-- A search along the edges delivers what they lead to from the start, one against them what they
lead to the start from. -/
theorem sweeps_drawAll (drawings : List (Drawing ν ε)) (start : Nat) :
    let g : Digraph ν ε := drawAll drawings
    Sweeps g g.successors g.Joins start (g.search start) ∧
      Sweeps g g.predecessors (Function.swap g.Joins) start (g.searchBack start) := by
  intro g
  have wf : g.WellFormed := wellFormed_drawAll drawings
  have along : Sweeps g g.successors (Leads g.successors) start (g.search start) :=
    sweeps_visit (fun _ _ => wf.successor_lt) start
  have against : Sweeps g g.predecessors (Leads g.predecessors) start (g.searchBack start) :=
    sweeps_visit (fun _ _ => wf.predecessor_lt) start
  rw [wf.leads_successors] at along
  rw [wf.leads_predecessors, wf.leads_successors] at against
  exact ⟨along, against⟩

end JvmFacts.Digraph
