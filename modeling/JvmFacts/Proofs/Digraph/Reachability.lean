import JvmFacts.Digraph.Search
import JvmFacts.Proofs.Digraph.Adjacency
import Mathlib.Logic.Relation

/-!
What a search visits: exactly the nodes that edges lead to from the start, each of them once.

Marking a node when it is stacked means that the marked nodes are those on the stack and those that
were visited. A visited node has only marked neighbours, so once the stack is empty the visited nodes
are closed under the edges.
-/

set_option autoImplicit false

namespace JvmFacts.Digraph

open Relation (ReflTransGen)

/-! ## Stacking neighbours -/

/-- The nodes on the stack are marked, and each is there once. -/
structure Stacked (state : List Nat × Array Bool) : Prop where
  distinct : state.1.Nodup
  marked : ∀ node ∈ state.1, state.2[node]? = some true

theorem marks_discover (state : List Nat × Array Bool) (node other : Nat) :
    (discover state node).2[other]? =
      if node = other ∧ state.2[other]? = some false then some true else state.2[other]? := by
  unfold discover
  by_cases unmarked : state.2[node]? = some false
  · obtain ⟨inside, -⟩ := Array.getElem?_eq_some_iff.1 unmarked
    rw [if_pos unmarked, Array.set!_eq_setIfInBounds, Array.getElem?_setIfInBounds]
    by_cases same : node = other
    · subst same
      simp only [↓reduceIte, inside, unmarked, and_self]
    · simp only [same, ↓reduceIte, false_and]
  · rw [if_neg unmarked]
    by_cases same : node = other
    · subst same
      simp only [unmarked, and_false, ↓reduceIte]
    · simp only [same, false_and, ↓reduceIte]

theorem mem_discover {state : List Nat × Array Bool} {node other : Nat} :
    other ∈ (discover state node).1 ↔
      other ∈ state.1 ∨ (node = other ∧ state.2[other]? = some false) := by
  unfold discover
  by_cases unmarked : state.2[node]? = some false
  · rw [if_pos unmarked, List.mem_cons]
    constructor
    · rintro (rfl | held)
      · exact Or.inr ⟨rfl, unmarked⟩
      · exact Or.inl held
    · rintro (held | ⟨rfl, -⟩)
      · exact Or.inr held
      · exact Or.inl rfl
  · rw [if_neg unmarked]
    constructor
    · exact Or.inl
    · rintro (held | ⟨rfl, impossible⟩)
      · exact held
      · exact absurd impossible unmarked

theorem Stacked.discover {state : List Nat × Array Bool} (stacked : Stacked state) (node : Nat) :
    Stacked (discover state node) where
  distinct := by
    unfold Digraph.discover
    split
    · rename_i unmarked
      refine List.nodup_cons.2 ⟨?_, stacked.distinct⟩
      intro held
      rw [stacked.marked node held] at unmarked
      cases unmarked
    · exact stacked.distinct
  marked := by
    intro other member
    rw [marks_discover]
    rcases mem_discover.1 member with held | ⟨same, unmarked⟩
    · have already := stacked.marked other held
      rw [already]
      simp
    · rw [if_pos ⟨same, unmarked⟩]

private theorem marks_foldl (state : List Nat × Array Bool) (nodes : List Nat) (other : Nat) :
    (nodes.foldl discover state).2[other]? =
      if other ∈ nodes ∧ state.2[other]? = some false then some true else state.2[other]? := by
  induction nodes generalizing state with
  | nil => simp
  | cons node rest ih =>
    rw [List.foldl_cons, ih, marks_discover]
    by_cases same : node = other
    · by_cases unmarked : state.2[other]? = some false <;> simp [same, unmarked]
    · simp only [List.mem_cons, same, Ne.symm same, false_and, ↓reduceIte, false_or]

private theorem mem_foldl {state : List Nat × Array Bool} {nodes : List Nat} {other : Nat} :
    other ∈ (nodes.foldl discover state).1 ↔
      other ∈ state.1 ∨ (other ∈ nodes ∧ state.2[other]? = some false) := by
  induction nodes generalizing state with
  | nil => simp
  | cons node rest ih =>
    rw [List.foldl_cons, ih, mem_discover, marks_discover]
    by_cases same : node = other
    · by_cases unmarked : state.2[other]? = some false <;> simp [same, unmarked]
    · simp only [List.mem_cons, same, Ne.symm same, false_and, ↓reduceIte, false_or, or_false]

theorem marks_discoverAll (state : List Nat × Array Bool) (neighbours : List Nat) (other : Nat) :
    (discoverAll state neighbours).2[other]? =
      if other ∈ neighbours ∧ state.2[other]? = some false then some true
      else state.2[other]? := by
  unfold discoverAll
  rw [marks_foldl]
  simp only [List.mem_reverse]

theorem mem_discoverAll {state : List Nat × Array Bool} {neighbours : List Nat} {other : Nat} :
    other ∈ (discoverAll state neighbours).1 ↔
      other ∈ state.1 ∨ (other ∈ neighbours ∧ state.2[other]? = some false) := by
  unfold discoverAll
  rw [mem_foldl, List.mem_reverse]

theorem size_discoverAll (state : List Nat × Array Bool) (neighbours : List Nat) :
    (discoverAll state neighbours).2.size = state.2.size := by
  unfold discoverAll
  induction neighbours.reverse generalizing state with
  | nil => rfl
  | cons node rest ih =>
    rw [List.foldl_cons, ih]
    unfold discover
    split
    · exact Array.size_setIfInBounds ..
    · rfl

theorem Stacked.discoverAll {state : List Nat × Array Bool} (stacked : Stacked state)
    (neighbours : List Nat) : Stacked (discoverAll state neighbours) := by
  unfold Digraph.discoverAll
  induction neighbours.reverse generalizing state with
  | nil => exact stacked
  | cons node rest ih => exact ih (stacked.discover node)

/-! ## Visiting -/

variable {neighbours : Nat → List Nat}

/-- One node leads to the next. -/
def Leads (neighbours : Nat → List Nat) (node next : Nat) : Prop :=
  next ∈ neighbours node

theorem exists_path_of_mem_visit {state : List Nat × Array Bool} {node : Nat}
    (visited : node ∈ visit neighbours state) :
    ∃ start ∈ state.1, ReflTransGen (Leads neighbours) start node := by
  fun_induction visit neighbours state with
  | case1 marks => cases visited
  | case2 first stack marks ih =>
    rcases List.mem_cons.1 visited with rfl | later
    · exact ⟨node, List.mem_cons_self .., ReflTransGen.refl⟩
    · obtain ⟨start, member, path⟩ := ih later
      rcases mem_discoverAll.1 member with held | ⟨edge, -⟩
      · exact ⟨start, List.mem_cons_of_mem _ held, path⟩
      · exact ⟨first, List.mem_cons_self .., ReflTransGen.head edge path⟩

theorem mem_visit_of_mem_stack {state : List Nat × Array Bool} {node : Nat}
    (waiting : node ∈ state.1) : node ∈ visit neighbours state := by
  fun_induction visit neighbours state with
  | case1 marks => cases waiting
  | case2 first stack marks ih =>
    rcases List.mem_cons.1 waiting with rfl | held
    · exact List.mem_cons_self ..
    · exact List.mem_cons_of_mem _ (ih (mem_discoverAll.2 (Or.inl held)))

/-- Where `done` stands for the nodes that were visited before: each marked node is done or waits, and
the neighbours of what is done are marked. -/
structure Explored (neighbours : Nat → List Nat) (done : Nat → Prop)
    (state : List Nat × Array Bool) : Prop where
  known : ∀ node, state.2[node]? = some true → node ∈ state.1 ∨ done node
  closed : ∀ node, done node → ∀ next ∈ neighbours node, state.2[next]? ≠ some false

/-- A node that is visited is done, as its neighbours were stacked. -/
theorem Explored.visit {done : Nat → Prop} {first : Nat} {stack : List Nat} {marks : Array Bool}
    (explored : Explored neighbours done (first :: stack, marks)) :
    Explored neighbours (fun node => done node ∨ node = first)
      (discoverAll (stack, marks) (neighbours first)) where
  known := by
    intro node marked
    rw [mem_discoverAll]
    rw [marks_discoverAll] at marked
    by_cases found : node ∈ neighbours first ∧ marks[node]? = some false
    · exact Or.inl (Or.inr found)
    · rw [if_neg found] at marked
      rcases explored.known node marked with waiting | before
      · rcases List.mem_cons.1 waiting with rfl | held
        · exact Or.inr (Or.inr rfl)
        · exact Or.inl (Or.inl held)
      · exact Or.inr (Or.inl before)
  closed := by
    intro node before next leads
    rw [marks_discoverAll]
    by_cases found : next ∈ neighbours first ∧ marks[next]? = some false
    · rw [if_pos found]
      simp
    · rw [if_neg found]
      rcases before with before | rfl
      · exact explored.closed node before next leads
      · exact fun unmarked => found ⟨leads, unmarked⟩

/-- Nothing leads out of what is done and what is visited in the end. -/
theorem visit_closed {state : List Nat × Array Bool} {done : Nat → Prop}
    (explored : Explored neighbours done state) {node next : Nat}
    (visited : done node ∨ node ∈ visit neighbours state) (edge : next ∈ neighbours node)
    (inside : next < state.2.size) : done next ∨ next ∈ visit neighbours state := by
  fun_induction visit neighbours state generalizing done with
  | case1 marks =>
    have here : done node := visited.resolve_right List.not_mem_nil
    have marked : marks[next]? = some true := by
      have notFalse := explored.closed node here next edge
      rw [Array.getElem?_eq_getElem inside] at notFalse ⊢
      cases held : marks[next] with
      | true => rfl
      | false => exact absurd (congrArg some held) notFalse
    exact Or.inl ((explored.known next marked).resolve_left List.not_mem_nil)
  | case2 first stack marks ih =>
    have later : (done next ∨ next = first) ∨
        next ∈ visit neighbours (discoverAll (stack, marks) (neighbours first)) := by
      apply ih explored.visit
      · rcases visited with before | visited
        · exact Or.inl (Or.inl before)
        · rcases List.mem_cons.1 visited with rfl | later
          · exact Or.inl (Or.inr rfl)
          · exact Or.inr later
      · rw [size_discoverAll]
        exact inside
    rcases later with (before | rfl) | later
    · exact Or.inl before
    · exact Or.inr (List.mem_cons_self ..)
    · exact Or.inr (List.mem_cons_of_mem _ later)

/-- No node is visited twice, and none that is marked without being on the stack. -/
theorem visit_fresh {state : List Nat × Array Bool} (stacked : Stacked state) :
    (visit neighbours state).Nodup ∧
      ∀ node ∈ visit neighbours state, node ∈ state.1 ∨ state.2[node]? = some false := by
  fun_induction visit neighbours state with
  | case1 marks => exact ⟨List.nodup_nil, fun node visited => absurd visited List.not_mem_nil⟩
  | case2 first stack marks ih =>
    obtain ⟨apart, distinct⟩ := List.nodup_cons.1 stacked.distinct
    have popped : Stacked (stack, marks) :=
      ⟨distinct, fun node held => stacked.marked node (List.mem_cons_of_mem _ held)⟩
    obtain ⟨once, origin⟩ := ih (popped.discoverAll (neighbours first))
    have source : ∀ node ∈ visit neighbours (discoverAll (stack, marks) (neighbours first)),
        node ∈ stack ∨ marks[node]? = some false := by
      intro node later
      rcases origin node later with waiting | unmarked
      · rcases mem_discoverAll.1 waiting with held | ⟨-, unmarked⟩
        · exact Or.inl held
        · exact Or.inr unmarked
      · rw [marks_discoverAll] at unmarked
        split at unmarked
        · cases unmarked
        · exact Or.inr unmarked
    refine ⟨List.nodup_cons.2 ⟨?_, once⟩, ?_⟩
    · intro again
      rcases source first again with held | unmarked
      · exact apart held
      · have marked : marks[first]? = some true := stacked.marked first (List.mem_cons_self ..)
        rw [marked] at unmarked
        cases unmarked
    · intro node visited
      rcases List.mem_cons.1 visited with rfl | later
      · exact Or.inl (List.mem_cons_self ..)
      · rcases source node later with held | unmarked
        · exact Or.inl (List.mem_cons_of_mem _ held)
        · exact Or.inr unmarked

/-! ## Searching -/

variable {ν ε : Type}

theorem searchStart_of_lt {g : Digraph ν ε} {start : Nat} (inside : start < g.nodeCount) :
    g.searchStart start = ([start], (Array.replicate g.nodeCount false).set! start true) := by
  unfold searchStart contains
  rw [if_pos (decide_eq_true inside)]

theorem searchStart_of_le {g : Digraph ν ε} {start : Nat} (outside : g.nodeCount ≤ start) :
    g.searchStart start = ([], #[]) := by
  unfold searchStart contains
  rw [if_neg]
  rw [decide_eq_true_eq]
  omega

theorem marks_searchStart {g : Digraph ν ε} {start node : Nat} (inside : start < g.nodeCount)
    (there : node < g.nodeCount) :
    (g.searchStart start).2[node]? = some (decide (start = node)) := by
  rw [searchStart_of_lt inside, Array.set!_eq_setIfInBounds, Array.getElem?_setIfInBounds]
  by_cases same : start = node
  · subst same
    simp only [↓reduceIte, Array.size_replicate, inside, decide_true]
  · simp only [same, ↓reduceIte, Array.getElem?_replicate, there, decide_false]

theorem stacked_searchStart (g : Digraph ν ε) (start : Nat) : Stacked (g.searchStart start) := by
  by_cases inside : start < g.nodeCount
  · rw [searchStart_of_lt inside]
    refine ⟨List.pairwise_singleton .., ?_⟩
    intro node held
    obtain rfl := List.mem_singleton.1 held
    simp [inside]
  · rw [searchStart_of_le (Nat.le_of_not_lt inside)]
    exact ⟨List.nodup_nil, fun node held => absurd held List.not_mem_nil⟩

/-- From a node of the graph, a search by neighbours that are nodes visits just what they lead to. -/
theorem mem_visit_searchStart {g : Digraph ν ε} {start node : Nat}
    (within : ∀ {node next : Nat}, next ∈ neighbours node → next < g.nodeCount)
    (inside : start < g.nodeCount) :
    node ∈ visit neighbours (g.searchStart start) ↔ ReflTransGen (Leads neighbours) start node := by
  have first : (g.searchStart start).1 = [start] := by
    simp [searchStart, contains, inside]
  have size : (g.searchStart start).2.size = g.nodeCount := by
    simp [searchStart, contains, inside]
  have marks : ∀ other, (g.searchStart start).2[other]? = some true → other = start := by
    intro other marked
    by_contra apart
    simp only [searchStart, contains, inside, decide_true, ↓reduceIte, Array.set!_eq_setIfInBounds,
      Array.getElem?_setIfInBounds, Ne.symm apart] at marked
    simp [Array.getElem?_replicate] at marked
  have explored : Explored neighbours (fun _ => False) (g.searchStart start) := by
    constructor
    · intro other marked
      rw [first, marks other marked]
      exact Or.inl (List.mem_singleton_self start)
    · exact fun other impossible => impossible.elim
  constructor
  · intro visited
    obtain ⟨origin, held, path⟩ := exists_path_of_mem_visit visited
    rw [first, List.mem_singleton] at held
    exact held ▸ path
  · intro path
    induction path with
    | refl =>
      apply mem_visit_of_mem_stack
      rw [first]
      exact List.mem_singleton_self start
    | tail path edge ih =>
      have further := visit_closed explored (Or.inr ih) edge (size ▸ within edge)
      exact further.resolve_left id

theorem WellFormed.mem_search {g : Digraph ν ε} (wf : g.WellFormed) {start node : Nat}
    (inside : start < g.nodeCount) :
    node ∈ g.search start ↔ ReflTransGen (Leads g.successors) start node :=
  mem_visit_searchStart wf.successor_lt inside

theorem WellFormed.mem_searchBack {g : Digraph ν ε} (wf : g.WellFormed) {start node : Nat}
    (inside : start < g.nodeCount) :
    node ∈ g.searchBack start ↔ ReflTransGen (Leads g.predecessors) start node :=
  mem_visit_searchStart wf.predecessor_lt inside

/-- Some edge leads from the one node to the other. -/
def Joins (g : Digraph ν ε) (node next : Nat) : Prop :=
  ∃ e ∈ g.edges, e.source = node ∧ e.target = next

theorem WellFormed.leads_successors {g : Digraph ν ε} (wf : g.WellFormed) :
    Leads g.successors = g.Joins := by
  funext node next
  exact propext wf.mem_successors

/-- The edges against their direction. -/
theorem WellFormed.leads_predecessors {g : Digraph ν ε} (wf : g.WellFormed) :
    Leads g.predecessors = Function.swap (Leads g.successors) := by
  funext node next
  apply propext
  change next ∈ g.predecessors node ↔ node ∈ g.successors next
  rw [wf.mem_predecessors, wf.mem_successors]
  simp only [and_comm]

section

variable (neighbours : Nat → List Nat)

/-- The start is visited first. -/
theorem visit_of_lt {g : Digraph ν ε} {start : Nat} (inside : start < g.nodeCount) :
    visit neighbours (g.searchStart start) =
      start :: (visit neighbours (g.searchStart start)).tail := by
  rw [searchStart_of_lt inside, visit_cons, List.tail_cons]

theorem nodup_visit (g : Digraph ν ε) (start : Nat) :
    (visit neighbours (g.searchStart start)).Nodup :=
  (visit_fresh (g.stacked_searchStart start)).1

end

end JvmFacts.Digraph
