import Mathlib.Data.List.Dedup
import Mathlib.Data.List.Perm.Subperm
import JvmFacts.Proofs.Digraph.Reachability

/-!
The order in which a search visits nodes.

The recursive search visits a node and then searches its neighbours one after the other, passing over
those that were visited before. The search by a stack claims all neighbours of a node together, as
soon as it visits the node, and a node that was claimed waits for its turn even if the search meets
it again earlier. The two orders part where an edge leads to a node that waits; on the way back the
recursive search finds such a node visited, below the node that had claimed it.
-/

set_option autoImplicit false

namespace JvmFacts.Digraph

/-- What is left of some nodes without others. -/
def remaining (fresh gone : List Nat) : List Nat :=
  fresh.filter (· ∉ gone)

@[simp] theorem mem_remaining {fresh gone : List Nat} {node : Nat} :
    node ∈ remaining fresh gone ↔ node ∈ fresh ∧ node ∉ gone := by
  simp only [remaining, List.mem_filter, decide_eq_true_eq]

theorem length_remaining_lt {fresh gone : List Nat} {node : Nat} (here : node ∈ fresh)
    (left : node ∈ gone) : (remaining fresh gone).length < fresh.length := by
  apply List.length_filter_lt_length_iff_exists.2
  exact ⟨node, here, by simpa only [decide_eq_true_eq, not_not] using left⟩

theorem length_remaining_le (fresh gone : List Nat) :
    (remaining fresh gone).length ≤ fresh.length :=
  List.length_filter_le ..

theorem remaining_congr {fresh one two : List Nat}
    (same : ∀ node ∈ fresh, node ∈ one ↔ node ∈ two) :
    remaining fresh one = remaining fresh two := by
  apply List.filter_congr
  intro node here
  simp only [same node here]

theorem remaining_remaining (fresh one two : List Nat) :
    remaining (remaining fresh one) two = remaining fresh (one ++ two) := by
  unfold remaining
  rw [List.filter_filter]
  apply List.filter_congr
  intro node _
  simp only [List.mem_append, not_or, Bool.decide_and, Bool.and_comm]

/-! ## The recursive search -/

/-- Searches nodes one after the other, each together with what it leads to. The nodes that were not
visited before are `fresh`. -/
def preOrder (neighbours : Nat → List Nat) : List Nat → List Nat → List Nat
  | _, [] => []
  | fresh, node :: todo =>
    if node ∈ fresh then
      let below := preOrder neighbours (remaining fresh [node]) (neighbours node)
      node :: (below ++ preOrder neighbours (remaining fresh (node :: below)) todo)
    else preOrder neighbours fresh todo
termination_by fresh todo => (fresh.length, todo.length)
decreasing_by
  · have less := length_remaining_lt ‹node ∈ fresh› (List.mem_singleton_self node)
    exact Prod.Lex.left _ _ less
  · have less := length_remaining_lt ‹node ∈ fresh› (List.mem_cons_self (l := below))
    exact Prod.Lex.left _ _ less
  · exact Prod.Lex.right _ (Nat.lt_succ_self _)

/-! ## The search that claims -/

/-- The nodes that are claimed: each fresh one once, where it comes last. -/
def claimed (fresh nodes : List Nat) : List Nat :=
  (nodes.filter (· ∈ fresh)).dedup

theorem mem_claimed {fresh nodes : List Nat} {node : Nat} :
    node ∈ claimed fresh nodes ↔ node ∈ nodes ∧ node ∈ fresh := by
  simp only [claimed, List.mem_dedup, List.mem_filter, decide_eq_true_eq]

theorem length_claimed (fresh nodes : List Nat) :
    (remaining fresh (claimed fresh nodes)).length + (claimed fresh nodes).length ≤
      fresh.length := by
  have held : (claimed fresh nodes).Subperm (fresh.filter (· ∈ claimed fresh nodes)) := by
    apply List.Nodup.subperm (List.nodup_dedup _)
    intro node member
    rw [List.mem_filter, decide_eq_true_eq]
    exact ⟨(mem_claimed.1 member).2, member⟩
  have parts := List.length_eq_length_filter_add (l := fresh) (· ∈ claimed fresh nodes)
  have left : (remaining fresh (claimed fresh nodes)).length =
      (fresh.filter fun n => !decide (n ∈ claimed fresh nodes)).length := by
    simp only [remaining, decide_not]
  have below := List.Subperm.length_le held
  omega

/-- Visits claimed nodes one after the other, each together with what it claims in its turn. The
nodes that were not claimed before are `fresh`. -/
def claimOrder (neighbours : Nat → List Nat) : List Nat → List Nat → List Nat
  | _, [] => []
  | fresh, node :: waiting =>
    let claims := claimed fresh (neighbours node)
    let below := claimOrder neighbours (remaining fresh claims) claims
    node :: (below ++ claimOrder neighbours (remaining fresh (node :: below)) waiting)
termination_by fresh waiting => fresh.length + waiting.length
decreasing_by
  · have bound := length_claimed fresh (neighbours node)
    simp only [List.length_cons]
    omega
  · exact Nat.lt_succ_of_le (Nat.add_le_add_right (length_remaining_le ..) _)

/-- A search from some nodes, which are claimed at the outset. -/
def claimSearch (neighbours : Nat → List Nat) (fresh nodes : List Nat) : List Nat :=
  claimOrder neighbours (remaining fresh (claimed fresh nodes)) (claimed fresh nodes)

section

variable (neighbours : Nat → List Nat) (fresh : List Nat)

theorem preOrder_nil : preOrder neighbours fresh [] = [] := by
  rw [preOrder]

theorem preOrder_cons_of_mem {node : Nat} (todo : List Nat) (here : node ∈ fresh) :
    preOrder neighbours fresh (node :: todo) =
      node :: (preOrder neighbours (remaining fresh [node]) (neighbours node) ++
        preOrder neighbours (remaining fresh
          (node :: preOrder neighbours (remaining fresh [node]) (neighbours node))) todo) := by
  rw [preOrder, if_pos here]

theorem preOrder_cons_of_not_mem {node : Nat} (todo : List Nat) (gone : node ∉ fresh) :
    preOrder neighbours fresh (node :: todo) = preOrder neighbours fresh todo := by
  rw [preOrder, if_neg gone]

theorem claimOrder_nil : claimOrder neighbours fresh [] = [] := by
  rw [claimOrder]

theorem claimOrder_cons (node : Nat) (waiting : List Nat) :
    claimOrder neighbours fresh (node :: waiting) =
      node :: (claimSearch neighbours fresh (neighbours node) ++
        claimOrder neighbours
          (remaining fresh (node :: claimSearch neighbours fresh (neighbours node))) waiting) := by
  rw [claimOrder]
  rfl

theorem claimOrder_append (first second : List Nat) :
    claimOrder neighbours fresh (first ++ second) =
      claimOrder neighbours fresh first ++
        claimOrder neighbours (remaining fresh (claimOrder neighbours fresh first)) second := by
  induction first generalizing fresh with
  | nil =>
    have all : remaining fresh [] = fresh := by simp [remaining]
    rw [claimOrder_nil, List.nil_append, List.nil_append, all]
  | cons node waiting ih =>
    rw [List.cons_append, claimOrder_cons, claimOrder_cons, ih, remaining_remaining]
    simp only [List.cons_append, List.append_assoc]

end

variable {neighbours : Nat → List Nat}

/-- Whoever waits is visited. -/
theorem mem_claimOrder_of_mem {fresh waiting : List Nat} {node : Nat} (member : node ∈ waiting) :
    node ∈ claimOrder neighbours fresh waiting := by
  induction waiting generalizing fresh with
  | nil => cases member
  | cons first rest ih =>
    rw [claimOrder_cons]
    rcases List.mem_cons.1 member with rfl | later
    · exact List.mem_cons_self ..
    · exact List.mem_cons_of_mem _ (List.mem_append_right _ (ih later))

/-! ## The stack -/

def unmarked (marks : Array Bool) : List Nat :=
  (List.range marks.size).filter fun node => marks[node]? = some false

theorem mem_unmarked {marks : Array Bool} {node : Nat} :
    node ∈ unmarked marks ↔ marks[node]? = some false := by
  unfold unmarked
  rw [List.mem_filter, List.mem_range, decide_eq_true_eq]
  constructor
  · exact And.right
  · intro held
    exact ⟨(Array.getElem?_eq_some_iff.1 held).1, held⟩

theorem discoverAll_cons (state : List Nat × Array Bool) (node : Nat) (rest : List Nat) :
    discoverAll state (node :: rest) = discover (discoverAll state rest) node := by
  simp only [discoverAll, List.reverse_cons, List.foldl_append, List.foldl_cons, List.foldl_nil]

/-- What goes on the stack is what is claimed. -/
theorem stack_discoverAll (state : List Nat × Array Bool) (nodes : List Nat) :
    (discoverAll state nodes).1 = claimed (unmarked state.2) nodes ++ state.1 := by
  induction nodes with
  | nil => rfl
  | cons node rest ih =>
    have marks := marks_discoverAll state rest node
    rw [discoverAll_cons, discover]
    by_cases fresh : state.2[node]? = some false
    · have kept : (node :: rest).filter (· ∈ unmarked state.2) =
          node :: rest.filter (· ∈ unmarked state.2) :=
        List.filter_cons_of_pos (decide_eq_true (mem_unmarked.2 fresh))
      by_cases again : node ∈ rest
      · rw [if_pos ⟨again, fresh⟩] at marks
        have twice : node ∈ rest.filter (· ∈ unmarked state.2) :=
          List.mem_filter.2 ⟨again, decide_eq_true (mem_unmarked.2 fresh)⟩
        rw [if_neg (by rw [marks]; simp), ih, claimed, claimed, kept,
          List.dedup_cons_of_mem twice]
      · rw [if_neg (fun both => again both.1), fresh] at marks
        have once : node ∉ rest.filter (· ∈ unmarked state.2) :=
          fun member => again (List.mem_of_mem_filter member)
        rw [if_pos marks, ih, claimed, claimed, kept, List.dedup_cons_of_notMem once]
        rfl
    · rw [if_neg (fun both => fresh both.2)] at marks
      have dropped : (node :: rest).filter (· ∈ unmarked state.2) =
          rest.filter (· ∈ unmarked state.2) := by
        apply List.filter_cons_of_neg
        rw [decide_eq_true_eq, mem_unmarked]
        exact fresh
      rw [if_neg (marks ▸ fresh), ih, claimed, claimed, dropped]

theorem unmarked_discoverAll (state : List Nat × Array Bool) (nodes : List Nat) :
    unmarked (discoverAll state nodes).2 =
      remaining (unmarked state.2) (claimed (unmarked state.2) nodes) := by
  unfold remaining
  unfold unmarked
  rw [size_discoverAll, List.filter_filter]
  apply List.filter_congr
  intro node _
  have claims : node ∈ claimed (unmarked state.2) nodes ↔ node ∈ nodes ∧ node ∈ unmarked state.2 :=
    mem_claimed
  rw [mem_unmarked] at claims
  unfold unmarked at claims
  rw [marks_discoverAll]
  simp only [claims]
  by_cases fresh : state.2[node]? = some false
  · by_cases found : node ∈ nodes <;> simp [fresh, found]
  · simp [fresh]

/-- The search by a stack is the one that claims. -/
theorem visit_eq_claimOrder {state : List Nat × Array Bool}
    (waiting : ∀ node ∈ state.1, node ∉ unmarked state.2) :
    visit neighbours state = claimOrder neighbours (unmarked state.2) state.1 := by
  fun_induction visit neighbours state with
  | case1 marks => rw [claimOrder_nil]
  | case2 node stack marks ih =>
    have stacked := stack_discoverAll (stack, marks) (neighbours node)
    have left := unmarked_discoverAll (stack, marks) (neighbours node)
    dsimp only at stacked left waiting ⊢
    have later : ∀ other ∈ (discoverAll (stack, marks) (neighbours node)).1,
        other ∉ unmarked (discoverAll (stack, marks) (neighbours node)).2 := by
      intro other member fresh
      rw [left, mem_remaining] at fresh
      rw [stacked] at member
      rcases List.mem_append.1 member with new | held
      · exact fresh.2 new
      · exact waiting other (List.mem_cons_of_mem _ held) fresh.1
    rw [ih later, stacked, left, claimOrder_append, claimOrder_cons, remaining_remaining]
    -- what is claimed below the node is visited below it, and the node itself was not fresh
    have same : remaining (unmarked marks) (claimed (unmarked marks) (neighbours node) ++
          claimSearch neighbours (unmarked marks) (neighbours node)) =
        remaining (unmarked marks)
          (node :: claimSearch neighbours (unmarked marks) (neighbours node)) := by
      apply remaining_congr
      intro other fresh
      have apart : other ≠ node := by
        rintro rfl
        exact waiting other (List.mem_cons_self ..) fresh
      rw [List.mem_append, List.mem_cons]
      constructor
      · rintro (claim | below)
        · exact Or.inr (mem_claimOrder_of_mem claim)
        · exact Or.inr below
      · rintro (equal | below)
        · exact absurd equal apart
        · exact Or.inr below
    rw [← same]
    rfl

/-! ## Where both orders are one -/

theorem claimed_remaining {fresh gone nodes : List Nat}
    (untouched : ∀ node ∈ claimed fresh nodes, node ∉ gone) :
    claimed (remaining fresh gone) nodes = claimed fresh nodes := by
  unfold claimed
  congr 1
  apply List.filter_congr
  intro node member
  have kept : node ∈ fresh → node ∉ gone :=
    fun here => untouched node (mem_claimed.2 ⟨member, here⟩)
  simp only [mem_remaining, and_iff_left_of_imp kept]

theorem remaining_comm (fresh one two : List Nat) :
    remaining (remaining fresh one) two = remaining (remaining fresh two) one := by
  rw [remaining_remaining, remaining_remaining]
  apply remaining_congr
  intro node _
  rw [List.mem_append, List.mem_append, or_comm]

/-- Nodes that a search does not visit might as well not be there. -/
theorem claimOrder_remaining {fresh gone waiting : List Nat}
    (untouched : ∀ node ∈ claimOrder neighbours fresh waiting, node ∉ gone) :
    claimOrder neighbours (remaining fresh gone) waiting = claimOrder neighbours fresh waiting := by
  fun_induction claimOrder neighbours fresh waiting with
  | case1 fresh => rw [claimOrder_nil]
  | case2 fresh node waiting claims below ihBelow _ ihRest =>
    have apart : ∀ other ∈ below, other ∉ gone := fun other member =>
      untouched other (List.mem_cons_of_mem _ (List.mem_append_left _ member))
    have later : ∀ other ∈ claimOrder neighbours (remaining fresh (node :: below)) waiting,
        other ∉ gone := fun other member =>
      untouched other (List.mem_cons_of_mem _ (List.mem_append_right _ member))
    have same : claimed (remaining fresh gone) (neighbours node) = claims :=
      claimed_remaining fun other claim => apart other (mem_claimOrder_of_mem claim)
    have search : claimSearch neighbours (remaining fresh gone) (neighbours node) = below := by
      rw [claimSearch, same, remaining_comm]
      exact ihBelow apart
    rw [claimOrder_cons, search, remaining_comm, ihRest later]

/-- No edge that the recursive search follows ends at a node that it has visited since it entered
the source of the edge. -/
inductive Direct (neighbours : Nat → List Nat) : List Nat → List Nat → Prop
  | nil {fresh : List Nat} : Direct neighbours fresh []
  | pass {fresh todo : List Nat} {node : Nat} (gone : node ∉ fresh)
      (rest : Direct neighbours fresh todo) : Direct neighbours fresh (node :: todo)
  | enter {fresh todo : List Nat} {node : Nat} (below : List Nat) (here : node ∈ fresh)
      (visited : preOrder neighbours (remaining fresh [node]) (neighbours node) = below)
      (inside : Direct neighbours (remaining fresh [node]) (neighbours node))
      (apart : ∀ next ∈ todo, next ∈ fresh → next ∉ node :: below)
      (rest : Direct neighbours (remaining fresh (node :: below)) todo) :
      Direct neighbours fresh (node :: todo)

theorem Direct.preOrder_eq {fresh todo : List Nat} (direct : Direct neighbours fresh todo) :
    preOrder neighbours fresh todo = claimSearch neighbours fresh todo := by
  induction direct with
  | nil => rw [preOrder_nil, claimSearch, claimed, List.filter_nil, List.dedup_nil, claimOrder_nil]
  | @pass fresh todo node gone rest ih =>
    have dropped : claimed fresh (node :: todo) = claimed fresh todo := by
      unfold claimed
      rw [List.filter_cons_of_neg (by rwa [decide_eq_true_eq])]
    rw [preOrder_cons_of_not_mem _ _ _ gone, ih, claimSearch, claimSearch, dropped]
  | @enter fresh todo node below here visited inside apart rest ihInside ihRest =>
    have away : ∀ next ∈ claimed fresh todo, next ∉ node :: below := fun next claim =>
      apart next (mem_claimed.1 claim).1 (mem_claimed.1 claim).2
    have alone : node ∉ todo := fun again => apart node again here (List.mem_cons_self ..)
    have claims : claimed fresh (node :: todo) = node :: claimed fresh todo := by
      unfold claimed
      rw [List.filter_cons_of_pos (by rwa [decide_eq_true_eq]), List.dedup_cons_of_notMem]
      exact fun member => alone (List.mem_of_mem_filter member)
    -- the siblings that wait are not met below the node
    have search : claimSearch neighbours (remaining fresh (node :: claimed fresh todo))
        (neighbours node) = below := by
      have untouched : ∀ other ∈ claimSearch neighbours (remaining fresh [node]) (neighbours node),
          other ∉ claimed fresh todo := by
        intro other member waits
        rw [← ihInside, visited] at member
        exact away other waits (List.mem_cons_of_mem _ member)
      have claim : claimed (remaining (remaining fresh [node]) (claimed fresh todo))
          (neighbours node) = claimed (remaining fresh [node]) (neighbours node) :=
        claimed_remaining fun other member => untouched other (mem_claimOrder_of_mem member)
      rw [← List.singleton_append, ← remaining_remaining, claimSearch, claim, remaining_comm,
        claimOrder_remaining untouched, ← visited, ihInside]
      rfl
    have left : remaining (remaining fresh (node :: claimed fresh todo)) (node :: below) =
        remaining (remaining fresh (node :: below)) (claimed fresh todo) := by
      rw [remaining_remaining, remaining_remaining]
      apply remaining_congr
      intro other _
      simp only [List.mem_append, List.mem_cons]
      tauto
    rw [preOrder_cons_of_mem _ _ _ here, visited, ihRest, claimSearch, claimed_remaining away,
      claimSearch, claims, claimOrder_cons, search, left]

/-! ## Searches of a graph -/

variable {ν ε : Type}

/-- The numbers of the nodes. -/
def numbers (g : Digraph ν ε) : List Nat :=
  List.range g.nodeCount

theorem visit_searchStart (g : Digraph ν ε) (start : Nat) :
    visit neighbours (g.searchStart start) = claimSearch neighbours g.numbers [start] := by
  by_cases inside : start < g.nodeCount
  · have first : claimed g.numbers [start] = [start] := by
      unfold claimed numbers
      rw [List.filter_cons_of_pos (by rwa [decide_eq_true_eq, List.mem_range])]
      rfl
    have size : (g.searchStart start).2.size = g.nodeCount := by
      simp [searchStart_of_lt inside]
    have marks : unmarked (g.searchStart start).2 = remaining g.numbers [start] := by
      unfold unmarked remaining numbers
      rw [size]
      apply List.filter_congr
      intro node low
      rw [marks_searchStart inside (List.mem_range.1 low)]
      by_cases same : start = node
      · simp [same]
      · simp [same, Ne.symm same]
    have stack : (g.searchStart start).1 = [start] := by
      rw [searchStart_of_lt inside]
    have waiting : ∀ node ∈ (g.searchStart start).1, node ∉ unmarked (g.searchStart start).2 := by
      intro node member
      rw [marks, mem_remaining, ← stack]
      exact fun fresh => fresh.2 member
    rw [visit_eq_claimOrder waiting, marks, stack, claimSearch, first]
  · have nowhere : g.searchStart start = ([], #[]) := searchStart_of_le (Nat.le_of_not_lt inside)
    have none_claimed : claimed g.numbers [start] = [] := by
      unfold claimed numbers
      rw [List.filter_cons_of_neg (by rwa [decide_eq_true_eq, List.mem_range])]
      rfl
    rw [nowhere, visit_nil, claimSearch, none_claimed, claimOrder_nil]

/-- Along the edges and against them, a search claims; it yields the order of the recursive search
wherever that one meets no shortcut. -/
theorem search_order (g : Digraph ν ε) (start : Nat) :
    (g.search start = claimSearch g.successors g.numbers [start] ∧
      g.searchBack start = claimSearch g.predecessors g.numbers [start]) ∧
    (Direct g.successors g.numbers [start] →
      g.search start = preOrder g.successors g.numbers [start]) ∧
    (Direct g.predecessors g.numbers [start] →
      g.searchBack start = preOrder g.predecessors g.numbers [start]) := by
  have along : g.search start = claimSearch g.successors g.numbers [start] :=
    g.visit_searchStart start
  have against : g.searchBack start = claimSearch g.predecessors g.numbers [start] :=
    g.visit_searchStart start
  refine ⟨⟨along, against⟩, ?_, ?_⟩
  · intro direct
    rw [along, direct.preOrder_eq]
  · intro direct
    rw [against, direct.preOrder_eq]

/-! ## Two graphs -/

/-- Two nodes that lead to each other, and a third that one of them leads to and that leads to the
other. -/
def roundTrip : Digraph Unit Unit :=
  drawAll [.node (), .node (), .node (), .edge 0 1 (), .edge 1 0 (), .edge 0 2 (), .edge 2 1 ()]

theorem search_roundTrip :
    (Direct roundTrip.successors roundTrip.numbers [0] ∧
      roundTrip.search 0 = preOrder roundTrip.successors roundTrip.numbers [0]) ∧
    Direct roundTrip.predecessors roundTrip.numbers [0] ∧
      roundTrip.searchBack 0 = preOrder roundTrip.predecessors roundTrip.numbers [0] := by
  have along : Direct roundTrip.successors roundTrip.numbers [0] := by
    have zero : roundTrip.successors 0 = [1, 2] := by decide
    have one : roundTrip.successors 1 = [0] := by decide
    have two : roundTrip.successors 2 = [1] := by decide
    refine .enter [1, 2] (by decide) (by cbv) ?_ (by decide) .nil
    rw [zero]
    refine .enter [] (by decide) (by cbv) ?_ (by decide) ?_
    · rw [one]
      exact .pass (by decide) .nil
    · refine .enter [] (by decide) (by cbv) ?_ (by decide) .nil
      rw [two]
      exact .pass (by decide) .nil
  have against : Direct roundTrip.predecessors roundTrip.numbers [0] := by
    have zero : roundTrip.predecessors 0 = [1] := by decide
    have one : roundTrip.predecessors 1 = [0, 2] := by decide
    have two : roundTrip.predecessors 2 = [0] := by decide
    refine .enter [1, 2] (by decide) (by cbv) ?_ (by decide) .nil
    rw [zero]
    refine .enter [2] (by decide) (by cbv) ?_ (by decide) .nil
    rw [one]
    refine .pass (by decide) (.enter [] (by decide) (by cbv) ?_ (by decide) .nil)
    rw [two]
    exact .pass (by decide) .nil
  have order := roundTrip.search_order 0
  exact ⟨⟨along, order.2.1 along⟩, against, order.2.2 against⟩

/-- A node leads to two others, and the first of these leads to the second before it leads on. -/
def sharedEnd : Digraph Unit Unit :=
  drawAll [.node (), .node (), .node (), .node (), .edge 0 1 (), .edge 0 2 (), .edge 1 2 (),
    .edge 1 3 ()]

/-- The node that waits is passed over, and the one behind it comes first. -/
theorem search_sharedEnd :
    sharedEnd.search 0 ≠ preOrder sharedEnd.successors sharedEnd.numbers [0] ∧
    sharedEnd.search 0 = [0, 1, 3, 2] ∧
    preOrder sharedEnd.successors sharedEnd.numbers [0] = [0, 1, 2, 3] := by
  have claims : sharedEnd.search 0 = [0, 1, 3, 2] := by decide +kernel
  have recursive : preOrder sharedEnd.successors sharedEnd.numbers [0] = [0, 1, 2, 3] := by cbv
  refine ⟨?_, claims, recursive⟩
  rw [claims, recursive]
  decide

/-- Of two edges to one node the last one counts. -/
example : (drawAll [.node (), .node (), .node (), .edge 0 1 (), .edge 0 2 (), .edge 0 1 ()] :
    Digraph Unit Unit).search 0 = [0, 2, 1] := by
  decide +kernel

end JvmFacts.Digraph
