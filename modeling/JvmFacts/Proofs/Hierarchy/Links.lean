import JvmFacts.Hierarchy
import JvmFacts.Proofs.Digraph.Adjacency

/-!
What adding classes does to a hierarchy, told by classes and not by vertex numbers: the edges that a
class has, and what its vertex says.
-/

set_option autoImplicit false

namespace JvmFacts.Hierarchy

/-- Every vertex stands for one class, and every class that has a vertex has just that one. -/
structure Sound (h : Hierarchy) : Prop where
  graph : h.graph.WellFormed
  place : ∀ c node, h.place? c = some node ↔ h.descriptorAt? node = some c

/-- The edges that leave the vertex of a class, by the classes they lead to. -/
def links (h : Hierarchy) (c : ClassDescriptor) : List (ClassDescriptor × InheritanceKind) :=
  match h.place? c with
  | none => []
  | some node =>
    (h.graph.edgesFrom node).filterMap fun e => (h.descriptorAt? e.target).map (·, e.label)

theorem sound_empty : empty.Sound where
  graph := Digraph.wellFormed_empty
  place := by
    intro c node
    simp [empty, place?, descriptorAt?, Digraph.empty, Digraph.node?]

section

variable {h : Hierarchy} {c : ClassDescriptor} {node : Nat}

theorem lt_of_descriptorAt? (there : h.descriptorAt? node = some c) : node < h.graph.nodeCount := by
  obtain ⟨v, held, -⟩ := Option.map_eq_some_iff.1 there
  exact (Array.getElem?_eq_some_iff.1 held).1

theorem Sound.lt (sound : h.Sound) (placed : h.place? c = some node) : node < h.graph.nodeCount :=
  lt_of_descriptorAt? ((sound.place c node).1 placed)

theorem Sound.vertex (sound : h.Sound) (placed : h.place? c = some node) :
    ∃ v, h.graph.node? node = some v ∧ v.descriptor = c :=
  Option.map_eq_some_iff.1 ((sound.place c node).1 placed)

theorem Sound.placed_of_lt (sound : h.Sound) (inside : node < h.graph.nodeCount) :
    ∃ other, h.descriptorAt? node = some other ∧ h.place? other = some node := by
  have there : h.descriptorAt? node = some (h.graph.nodes[node].descriptor) := by
    unfold descriptorAt? Digraph.node?
    rw [Array.getElem?_eq_getElem inside, Option.map_some]
  exact ⟨_, there, (sound.place _ node).2 there⟩

theorem kind?_of_place (placed : h.place? c = some node) :
    h.kind? c = (h.graph.node? node).map ClassVertex.kind := by
  simp only [kind?, vertex?, placed, Option.bind_some]

theorem kind?_of_absent (absent : h.place? c = none) : h.kind? c = none := by
  simp only [kind?, vertex?, absent, Option.bind_none, Option.map_none]

theorem links_of_place (placed : h.place? c = some node) :
    h.links c =
      (h.graph.edgesFrom node).filterMap fun e => (h.descriptorAt? e.target).map (·, e.label) := by
  simp only [links, placed]

theorem links_of_absent (absent : h.place? c = none) : h.links c = [] := by
  simp only [links, absent]

theorem directSupertypes_eq (h : Hierarchy) (c : ClassDescriptor) :
    h.directSupertypes c = (h.links c).map Prod.fst := by
  cases placed : h.place? c with
  | none =>
    rw [links_of_absent placed]
    simp only [directSupertypes, placed, List.map_nil]
  | some node =>
    rw [links_of_place placed, List.map_filterMap]
    simp only [directSupertypes, placed, Digraph.successors, List.filterMap_map]
    apply List.filterMap_congr
    intro e _
    simp only [Function.comp_apply, Option.map_map, Function.comp_def, Option.map_id']

end

/-! ## A vertex for a class -/

/-- The hierarchy with one more vertex, an unresolved one. -/
def withVertex (h : Hierarchy) (c : ClassDescriptor) : Hierarchy :=
  { h with
    graph := h.graph.addNode ⟨c, .unresolved, false⟩
    places := h.places.insert c h.graph.nodeCount }

theorem ensure_of_place {h : Hierarchy} {c : ClassDescriptor} {node : Nat}
    (placed : h.place? c = some node) : h.ensure c = (node, h) := by
  simp only [ensure, placed]

theorem ensure_of_absent {h : Hierarchy} {c : ClassDescriptor} (absent : h.place? c = none) :
    h.ensure c = (h.graph.nodeCount, h.withVertex c) := by
  simp only [ensure, absent, withVertex]

section

variable {h : Hierarchy} {c : ClassDescriptor}

theorem place?_withVertex (h : Hierarchy) (c x : ClassDescriptor) :
    (h.withVertex c).place? x = if c = x then some h.graph.nodeCount else h.place? x :=
  Table.find?_insert c x h.graph.nodeCount h.places

theorem node?_withVertex (h : Hierarchy) (c : ClassDescriptor) (node : Nat) :
    (h.withVertex c).graph.node? node =
      if node = h.graph.nodeCount then some ⟨c, .unresolved, false⟩ else h.graph.node? node :=
  Array.getElem?_push

theorem descriptorAt?_withVertex (h : Hierarchy) (c : ClassDescriptor) (node : Nat) :
    (h.withVertex c).descriptorAt? node =
      if node = h.graph.nodeCount then some c else h.descriptorAt? node := by
  unfold descriptorAt?
  rw [node?_withVertex]
  split <;> rfl

theorem Sound.withVertex (sound : h.Sound) (absent : h.place? c = none) :
    (h.withVertex c).Sound where
  graph := sound.graph.addNode _
  place := by
    intro x node
    rw [place?_withVertex, descriptorAt?_withVertex]
    by_cases same : c = x
    · subst same
      by_cases new : node = h.graph.nodeCount
      · simp only [new, ↓reduceIte]
      · have elsewhere : h.descriptorAt? node ≠ some c := by
          intro there
          rw [(sound.place c node).2 there] at absent
          cases absent
        simp only [↓reduceIte, Option.some.injEq, Ne.symm new, new, elsewhere]
    · by_cases new : node = h.graph.nodeCount
      · have unused : h.place? x ≠ some node := by
          intro placed
          have inside := sound.lt placed
          omega
        simp only [same, new, ↓reduceIte, Option.some.injEq, iff_false]
        exact new ▸ unused
      · simp only [same, new, ↓reduceIte]
        exact sound.place x node

theorem Sound.kind?_withVertex (sound : h.Sound) (absent : h.place? c = none)
    (x : ClassDescriptor) :
    (h.withVertex c).kind? x = (h.kind? x).or (if c = x then some .unresolved else none) := by
  by_cases same : c = x
  · subst same
    have placed : (h.withVertex c).place? c = some h.graph.nodeCount := by
      rw [place?_withVertex, if_pos rfl]
    rw [kind?_of_place placed, kind?_of_absent absent, node?_withVertex, if_pos rfl, if_pos rfl]
    rfl
  · have kept : (h.withVertex c).place? x = h.place? x := by
      rw [place?_withVertex, if_neg same]
    rw [if_neg same, Option.or_none]
    cases placed : h.place? x with
    | none => rw [kind?_of_absent placed, kind?_of_absent (kept.trans placed)]
    | some node =>
      have inside := sound.lt placed
      rw [kind?_of_place placed, kind?_of_place (kept.trans placed), node?_withVertex,
        if_neg (by omega)]

/-- The edges of a graph do not change with its vertices, and none leads to the new one. -/
theorem Sound.links_withVertex (sound : h.Sound) (absent : h.place? c = none)
    (x : ClassDescriptor) : (h.withVertex c).links x = h.links x := by
  have targets : ∀ node, (h.withVertex c).graph.edgesFrom node = h.graph.edgesFrom node := by
    intro node
    rw [(sound.withVertex absent).graph.edgesFrom, sound.graph.edgesFrom]
    rfl
  by_cases same : c = x
  · subst same
    have placed : (h.withVertex c).place? c = some h.graph.nodeCount := by
      rw [place?_withVertex, if_pos rfl]
    have bare : h.graph.edgesFrom h.graph.nodeCount = [] := by
      rw [sound.graph.edgesFrom, List.filter_eq_nil_iff]
      intro e member
      have low := (sound.graph.ends e (Array.mem_toList_iff.1 member)).1
      simp only [beq_iff_eq]
      omega
    rw [links_of_place placed, links_of_absent absent, targets, bare]
    rfl
  · have kept : (h.withVertex c).place? x = h.place? x := by
      rw [place?_withVertex, if_neg same]
    cases placed : h.place? x with
    | none => rw [links_of_absent placed, links_of_absent (kept.trans placed)]
    | some node =>
      rw [links_of_place placed, links_of_place (kept.trans placed), targets]
      apply List.filterMap_congr
      intro e member
      have low := sound.graph.target_lt member
      rw [descriptorAt?_withVertex, if_neg (by omega)]

end

/-! ## Making sure of a vertex -/

theorem Sound.ensure {h : Hierarchy} (sound : h.Sound) (c : ClassDescriptor) :
    (h.ensure c).2.Sound := by
  cases placed : h.place? c with
  | none =>
    rw [ensure_of_absent placed]
    exact sound.withVertex placed
  | some node =>
    rw [ensure_of_place placed]
    exact sound

section

variable (h : Hierarchy) (c : ClassDescriptor)

theorem linked_ensure : (h.ensure c).2.linked = h.linked := by
  unfold ensure
  split <;> rfl

theorem place?_ensure_self : (h.ensure c).2.place? c = some (h.ensure c).1 := by
  cases placed : h.place? c with
  | none => rw [ensure_of_absent placed, place?_withVertex, if_pos rfl]
  | some node => rw [ensure_of_place placed, placed]

theorem place?_ensure {x : ClassDescriptor} {node : Nat} (placed : h.place? x = some node) :
    (h.ensure c).2.place? x = some node := by
  cases found : h.place? c with
  | none =>
    have apart : c ≠ x := by
      rintro rfl
      rw [found] at placed
      cases placed
    rw [ensure_of_absent found, place?_withVertex, if_neg apart, placed]
  | some other => rw [ensure_of_place found, placed]

end

section

variable {h : Hierarchy} (sound : h.Sound) (c : ClassDescriptor)

include sound

theorem Sound.kind?_ensure (x : ClassDescriptor) :
    (h.ensure c).2.kind? x = (h.kind? x).or (if c = x then some .unresolved else none) := by
  cases placed : h.place? c with
  | none =>
    rw [ensure_of_absent placed]
    exact sound.kind?_withVertex placed x
  | some node =>
    rw [ensure_of_place placed]
    by_cases same : c = x
    · subst same
      obtain ⟨v, held, -⟩ := sound.vertex placed
      rw [kind?_of_place placed, held]
      rfl
    · rw [if_neg same, Option.or_none]

theorem Sound.links_ensure (x : ClassDescriptor) : (h.ensure c).2.links x = h.links x := by
  cases placed : h.place? c with
  | none =>
    rw [ensure_of_absent placed]
    exact sound.links_withVertex placed x
  | some node => rw [ensure_of_place placed]

end

/-! ## What a vertex says -/

section

variable (h : Hierarchy) (node : Nat) (kind : VertexKind) (isInterface : Bool)

theorem node?_describe (other : Nat) :
    (h.describe node kind isInterface).graph.node? other =
      (h.graph.node? other).map fun v =>
        if node = other then { v with kind := VertexKind.upgrade kind v.kind, isInterface } else v := by
  refine (Array.getElem?_modify ..).trans ?_
  by_cases same : node = other
  · simp only [same, ↓reduceIte]
    rfl
  · simp only [same, ↓reduceIte, Option.map_id']
    rfl

theorem descriptorAt?_describe (other : Nat) :
    (h.describe node kind isInterface).descriptorAt? other = h.descriptorAt? other := by
  unfold descriptorAt?
  rw [node?_describe, Option.map_map]
  congr 1
  funext v
  simp only [Function.comp_apply]
  split <;> rfl

theorem links_describe (c : ClassDescriptor) :
    (h.describe node kind isInterface).links c = h.links c := by
  unfold links
  simp only [descriptorAt?_describe]
  rfl

end

section

variable {h : Hierarchy} (sound : h.Sound) (node : Nat) (kind : VertexKind) (isInterface : Bool)

include sound

theorem Sound.describe : (h.describe node kind isInterface).Sound where
  graph := sound.graph.modifyNode node _
  place := by
    intro c other
    rw [descriptorAt?_describe]
    exact sound.place c other

theorem Sound.kind?_describe {c : ClassDescriptor} (placed : h.place? c = some node)
    (x : ClassDescriptor) :
    (h.describe node kind isInterface).kind? x =
      if c = x then (h.kind? x).map (VertexKind.upgrade kind) else h.kind? x := by
  cases found : h.place? x with
  | none =>
    have still : (h.describe node kind isInterface).place? x = none := found
    rw [kind?_of_absent still, kind?_of_absent found]
    split <;> rfl
  | some other =>
    have still : (h.describe node kind isInterface).place? x = some other := found
    rw [kind?_of_place still, kind?_of_place found, node?_describe]
    by_cases same : c = x
    · subst same
      have here : node = other := Option.some.inj (placed.symm.trans found)
      simp only [here, ↓reduceIte, Option.map_map, Function.comp_def]
    · have elsewhere : node ≠ other := by
        rintro rfl
        have first := (sound.place c node).1 placed
        have second := (sound.place x node).1 found
        exact same (Option.some.inj (first.symm.trans second))
      simp only [elsewhere, same, ↓reduceIte, Option.map_id']

end

end JvmFacts.Hierarchy
