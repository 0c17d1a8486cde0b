import JvmFacts.Proofs.Hierarchy.Links

/-!
Adding classes one after the other. Adding never fails, and it changes the vertex of the class, the
vertices of supertypes that are new, and, the first time, the edges of the class.
-/

set_option autoImplicit false

namespace JvmFacts.Hierarchy

/-- `after` has further edges from one class and otherwise at most new unresolved vertices. -/
structure Drawn (h : Hierarchy) (c : ClassDescriptor)
    (edges : List (ClassDescriptor × InheritanceKind)) (after : Hierarchy) : Prop where
  sound : after.Sound
  linked : after.linked = h.linked
  place : ∀ x node, h.place? x = some node → after.place? x = some node
  links : ∀ x, after.links x = h.links x ++ if c = x then edges else []
  kinds : ∀ x, after.kind? x =
    (h.kind? x).or (if x ∈ edges.map Prod.fst then some .unresolved else none)

theorem Drawn.refl {h : Hierarchy} (sound : h.Sound) (c : ClassDescriptor) : Drawn h c [] h where
  sound := sound
  linked := rfl
  place := fun _ _ placed => placed
  links := by
    intro x
    split <;> exact (List.append_nil _).symm
  kinds := by
    intro x
    simp

theorem Drawn.trans {h mid after : Hierarchy} {c : ClassDescriptor}
    {first second : List (ClassDescriptor × InheritanceKind)} (one : Drawn h c first mid)
    (two : Drawn mid c second after) : Drawn h c (first ++ second) after where
  sound := two.sound
  linked := two.linked.trans one.linked
  place := fun x node placed => two.place x node (one.place x node placed)
  links := by
    intro x
    rw [two.links, one.links]
    by_cases same : c = x
    · simp only [same, ↓reduceIte, List.append_assoc]
    · simp only [same, ↓reduceIte, List.append_nil]
  kinds := by
    intro x
    rw [two.kinds, one.kinds, List.map_append, Option.or_assoc]
    congr 1
    by_cases early : x ∈ first.map Prod.fst
    · have either : x ∈ first.map Prod.fst ++ second.map Prod.fst := List.mem_append_left _ early
      rw [if_pos early, if_pos either, Option.some_or]
    · by_cases late : x ∈ second.map Prod.fst
      · have either : x ∈ first.map Prod.fst ++ second.map Prod.fst := List.mem_append_right _ late
        rw [if_neg early, if_pos late, if_pos either, Option.none_or]
      · have neither : x ∉ first.map Prod.fst ++ second.map Prod.fst := by
          rw [List.mem_append]
          exact not_or.2 ⟨early, late⟩
        rw [if_neg early, if_neg late, if_neg neither, Option.none_or]

/-! ## An edge -/

/-- The same vertices with another graph between them. -/
def withGraph (h : Hierarchy) (graph : Digraph ClassVertex InheritanceKind) : Hierarchy :=
  { h with graph }

section

variable {h : Hierarchy} {c supertype : ClassDescriptor} {node target : Nat}
  {kind : InheritanceKind} {graph : Digraph ClassVertex InheritanceKind}
  (drawn : h.graph.addEdge node target kind = .ok graph)

include drawn

theorem node?_drawn (other : Nat) : graph.node? other = h.graph.node? other := by
  obtain ⟨-, -, rfl⟩ := Digraph.addEdge_cases drawn
  rfl

theorem descriptorAt?_drawn (other : Nat) :
    (h.withGraph graph).descriptorAt? other = h.descriptorAt? other := by
  simp only [descriptorAt?, withGraph, node?_drawn drawn]

theorem kind?_drawn (x : ClassDescriptor) : (h.withGraph graph).kind? x = h.kind? x := by
  have nodes : graph.node? = h.graph.node? := funext (node?_drawn drawn)
  simp only [kind?, vertex?, withGraph, nodes]
  rfl

variable (sound : h.Sound)

include sound

theorem sound_drawn : (h.withGraph graph).Sound where
  graph := sound.graph.addEdge drawn
  place := by
    intro x other
    rw [descriptorAt?_drawn drawn]
    exact sound.place x other

theorem links_drawn (source : h.place? c = some node) (aim : h.place? supertype = some target)
    (x : ClassDescriptor) :
    (h.withGraph graph).links x = h.links x ++ if c = x then [(supertype, kind)] else [] := by
  cases found : h.place? x with
  | none =>
    have apart : c ≠ x := by
      rintro rfl
      rw [source] at found
      cases found
    have still : (h.withGraph graph).place? x = none := found
    rw [links_of_absent found, links_of_absent still, if_neg apart]
    rfl
  | some other =>
    have still : (h.withGraph graph).place? x = some other := found
    have edges : (h.withGraph graph).graph.edgesFrom other =
        h.graph.edgesFrom other ++ if node = other then [⟨node, target, kind⟩] else [] :=
      sound.graph.edgesFrom_addEdge drawn other
    rw [links_of_place found, links_of_place still, edges, List.filterMap_append]
    simp only [descriptorAt?_drawn drawn]
    congr 1
    by_cases same : c = x
    · subst same
      have here : node = other := Option.some.inj (source.symm.trans found)
      rw [if_pos here, if_pos rfl, List.filterMap_cons]
      simp only [(sound.place supertype target).1 aim, Option.map_some, List.filterMap_nil]
    · have elsewhere : node ≠ other := by
        rintro rfl
        have first := (sound.place c node).1 source
        have second := (sound.place x node).1 found
        exact same (Option.some.inj (first.symm.trans second))
      rw [if_neg elsewhere, if_neg same, List.filterMap_nil]

end

theorem Sound.exists_link {h : Hierarchy} (sound : h.Sound) {c : ClassDescriptor} {node : Nat}
    (placed : h.place? c = some node) (supertype : ClassDescriptor) (kind : InheritanceKind) :
    ∃ after, h.link node supertype kind = .ok after ∧ Drawn h c [(supertype, kind)] after := by
  have grown := sound.ensure supertype
  have target := place?_ensure_self h supertype
  have source := place?_ensure h supertype placed
  obtain ⟨graph, drawn⟩ := Digraph.exists_addEdge (grown.lt source) (grown.lt target) kind
  refine ⟨(h.ensure supertype).2.withGraph graph, ?_, ?_⟩
  · simp only [link, drawn, bind, Except.bind, pure, Except.pure, withGraph]
  · refine ⟨sound_drawn drawn grown, linked_ensure h supertype, ?_, ?_, ?_⟩
    · intro x other there
      exact place?_ensure h supertype there
    · intro x
      rw [links_drawn drawn grown source target, sound.links_ensure]
    · intro x
      rw [kind?_drawn drawn, sound.kind?_ensure]
      simp only [List.map_cons, List.map_nil, List.mem_singleton, eq_comm]

theorem Sound.exists_linkAll {h : Hierarchy} (sound : h.Sound) {c : ClassDescriptor} {node : Nat}
    (placed : h.place? c = some node) (edges : List (ClassDescriptor × InheritanceKind)) :
    ∃ after, h.linkAll node edges = .ok after ∧ Drawn h c edges after := by
  induction edges generalizing h with
  | nil => exact ⟨h, rfl, Drawn.refl sound c⟩
  | cons edge rest ih =>
    obtain ⟨mid, linked, one⟩ := sound.exists_link placed edge.1 edge.2
    obtain ⟨after, all, more⟩ := ih one.sound (one.place c node placed)
    refine ⟨after, ?_, one.trans more⟩
    simp only [linkAll, linked, all]

/-! ## A class -/

/-- What is different after a class was added. -/
structure Added (h : Hierarchy) (c : ResolvedClass) (kind : VertexKind) (after : Hierarchy) :
    Prop where
  sound : after.Sound
  linked : ∀ x, x ∈ after.linked ↔ x ∈ h.linked ∨ x = c.descriptor
  links : ∀ x, after.links x =
    h.links x ++ if c.descriptor = x ∧ x ∉ h.linked then supertypesOf c else []
  kind_self : after.kind? c.descriptor =
    some (VertexKind.upgrade kind ((h.kind? c.descriptor).getD .unresolved))
  kind_other : ∀ x, x ≠ c.descriptor → after.kind? x = h.kind? x ∨
    (h.kind? x = none ∧ after.kind? x = some .unresolved)

/-- The class has its vertex, which says what it was added as; its edges are still to come. -/
def described (h : Hierarchy) (c : ResolvedClass) (kind : VertexKind) : Hierarchy :=
  (h.ensure c.descriptor).2.describe (h.ensure c.descriptor).1 kind c.isInterface

/-- The class counts as added from here on. -/
def mark (h : Hierarchy) (c : ClassDescriptor) : Hierarchy :=
  { h with linked := h.linked ++ [c] }

section

variable {h : Hierarchy} (sound : h.Sound) (c : ResolvedClass) (kind : VertexKind)

include sound

theorem Sound.mark (x : ClassDescriptor) : (h.mark x).Sound :=
  ⟨sound.graph, sound.place⟩

theorem Sound.described : (h.described c kind).Sound :=
  (sound.ensure c.descriptor).describe _ kind c.isInterface

theorem Sound.links_described (x : ClassDescriptor) : (h.described c kind).links x = h.links x := by
  rw [Hierarchy.described, links_describe, sound.links_ensure]

theorem Sound.kind?_described (x : ClassDescriptor) :
    (h.described c kind).kind? x =
      if c.descriptor = x then some (VertexKind.upgrade kind ((h.kind? x).getD .unresolved))
      else h.kind? x := by
  rw [Hierarchy.described, (sound.ensure c.descriptor).kind?_describe _ kind c.isInterface
    (place?_ensure_self h c.descriptor), sound.kind?_ensure]
  by_cases same : c.descriptor = x
  · simp only [same, ↓reduceIte]
    cases h.kind? x <;> rfl
  · simp only [same, ↓reduceIte, Option.or_none]

/-- A class that is added again gets no further edges. -/
theorem Sound.add_of_linked (linked : c.descriptor ∈ h.linked) :
    h.add c kind = .ok (h.described c kind) ∧ Added h c kind (h.described c kind) := by
  have list : (h.described c kind).linked = h.linked := linked_ensure h c.descriptor
  have before : (h.described c kind).linked.contains c.descriptor = true := by
    rw [list]
    exact List.contains_iff_mem.2 linked
  refine ⟨?_, sound.described c kind, ?_, ?_, ?_, ?_⟩
  · unfold add
    exact if_pos before
  · intro x
    rw [list]
    constructor
    · exact Or.inl
    · rintro (held | rfl)
      · exact held
      · exact linked
  · intro x
    have nothing : ¬ (c.descriptor = x ∧ x ∉ h.linked) := by
      rintro ⟨rfl, new⟩
      exact new linked
    rw [sound.links_described, if_neg nothing, List.append_nil]
  · rw [sound.kind?_described, if_pos rfl]
  · intro x apart
    rw [sound.kind?_described, if_neg (Ne.symm apart)]
    exact Or.inl rfl

/-- A class that is new is counted as added, and then its edges are drawn. -/
theorem Sound.exists_drawn (new : c.descriptor ∉ h.linked) : ∃ after, h.add c kind = .ok after ∧
    Drawn ((h.described c kind).mark c.descriptor) c.descriptor (supertypesOf c) after := by
  have list : (h.described c kind).linked = h.linked := linked_ensure h c.descriptor
  have before : ¬ (h.described c kind).linked.contains c.descriptor = true := by
    rw [list, List.contains_iff_mem]
    exact new
  have counted := (sound.described c kind).mark c.descriptor
  obtain ⟨after, all, drawn⟩ :=
    counted.exists_linkAll (place?_ensure_self h c.descriptor) (supertypesOf c)
  refine ⟨after, ?_, drawn⟩
  unfold add
  exact (if_neg before).trans all

theorem Sound.add_of_not_linked (new : c.descriptor ∉ h.linked) :
    ∃ after, h.add c kind = .ok after ∧ Added h c kind after := by
  obtain ⟨after, ran, drawn⟩ := sound.exists_drawn c kind new
  have list : (h.described c kind).linked = h.linked := linked_ensure h c.descriptor
  have links : ∀ x, ((h.described c kind).mark c.descriptor).links x = h.links x :=
    sound.links_described c kind
  have kinds : ∀ x, ((h.described c kind).mark c.descriptor).kind? x =
      if c.descriptor = x then some (VertexKind.upgrade kind ((h.kind? x).getD .unresolved))
      else h.kind? x :=
    sound.kind?_described c kind
  have marked : ∀ x, x ∈ ((h.described c kind).mark c.descriptor).linked ↔
      x ∈ h.linked ∨ x = c.descriptor := by
    intro x
    unfold Hierarchy.mark
    rw [list, List.mem_append, List.mem_singleton]
  refine ⟨after, ran, drawn.sound, ?_, ?_, ?_, ?_⟩
  · intro x
    rw [drawn.linked]
    exact marked x
  · intro x
    rw [drawn.links, links]
    by_cases same : c.descriptor = x
    · subst same
      rw [if_pos rfl, if_pos ⟨rfl, new⟩]
    · rw [if_neg same, if_neg fun both => same both.1]
  · rw [drawn.kinds, kinds, if_pos rfl, Option.some_or]
  · intro x apart
    rw [drawn.kinds, kinds, if_neg (Ne.symm apart)]
    cases h.kind? x with
    | some old => exact Or.inl rfl
    | none =>
      split
      · exact Or.inr ⟨rfl, rfl⟩
      · exact Or.inl rfl

/-- A class that is new names its supertypes; those without a vertex get an unresolved one. -/
theorem Sound.kind?_add {after : Hierarchy} (ran : h.add c kind = .ok after) (x : ClassDescriptor) :
    after.kind? x = ((h.described c kind).kind? x).or
      (if c.descriptor ∉ h.linked ∧ x ∈ (supertypesOf c).map Prod.fst then some .unresolved
        else none) := by
  by_cases linked : c.descriptor ∈ h.linked
  · rw [(sound.add_of_linked c kind linked).1] at ran
    obtain rfl := Except.ok.inj ran
    rw [if_neg fun both => both.1 linked, Option.or_none]
  · obtain ⟨drawn, ok, spec⟩ := sound.exists_drawn c kind linked
    obtain rfl := Except.ok.inj (ok.symm.trans ran)
    rw [spec.kinds]
    simp only [linked, not_false_eq_true, true_and]
    rfl

theorem Sound.exists_add : ∃ after, h.add c kind = .ok after ∧ Added h c kind after := by
  by_cases linked : c.descriptor ∈ h.linked
  · exact ⟨_, sound.add_of_linked c kind linked⟩
  · exact sound.add_of_not_linked c kind linked

end

/-! ## Many classes -/

/-- One call that adds a class, as an application class or for context only. -/
structure Addition where
  record : ResolvedClass
  isApplication : Bool

def Addition.kind (a : Addition) : VertexKind :=
  if a.isApplication then .application else .library

def addAll : List Addition → Hierarchy → Except GraphFault Hierarchy
  | [], h => .ok h
  | a :: rest, h =>
    match h.add a.record a.kind with
    | .error fault => .error fault
    | .ok h => addAll rest h

theorem Sound.of_addAll_cons {h after : Hierarchy} (sound : h.Sound) {a : Addition}
    {rest : List Addition} (ran : addAll (a :: rest) h = .ok after) :
    ∃ mid, Added h a.record a.kind mid ∧ addAll rest mid = .ok after := by
  obtain ⟨mid, first, added⟩ := sound.exists_add a.record a.kind
  refine ⟨mid, added, ?_⟩
  simp only [addAll, first] at ran
  exact ran

/-! ## Kinds -/

/-- A kind that stays, where a class that had none may have become an unresolved one. -/
def Kept (before after : Option VertexKind) : Prop :=
  after = before ∨ (before = none ∧ after = some .unresolved)

theorem Kept.trans {before mid after : Option VertexKind} (one : Kept before mid)
    (two : Kept mid after) : Kept before after := by
  rcases one with rfl | ⟨rfl, rfl⟩
  · exact two
  · rcases two with rfl | ⟨impossible, -⟩
    · exact Or.inr ⟨rfl, rfl⟩
    · cases impossible

theorem Kept.of_some {kind : VertexKind} {after : Option VertexKind} (kept : Kept (some kind) after) :
    after = some kind := by
  rcases kept with same | ⟨impossible, -⟩
  · exact same
  · cases impossible

theorem Kept.getD {before after : Option VertexKind} (kept : Kept before after) :
    after.getD .unresolved = before.getD .unresolved := by
  rcases kept with rfl | ⟨rfl, rfl⟩ <;> rfl

theorem Sound.kept_addAll {additions : List Addition} {h after : Hierarchy} (sound : h.Sound)
    (ran : addAll additions h = .ok after) {c : ClassDescriptor}
    (other : ∀ a ∈ additions, a.record.descriptor ≠ c) : Kept (h.kind? c) (after.kind? c) := by
  induction additions generalizing h with
  | nil =>
    obtain rfl := Except.ok.inj ran
    exact Or.inl rfl
  | cons a rest ih =>
    obtain ⟨mid, added, later⟩ := sound.of_addAll_cons ran
    have one : Kept (h.kind? c) (mid.kind? c) :=
      added.kind_other c (Ne.symm (other a (List.mem_cons_self ..)))
    exact one.trans (ih added.sound later fun b member => other b (List.mem_cons_of_mem _ member))

/-- Each class ends with what it was added as, an application class with what it was. -/
theorem Sound.kind?_addAll {additions : List Addition} {h after : Hierarchy} (sound : h.Sound)
    (ran : addAll additions h = .ok after)
    (distinct : (additions.map (·.record.descriptor)).Nodup) {a : Addition} (member : a ∈ additions) :
    after.kind? a.record.descriptor =
      some (VertexKind.upgrade a.kind ((h.kind? a.record.descriptor).getD .unresolved)) := by
  induction additions generalizing h with
  | nil => exact absurd member List.not_mem_nil
  | cons b rest ih =>
    obtain ⟨mid, added, later⟩ := sound.of_addAll_cons ran
    rw [List.map_cons, List.nodup_cons] at distinct
    obtain ⟨new, distinct⟩ := distinct
    rcases List.mem_cons.1 member with rfl | further
    · have kept := added.sound.kept_addAll later (c := a.record.descriptor) fun other held same =>
        new (List.mem_map.2 ⟨other, held, same⟩)
      rw [added.kind_self] at kept
      exact kept.of_some
    · have apart : a.record.descriptor ≠ b.record.descriptor := fun same =>
        new (List.mem_map.2 ⟨a, further, same⟩)
      have kept : Kept (h.kind? a.record.descriptor) (mid.kind? a.record.descriptor) :=
        added.kind_other _ apart
      rw [ih added.sound later distinct further, kept.getD]

end JvmFacts.Hierarchy
