import JvmFacts.Proofs.Digraph.Reachability
import JvmFacts.Proofs.Hierarchy.Addition

/-!
A class is a subtype of exactly what the added classes declare, followed any number of times. Neither
the order of the additions nor repeated ones matter.
-/

set_option autoImplicit false

namespace JvmFacts.Hierarchy

open Relation

/-! ## Edges and search -/

/-- The class leads to the other one by one edge. -/
def Extends (h : Hierarchy) (c supertype : ClassDescriptor) : Prop :=
  supertype ∈ h.directSupertypes c

section

variable {h : Hierarchy} (sound : h.Sound) {a b : ClassDescriptor} {source : Nat}

include sound

theorem Sound.place?_inj {node : Nat} (first : h.place? a = some node)
    (second : h.place? b = some node) : a = b := by
  have one := (sound.place a node).1 first
  have two := (sound.place b node).1 second
  exact Option.some.inj (one.symm.trans two)

theorem Sound.extends_iff (placed : h.place? a = some source) :
    h.Extends a b ↔ ∃ node ∈ h.graph.successors source, h.place? b = some node := by
  unfold Extends directSupertypes
  simp only [placed, List.mem_filterMap, sound.place]

theorem Sound.exists_path_of_extends (placed : h.place? a = some source)
    (chain : ReflTransGen h.Extends a b) :
    ∃ node, h.place? b = some node ∧
      ReflTransGen (Digraph.Leads h.graph.successors) source node := by
  induction chain with
  | refl => exact ⟨source, placed, .refl⟩
  | tail _ edge ih =>
    obtain ⟨middle, there, path⟩ := ih
    obtain ⟨node, next, here⟩ := (sound.extends_iff there).1 edge
    exact ⟨node, here, path.tail next⟩

theorem Sound.extends_of_path (placed : h.place? a = some source) {node : Nat}
    (path : ReflTransGen (Digraph.Leads h.graph.successors) source node) :
    ∀ b, h.place? b = some node → ReflTransGen h.Extends a b := by
  induction path with
  | refl =>
    intro b here
    rw [sound.place?_inj placed here]
  | @tail middle node path edge ih =>
    intro b here
    have inside : middle < h.graph.nodeCount := by
      rcases path.cases_tail with rfl | ⟨_, _, into⟩
      · exact sound.lt placed
      · exact sound.graph.successor_lt into
    obtain ⟨c, -, there⟩ := sound.placed_of_lt inside
    exact (ih c there).tail ((sound.extends_iff there).2 ⟨node, edge, here⟩)

theorem Sound.isSubtype_iff : h.isSubtype a b = true ↔ ReflTransGen h.Extends a b := by
  unfold isSubtype
  by_cases same : a = b
  · subst same
    rw [if_pos rfl]
    exact iff_of_true rfl .refl
  · rw [if_neg same]
    cases placed : h.place? a with
    | none =>
      have stuck : ¬ ReflTransGen h.Extends a b := by
        intro chain
        rcases chain.cases_head with rfl | ⟨c, edge, -⟩
        · exact same rfl
        · unfold Extends directSupertypes at edge
          rw [placed] at edge
          exact List.not_mem_nil edge
      exact iff_of_false Bool.false_ne_true stuck
    | some source =>
      cases aim : h.place? b with
      | none =>
        have stuck : ¬ ReflTransGen h.Extends a b := by
          intro chain
          obtain ⟨node, here, -⟩ := sound.exists_path_of_extends placed chain
          rw [aim] at here
          cases here
        exact iff_of_false Bool.false_ne_true stuck
      | some target =>
        simp only [List.contains_iff_mem, sound.graph.mem_search (sound.lt placed)]
        constructor
        · intro path
          exact sound.extends_of_path placed path b aim
        · intro chain
          obtain ⟨node, here, path⟩ := sound.exists_path_of_extends placed chain
          rw [aim] at here
          exact Option.some.inj here ▸ path

end

/-! ## Additions -/

def firstOf? (additions : List Addition) (c : ClassDescriptor) : Option Addition :=
  additions.find? (·.record.descriptor == c)

theorem of_firstOf? {additions : List Addition} {c : ClassDescriptor} {a : Addition}
    (first : firstOf? additions c = some a) : a ∈ additions ∧ a.record.descriptor = c := by
  unfold firstOf? at first
  have hit := List.find?_some first
  exact ⟨List.mem_of_find?_eq_some first, eq_of_beq hit⟩

theorem firstOf?_eq_none {additions : List Addition} {c : ClassDescriptor} :
    firstOf? additions c = none ↔ ¬ ∃ a ∈ additions, a.record.descriptor = c := by
  unfold firstOf?
  rw [List.find?_eq_none]
  simp only [beq_iff_eq, not_exists, not_and]

/-- The edges of a class are those that its first addition declared. -/
structure Tracks (done : List Addition) (h : Hierarchy) : Prop where
  sound : h.Sound
  linked : ∀ c, c ∈ h.linked ↔ ∃ a ∈ done, a.record.descriptor = c
  links : ∀ c, h.links c = ((firstOf? done c).map (supertypesOf ·.record)).getD []

theorem tracks_empty : Tracks [] empty where
  sound := sound_empty
  linked := by
    intro c
    simp [empty]
  links := by
    intro c
    rfl

theorem Tracks.step {done : List Addition} {h after : Hierarchy} {a : Addition}
    (tracks : Tracks done h) (added : Added h a.record a.kind after) :
    Tracks (done ++ [a]) after where
  sound := added.sound
  linked := by
    intro c
    rw [added.linked, tracks.linked]
    constructor
    · rintro (⟨other, held, same⟩ | rfl)
      · exact ⟨other, List.mem_append_left _ held, same⟩
      · exact ⟨a, List.mem_append_right _ (List.mem_singleton_self a), rfl⟩
    · rintro ⟨other, member, same⟩
      rcases List.mem_append.1 member with held | new
      · exact Or.inl ⟨other, held, same⟩
      · rw [List.mem_singleton.1 new] at same
        exact Or.inr same.symm
  links := by
    intro c
    have split : firstOf? (done ++ [a]) c =
        (firstOf? done c).or (if a.record.descriptor == c then some a else none) := by
      unfold firstOf?
      rw [List.find?_append, List.find?_singleton]
    rw [added.links, tracks.links, split]
    cases found : firstOf? done c with
    | some first =>
      have before : c ∈ h.linked := by
        rw [tracks.linked]
        exact ⟨first, of_firstOf? found⟩
      rw [if_neg fun both => both.2 before, List.append_nil, Option.some_or]
    | none =>
      have new : c ∉ h.linked := by
        rw [tracks.linked]
        exact firstOf?_eq_none.1 found
      rw [Option.none_or]
      by_cases same : a.record.descriptor = c
      · rw [if_pos ⟨same, new⟩, if_pos (beq_iff_eq.2 same)]
        rfl
      · rw [if_neg fun both => same both.1, if_neg fun hit => same (eq_of_beq hit)]
        rfl

theorem Tracks.exists_addAll (rest : List Addition) {done : List Addition} {h : Hierarchy}
    (tracks : Tracks done h) : ∃ after, addAll rest h = .ok after ∧ Tracks (done ++ rest) after := by
  induction rest generalizing done h with
  | nil =>
    rw [List.append_nil]
    exact ⟨h, rfl, tracks⟩
  | cons a rest ih =>
    obtain ⟨mid, ran, added⟩ := tracks.sound.exists_add a.record a.kind
    obtain ⟨after, all, more⟩ := ih (tracks.step added)
    refine ⟨after, ?_, ?_⟩
    · simp only [addAll, ran, all]
    · rw [List.append_cons]
      exact more

/-! ## Subtyping -/

/-- Some addition of the class names the other one as its superclass or as one of its interfaces. -/
def Declares (additions : List Addition) (c supertype : ClassDescriptor) : Prop :=
  ∃ a ∈ additions, a.record.descriptor = c ∧
    (a.record.superclass = some supertype ∨ supertype ∈ a.record.interfaces)

/-- Every class is always added with the same superclass and the same interfaces. -/
def Consistent (additions : List Addition) : Prop :=
  ∀ a ∈ additions, ∀ b ∈ additions, a.record.descriptor = b.record.descriptor →
    a.record.superclass = b.record.superclass ∧ a.record.interfaces = b.record.interfaces

instance (additions : List Addition) : Decidable (Consistent additions) :=
  inferInstanceAs (Decidable (∀ a ∈ additions, ∀ b ∈ additions,
    a.record.descriptor = b.record.descriptor →
      a.record.superclass = b.record.superclass ∧ a.record.interfaces = b.record.interfaces))

theorem mem_supertypesOf {c : ResolvedClass} {supertype : ClassDescriptor} :
    supertype ∈ (supertypesOf c).map Prod.fst ↔
      c.superclass = some supertype ∨ supertype ∈ c.interfaces := by
  unfold supertypesOf
  rw [List.map_append, List.mem_append, List.map_map, List.map_map]
  simp only [Function.comp_def, List.map_id', Option.mem_toList]

theorem Tracks.extends_iff {additions : List Addition} {h : Hierarchy}
    (tracks : Tracks additions h) (consistent : Consistent additions)
    {c supertype : ClassDescriptor} : h.Extends c supertype ↔ Declares additions c supertype := by
  unfold Extends
  rw [directSupertypes_eq, tracks.links]
  cases found : firstOf? additions c with
  | none =>
    have undeclared : ¬ Declares additions c supertype := by
      rintro ⟨a, held, same, -⟩
      exact firstOf?_eq_none.1 found ⟨a, held, same⟩
    exact iff_of_false List.not_mem_nil undeclared
  | some first =>
    obtain ⟨held, same⟩ := of_firstOf? found
    rw [Option.map_some, Option.getD_some, mem_supertypesOf]
    constructor
    · intro named
      exact ⟨first, held, same, named⟩
    · rintro ⟨a, member, also, named⟩
      obtain ⟨superclass, interfaces⟩ := consistent first held a member (same.trans also.symm)
      rw [superclass, interfaces]
      exact named

theorem isSubtype_iff_declares (additions : List Addition) (consistent : Consistent additions) :
    ∃ h, addAll additions empty = .ok h ∧
      ∀ a b, h.isSubtype a b = true ↔ a = b ∨ TransGen (Declares additions) a b := by
  obtain ⟨h, ran, tracks⟩ := tracks_empty.exists_addAll additions
  refine ⟨h, ran, ?_⟩
  intro a b
  have edges : h.Extends = Declares additions := by
    funext c supertype
    exact propext (tracks.extends_iff consistent)
  rw [tracks.sound.isSubtype_iff, edges, reflTransGen_iff_eq_or_transGen]
  exact or_congr_left eq_comm

/-- Two classes that are supertypes of each other, and one of them again for context. -/
def cycle : List Addition :=
  let one : ClassDescriptor := ⟨0, 0, "One"⟩
  let two : ClassDescriptor := ⟨0, 1, "Two"⟩
  let first : ResolvedClass := ⟨0, one, some two, [one], ClassFlags.usual, none, [], []⟩
  let second : ResolvedClass := ⟨1, two, none, [one], ClassFlags.usual, none, [], []⟩
  [⟨first, true⟩, ⟨second, true⟩, ⟨first, false⟩]

theorem isSubtype_cycle : Consistent cycle ∧ ∃ h, addAll cycle empty = .ok h ∧
    ∀ a b, h.isSubtype a b = true ↔ a = b ∨ TransGen (Declares cycle) a b := by
  have consistent : Consistent cycle := by decide
  exact ⟨consistent, isSubtype_iff_declares cycle consistent⟩

end JvmFacts.Hierarchy
