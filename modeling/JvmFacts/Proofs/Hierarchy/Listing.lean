import Mathlib.Data.List.Nodup
import JvmFacts.Proofs.Hierarchy.Subtyping

/-!
The classes that a hierarchy lists: its vertices, its application classes and the subtypes of a class.
What is listed is settled by kinds and by edges, and a sorted list by what is listed.
-/

set_option autoImplicit false

namespace JvmFacts

/-! ## Sorted lists of classes -/

/-- Just the classes of this kind, each once and in ascending order. -/
structure Ordered (p : ClassDescriptor → Prop) (classes : List ClassDescriptor) : Prop where
  ascending : classes.Pairwise fun a b => (compare a b).isLE = true
  distinct : classes.Nodup
  mem_iff : ∀ c, c ∈ classes ↔ p c

/-- Between classes of one registry the order decides. -/
theorem ClassDescriptor.eq_of_isLE {a b : ClassDescriptor} (registry : a.registry = b.registry)
    (up : (compare a b).isLE = true) (down : (compare b a).isLE = true) : a = b := by
  have same : compare a b = .eq := Std.OrientedCmp.isLE_antisymm up down
  obtain ⟨name, id⟩ := compare_eq_iff.1 same
  obtain ⟨r, i, n⟩ := a
  obtain ⟨s, j, m⟩ := b
  obtain rfl : r = s := registry
  obtain rfl : n = m := name
  obtain rfl : i = j := id
  rfl

theorem ordered_sortAscending {p : ClassDescriptor → Prop} {classes : List ClassDescriptor}
    (distinct : classes.Nodup) (listed : ∀ c, c ∈ classes ↔ p c) :
    Ordered p (sortAscending classes) where
  ascending := pairwise_sortAscending classes
  distinct := (List.mergeSort_perm classes _).nodup_iff.2 distinct
  mem_iff := by
    intro c
    exact List.mem_mergeSort.trans (listed c)

theorem Ordered.eq {p : ClassDescriptor → Prop} {xs ys : List ClassDescriptor} (one : Ordered p xs)
    (two : Ordered p ys) (registry : ∀ a b, p a → p b → a.registry = b.registry) : xs = ys := by
  have perm : xs.Perm ys := by
    rw [List.perm_ext_iff_of_nodup one.distinct two.distinct]
    intro c
    rw [one.mem_iff, two.mem_iff]
  apply perm.eq_of_pairwise _ one.ascending two.ascending
  intro a b left right up down
  exact ClassDescriptor.eq_of_isLE (registry a b ((one.mem_iff a).1 left) ((two.mem_iff b).1 right))
    up down

/-- Of classes of one registry, no two tie. -/
theorem Ordered.strict {p : ClassDescriptor → Prop} {classes : List ClassDescriptor}
    (ordered : Ordered p classes) (registry : ∀ a b, p a → p b → a.registry = b.registry) :
    classes.Pairwise fun a b => compare a b = .lt := by
  have apart := List.nodup_iff_pairwise_ne.1 ordered.distinct
  apply (ordered.ascending.and apart).imp_of_mem
  rintro a b first second ⟨up, differ⟩
  have together := registry a b ((ordered.mem_iff a).1 first) ((ordered.mem_iff b).1 second)
  cases order : compare a b with
  | lt => rfl
  | gt =>
    rw [order] at up
    cases up
  | eq =>
    have down : (compare b a).isLE = true := by
      rw [Std.OrientedCmp.eq_symm order]
      rfl
    exact absurd (ClassDescriptor.eq_of_isLE together up down) differ

namespace Hierarchy

open Relation

/-! ## Vertices -/

/-- The classes that have a vertex, in the order of the vertices. -/
def classes (h : Hierarchy) : List ClassDescriptor :=
  h.graph.nodes.toList.map ClassVertex.descriptor

theorem length_classes (h : Hierarchy) : h.classes.length = h.graph.nodeCount := by
  rw [classes, List.length_map, Array.length_toList]
  rfl

theorem getElem?_classes (h : Hierarchy) (node : Nat) : h.classes[node]? = h.descriptorAt? node := by
  rw [classes, List.getElem?_map, Array.getElem?_toList]
  rfl

section

variable {h : Hierarchy} (sound : h.Sound)

include sound

theorem Sound.mem_classes {c : ClassDescriptor} : c ∈ h.classes ↔ ∃ node, h.place? c = some node := by
  rw [List.mem_iff_getElem?]
  simp only [getElem?_classes, sound.place]

theorem Sound.nodup_classes : h.classes.Nodup := by
  rw [List.nodup_iff_pairwise_ne, List.pairwise_iff_getElem]
  intro i j low high below same
  have first := h.getElem?_classes i
  have second := h.getElem?_classes j
  rw [List.getElem?_eq_getElem low] at first
  rw [List.getElem?_eq_getElem high, ← same] at second
  have one := (sound.place _ i).2 first.symm
  have two := (sound.place _ j).2 second.symm
  have equal := Option.some.inj (one.symm.trans two)
  omega

theorem Sound.kind?_isSome (c : ClassDescriptor) : (h.kind? c).isSome = (h.place? c).isSome := by
  cases placed : h.place? c with
  | none =>
    rw [kind?_of_absent placed]
    rfl
  | some node =>
    obtain ⟨v, held, -⟩ := sound.vertex placed
    rw [kind?_of_place placed, held]
    rfl

theorem Sound.kind?_eq_some_iff {c : ClassDescriptor} {kind : VertexKind} :
    h.kind? c = some kind ↔ ∃ v ∈ h.graph.nodes.toList, v.kind = kind ∧ v.descriptor = c := by
  constructor
  · intro told
    cases placed : h.place? c with
    | none =>
      rw [kind?_of_absent placed] at told
      cases told
    | some node =>
      obtain ⟨v, held, named⟩ := sound.vertex placed
      rw [kind?_of_place placed, held] at told
      exact ⟨v, Array.mem_toList_iff.2 (Array.mem_of_getElem? held), Option.some.inj told, named⟩
  · rintro ⟨v, member, rfl, rfl⟩
    obtain ⟨node, held⟩ := List.mem_iff_getElem?.1 member
    rw [Array.getElem?_toList] at held
    have there : h.descriptorAt? node = some v.descriptor := congrArg (Option.map _) held
    rw [kind?_of_place ((sound.place _ node).2 there)]
    exact congrArg (Option.map ClassVertex.kind) held

theorem Sound.ordered_applicationClasses :
    Ordered (fun c => h.kind? c = some .application) h.applicationClasses := by
  apply ordered_sortAscending
  · exact sound.nodup_classes.sublist (List.filter_sublist.map ClassVertex.descriptor)
  · intro c
    rw [sound.kind?_eq_some_iff]
    simp only [List.mem_map, List.mem_filter, beq_iff_eq, and_assoc]

/-! ## What a search finds -/

omit sound in
theorem exists_place_of_isSubtype {a b : ClassDescriptor} (apart : a ≠ b)
    (below : h.isSubtype a b = true) :
    ∃ source target, h.place? a = some source ∧ h.place? b = some target := by
  unfold isSubtype at below
  rw [if_neg apart] at below
  split at below
  · rename_i source target placed there
    exact ⟨source, target, placed, there⟩
  · cases below

theorem Sound.nodup_filterMap {nodes : List Nat} (once : nodes.Nodup) :
    (nodes.filterMap h.descriptorAt?).Nodup := by
  apply List.Nodup.filterMap _ once
  intro n m x first second
  have one := (sound.place x n).2 first
  have two := (sound.place x m).2 second
  exact Option.some.inj (one.symm.trans two)

/-- Behind the vertex of a class, a search finds the other classes of the vertices that it visits. -/
theorem Sound.mem_filterMap_tail {c x : ClassDescriptor} {node : Nat} {found : List Nat}
    (placed : h.place? c = some node) (once : found.Nodup) (first : found = node :: found.tail) :
    x ∈ found.tail.filterMap h.descriptorAt? ↔
      x ≠ c ∧ ∃ other ∈ found, h.place? x = some other := by
  rw [first, List.nodup_cons] at once
  rw [List.mem_filterMap]
  constructor
  · rintro ⟨other, member, there⟩
    have here := (sound.place x other).2 there
    constructor
    · rintro rfl
      obtain rfl := Option.some.inj (here.symm.trans placed)
      exact once.1 member
    · exact ⟨other, List.mem_of_mem_tail member, here⟩
  · rintro ⟨apart, other, member, here⟩
    refine ⟨other, ?_, (sound.place x other).1 here⟩
    rw [first] at member
    rcases List.mem_cons.1 member with rfl | behind
    · exact absurd (sound.place?_inj here placed) apart
    · exact behind

/-! ## Supertypes -/

theorem Sound.nodup_supertypes (c : ClassDescriptor) : (h.supertypes c).Nodup := by
  unfold supertypes
  split
  · exact List.nodup_nil
  · rename_i node placed
    exact sound.nodup_filterMap (Digraph.nodup_visit _ h.graph node).tail

theorem Sound.mem_supertypes {c x : ClassDescriptor} :
    x ∈ h.supertypes c ↔ x ≠ c ∧ h.isSubtype c x = true := by
  cases placed : h.place? c with
  | none =>
    have list : h.supertypes c = [] := by
      simp only [supertypes, placed]
    rw [list]
    refine iff_of_false List.not_mem_nil ?_
    rintro ⟨apart, above⟩
    obtain ⟨source, target, there, -⟩ := exists_place_of_isSubtype (Ne.symm apart) above
    rw [placed] at there
    cases there
  | some node =>
    have list : h.supertypes c = (h.graph.search node).tail.filterMap h.descriptorAt? := by
      simp only [supertypes, placed]
    have once : (h.graph.search node).Nodup := Digraph.nodup_visit _ h.graph node
    have first : h.graph.search node = node :: (h.graph.search node).tail :=
      Digraph.visit_of_lt _ (sound.lt placed)
    rw [list, sound.mem_filterMap_tail placed once first]
    apply and_congr_right
    intro apart
    unfold isSubtype
    rw [if_neg (Ne.symm apart), placed]
    cases there : h.place? x with
    | none => simp
    | some other => simp

/-! ## Subtypes -/

/-- Against the edges a search from a class finds the classes below it. -/
theorem Sound.mem_searchBack_iff {a b : ClassDescriptor} {node other : Nat}
    (placed : h.place? a = some node) (there : h.place? b = some other) :
    other ∈ h.graph.searchBack node ↔ ReflTransGen h.Extends b a := by
  rw [sound.graph.mem_searchBack (sound.lt placed), sound.graph.leads_predecessors,
    reflTransGen_swap]
  constructor
  · intro path
    exact sound.extends_of_path there path a placed
  · intro chain
    obtain ⟨last, here, path⟩ := sound.exists_path_of_extends there chain
    rw [placed] at here
    exact Option.some.inj here ▸ path

theorem Sound.ordered_subtypes (c : ClassDescriptor) :
    Ordered (fun x => x ≠ c ∧ h.isSubtype x c = true) (h.subtypes c) := by
  cases placed : h.place? c with
  | none =>
    have list : h.subtypes c = [] := by
      simp only [subtypes, placed]
    rw [list]
    refine ⟨List.Pairwise.nil, List.nodup_nil, ?_⟩
    intro x
    refine iff_of_false List.not_mem_nil ?_
    rintro ⟨apart, below⟩
    obtain ⟨source, target, -, there⟩ := exists_place_of_isSubtype apart below
    rw [placed] at there
    cases there
  | some node =>
    have list : h.subtypes c =
        sortAscending ((h.graph.searchBack node).tail.filterMap h.descriptorAt?) := by
      simp only [subtypes, placed]
    have once : (h.graph.searchBack node).Nodup := Digraph.nodup_visit _ h.graph node
    have first : h.graph.searchBack node = node :: (h.graph.searchBack node).tail :=
      Digraph.visit_of_lt _ (sound.lt placed)
    rw [list]
    apply ordered_sortAscending (sound.nodup_filterMap once.tail)
    intro x
    rw [sound.mem_filterMap_tail placed once first]
    apply and_congr_right
    intro apart
    rw [sound.isSubtype_iff]
    constructor
    · rintro ⟨other, member, here⟩
      exact (sound.mem_searchBack_iff placed here).1 member
    · intro chain
      obtain ⟨other, -, here, -⟩ := exists_place_of_isSubtype apart (sound.isSubtype_iff.2 chain)
      exact ⟨other, (sound.mem_searchBack_iff placed here).2 chain, here⟩

/-! ## Edges -/

theorem Sound.length_links {c : ClassDescriptor} {node : Nat} (placed : h.place? c = some node) :
    (h.links c).length = (h.graph.edgesFrom node).length := by
  rw [links_of_place placed, List.filterMap_length_eq_length]
  intro e leaves
  obtain ⟨other, there, -⟩ := sound.placed_of_lt (sound.graph.target_lt leaves)
  rw [there]
  rfl

/-- Every edge belongs to one class. -/
theorem Sound.edgeCount_eq :
    h.edgeCount = (h.classes.flatMap h.links).length := by
  have lengths : h.classes.map (fun c => (h.links c).length) =
      (List.range h.graph.nodeCount).map fun node => (h.graph.edgesFrom node).length := by
    apply List.ext_getElem
    · rw [List.length_map, List.length_map, length_classes, List.length_range]
    · intro node low high
      rw [List.length_map] at low
      have there := h.getElem?_classes node
      rw [List.getElem?_eq_getElem low] at there
      rw [List.getElem_map, List.getElem_map, List.getElem_range,
        sound.length_links ((sound.place _ node).2 there.symm)]
  rw [List.length_flatMap, lengths, ← List.length_flatMap]
  exact sound.graph.edgeCount_eq

end

end Hierarchy

end JvmFacts
