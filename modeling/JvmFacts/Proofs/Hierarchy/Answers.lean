import JvmFacts.Proofs.Digraph.Renaming
import JvmFacts.Proofs.Hierarchy.Listing

/-!
Hierarchies with the same kinds and the same edges give the same answers, however their vertices are
numbered: the searches in them visit the vertices of the same classes in the same order.
-/

set_option autoImplicit false

namespace JvmFacts.Hierarchy

open List

/-- Nothing that can be asked tells the hierarchies apart. -/
structure SameAnswers (g h : Hierarchy) : Prop where
  contains : ∀ c, h.contains c = g.contains c
  kind : ∀ c, h.kind? c = g.kind? c
  isApplication : ∀ c, h.isApplication c = g.isApplication c
  applicationClasses : h.applicationClasses = g.applicationClasses
  isSubtype : ∀ a b, h.isSubtype a b = g.isSubtype a b
  directSupertypes : ∀ c, h.directSupertypes c = g.directSupertypes c
  supertypes : ∀ c, h.supertypes c = g.supertypes c
  subtypes : ∀ c, h.subtypes c = g.subtypes c
  vertexCount : h.vertexCount = g.vertexCount
  edgeCount : h.edgeCount = g.edgeCount

/-- The classes of both have the same kinds and the same edges. -/
structure Matches (g h : Hierarchy) : Prop where
  first : g.Sound
  second : h.Sound
  kinds : ∀ c, h.kind? c = g.kind? c
  links : ∀ c, h.links c = g.links c

/-- The vertices stand for the same class. -/
def Twins (g h : Hierarchy) (n m : Nat) : Prop :=
  ∃ c, g.place? c = some n ∧ h.place? c = some m

section

variable {g h : Hierarchy} (first : g.Sound) (second : h.Sound)

include first second

theorem biUnique_twins : Relator.BiUnique (Twins g h) := by
  constructor
  · rintro n m k ⟨c, here, there⟩ ⟨d, here', there'⟩
    obtain rfl := second.place?_inj there there'
    exact Option.some.inj (here.symm.trans here')
  · rintro n m k ⟨c, here, there⟩ ⟨d, here', there'⟩
    obtain rfl := first.place?_inj here here'
    exact Option.some.inj (there.symm.trans there')

theorem filterMap_of_twins {ns ms : List Nat} (twins : Forall₂ (Twins g h) ns ms) :
    ms.filterMap h.descriptorAt? = ns.filterMap g.descriptorAt? := by
  induction twins with
  | nil => rfl
  | cons pair _ ih =>
    obtain ⟨c, here, there⟩ := pair
    rw [filterMap_cons_some ((first.place c _).1 here),
      filterMap_cons_some ((second.place c _).1 there), ih]

/-- Lists of vertices that name the same classes. -/
theorem twins_of_filterMap {ns ms : List Nat} (low : ∀ n ∈ ns, n < g.graph.nodeCount)
    (high : ∀ m ∈ ms, m < h.graph.nodeCount)
    (same : ms.filterMap h.descriptorAt? = ns.filterMap g.descriptorAt?) :
    Forall₂ (Twins g h) ns ms := by
  induction ns generalizing ms with
  | nil =>
    cases ms with
    | nil => exact .nil
    | cons m more =>
      obtain ⟨d, there, -⟩ := second.placed_of_lt (high m (mem_cons_self ..))
      rw [filterMap_cons_some there] at same
      cases same
  | cons n rest ih =>
    obtain ⟨c, here, placed⟩ := first.placed_of_lt (low n (mem_cons_self ..))
    rw [filterMap_cons_some here] at same
    cases ms with
    | nil => cases same
    | cons m more =>
      obtain ⟨d, there, placed'⟩ := second.placed_of_lt (high m (mem_cons_self ..))
      rw [filterMap_cons_some there] at same
      obtain ⟨rfl, others⟩ := cons.inj same
      refine .cons ⟨d, placed, placed'⟩ (ih ?_ ?_ others)
      · exact fun k member => low k (mem_cons_of_mem _ member)
      · exact fun k member => high k (mem_cons_of_mem _ member)

end

section

variable {g h : Hierarchy} (same : Matches g h)

include same

namespace Matches

theorem contains (c : ClassDescriptor) : h.contains c = g.contains c := by
  unfold Hierarchy.contains
  rw [← same.first.kind?_isSome, ← same.second.kind?_isSome, same.kinds]

theorem exists_place_iff (c : ClassDescriptor) :
    (∃ m, h.place? c = some m) ↔ ∃ n, g.place? c = some n := by
  rw [← Option.isSome_iff_exists, ← Option.isSome_iff_exists]
  exact Bool.eq_iff_iff.1 (same.contains c)

theorem directSupertypes (c : ClassDescriptor) : h.directSupertypes c = g.directSupertypes c := by
  rw [directSupertypes_eq, directSupertypes_eq, same.links]

theorem isSubtype (a b : ClassDescriptor) : h.isSubtype a b = g.isSubtype a b := by
  have edges : h.Extends = g.Extends := by
    funext c supertype
    unfold Extends
    rw [same.directSupertypes]
  rw [Bool.eq_iff_iff, same.first.isSubtype_iff, same.second.isSubtype_iff, edges]

theorem successors {n m : Nat} (twins : Twins g h n m) :
    Forall₂ (Twins g h) (g.graph.successors n) (h.graph.successors m) := by
  obtain ⟨c, here, there⟩ := twins
  have direct := same.directSupertypes c
  simp only [Hierarchy.directSupertypes, here, there] at direct
  exact twins_of_filterMap same.first same.second (fun _ => same.first.graph.successor_lt)
    (fun _ => same.second.graph.successor_lt) direct

theorem search {n m : Nat} (twins : Twins g h n m) :
    Forall₂ (Twins g h) (g.graph.search n) (h.graph.search m) := by
  apply Digraph.rel_search (biUnique_twins same.first same.second) _ (fun _ _ => same.successors)
    twins
  rintro k l ⟨c, here, there⟩
  exact ⟨same.first.lt here, same.second.lt there⟩

theorem supertypes (c : ClassDescriptor) : h.supertypes c = g.supertypes c := by
  have placed := same.exists_place_iff c
  unfold Hierarchy.supertypes
  cases here : g.place? c with
  | none =>
    cases there : h.place? c with
    | none => rfl
    | some m =>
      obtain ⟨n, impossible⟩ := placed.1 ⟨m, there⟩
      rw [here] at impossible
      cases impossible
  | some n =>
    obtain ⟨m, there⟩ := placed.2 ⟨n, here⟩
    have found := same.search ⟨c, here, there⟩
    rw [there]
    dsimp only
    rw [← drop_one, ← drop_one]
    exact filterMap_of_twins same.first same.second (forall₂_drop 1 found)

variable (registry : ∀ a b, g.contains a = true → g.contains b = true → a.registry = b.registry)

theorem classes : h.classes.Perm g.classes := by
  rw [perm_ext_iff_of_nodup same.second.nodup_classes same.first.nodup_classes]
  intro c
  rw [same.first.mem_classes, same.second.mem_classes, same.exists_place_iff]

theorem edgeCount : h.edgeCount = g.edgeCount := by
  rw [same.first.edgeCount_eq, same.second.edgeCount_eq]
  rw [funext same.links]
  exact (same.classes.flatMap_right _).length_eq

theorem vertexCount : h.vertexCount = g.vertexCount := by
  unfold Hierarchy.vertexCount
  rw [← length_classes, ← length_classes, same.classes.length_eq]

include registry

theorem applicationClasses : h.applicationClasses = g.applicationClasses := by
  have one := same.second.ordered_applicationClasses
  simp only [same.kinds] at one
  apply one.eq same.first.ordered_applicationClasses
  have held : ∀ c, g.kind? c = some .application → g.contains c = true := by
    intro c told
    unfold Hierarchy.contains
    rw [← same.first.kind?_isSome, told]
    rfl
  intro a b told told'
  exact registry a b (held a told) (held b told')

theorem subtypes (c : ClassDescriptor) : h.subtypes c = g.subtypes c := by
  have one := same.second.ordered_subtypes c
  simp only [same.isSubtype] at one
  apply one.eq (same.first.ordered_subtypes c)
  have held : ∀ x, x ≠ c ∧ g.isSubtype x c = true → g.contains x = true := by
    rintro x ⟨apart, below⟩
    obtain ⟨source, -, placed, -⟩ := exists_place_of_isSubtype apart below
    unfold Hierarchy.contains
    rw [placed]
    rfl
  intro a b below below'
  exact registry a b (held a below) (held b below')

theorem answers : SameAnswers g h where
  contains := same.contains
  kind := same.kinds
  isApplication := by
    intro c
    unfold Hierarchy.isApplication
    rw [same.kinds]
  applicationClasses := same.applicationClasses registry
  isSubtype := same.isSubtype
  directSupertypes := same.directSupertypes
  supertypes := same.supertypes
  subtypes := same.subtypes registry
  vertexCount := same.vertexCount
  edgeCount := same.edgeCount

end Matches

end

end JvmFacts.Hierarchy
