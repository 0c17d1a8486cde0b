import JvmFacts.Proofs.Hierarchy.Order

/-!
Whether a class is below another one can be asked of either class or of both. The three answers agree
in every hierarchy that classes were added to, cycles and repeated interfaces included, and no class
is listed above or below itself.
-/

set_option autoImplicit false

namespace JvmFacts.Hierarchy

open Relation

/-! ## Classes that have a vertex -/

/-- Adding a class gives a vertex to no others than the class and its supertypes. -/
theorem Sound.known_add {h after : Hierarchy} (sound : h.Sound) {c : ResolvedClass} {kind : VertexKind}
    (ran : h.add c kind = .ok after) {x : ClassDescriptor} (known : (after.kind? x).isSome) :
    (h.kind? x).isSome ∨ x ∈ c.descriptor :: (supertypesOf c).map Prod.fst := by
  rw [sound.kind?_add c kind ran, Option.isSome_or, Bool.or_eq_true, sound.kind?_described] at known
  rcases known with before | named
  · by_cases same : c.descriptor = x
    · exact Or.inr (List.mem_cons.2 (Or.inl same.symm))
    · rw [if_neg same] at before
      exact Or.inl before
  · split at named
    · rename_i drawn
      exact Or.inr (List.mem_cons_of_mem _ drawn.2)
    · cases named

theorem Sound.known_addAll {additions : List Addition} {h after : Hierarchy} (sound : h.Sound)
    (ran : addAll additions h = .ok after) {x : ClassDescriptor} (known : (after.kind? x).isSome) :
    (h.kind? x).isSome ∨
      ∃ a ∈ additions, x ∈ a.record.descriptor :: (supertypesOf a.record).map Prod.fst := by
  induction additions generalizing h with
  | nil =>
    obtain rfl := Except.ok.inj ran
    exact Or.inl known
  | cons a rest ih =>
    obtain ⟨mid, first, added⟩ := sound.exists_add a.record a.kind
    simp only [addAll, first] at ran
    rcases ih added.sound ran with before | ⟨b, member, named⟩
    · rcases sound.known_add first before with earlier | named
      · exact Or.inl earlier
      · exact Or.inr ⟨a, List.mem_cons_self .., named⟩
    · exact Or.inr ⟨b, List.mem_cons_of_mem _ member, named⟩

/-! ## Three questions -/

/-- What a class is asked about its supertypes, its subtypes and about one other class comes to the
same, and lists hold neither the class itself nor any other one twice. -/
structure Agrees (h : Hierarchy) : Prop where
  isSubtype : ∀ a b, h.isSubtype a b = true ↔ ReflTransGen h.Extends a b
  supertypes : ∀ a b, a ≠ b → (b ∈ h.supertypes a ↔ h.isSubtype a b = true)
  subtypes : ∀ a b, a ≠ b → (a ∈ h.subtypes b ↔ h.isSubtype a b = true)
  proper : ∀ a, a ∉ h.supertypes a ∧ a ∉ h.subtypes a
  distinct : ∀ a, (h.supertypes a).Nodup ∧ (h.subtypes a).Nodup
  ascending : ∀ a, (h.subtypes a).Pairwise fun x y => compare x y = .lt

theorem Sound.agrees {h : Hierarchy} (sound : h.Sound)
    (registry : ∀ a b, h.contains a = true → h.contains b = true → a.registry = b.registry) :
    h.Agrees where
  isSubtype := fun _ _ => sound.isSubtype_iff
  supertypes := by
    intro a b apart
    rw [sound.mem_supertypes, and_iff_right (Ne.symm apart)]
  subtypes := by
    intro a b apart
    rw [(sound.ordered_subtypes b).mem_iff, and_iff_right apart]
  proper := by
    intro a
    constructor
    · intro above
      exact (sound.mem_supertypes.1 above).1 rfl
    · intro below
      exact (((sound.ordered_subtypes a).mem_iff a).1 below).1 rfl
  distinct := fun a => ⟨sound.nodup_supertypes a, (sound.ordered_subtypes a).distinct⟩
  ascending := by
    intro a
    apply (sound.ordered_subtypes a).strict
    have held : ∀ x, x ≠ a ∧ h.isSubtype x a = true → h.contains x = true := by
      rintro x ⟨apart, below⟩
      obtain ⟨source, -, placed, -⟩ := exists_place_of_isSubtype apart below
      unfold contains
      rw [placed]
      rfl
    intro x y first second
    exact registry x y (held x first) (held y second)

theorem addAll_agrees (additions : List Addition) {token : Nat}
    (registry : OfRegistry token additions) :
    ∃ h, addAll additions empty = .ok h ∧ h.Agrees := by
  obtain ⟨h, ran, tracks⟩ := tracks_empty.exists_addAll additions
  refine ⟨h, ran, tracks.sound.agrees ?_⟩
  have token_of : ∀ c, h.contains c = true → c.registry = token := by
    intro c held
    unfold contains at held
    rw [← tracks.sound.kind?_isSome] at held
    rcases sound_empty.known_addAll ran held with nowhere | ⟨a, member, named⟩
    · cases nowhere
    · exact registry a member c named
  intro a b first second
  rw [token_of a first, token_of b second]

theorem addAll_agrees_cycle : OfRegistry 0 cycle ∧
    ∃ h, addAll cycle empty = .ok h ∧ h.Agrees := by
  have registry : OfRegistry 0 cycle := by decide
  exact ⟨registry, addAll_agrees cycle registry⟩

end JvmFacts.Hierarchy
