import JvmFacts.Proofs.Hierarchy.Listing
import JvmFacts.Proofs.Lists
import JvmFacts.Proofs.Table

/-!
How a hierarchy stands for the classes that were added to it, after any calls: which vertex is whose,
which kinds of vertices there are and how they change, and which edges leave them.
-/

set_option autoImplicit false

namespace JvmFacts

/-- How much is known of a class: that it was named, that it was added, that it was added as an
application class. -/
def VertexKind.rank : VertexKind → Nat
  | .unresolved => 0
  | .library => 1
  | .application => 2

theorem VertexKind.rank_upgrade {added : VertexKind} (resolved : 0 < added.rank)
    (old : VertexKind) : old.rank ≤ (VertexKind.upgrade added old).rank := by
  cases old with
  | application => exact Nat.le_refl _
  | library => exact resolved
  | unresolved => exact Nat.zero_le _

namespace Hierarchy

theorem Addition.rank_kind (a : Addition) : 0 < a.kind.rank := by
  unfold Addition.kind
  cases a.isApplication <;> decide

/-! ## One entry for each vertex -/

section

variable {h after : Hierarchy} (distinct : h.places.keys.Nodup)

include distinct

theorem nodup_ensure (c : ClassDescriptor) : (h.ensure c).2.places.keys.Nodup := by
  unfold ensure
  split
  · exact distinct
  · exact Table.nodup_keys_insert distinct

theorem nodup_link {node : Nat} {supertype : ClassDescriptor} {kind : InheritanceKind}
    (linked : h.link node supertype kind = .ok after) : after.places.keys.Nodup := by
  unfold link at linked
  cases drawn : (h.ensure supertype).2.graph.addEdge node (h.ensure supertype).1 kind with
  | error fault =>
    simp only [drawn, bind, Except.bind] at linked
    cases linked
  | ok graph =>
    simp only [drawn, bind, Except.bind, pure, Except.pure] at linked
    obtain rfl := Except.ok.inj linked
    exact nodup_ensure distinct supertype

omit distinct in
theorem nodup_linkAll {node : Nat} (edges : List (ClassDescriptor × InheritanceKind))
    {h : Hierarchy} (distinct : h.places.keys.Nodup) (linked : h.linkAll node edges = .ok after) :
    after.places.keys.Nodup := by
  induction edges generalizing h with
  | nil =>
    obtain rfl := Except.ok.inj linked
    exact distinct
  | cons edge rest ih =>
    unfold linkAll at linked
    cases first : h.link node edge.1 edge.2 with
    | error fault =>
      simp only [first] at linked
      cases linked
    | ok mid =>
      simp only [first] at linked
      exact ih (nodup_link distinct first) linked

theorem nodup_add {c : ResolvedClass} {kind : VertexKind} (ran : h.add c kind = .ok after) :
    after.places.keys.Nodup := by
  unfold add at ran
  simp only at ran
  split at ran
  · obtain rfl := Except.ok.inj ran
    exact nodup_ensure distinct c.descriptor
  · have marked : ((h.described c kind).mark c.descriptor).places.keys.Nodup :=
      nodup_ensure distinct c.descriptor
    exact nodup_linkAll _ marked ran

end

/-- A vertex stays where it is, whatever is added. -/
theorem Sound.place?_add {h after : Hierarchy} (sound : h.Sound) {c : ResolvedClass}
    {kind : VertexKind} (ran : h.add c kind = .ok after) {x : ClassDescriptor} {node : Nat}
    (placed : h.place? x = some node) : after.place? x = some node := by
  have first : (h.described c kind).place? x = some node := place?_ensure h c.descriptor placed
  by_cases linked : c.descriptor ∈ h.linked
  · rw [(sound.add_of_linked c kind linked).1] at ran
    obtain rfl := Except.ok.inj ran
    exact first
  · obtain ⟨drawn, ok, spec⟩ := sound.exists_drawn c kind linked
    obtain rfl := Except.ok.inj (ok.symm.trans ran)
    exact spec.place x node first

/-! ## What is known of a class -/

/-- From one hierarchy to a later one vertices stay, and of no class less is known. -/
structure Ascends (g h : Hierarchy) : Prop where
  place : ∀ c node, g.place? c = some node → h.place? c = some node
  kind : ∀ c old, g.kind? c = some old → ∃ new, h.kind? c = some new ∧ old.rank ≤ new.rank

theorem Ascends.refl (h : Hierarchy) : Ascends h h :=
  ⟨fun _ _ placed => placed, fun _ old held => ⟨old, held, Nat.le_refl _⟩⟩

theorem Ascends.trans {g mid h : Hierarchy} (one : Ascends g mid) (two : Ascends mid h) :
    Ascends g h where
  place := fun c node placed => two.place c node (one.place c node placed)
  kind := by
    intro c old held
    obtain ⟨between, there, first⟩ := one.kind c old held
    obtain ⟨new, here, second⟩ := two.kind c between there
    exact ⟨new, here, Nat.le_trans first second⟩

theorem Sound.ascends_add {h after : Hierarchy} (sound : h.Sound) {a : Addition}
    (ran : h.add a.record a.kind = .ok after) (added : Added h a.record a.kind after) :
    Ascends h after where
  place := fun _ _ => sound.place?_add ran
  kind := by
    intro c old held
    by_cases same : c = a.record.descriptor
    · subst same
      have now := added.kind_self
      rw [held, Option.getD_some] at now
      exact ⟨_, now, VertexKind.rank_upgrade a.rank_kind old⟩
    · rcases added.kind_other c same with kept | ⟨unknown, -⟩
      · exact ⟨old, kept.trans held, Nat.le_refl _⟩
      · rw [held] at unknown
        cases unknown

/-- The kind of a class that was added. -/
def kindOfAdded (additions : List Addition) (c : ClassDescriptor) : VertexKind :=
  if additions.any fun a => a.record.descriptor == c && a.isApplication then .application
  else .library

theorem kindOfAdded_eq_application {additions : List Addition} {c : ClassDescriptor} :
    kindOfAdded additions c = .application ↔
      ∃ a ∈ additions, a.record.descriptor = c ∧ a.isApplication = true := by
  simp [kindOfAdded]

theorem kindOfAdded_eq_library {additions : List Addition} {c : ClassDescriptor}
    (context : kindOfAdded additions c ≠ .application) : kindOfAdded additions c = .library := by
  unfold kindOfAdded at context ⊢
  split at context
  · exact absurd rfl context
  · rename_i none_applied
    exact if_neg none_applied

/-- What additions leave behind, as each further one finds it. -/
structure Standing (additions : List Addition) (h : Hierarchy) : Prop where
  tracks : Tracks additions h
  distinct : h.places.keys.Nodup
  added : ∀ c ∈ h.linked, h.kind? c = some (kindOfAdded additions c)
  named : ∀ c ∉ h.linked, h.kind? c = none ∨ h.kind? c = some .unresolved

theorem standing_empty : Standing [] empty where
  tracks := tracks_empty
  distinct := List.nodup_nil
  added := fun _ linked => absurd linked List.not_mem_nil
  named := fun _ _ => Or.inl rfl

section

variable {done : List Addition} {h after : Hierarchy} {a : Addition} (standing : Standing done h)
  (added : Added h a.record a.kind after)

include standing added

theorem Standing.kind_self : after.kind? a.record.descriptor =
    some (kindOfAdded (done ++ [a]) a.record.descriptor) := by
  rw [added.kind_self]
  congr 1
  by_cases linked : a.record.descriptor ∈ h.linked
  · rw [standing.added _ linked, Option.getD_some]
    simp only [kindOfAdded, List.any_append, List.any_cons, List.any_nil, Bool.or_false, BEq.rfl,
      Bool.true_and]
    generalize done.any (fun b => b.record.descriptor == a.record.descriptor && b.isApplication) =
      applied
    unfold Addition.kind VertexKind.upgrade
    cases applied <;> cases a.isApplication <;> rfl
  · have first : (h.kind? a.record.descriptor).getD .unresolved = .unresolved := by
      rcases standing.named _ linked with unknown | named
      · rw [unknown]
        rfl
      · rw [named]
        rfl
    have none_before : done.any (fun b =>
        b.record.descriptor == a.record.descriptor && b.isApplication) = false := by
      rw [List.any_eq_false]
      intro b held hit
      rw [Bool.and_eq_true, beq_iff_eq] at hit
      exact linked ((standing.tracks.linked _).2 ⟨b, held, hit.1⟩)
    rw [first]
    simp only [kindOfAdded, List.any_append, List.any_cons, List.any_nil, Bool.or_false, BEq.rfl,
      Bool.true_and, none_before, Bool.false_or]
    rfl

omit standing added in
theorem kindOfAdded_other {c : ClassDescriptor} (apart : c ≠ a.record.descriptor) :
    kindOfAdded (done ++ [a]) c = kindOfAdded done c := by
  have miss : (a.record.descriptor == c) = false := beq_eq_false_iff_ne.2 (Ne.symm apart)
  simp only [kindOfAdded, List.any_append, List.any_cons, List.any_nil, miss, Bool.false_and,
    Bool.or_false]

theorem Standing.step (ran : h.add a.record a.kind = .ok after) : Standing (done ++ [a]) after where
  tracks := standing.tracks.step added
  distinct := nodup_add standing.distinct ran
  added := by
    intro c linked
    by_cases same : c = a.record.descriptor
    · rw [same, standing.kind_self added]
    · have before := ((added.linked c).1 linked).resolve_right same
      have told := standing.added c before
      rw [kindOfAdded_other same]
      rcases added.kind_other c same with kept | ⟨unknown, -⟩
      · exact kept.trans told
      · rw [told] at unknown
        cases unknown
  named := by
    intro c unlinked
    rw [added.linked, not_or] at unlinked
    obtain ⟨before, apart⟩ := unlinked
    rcases added.kind_other c apart with kept | ⟨-, named⟩
    · rw [kept]
      exact standing.named c before
    · exact Or.inr named

end

theorem Standing.exists_addAll (rest : List Addition) {done : List Addition} {h : Hierarchy}
    (standing : Standing done h) :
    ∃ after, addAll rest h = .ok after ∧ Standing (done ++ rest) after ∧ Ascends h after := by
  induction rest generalizing done h with
  | nil =>
    rw [List.append_nil]
    exact ⟨h, rfl, standing, Ascends.refl h⟩
  | cons a rest ih =>
    have sound := standing.tracks.sound
    obtain ⟨mid, ran, added⟩ := sound.exists_add a.record a.kind
    obtain ⟨after, all, more, higher⟩ := ih (standing.step added ran)
    refine ⟨after, ?_, ?_, (sound.ascends_add ran added).trans higher⟩
    · simp only [addAll, ran, all]
    · rw [List.append_cons]
      exact more

/-! ## What a hierarchy stands for -/

/-- The edges that leave a vertex are these, in this order, each with its label. -/
def Leave (h : Hierarchy) (node : Nat) (edges : List (ClassDescriptor × InheritanceKind)) : Prop :=
  List.Forall₂ (fun e supertype => e.source = node ∧
    h.descriptorAt? e.target = some supertype.1 ∧ e.label = supertype.2)
    (h.graph.edgesFrom node) edges

theorem Sound.leave_links {h : Hierarchy} (sound : h.Sound) {c : ClassDescriptor} {node : Nat}
    (placed : h.place? c = some node) : h.Leave node (h.links c) := by
  rw [links_of_place placed]
  have targets : ∀ e ∈ h.graph.edgesFrom node,
      ((h.descriptorAt? e.target).map (·, e.label)).isSome := by
    intro e leaves
    obtain ⟨other, there, -⟩ := sound.placed_of_lt (sound.graph.target_lt leaves)
    rw [there]
    rfl
  have sources : ∀ e ∈ h.graph.edgesFrom node, e.source = node := by
    intro e leaves
    rw [sound.graph.edgesFrom, List.mem_filter, beq_iff_eq] at leaves
    exact leaves.2
  refine (List.forall₂_and_left _ _).2 ⟨sources, (paired_filterMap targets).imp ?_⟩
  intro e supertype told
  obtain ⟨other, there, rfl⟩ := Option.map_eq_some_iff.1 told
  exact ⟨there, rfl⟩

/-- A hierarchy stands for the classes that were added to it. -/
structure Represents (additions : List Addition) (h : Hierarchy) : Prop where
  /-- A class has a vertex just when that vertex carries it, so it has one, and no other carries it. -/
  place : ∀ c node, h.place? c = some node ↔ h.descriptorAt? node = some c
  /-- There is one entry for each vertex, and each vertex has a class of its own. -/
  entries : h.places.keys.Perm h.classes
  distinct : h.classes.Nodup
  linked : ∀ c, c ∈ h.linked ↔ ∃ a ∈ additions, a.record.descriptor = c
  resolved : ∀ c, c ∈ h.linked ↔ h.kind? c = some .application ∨ h.kind? c = some .library
  application : ∀ c, h.kind? c = some .application ↔
    ∃ a ∈ additions, a.record.descriptor = c ∧ a.isApplication = true
  /-- A class that was only named is unresolved, and nothing leaves its vertex. -/
  unlinked : ∀ c node, h.place? c = some node → c ∉ h.linked →
    h.kind? c = some .unresolved ∧ h.graph.edgesFrom node = []
  /-- From the vertex of a class that was added, its superclass and its interfaces are reached as
  they were when it was added first. -/
  edges : ∀ c a, firstOf? additions c = some a →
    ∃ node, h.place? c = some node ∧ h.Leave node (supertypesOf a.record)

theorem Standing.represents {additions : List Addition} {h : Hierarchy}
    (standing : Standing additions h) : Represents additions h where
  place := standing.tracks.sound.place
  entries := by
    rw [List.perm_ext_iff_of_nodup standing.distinct standing.tracks.sound.nodup_classes]
    intro c
    rw [Table.mem_keys_iff, standing.tracks.sound.mem_classes]
    rfl
  distinct := standing.tracks.sound.nodup_classes
  linked := standing.tracks.linked
  resolved := by
    intro c
    constructor
    · intro linked
      rw [standing.added c linked]
      by_cases applied : kindOfAdded additions c = .application
      · exact Or.inl (congrArg some applied)
      · exact Or.inr (congrArg some (kindOfAdded_eq_library applied))
    · intro known
      by_contra unlinked
      rcases standing.named c unlinked with told | told <;> rw [told] at known <;> simp at known
  application := by
    intro c
    by_cases linked : c ∈ h.linked
    · rw [standing.added c linked, Option.some.injEq, kindOfAdded_eq_application]
    · have absent : ¬ ∃ a ∈ additions, a.record.descriptor = c ∧ a.isApplication = true := by
        rintro ⟨a, member, same, -⟩
        exact linked ((standing.tracks.linked c).2 ⟨a, member, same⟩)
      refine iff_of_false ?_ absent
      intro applied
      rcases standing.named c linked with told | told <;> rw [told] at applied <;> cases applied
  unlinked := by
    intro c node placed unlinked
    have sound := standing.tracks.sound
    constructor
    · obtain ⟨v, held, -⟩ := sound.vertex placed
      refine (standing.named c unlinked).resolve_left ?_
      rw [kind?_of_place placed, held]
      exact Option.some_ne_none _
    · have none_declared : h.links c = [] := by
        have never : firstOf? additions c = none :=
          firstOf?_eq_none.2 fun added => unlinked ((standing.tracks.linked c).2 added)
        rw [standing.tracks.links, never]
        rfl
      have counted := sound.length_links placed
      rw [none_declared, List.length_nil] at counted
      exact List.length_eq_zero_iff.1 counted.symm
  edges := by
    intro c a first
    have linked : c ∈ h.linked := (standing.tracks.linked c).2 ⟨a, of_firstOf? first⟩
    have declared : h.links c = supertypesOf a.record := by
      rw [standing.tracks.links, first]
      rfl
    cases placed : h.place? c with
    | none =>
      have known := standing.added c linked
      rw [kind?_of_absent placed] at known
      cases known
    | some node =>
      refine ⟨node, rfl, ?_⟩
      rw [← declared]
      exact standing.tracks.sound.leave_links placed

/-- Whatever classes are added, adding never fails; what is there after the first of them, and
again after all, stands for what was added, and in between every class keeps its vertex and is known
at least as well. -/
theorem represents_addAll (earlier later : List Addition) :
    ∃ g h, addAll earlier empty = .ok g ∧ addAll later g = .ok h ∧ Represents earlier g ∧
      Represents (earlier ++ later) h ∧ Ascends g h := by
  obtain ⟨g, first, early, -⟩ := standing_empty.exists_addAll earlier
  obtain ⟨h, second, late, higher⟩ := early.exists_addAll later
  exact ⟨g, h, first, second, early.represents, late.represents, higher⟩

end Hierarchy

end JvmFacts
