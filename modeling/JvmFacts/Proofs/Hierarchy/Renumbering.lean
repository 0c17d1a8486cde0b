import JvmFacts.Proofs.Hierarchy.Addition

/-!
Hierarchies of classes that have the same names and may have other ids.

Classes that were known before have their ids already, and each class is added under one of these. Only
the supertypes that its record speaks of may differ, and they have the same names.
-/

set_option autoImplicit false

namespace JvmFacts.Hierarchy

open List

/-- An edge as it reads. -/
def byName (link : ClassDescriptor × InheritanceKind) : String × InheritanceKind :=
  (link.1.name, link.2)

/-- By names the two additions are one; they mention the same of the known classes. -/
structure Addition.Renumbered (known : List ClassDescriptor) (a b : Addition) : Prop where
  descriptor : b.record.descriptor = a.record.descriptor
  isApplication : b.isApplication = a.isApplication
  supertypes : (supertypesOf b.record).map byName = (supertypesOf a.record).map byName
  mentions : ∀ c ∈ known,
    (c ∈ (supertypesOf b.record).map Prod.fst ↔ c ∈ (supertypesOf a.record).map Prod.fst)

/-- By names the two hierarchies say the same. -/
structure Renumbered (known : List ClassDescriptor) (g h : Hierarchy) : Prop where
  linked : ∀ c, c ∈ h.linked ↔ c ∈ g.linked
  kinds : ∀ c ∈ known, h.kind? c = g.kind? c
  links : ∀ c, (h.links c).map byName = (g.links c).map byName

section

variable {known : List ClassDescriptor} {g h after afterToo : Hierarchy}

theorem Renumbered.refl (known : List ClassDescriptor) (h : Hierarchy) : Renumbered known h h :=
  ⟨fun _ => Iff.rfl, fun _ _ => rfl, fun _ => rfl⟩

theorem Renumbered.add {a b : Addition} (same : Renumbered known g h)
    (renumbered : a.Renumbered known b) (sound : g.Sound) (soundToo : h.Sound)
    (ran : g.add a.record a.kind = .ok after) (ranToo : h.add b.record b.kind = .ok afterToo) :
    Renumbered known after afterToo := by
  have kind : b.kind = a.kind := by
    unfold Addition.kind
    rw [renumbered.isApplication]
  obtain ⟨grown, ok, added⟩ := sound.exists_add a.record a.kind
  obtain ⟨grownToo, okToo, addedToo⟩ := soundToo.exists_add b.record b.kind
  obtain rfl := Except.ok.inj (ok.symm.trans ran)
  obtain rfl := Except.ok.inj (okToo.symm.trans ranToo)
  constructor
  · intro c
    rw [added.linked, addedToo.linked, same.linked, renumbered.descriptor]
  · intro c held
    rw [sound.kind?_add a.record a.kind ran, soundToo.kind?_add b.record b.kind ranToo,
      sound.kind?_described, soundToo.kind?_described, same.kinds c held, kind,
      renumbered.descriptor]
    simp only [same.linked, renumbered.mentions c held]
  · intro c
    rw [added.links, addedToo.links, map_append, map_append, same.links, renumbered.descriptor]
    simp only [same.linked]
    split
    · rw [renumbered.supertypes]
    · rfl

/-- Additions that are one by names keep the hierarchies the same by names. -/
theorem Renumbered.addAll {additions others : List Addition} (same : Renumbered known g h)
    (renumbered : Forall₂ (Addition.Renumbered known) additions others) (sound : g.Sound)
    (soundToo : h.Sound) (ran : Hierarchy.addAll additions g = .ok after)
    (ranToo : Hierarchy.addAll others h = .ok afterToo) : Renumbered known after afterToo := by
  induction renumbered generalizing g h with
  | nil =>
    obtain rfl := Except.ok.inj ran
    obtain rfl := Except.ok.inj ranToo
    exact same
  | @cons a b rest restToo first _ ih =>
    obtain ⟨mid, ok, added⟩ := sound.exists_add a.record a.kind
    obtain ⟨midToo, okToo, addedToo⟩ := soundToo.exists_add b.record b.kind
    simp only [Hierarchy.addAll, ok] at ran
    simp only [Hierarchy.addAll, okToo] at ranToo
    exact ih (same.add first sound soundToo ok okToo) added.sound addedToo.sound ran ranToo

end

end JvmFacts.Hierarchy
