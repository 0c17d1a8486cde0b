import JvmFacts.Proofs.Registry.Requests

/-!
How the descriptors of several registries compare. The order is total, and between the descriptors of
one registry it always decides. Between two registries it need not: each of them counts its ids from
one, so both may give the same id to descriptors that say the same.
-/

set_option autoImplicit false

namespace JvmFacts

namespace Registry

/-! ## The registry that made a class -/

/-- The registry keeps its token, and classes that are new carry it. -/
structure Stamps (r after : Registry) : Prop where
  token : after.token = r.token
  classes : ∀ c ∈ after.classes, c ∈ r.classes ∨ c.registry = r.token

instance : IsPreorder Registry Stamps where
  refl _ := ⟨rfl, fun _ held => Or.inl held⟩
  trans r mid after one two := by
    refine ⟨two.token.trans one.token, ?_⟩
    intro c held
    rcases two.classes c held with before | new
    · exact one.classes c before
    · exact Or.inr (new.trans one.token)

theorem stamps_addString (r : Registry) (value : String) : r.Stamps (r.addString value) where
  token := r.token_addString value
  classes := by
    intro c held
    rw [classes_addString] at held
    exact Or.inl held

theorem stamps_addClass (r : Registry) (name : String) : r.Stamps (r.addClass name).2 := by
  cases found : r.findClass? name with
  | some c =>
    rw [addClass_of_find found]
    exact refl_of Stamps r
  | none =>
    rw [addClass_of_absent found]
    have pushed : (r.addString name).Stamps ((r.addString name).pushClass (r.newClass name)) := by
      refine ⟨rfl, ?_⟩
      intro c held
      rcases List.mem_append.1 held with before | new
      · exact Or.inl before
      · rw [List.mem_singleton.1 new]
        exact Or.inr (r.token_addString name).symm
    exact trans_of Stamps (r.stamps_addString name) pushed

section

variable (r : Registry) {kind : MemberKind}

theorem stamps_pushMember (m : MemberDescriptor kind) : r.Stamps (r.pushMember m) where
  token := by
    cases kind <;> rfl
  classes := by
    intro c held
    rw [classes_pushMember] at held
    exact Or.inl held

variable (kind) (c : ClassDescriptor) (name signature : String) (isStatic : Bool)

theorem stamps_addMember : r.Stamps (addMember kind r c name signature isStatic).2 := by
  have texts : r.Stamps (r.withTexts name signature) :=
    trans_of Stamps (r.stamps_addString name) ((r.addString name).stamps_addString signature)
  rw [addMember_eq]
  split
  · exact texts
  · exact trans_of Stamps texts (stamps_pushMember _ _)

end

section

variable (r : Registry)

theorem stamps_internClass (name : String) :
    Work.Yields Stamps r (internClass name) fun _ _ => True := by
  unfold internClass
  cases checkClass name with
  | error why => exact Work.Yields.throw _
  | ok accepted => exact Work.Yields.modifyGet (r.stamps_addClass _) trivial

theorem stamps_internMember (kind : MemberKind) (owner name signature : String) (isStatic : Bool) :
    Work.Yields Stamps r (internMember kind owner name signature isStatic) fun _ _ => True := by
  unfold internMember
  cases checkMember kind name signature with
  | error why => exact Work.Yields.throw _
  | ok accepted =>
    apply (stamps_internClass r owner).bind
    intro c t _ _
    exact Work.Yields.modifyGet (t.stamps_addMember kind c name signature isStatic) trivial

theorem Request.stamps_work (q : Request) : Work.Yields Stamps r q.work fun _ _ => True := by
  cases q with
  | ofClass name => exact (stamps_internClass r name).map _
  | ofSignature signature => exact (stamps_internClass r _).map _
  | ofMember kind owner name signature isStatic =>
    cases kind <;> exact (stamps_internMember r _ owner name signature isStatic).map _
  | ofKind kind owner name signature isStatic =>
    rcases kind with _ | (_ | _)
    · exact (stamps_internClass r owner).map _
    · exact (stamps_internMember r .method owner name signature isStatic).map _
    · exact (stamps_internMember r .field owner name signature isStatic).map _

end

theorem stamps_serveAll (requests : List Request) (r : Registry) :
    r.Stamps (serveAll requests r).2 := by
  induction requests generalizing r with
  | nil => exact refl_of Stamps r
  | cons q rest ih => exact trans_of Stamps (q.stamps_work r).steps (ih _)

/-! ## Registries side by side -/

/-- One of several registries, after the requests that were made of it. -/
def served (histories : Nat → List Request) (i : Nat) : Registry :=
  (serveAll (histories i) { token := i }).2

section

variable (histories : Nat → List Request)

theorem wellFormed_served (i : Nat) : (served histories i).WellFormed :=
  (serveAll_spec (histories i) (wellFormed_start i)).1.wellFormed (wellFormed_start i)

variable {histories}

theorem registry_of_served {i : Nat} {c : ClassDescriptor} (held : c ∈ (served histories i).classes) :
    c.registry = i := by
  rcases (stamps_serveAll (histories i) { token := i }).classes c held with before | new
  · cases before
  · exact new

/-- A descriptor is told by the registry that holds it and by what it was asked for by. -/
theorem eq_iff_of_served {i j : Nat} {d e : Descriptor} (one : (served histories i).Holds d)
    (two : (served histories j).Holds e) : d = e ↔ i = j ∧ d.key = e.key := by
  constructor
  · rintro rfl
    have first := registry_of_served ((wellFormed_served histories i).owners d one)
    have second := registry_of_served ((wellFormed_served histories j).owners d two)
    exact ⟨first.symm.trans second, rfl⟩
  · rintro ⟨rfl, same⟩
    exact (wellFormed_served histories i).canonical d e one two same

end

/-! ## The order -/

/-- The order of the descriptors of one kind. It is total, and it ties two of them when they say the
same and have the same id. Descriptors of two registries are never the same, so that only such a tie
between registries sets the order against equality. -/
structure Compares (registries : Nat → Registry) {α : Type} [Ord α] (descriptor : α → Descriptor) :
    Prop where
  swap : ∀ a b : α, compare a b = (compare b a).swap
  trans : ∀ a b c : α, (compare a b).isLE = true → (compare b c).isLE = true →
    (compare a c).isLE = true
  tie : ∀ a b : α, compare a b = .eq ↔
    (descriptor a).key = (descriptor b).key ∧ (descriptor a).id = (descriptor b).id
  equal : ∀ i j a b, (registries i).Holds (descriptor a) → (registries j).Holds (descriptor b) →
    (a = b ↔ i = j ∧ compare a b = .eq)
  consistent : ∀ i j a b, (registries i).Holds (descriptor a) → (registries j).Holds (descriptor b) →
    ((compare a b = .eq ↔ a = b) ↔
      ((descriptor a).key = (descriptor b).key → (descriptor a).id = (descriptor b).id → i = j))

section

variable {histories : Nat → List Request} {α : Type} [Ord α]
  {descriptor : α → Descriptor} (injective : Function.Injective descriptor)
  (tie : ∀ a b, compare a b = .eq ↔
    (descriptor a).key = (descriptor b).key ∧ (descriptor a).id = (descriptor b).id)

include injective tie

theorem eq_iff_of_tie {i j : Nat} {a b : α} (one : (served histories i).Holds (descriptor a))
    (two : (served histories j).Holds (descriptor b)) : a = b ↔ i = j ∧ compare a b = .eq := by
  constructor
  · rintro rfl
    exact ⟨((eq_iff_of_served one two).1 rfl).1, (tie a a).2 ⟨rfl, rfl⟩⟩
  · rintro ⟨together, tied⟩
    exact injective ((eq_iff_of_served one two).2 ⟨together, ((tie a b).1 tied).1⟩)

theorem compares_of_tie [Std.TransOrd α] : Compares (served histories) descriptor where
  swap := fun _ _ => Std.OrientedCmp.eq_swap
  trans := fun _ _ _ => Std.TransCmp.isLE_trans
  tie := tie
  equal := fun _ _ _ _ => eq_iff_of_tie injective tie
  consistent := by
    intro i j a b one two
    rw [eq_iff_of_tie injective tie one two, iff_and_self, tie, and_imp]

end

theorem served_compares (histories : Nat → List Request) :
    Compares (served histories) Descriptor.ofClass ∧
      ∀ kind, Compares (served histories) (Descriptor.ofMember kind) := by
  constructor
  · apply compares_of_tie
    · intro a b
      exact Descriptor.ofClass.inj
    · intro a b
      rw [ClassDescriptor.compare_eq_iff]
      simp only [Descriptor.key, Descriptor.id, DescriptorKey.ofClass.injEq]
  · intro kind
    apply compares_of_tie (Descriptor.ofMember_injective kind)
    · intro a b
      rw [MemberDescriptor.compare_eq_iff]
      simp only [Descriptor.key_ofMember, Descriptor.id_ofMember, DescriptorKey.ofMember.injEq,
        true_and, and_assoc]

/-- The first class of either registry is its number one. -/
theorem served_compare_tie : ∃ a b : ClassDescriptor,
    a ∈ (served (fun _ => [.ofClass "a/B"]) 0).classes ∧
      b ∈ (served (fun _ => [.ofClass "a/B"]) 1).classes ∧ compare a b = .eq ∧ a ≠ b := by
  refine ⟨⟨0, 1, "a/B"⟩, ⟨1, 1, "a/B"⟩, ?_⟩
  decide +kernel

end Registry

end JvmFacts
