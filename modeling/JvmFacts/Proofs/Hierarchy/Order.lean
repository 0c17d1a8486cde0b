import JvmFacts.Proofs.Hierarchy.Answers

/-!
The order in which classes are added makes no difference to any answer, as long as each class always
comes with the same supertypes.
-/

set_option autoImplicit false

namespace JvmFacts.Hierarchy

/-! ## Kinds -/

/-- The kind of a class once these classes were added: to be added as an application class outweighs
all else, and to be added outweighs being named. -/
def kindAfter (additions : List Addition) (c : ClassDescriptor) : Option VertexKind :=
  if additions.any fun a => a.record.descriptor == c && a.isApplication then some .application
  else if additions.any fun a => a.record.descriptor == c then some .library
  else if additions.any fun a => ((supertypesOf a.record).map Prod.fst).contains c then
    some .unresolved
  else none

theorem kindAfter_perm {additions permuted : List Addition} (perm : additions.Perm permuted)
    (c : ClassDescriptor) : kindAfter permuted c = kindAfter additions c := by
  unfold kindAfter
  rw [perm.any_eq, perm.any_eq, perm.any_eq]

/-- A class has a kind only if an addition mentions it. -/
theorem exists_of_kindAfter {additions : List Addition} {c : ClassDescriptor}
    (known : (kindAfter additions c).isSome) :
    ∃ a ∈ additions, c ∈ a.record.descriptor :: (supertypesOf a.record).map Prod.fst := by
  unfold kindAfter at known
  split at known
  · rename_i applied
    obtain ⟨a, member, hit⟩ := List.any_eq_true.1 applied
    rw [Bool.and_eq_true, beq_iff_eq] at hit
    exact ⟨a, member, List.mem_cons.2 (Or.inl hit.1.symm)⟩
  · split at known
    · rename_i added
      obtain ⟨a, member, hit⟩ := List.any_eq_true.1 added
      exact ⟨a, member, List.mem_cons.2 (Or.inl (beq_iff_eq.1 hit).symm)⟩
    · split at known
      · rename_i named
        obtain ⟨a, member, hit⟩ := List.any_eq_true.1 named
        exact ⟨a, member, List.mem_cons_of_mem _ (List.contains_iff_mem.1 hit)⟩
      · cases known

theorem Consistent.mono {additions fewer : List Addition} (consistent : Consistent additions)
    (subset : fewer ⊆ additions) : Consistent fewer :=
  fun a first b second => consistent a (subset first) b (subset second)

theorem Consistent.supertypesOf_eq {additions : List Addition} (consistent : Consistent additions)
    {a b : Addition} (first : a ∈ additions) (second : b ∈ additions)
    (same : a.record.descriptor = b.record.descriptor) :
    supertypesOf a.record = supertypesOf b.record := by
  obtain ⟨superclass, interfaces⟩ := consistent a first b second same
  unfold supertypesOf
  rw [superclass, interfaces]

section

variable {done : List Addition} {h after : Hierarchy}

/-- The supertypes of a class that was added before have their vertices already. -/
theorem Tracks.named_of_linked {a : Addition} (tracks : Tracks done h)
    (consistent : Consistent (done ++ [a])) {c : ClassDescriptor}
    (linked : a.record.descriptor ∈ h.linked) (member : c ∈ (supertypesOf a.record).map Prod.fst) :
    done.any (fun b => ((supertypesOf b.record).map Prod.fst).contains c) = true := by
  obtain ⟨b, held, same⟩ := (tracks.linked _).1 linked
  have supertypes := consistent.supertypesOf_eq (List.mem_append_left _ held)
    (List.mem_append_right _ (List.mem_singleton_self a)) same
  rw [List.any_eq_true]
  refine ⟨b, held, List.contains_iff_mem.2 ?_⟩
  rw [supertypes]
  exact member

/-- Adding one more class gives every class the kind that it has after all of them. -/
theorem Tracks.kindAfter_step {a : Addition} (tracks : Tracks done h)
    (consistent : Consistent (done ++ [a])) (kinds : ∀ c, h.kind? c = kindAfter done c)
    (ran : h.add a.record a.kind = .ok after) (c : ClassDescriptor) :
    after.kind? c = kindAfter (done ++ [a]) c := by
  have named := fun linked => tracks.named_of_linked consistent (c := c) linked
  rw [tracks.sound.kind?_add a.record a.kind ran, tracks.sound.kind?_described, kinds]
  unfold kindAfter
  simp only [List.any_append, List.any_cons, List.any_nil, Bool.or_false]
  generalize done.any (fun b => ((supertypesOf b.record).map Prod.fst).contains c) = below at named
  generalize done.any (fun b => b.record.descriptor == c && b.isApplication) = applied
  generalize done.any (fun b => b.record.descriptor == c) = added
  by_cases same : a.record.descriptor = c
  · have hit : (a.record.descriptor == c) = true := beq_iff_eq.2 same
    rw [if_pos same, hit, Bool.true_and, Option.some_or]
    unfold Addition.kind VertexKind.upgrade
    cases applied <;> cases added <;> cases below <;> cases a.isApplication <;> rfl
  · have miss : (a.record.descriptor == c) = false := beq_eq_false_iff_ne.2 same
    rw [if_neg same, miss, Bool.false_and, Bool.or_false, Bool.or_false]
    by_cases member : c ∈ (supertypesOf a.record).map Prod.fst
    · rw [List.contains_iff_mem.2 member, Bool.or_true]
      by_cases linked : a.record.descriptor ∈ h.linked
      · have drawn : ¬ (a.record.descriptor ∉ h.linked ∧
            c ∈ (supertypesOf a.record).map Prod.fst) := fun both => both.1 linked
        rw [named linked member, if_neg drawn, Option.or_none]
      · have draws : a.record.descriptor ∉ h.linked ∧
            c ∈ (supertypesOf a.record).map Prod.fst := ⟨linked, member⟩
        rw [if_pos draws]
        cases applied <;> cases added <;> cases below <;> rfl
    · have absent : ((supertypesOf a.record).map Prod.fst).contains c = false :=
        Bool.eq_false_iff.2 fun held => member (List.contains_iff_mem.1 held)
      have untouched : ¬ (a.record.descriptor ∉ h.linked ∧
          c ∈ (supertypesOf a.record).map Prod.fst) := fun both => member both.2
      rw [absent, Bool.or_false, if_neg untouched, Option.or_none]

theorem Tracks.kindAfter_addAll (rest : List Addition) (tracks : Tracks done h)
    (consistent : Consistent (done ++ rest)) (kinds : ∀ c, h.kind? c = kindAfter done c)
    (ran : addAll rest h = .ok after) (c : ClassDescriptor) :
    after.kind? c = kindAfter (done ++ rest) c := by
  induction rest generalizing done h with
  | nil =>
    obtain rfl := Except.ok.inj ran
    rw [List.append_nil, kinds]
  | cons a rest ih =>
    obtain ⟨mid, first, added⟩ := tracks.sound.exists_add a.record a.kind
    simp only [addAll, first] at ran
    rw [List.append_cons] at consistent ⊢
    have step := tracks.kindAfter_step (consistent.mono (List.subset_append_left _ rest)) kinds first
    exact ih (tracks.step added) consistent step ran

end

/-! ## Orders -/

/-- All classes that the additions mention are of one registry. -/
def OfRegistry (token : Nat) (additions : List Addition) : Prop :=
  ∀ a ∈ additions, ∀ c ∈ a.record.descriptor :: (supertypesOf a.record).map Prod.fst,
    c.registry = token

instance (token : Nat) (additions : List Addition) : Decidable (OfRegistry token additions) :=
  inferInstanceAs (Decidable (∀ a ∈ additions,
    ∀ c ∈ a.record.descriptor :: (supertypesOf a.record).map Prod.fst, c.registry = token))

theorem OfRegistry.registry_eq {token : Nat} {additions : List Addition}
    (registry : OfRegistry token additions) {c : ClassDescriptor}
    (known : (kindAfter additions c).isSome) : c.registry = token := by
  obtain ⟨a, member, held⟩ := exists_of_kindAfter known
  exact registry a member c held

theorem links_perm {additions permuted : List Addition} (perm : additions.Perm permuted)
    (consistent : Consistent additions) (c : ClassDescriptor) :
    (firstOf? permuted c).map (supertypesOf ·.record) =
      (firstOf? additions c).map (supertypesOf ·.record) := by
  cases first : firstOf? additions c with
  | none =>
    have nowhere := firstOf?_eq_none.1 first
    simp only [perm.mem_iff] at nowhere
    rw [firstOf?_eq_none.2 nowhere]
  | some a =>
    obtain ⟨held, same⟩ := of_firstOf? first
    cases second : firstOf? permuted c with
    | none => exact absurd ⟨a, perm.mem_iff.1 held, same⟩ (firstOf?_eq_none.1 second)
    | some b =>
      obtain ⟨there, same'⟩ := of_firstOf? second
      rw [Option.map_some, Option.map_some,
        consistent.supertypesOf_eq (perm.mem_iff.2 there) held (same'.trans same.symm)]

/-- Classes may be added in any order. -/
theorem addAll_perm {additions permuted : List Addition} (perm : additions.Perm permuted)
    (consistent : Consistent additions) {token : Nat} (registry : OfRegistry token additions) :
    ∃ g h, addAll additions empty = .ok g ∧ addAll permuted empty = .ok h ∧ SameAnswers g h := by
  have consistent' : Consistent permuted := consistent.mono perm.symm.subset
  obtain ⟨g, ran, tracks⟩ := tracks_empty.exists_addAll additions
  obtain ⟨h, ran', tracks'⟩ := tracks_empty.exists_addAll permuted
  have bare : ∀ c, empty.kind? c = kindAfter [] c := fun c => rfl
  have kinds := tracks_empty.kindAfter_addAll additions consistent bare ran
  have kinds' := tracks_empty.kindAfter_addAll permuted consistent' bare ran'
  rw [List.nil_append] at tracks tracks' kinds kinds'
  have same : Matches g h := by
    refine ⟨tracks.sound, tracks'.sound, ?_, ?_⟩
    · intro c
      rw [kinds, kinds', kindAfter_perm perm]
    · intro c
      rw [tracks.links, tracks'.links, links_perm perm consistent]
  refine ⟨g, h, ran, ran', same.answers ?_⟩
  have known : ∀ c, g.contains c = true → c.registry = token := by
    intro c held
    unfold Hierarchy.contains at held
    rw [← tracks.sound.kind?_isSome, kinds] at held
    exact registry.registry_eq held
  intro a b first second
  rw [known a first, known b second]

theorem addAll_reverse_cycle : cycle.Perm cycle.reverse ∧ Consistent cycle ∧ OfRegistry 0 cycle ∧
    ∃ g h, addAll cycle empty = .ok g ∧ addAll cycle.reverse empty = .ok h ∧ SameAnswers g h := by
  have perm : cycle.Perm cycle.reverse := (List.reverse_perm cycle).symm
  have consistent : Consistent cycle := by decide
  have registry : OfRegistry 0 cycle := by decide
  exact ⟨perm, consistent, registry, addAll_perm perm consistent registry⟩

end JvmFacts.Hierarchy
