import JvmFacts.Proofs.Method.Facts
import JvmFacts.Proofs.Table

/-!
Making methods once more. A mark is taken once and a target that is written again keeps its place, so
the tables change only if the makings tell something new of a method; and drafts that were all built
tell nothing new as long as no later draft of the same method brought another target.
-/

set_option autoImplicit false

namespace JvmFacts

open List

/-! ## Marks and targets one after the other -/

namespace FactTables

def markAll (holds : PreparedMethod → Bool) (prepared : List PreparedMethod) (ids : List Nat) :
    List Nat :=
  prepared.foldl (fun ids p => insertIf (holds p) p.body.descriptor.id ids) ids

def targetAll {α : Type} (value : PreparedMethod → Option α) (prepared : List PreparedMethod)
    (t : Table Nat α) : Table Nat α :=
  prepared.foldl (fun t p => insertSome p.body.descriptor.id (value p) t) t

/-- The tables are written to side by side. -/
theorem foldl_record (prepared : List PreparedMethod) (t : FactTables) :
    prepared.foldl record t =
      { throwers := markAll (·.alwaysThrows) prepared t.throwers
        unsupported := markAll (·.isUnsupported) prepared t.unsupported
        identities := markAll (·.isIdentity) prepared t.identities
        forwards := targetAll (·.forwardsTo) prepared t.forwards
        accesses := targetAll (·.accesses) prepared t.accesses } := by
  induction prepared generalizing t with
  | nil => rfl
  | cons p rest ih => exact ih (t.record p)

section

variable {holds : PreparedMethod → Bool} {prepared : List PreparedMethod} {ids : List Nat}

theorem markAll_cons (p : PreparedMethod) : markAll holds (p :: prepared) ids =
    markAll holds prepared (insertIf (holds p) p.body.descriptor.id ids) :=
  rfl

theorem mem_markAll {id : Nat} (held : id ∈ ids) : id ∈ markAll holds prepared ids := by
  induction prepared generalizing ids with
  | nil => exact held
  | cons p rest ih => exact ih ((mem_insertIf ..).2 (Or.inl held))

/-- Where no mark is new in the end, none was taken on the way. -/
theorem markAll_eq_self
    (known : ∀ p ∈ prepared, p.body.descriptor.id ∈ markAll holds prepared ids →
      p.body.descriptor.id ∈ ids) : markAll holds prepared ids = ids := by
  induction prepared generalizing ids with
  | nil => rfl
  | cons p rest ih =>
    rw [markAll_cons] at known ⊢
    have kept : insertIf (holds p) p.body.descriptor.id ids = ids := by
      apply if_neg
      intro new
      obtain ⟨marks, absent⟩ := Bool.and_eq_true_iff.1 new
      have marked : p.body.descriptor.id ∈ insertIf (holds p) p.body.descriptor.id ids :=
        (mem_insertIf ..).2 (Or.inr ⟨marks, rfl⟩)
      have held := known p (mem_cons_self ..) (mem_markAll marked)
      rw [contains_iff_mem.2 held] at absent
      cases absent
    rw [kept] at known ⊢
    exact ih fun q member => known q (mem_cons_of_mem p member)

end

section

variable {α : Type} {value : PreparedMethod → Option α} {prepared : List PreparedMethod}
  {t : Table Nat α}

theorem mem_keys_insertSome {id other : Nat} {target : Option α} :
    other ∈ (insertSome id target t).keys ↔
      other ∈ t.keys ∨ (id = other ∧ target.isSome = true) := by
  rw [Table.mem_keys_iff, Table.mem_keys_iff, find?_insertSome]
  by_cases same : id = other
  · cases target <;> simp [same]
  · simp [same]

theorem targetAll_cons (p : PreparedMethod) : targetAll value (p :: prepared) t =
    targetAll value prepared (insertSome p.body.descriptor.id (value p) t) :=
  rfl

theorem mem_keys_targetAll {id : Nat} (held : id ∈ t.keys) :
    id ∈ (targetAll value prepared t).keys := by
  induction prepared generalizing t with
  | nil => exact held
  | cons p rest ih => exact ih (mem_keys_insertSome.2 (Or.inl held))

theorem nodup_keys_targetAll (distinct : t.keys.Nodup) : (targetAll value prepared t).keys.Nodup := by
  induction prepared generalizing t with
  | nil => exact distinct
  | cons p rest ih =>
    rw [targetAll_cons]
    apply ih
    cases value p with
    | none => exact distinct
    | some target => exact Table.nodup_keys_insert distinct

/-- Where no id is new in the end, none was added on the way. -/
theorem keys_targetAll
    (known : ∀ p ∈ prepared, p.body.descriptor.id ∈ (targetAll value prepared t).keys →
      p.body.descriptor.id ∈ t.keys) : (targetAll value prepared t).keys = t.keys := by
  induction prepared generalizing t with
  | nil => rfl
  | cons p rest ih =>
    rw [targetAll_cons] at known ⊢
    have kept : (insertSome p.body.descriptor.id (value p) t).keys = t.keys := by
      cases brings : value p with
      | none => rfl
      | some target =>
        have added : p.body.descriptor.id ∈ (insertSome p.body.descriptor.id (value p) t).keys :=
          mem_keys_insertSome.2 (Or.inr ⟨rfl, by rw [brings]; rfl⟩)
        have held := known p (mem_cons_self ..) (mem_keys_targetAll added)
        exact Table.keys_insert_of_mem held target
    rw [← kept]
    apply ih
    intro q member present
    rw [kept]
    exact known q (mem_cons_of_mem p member) present

/-- Targets that count in the end as they counted before are written over by themselves. -/
theorem targetAll_eq_self (distinct : t.keys.Nodup)
    (same : ∀ id, (targetAll value prepared t).find? id = t.find? id) :
    targetAll value prepared t = t := by
  apply Table.ext_of_keys distinct _ same
  apply keys_targetAll
  intro p _ present
  rw [Table.mem_keys_iff, ← same, ← Table.mem_keys_iff]
  exact present

end

/-- Each method has its targets in one place. -/
structure Keyed (t : FactTables) : Prop where
  forwards : t.forwards.keys.Nodup
  accesses : t.accesses.keys.Nodup

theorem keyed_foldl (prepared : List PreparedMethod) : Keyed (prepared.foldl record .empty) := by
  rw [foldl_record]
  exact ⟨nodup_keys_targetAll nodup_nil, nodup_keys_targetAll nodup_nil⟩

/-- Makings that leave what is told of every method leave the tables. -/
theorem foldl_record_eq_self {prepared : List PreparedMethod} {t : FactTables} (keyed : Keyed t)
    (agree : ∀ id, Agree id t (prepared.foldl record t)) : prepared.foldl record t = t := by
  have marks : ∀ {holds : PreparedMethod → Bool} {ids : List Nat},
      (∀ id, (markAll holds prepared ids).contains id = ids.contains id) →
      markAll holds prepared ids = ids := by
    intro holds ids same
    apply markAll_eq_self
    intro p _ marked
    rw [← contains_iff_mem, ← same, contains_iff_mem]
    exact marked
  rw [foldl_record] at agree ⊢
  rw [marks fun id => (agree id).alwaysThrows, marks fun id => (agree id).isUnsupported,
    marks fun id => (agree id).isIdentity,
    targetAll_eq_self keyed.forwards fun id => (agree id).forwardsTo,
    targetAll_eq_self keyed.accesses fun id => (agree id).accesses]

end FactTables

/-! ## Drafts that were built -/

/-- The last target that a draft of this method brought. -/
def lastTarget? (value : MethodDraft → Option MemberReference) (key : DescriptorKey)
    (built : List MethodDraft) : Option MemberReference :=
  ((built.filter (·.key = key)).filterMap value).getLast?

theorem lastTarget?_append (value : MethodDraft → Option MemberReference) (key : DescriptorKey)
    (early late : List MethodDraft) :
    lastTarget? value key (early ++ late) =
      (lastTarget? value key late).or (lastTarget? value key early) := by
  unfold lastTarget?
  rw [filter_append, filterMap_append, getLast?_append]

/-- The drafts were built, and the targets that they bring are those that count. -/
structure Upheld (drafts built : List MethodDraft) : Prop where
  subset : drafts ⊆ built
  last : ∀ value key target, lastTarget? value key drafts = some target →
    lastTarget? value key built = some target

section

variable {drafts built : List MethodDraft}

theorem Upheld.of_append (early drafts : List MethodDraft) : Upheld drafts (early ++ drafts) where
  subset := subset_append_right early drafts
  last := by
    intro value key target brought
    rw [lastTarget?_append, brought, Option.some_or]

/-- Drafts of other methods leave them upheld. -/
theorem Upheld.append (upheld : Upheld drafts built) {more : List MethodDraft}
    (others : ∀ b ∈ more, ∀ d ∈ drafts, b.key ≠ d.key) : Upheld drafts (built ++ more) where
  subset := subset_append_of_subset_left more upheld.subset
  last := by
    intro value key target brought
    have silent : more.filter (·.key = key) = [] := by
      obtain ⟨d, member, -⟩ := mem_filterMap.1 (mem_of_getLast? brought)
      obtain ⟨here, named⟩ := mem_filter.1 member
      rw [filter_eq_nil_iff]
      intro b there same
      exact others b there d here ((of_decide_eq_true same).trans (of_decide_eq_true named).symm)
    have nothing : lastTarget? value key more = none := by
      unfold lastTarget?
      rw [silent]
      rfl
    rw [lastTarget?_append, nothing, Option.none_or]
    exact upheld.last value key target brought

/-- Building them again brings no other target. -/
theorem Upheld.lastTarget?_append_self (upheld : Upheld drafts built)
    (value : MethodDraft → Option MemberReference) (key : DescriptorKey) :
    lastTarget? value key (built ++ drafts) = lastTarget? value key built := by
  rw [lastTarget?_append]
  cases brought : lastTarget? value key drafts with
  | none => exact Option.none_or
  | some target => rw [upheld.last value key target brought, Option.some_or]

/-- A reference leads to one member. -/
theorem Refers.unique {r : Registry} (wf : r.WellFormed) {kind : MemberKind}
    {reference : Option MemberReference} {m n : Option (MemberDescriptor kind)}
    (one : Refers r kind reference m) (two : Refers r kind reference n) : m = n := by
  cases one with
  | none =>
    cases two
    rfl
  | some first =>
    cases two with
    | some second =>
      exact congrArg some (wf.member_eq_of_key first.1 second.1 (first.2.trans second.2.symm))

/-- What is told of a method is the same if upheld drafts are built again. -/
theorem Upheld.agree (upheld : Upheld drafts built) {r : Registry} (wf : r.WellFormed)
    {d : MethodDescriptor} {t u : FactTables} (before : Recorded r built t d)
    (after : Recorded r (built ++ drafts) u d) : FactTables.Agree d.id t u := by
  have mark : ∀ holds : MethodDraft → Bool, (∃ b ∈ buildsOf d (built ++ drafts), holds b = true) ↔
      ∃ b ∈ buildsOf d built, holds b = true := by
    intro holds
    have same : ∀ b, b ∈ buildsOf d (built ++ drafts) ↔ b ∈ buildsOf d built := by
      intro b
      unfold buildsOf
      rw [mem_filter, mem_filter, mem_append, or_iff_left_of_imp fun member => upheld.subset member]
    simp only [same]
  have target : ∀ value, ((buildsOf d (built ++ drafts)).filterMap value).getLast? =
      ((buildsOf d built).filterMap value).getLast? := fun value =>
    upheld.lastTarget?_append_self value (Descriptor.ofMethod d).key
  constructor
  · rw [Bool.eq_iff_iff, after.alwaysThrows, before.alwaysThrows]
    exact mark _
  · rw [Bool.eq_iff_iff, after.isUnsupported, before.isUnsupported]
    exact mark _
  · rw [Bool.eq_iff_iff, after.isIdentity, before.isIdentity]
    exact mark _
  · have there := after.forwardsTo
    rw [target] at there
    exact there.unique wf before.forwardsTo
  · have there := after.accesses
    rw [target] at there
    exact there.unique wf before.accesses

/-- Upheld drafts that are prepared and recorded once more leave the facts as they are. -/
theorem Upheld.foldl_record_eq_self (upheld : Upheld drafts built) {r : Registry}
    (wf : r.WellFormed) {prepared again : List PreparedMethod}
    (prepares : Forall₂ (·.Prepares r ·) built prepared)
    (repeats : Forall₂ (·.Prepares r ·) drafts again) {t : FactTables}
    (facts : t = prepared.foldl FactTables.record .empty) : again.foldl FactTables.record t = t := by
  have keyed : t.Keyed := facts ▸ FactTables.keyed_foldl prepared
  apply FactTables.foldl_record_eq_self keyed
  intro id
  by_cases registered : ∃ d ∈ r.methods, d.id = id
  · obtain ⟨d, held, rfl⟩ := registered
    have before := recorded_of_prepares wf held prepares
    have after := recorded_of_prepares wf held (rel_append prepares repeats)
    rw [foldl_append] at after
    rw [← facts] at before after
    exact upheld.agree wf before after
  · apply FactTables.agree_foldl
    intro p member same
    obtain ⟨d, -, fits⟩ := exists_of_mem_right repeats member
    exact registered ⟨_, fits.registered, same⟩

end

end JvmFacts
