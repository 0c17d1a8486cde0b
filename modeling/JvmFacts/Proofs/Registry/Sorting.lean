import Mathlib.Data.Prod.Lex
import Mathlib.Data.String.Basic
import JvmFacts.Proofs.Registry.Inventory

/-!
Descriptors in order. Ids depend on who asked first, and they take part in the order, but only where
two descriptors say the same. A registry never has two such descriptors, so what is sorted comes out
by what it says, and registries that were asked for the same things list them alike.
-/

set_option autoImplicit false

namespace JvmFacts

/-! ## Sorting by content -/

section

variable {α κ : Type} [Ord α] [Std.TransOrd α] [LinearOrder κ] {content : α → κ}
  (refines : ∀ a b : α, (compare a b).isLE → content a ≤ content b) {as bs : List α}

include refines

/-- Lists that say the same things say them in the same order once they are sorted. -/
theorem map_sortAscending_eq (same : (as.map content).Perm (bs.map content)) :
    (sortAscending as).map content = (sortAscending bs).map content := by
  have sorted : ∀ items : List α, ((sortAscending items).map content).Pairwise (· ≤ ·) :=
    fun items => List.pairwise_map.2 ((pairwise_sortAscending items).imp (refines _ _))
  have within : ∀ items : List α, ((sortAscending items).map content).Perm (items.map content) :=
    fun items => (List.mergeSort_perm items _).map content
  apply List.Perm.eq_of_pairwise (fun a b _ _ => le_antisymm) (sorted as) (sorted bs)
  exact (within as).trans (same.trans (within bs).symm)

theorem strict_sortAscending (apart : (as.map content).Nodup) :
    (sortAscending as).Pairwise fun a b => content a < content b := by
  have distinct : ((sortAscending as).map content).Nodup :=
    ((List.mergeSort_perm as _).map content).nodup_iff.2 apart
  have strict : ∀ a b : α, (compare a b).isLE → content a ≠ content b → content a < content b :=
    fun a b below => lt_of_le_of_ne (refines a b below)
  exact (pairwise_sortAscending as).imp₂ strict (List.pairwise_map.1 distinct)

end

section

variable {α β : Type} [LinearOrder α] [LE β] {x y : α} {p q : β} {rest : Ordering}
  (below : ((compare x y).then rest).isLE)

include below

theorem le_of_isLE_then : x ≤ y := by
  rcases Ordering.isLE_then_iff_or.1 below with less | ⟨equal, -⟩
  · exact le_of_lt (compare_lt_iff_lt.1 less)
  · exact le_of_eq (compare_eq_iff_eq.1 equal)

/-- What comes behind counts only where the first parts are equal. -/
theorem toLex_le_of_isLE_then (behind : rest.isLE → p ≤ q) : toLex (x, p) ≤ toLex (y, q) := by
  rw [Prod.Lex.toLex_le_toLex]
  rcases Ordering.isLE_then_iff_or.1 below with less | ⟨equal, further⟩
  · exact Or.inl (compare_lt_iff_lt.1 less)
  · exact Or.inr ⟨compare_eq_iff_eq.1 equal, behind further⟩

end

theorem ClassDescriptor.name_le {a b : ClassDescriptor} (below : (compare a b).isLE) :
    a.name ≤ b.name :=
  le_of_isLE_then below

/-- Class name, name, signature and staticness of a member, which count in this order. -/
abbrev MemberContent := String ×ₗ String ×ₗ String ×ₗ Bool

namespace MemberDescriptor

variable {kind : MemberKind}

/-- All that a member says. -/
def content (m : MemberDescriptor kind) : MemberContent :=
  toLex (m.className, toLex (m.name, toLex (m.signature, m.isStatic)))

theorem content_le {a b : MemberDescriptor kind} (below : (compare a b).isLE) :
    a.content ≤ b.content := by
  apply toLex_le_of_isLE_then below
  intro byName
  apply toLex_le_of_isLE_then byName
  intro bySignature
  apply toLex_le_of_isLE_then bySignature
  intro byStatic
  exact le_of_isLE_then byStatic

theorem content_eq {a b : MemberDescriptor kind} (tie : compare a b = .eq) :
    a.content = b.content := by
  obtain ⟨owner, named, typed, static, -⟩ := compare_eq_iff.1 tie
  simp only [content, className, owner, named, typed, static]

end MemberDescriptor

namespace DescriptorKey

def className? : DescriptorKey → Option String
  | ofClass name => some name
  | ofMember _ _ _ _ _ => none

/-- What members of this kind say when they have this key. -/
def content? (kind : MemberKind) : DescriptorKey → Option MemberContent
  | ofClass _ => none
  | ofMember other owner name signature isStatic =>
    if other = kind then some (toLex (owner, toLex (name, toLex (signature, isStatic)))) else none

end DescriptorKey

namespace Registry

/-! ## The keys of a registry -/

/-- What everything in the registry was asked for by. -/
def keys (r : Registry) : List DescriptorKey :=
  r.descriptors.map Descriptor.key

section

variable {r s : Registry}

theorem mem_keys {key : DescriptorKey} : key ∈ r.keys ↔ ∃ d, r.Holds d ∧ d.key = key := by
  simp only [keys, List.mem_map, mem_descriptors]

theorem Inventory.nodup_keys (inventory : Inventory r) (wf : r.WellFormed) : r.keys.Nodup := by
  have ids : (r.descriptors.map Descriptor.id).Nodup := inventory.ids.nodup_iff.2 List.nodup_range'
  apply List.Nodup.map_on _ (List.Nodup.of_map _ ids)
  exact fun d one e two => wf.canonical d e (mem_descriptors.1 one) (mem_descriptors.1 two)

theorem keys_addString (r : Registry) (value : String) : (r.addString value).keys = r.keys := by
  unfold addString
  split <;> rfl

theorem filterMap_className?_keys (r : Registry) :
    r.keys.filterMap DescriptorKey.className? = r.classes.map ClassDescriptor.name := by
  simp [keys, descriptors, List.filterMap_map, Function.comp_def, Descriptor.key,
    DescriptorKey.className?]

theorem filterMap_content?_keys (r : Registry) (kind : MemberKind) :
    r.keys.filterMap (DescriptorKey.content? kind) =
      (r.members kind).map MemberDescriptor.content := by
  cases kind <;> simp [keys, descriptors, members, List.filterMap_map, Function.comp_def,
    Descriptor.key, DescriptorKey.content?, MemberDescriptor.content, MemberDescriptor.className]

/-- Registries with the same keys list their classes alike. -/
theorem sorted_names_eq (same : r.keys.Perm s.keys) :
    (sortAscending r.classes).map ClassDescriptor.name =
      (sortAscending s.classes).map ClassDescriptor.name := by
  apply map_sortAscending_eq fun a b => ClassDescriptor.name_le
  rw [← filterMap_className?_keys, ← filterMap_className?_keys]
  exact same.filterMap _

theorem sorted_contents_eq (same : r.keys.Perm s.keys) (kind : MemberKind) :
    (sortAscending (r.members kind)).map MemberDescriptor.content =
      (sortAscending (s.members kind)).map MemberDescriptor.content := by
  apply map_sortAscending_eq fun a b => MemberDescriptor.content_le
  rw [← filterMap_content?_keys, ← filterMap_content?_keys]
  exact same.filterMap _

variable (wf : r.WellFormed)

include wf

theorem WellFormed.member_eq_of_content {kind : MemberKind} {m n : MemberDescriptor kind}
    (one : m ∈ r.members kind) (two : n ∈ r.members kind) (same : m.content = n.content) :
    m = n := by
  have parts := same
  simp only [MemberDescriptor.content, MemberDescriptor.className, EmbeddingLike.apply_eq_iff_eq,
    Prod.mk.injEq] at parts
  have keys : (Descriptor.ofMember kind m).key = (Descriptor.ofMember kind n).key := by
    rw [Descriptor.key_ofMember, Descriptor.key_ofMember]
    simp only [parts]
  exact wf.member_eq_of_key one two keys

/-- With a descriptor everything that it needs is there. -/
theorem WellFormed.mem_keys_of_parts {d : Descriptor} (held : r.Holds d) :
    ∀ key ∈ d.key.parts, key ∈ r.keys := by
  have itself : d.key ∈ r.keys := mem_keys.2 ⟨d, held, rfl⟩
  have owner : .ofClass d.owner.name ∈ r.keys :=
    mem_keys.2 ⟨.ofClass d.owner, wf.owners d held, rfl⟩
  cases d with
  | ofClass c => exact List.forall_mem_singleton.2 itself
  | ofMethod m => exact List.forall_mem_cons.2 ⟨owner, List.forall_mem_singleton.2 itself⟩
  | ofField f => exact List.forall_mem_cons.2 ⟨owner, List.forall_mem_singleton.2 itself⟩

end

/-! ## What was asked for -/

/-- What an operation asks for, if that is granted. -/
def Operation.key? : Operation → Option DescriptorKey
  | request q => if q.Valid then some q.key else none
  | text _ => none

def asked (operations : List Operation) : List DescriptorKey :=
  operations.filterMap Operation.key?

section

variable {r : Registry} (wf : r.WellFormed) {key : DescriptorKey}

include wf

theorem Request.mem_keys (q : Request) : key ∈ (q.work.run.run r).2.keys ↔
    key ∈ r.keys ∨ q.Valid ∧ key ∈ q.key.parts := by
  have verdict := q.verdict_work r
  have yields := q.yields_work wf
  cases outcome : (q.work.run.run r).1 with
  | error fault =>
    have invalid : ¬ q.Valid := by
      intro valid
      obtain ⟨d, given⟩ := verdict.granted.2 valid
      rw [outcome] at given
      cases given
    rw [verdict.refused fault outcome, or_iff_left fun asks => invalid asks.1]
  | ok d =>
    obtain ⟨held, named⟩ := yields.post d outcome
    have parts := (yields.steps.wellFormed wf).mem_keys_of_parts held
    rw [named] at parts
    obtain ⟨fresh, new, gain⟩ := verdict.gains
    constructor
    · intro member
      obtain ⟨e, held, rfl⟩ := Registry.mem_keys.1 member
      rw [gain.after, holds_plus] at held
      rcases held with before | added
      · exact Or.inl (Registry.mem_keys.2 ⟨e, before, rfl⟩)
      · have asks := gain.keys.subset (List.mem_map_of_mem added)
        exact Or.inr ⟨verdict.granted.1 ⟨d, outcome⟩, asks⟩
    · rintro (before | ⟨-, asks⟩)
      · obtain ⟨e, held, rfl⟩ := Registry.mem_keys.1 before
        exact Registry.mem_keys.2 ⟨e, yields.steps.holds held, rfl⟩
      · exact parts key asks

theorem Operation.mem_keys (operation : Operation) : key ∈ (operation.effect r).keys ↔
    key ∈ r.keys ∨ ∃ k ∈ operation.key?, key ∈ k.parts := by
  cases operation with
  | text value =>
    change key ∈ (r.addString value).keys ↔ _
    simp [keys_addString, Operation.key?]
  | request q =>
    refine (q.mem_keys wf).trans (or_congr_right ?_)
    by_cases valid : q.Valid <;> simp [Operation.key?, valid]

theorem mem_keys_operateAll (operations : List Operation) : key ∈ (operateAll operations r).keys ↔
    key ∈ r.keys ∨ ∃ k ∈ asked operations, key ∈ k.parts := by
  induction operations generalizing r with
  | nil => simp [operateAll, asked]
  | cons operation rest ih =>
    have grown := (Operation.grows wf operation).1.wellFormed wf
    refine (ih grown).trans ?_
    rw [Operation.mem_keys wf, or_assoc]
    apply or_congr_right
    cases asks : operation.key? <;> simp [asked, asks]

end

/-- What a registry holds is settled by what it was asked for, in whatever order that was. -/
theorem perm_keys_operateAll (i j : Nat) {one two : List Operation}
    (same : ∀ key, key ∈ asked one ↔ key ∈ asked two) :
    (operateAll one { token := i }).keys.Perm (operateAll two { token := j }).keys := by
  have distinct : ∀ token operations, (operateAll operations { token }).keys.Nodup :=
    fun token operations => ((inventory_start token).operateAll operations).nodup_keys
      (wellFormed_operateAll token operations)
  rw [List.perm_ext_iff_of_nodup (distinct i one) (distinct j two)]
  intro key
  rw [mem_keys_operateAll (wellFormed_start i), mem_keys_operateAll (wellFormed_start j)]
  simp only [same]
  rfl

end Registry

end JvmFacts
