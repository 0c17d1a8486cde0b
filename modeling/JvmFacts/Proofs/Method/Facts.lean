import Mathlib.Data.List.Induction
import JvmFacts.Method.Facts
import JvmFacts.Proofs.Registry.Preparation

/-!
The facts that a series of makings leaves. A mark stays once it was brought; of the targets the last
one counts.
-/

set_option autoImplicit false

namespace JvmFacts

open List

/-- The makings of the method with this id. -/
def makingsOf (id : Nat) (prepared : List PreparedMethod) : List PreparedMethod :=
  prepared.filter fun p => p.body.descriptor.id = id

theorem makingsOf_concat (id : Nat) (prepared : List PreparedMethod) (p : PreparedMethod) :
    makingsOf id (prepared ++ [p]) =
      if p.body.descriptor.id = id then makingsOf id prepared ++ [p] else makingsOf id prepared := by
  unfold makingsOf
  rw [filter_append]
  split
  · rename_i same
    simp only [filter_cons, same, decide_true, ↓reduceIte, filter_nil]
  · rename_i other
    simp only [filter_cons, other, decide_false, Bool.false_eq_true, ↓reduceIte, filter_nil,
      append_nil]

namespace FactTables

/-- What the tables tell of an id is what the makings of that method brought. -/
structure Tell (id : Nat) (prepared : List PreparedMethod) (t : FactTables) : Prop where
  alwaysThrows : t.alwaysThrows id = true ↔ ∃ p ∈ makingsOf id prepared, p.alwaysThrows = true
  isUnsupported : t.isUnsupported id = true ↔ ∃ p ∈ makingsOf id prepared, p.isUnsupported = true
  isIdentity : t.isIdentity id = true ↔ ∃ p ∈ makingsOf id prepared, p.isIdentity = true
  forwardsTo : t.forwardsTo? id = ((makingsOf id prepared).filterMap (·.forwardsTo)).getLast?
  accesses : t.accesses? id = ((makingsOf id prepared).filterMap (·.accesses)).getLast?

section

variable {id : Nat} {prepared : List PreparedMethod} (p : PreparedMethod)

theorem contains_insertIf {ids : List Nat} {holds : PreparedMethod → Bool}
    (before : ids.contains id = true ↔ ∃ q ∈ makingsOf id prepared, holds q = true) :
    (insertIf (holds p) p.body.descriptor.id ids).contains id = true ↔
      ∃ q ∈ makingsOf id (prepared ++ [p]), holds q = true := by
  rw [contains_iff_mem] at before ⊢
  rw [mem_insertIf, before, makingsOf_concat]
  split
  · rename_i same
    simp only [mem_append, mem_singleton, or_and_right, exists_or, exists_eq_left, same, and_true]
  · rename_i other
    simp only [other, and_false, or_false]

theorem find?_insertSome_making {α : Type} {t : Table Nat α} {value : PreparedMethod → Option α}
    (before : t.find? id = ((makingsOf id prepared).filterMap value).getLast?) :
    (insertSome p.body.descriptor.id (value p) t).find? id =
      ((makingsOf id (prepared ++ [p])).filterMap value).getLast? := by
  rw [find?_insertSome, before, makingsOf_concat]
  split
  · rw [getLast?_filterMap_concat]
  · rfl

variable {t : FactTables}

theorem Tell.record (tell : Tell id prepared t) : Tell id (prepared ++ [p]) (t.record p) where
  alwaysThrows := contains_insertIf p tell.alwaysThrows
  isUnsupported := contains_insertIf p tell.isUnsupported
  isIdentity := contains_insertIf p tell.isIdentity
  forwardsTo := find?_insertSome_making p tell.forwardsTo
  accesses := find?_insertSome_making p tell.accesses

end

theorem tell_foldl (id : Nat) (prepared : List PreparedMethod) :
    Tell id prepared (prepared.foldl record .empty) := by
  induction prepared using List.reverseRecOn with
  | nil => constructor <;> simp [makingsOf] <;> rfl
  | append_singleton prepared p ih =>
    rw [foldl_append]
    exact ih.record p

/-- The tables tell the same of an id. -/
structure Agree (id : Nat) (t u : FactTables) : Prop where
  alwaysThrows : u.alwaysThrows id = t.alwaysThrows id
  isUnsupported : u.isUnsupported id = t.isUnsupported id
  isIdentity : u.isIdentity id = t.isIdentity id
  forwardsTo : u.forwardsTo? id = t.forwardsTo? id
  accesses : u.accesses? id = t.accesses? id

theorem Agree.refl (id : Nat) (t : FactTables) : Agree id t t :=
  ⟨rfl, rfl, rfl, rfl, rfl⟩

theorem Agree.trans {id : Nat} {t u v : FactTables} (one : Agree id t u) (two : Agree id u v) :
    Agree id t v where
  alwaysThrows := two.alwaysThrows.trans one.alwaysThrows
  isUnsupported := two.isUnsupported.trans one.isUnsupported
  isIdentity := two.isIdentity.trans one.isIdentity
  forwardsTo := two.forwardsTo.trans one.forwardsTo
  accesses := two.accesses.trans one.accesses

theorem contains_insertIf_of_ne {holds : Bool} {id other : Nat} {ids : List Nat}
    (apart : other ≠ id) : (insertIf holds other ids).contains id = ids.contains id := by
  rw [Bool.eq_iff_iff, contains_iff_mem, contains_iff_mem, mem_insertIf]
  simp only [apart, and_false, or_false]

theorem agree_record {id : Nat} {p : PreparedMethod} (other : p.body.descriptor.id ≠ id)
    (t : FactTables) : Agree id t (t.record p) where
  alwaysThrows := contains_insertIf_of_ne other
  isUnsupported := contains_insertIf_of_ne other
  isIdentity := contains_insertIf_of_ne other
  forwardsTo := (find?_insertSome ..).trans (if_neg other)
  accesses := (find?_insertSome ..).trans (if_neg other)

theorem agree_foldl {id : Nat} {prepared : List PreparedMethod}
    (others : ∀ p ∈ prepared, p.body.descriptor.id ≠ id) (t : FactTables) :
    Agree id t (prepared.foldl record t) := by
  induction prepared generalizing t with
  | nil => exact .refl id t
  | cons p rest ih =>
    obtain ⟨first, further⟩ := forall_mem_cons.1 others
    exact (agree_record first t).trans (ih further (t.record p))

end FactTables

/-! ## In terms of drafts -/

/-- The drafts that are drafts of this method. -/
def buildsOf (d : MethodDescriptor) (built : List MethodDraft) : List MethodDraft :=
  built.filter fun b => b.key = (Descriptor.ofMethod d).key

/-- What the tables tell of a method is what the drafts of it carried that were built. -/
structure Recorded (r : Registry) (built : List MethodDraft) (t : FactTables)
    (d : MethodDescriptor) : Prop where
  alwaysThrows : t.alwaysThrows d.id = true ↔ ∃ b ∈ buildsOf d built, b.alwaysThrows = true
  isUnsupported : t.isUnsupported d.id = true ↔ ∃ b ∈ buildsOf d built, b.isUnsupported = true
  isIdentity : t.isIdentity d.id = true ↔ ∃ b ∈ buildsOf d built, b.isIdentity = true
  forwardsTo : Refers r .method ((buildsOf d built).filterMap (·.forwardsTo)).getLast?
    (t.forwardsTo? d.id)
  accesses : Refers r .field ((buildsOf d built).filterMap (·.accesses)).getLast?
    (t.accesses? d.id)

section

variable {r : Registry} (wf : r.WellFormed) {d : MethodDescriptor} (held : d ∈ r.methods)

include wf held

/-- By id and by key a draft is of the same method. -/
theorem MethodDraft.Prepares.key_iff {b : MethodDraft} {p : PreparedMethod}
    (prepares : b.Prepares r p) :
    b.key = (Descriptor.ofMethod d).key ↔ p.body.descriptor.id = d.id := by
  rw [← prepares.key]
  constructor
  · intro same
    have equal := wf.canonical (.ofMethod p.body.descriptor) (.ofMethod d) prepares.registered held
      same
    rw [Descriptor.ofMethod.inj equal]
  · intro same
    rw [wf.method_inj prepares.registered held same]

theorem recorded_of_prepares {built : List MethodDraft} {prepared : List PreparedMethod}
    (prepares : Forall₂ (·.Prepares r ·) built prepared) :
    Recorded r built (prepared.foldl FactTables.record .empty) d := by
  have tell := FactTables.tell_foldl d.id prepared
  have these : Forall₂ (·.Prepares r ·) (buildsOf d built) (makingsOf d.id prepared) := by
    apply rel_filter _ prepares
    intro b p fits
    simpa using fits.key_iff wf held
  constructor
  · rw [tell.alwaysThrows]
    exact (exists_mem_iff these fun b p fits => by rw [fits.alwaysThrows]).symm
  · rw [tell.isUnsupported]
    exact (exists_mem_iff these fun b p fits => by rw [fits.isUnsupported]).symm
  · rw [tell.isIdentity]
    exact (exists_mem_iff these fun b p fits => by rw [fits.isIdentity]).symm
  · rw [tell.forwardsTo]
    exact rel_getLast? (rel_filterMap (fun b p fits => fits.forwardsTo) these)
  · rw [tell.accesses]
    exact rel_getLast? (rel_filterMap (fun b p fits => fits.accesses) these)

end

end JvmFacts
