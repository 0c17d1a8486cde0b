import JvmFacts.Promise.CheckReturn
import JvmFacts.Promise.DeclaredNullness
import JvmFacts.Promise.QualifiedNullness
import JvmFacts.Proofs.Method.Tables

/-!
How databases read the annotations of a slot: entry by entry, and the first entry that says anything
has its say. Where no two entries say different things, it does not matter which one comes first.
-/

set_option autoImplicit false

namespace JvmFacts

open List

/-- What an annotation says, which stands under its class. -/
abbrev Reading (β : Type) := ClassDescriptor × Annotation → Option β

namespace Reading

variable {β : Type}

/-- No two annotations say different things. -/
def Unanimous (reads : Reading β) (t : AnnotationTable) : Prop :=
  ∀ e ∈ t, ∀ f ∈ t, ∀ x y, reads e = some x → reads f = some y → x = y

/-- An annotation that says something has its say, and only where none does something else counts. -/
def Follows (reads : Reading β) (t : AnnotationTable) (otherwise answer : Option β) : Prop :=
  (∃ e ∈ t, ∃ x, reads e = some x ∧ answer = some x) ∨
    ((∀ e ∈ t, reads e = none) ∧ answer = otherwise)

section

variable {reads : Reading β} {t u : AnnotationTable} {otherwise answer other : Option β}

theorem follows_findSome? (reads : Reading β) (t : AnnotationTable) (otherwise : Option β) :
    reads.Follows t otherwise ((t.findSome? reads).or otherwise) := by
  cases found : t.findSome? reads with
  | none => exact Or.inr ⟨findSome?_eq_none_iff.1 found, rfl⟩
  | some x =>
    obtain ⟨e, member, said⟩ := exists_of_findSome?_eq_some found
    exact Or.inl ⟨e, member, x, said, rfl⟩

theorem unanimous_of_forall {x : β} (alike : ∀ e ∈ t, reads e = none ∨ reads e = some x) :
    reads.Unanimous t := by
  have only : ∀ e ∈ t, ∀ y, reads e = some y → y = x := by
    intro e member y said
    rcases alike e member with silent | same
    · rw [silent] at said
      cases said
    · exact Option.some.inj (said.symm.trans same)
  intro e member f held y z said told
  rw [only e member y said, only f held z told]

theorem Follows.perm (follows : reads.Follows t otherwise answer) (perm : t.Perm u) :
    reads.Follows u otherwise answer := by
  rcases follows with ⟨e, member, said⟩ | ⟨silent, same⟩
  · exact Or.inl ⟨e, perm.mem_iff.1 member, said⟩
  · exact Or.inr ⟨fun e member => silent e (perm.mem_iff.2 member), same⟩

theorem Follows.unique (one : reads.Follows t otherwise answer) (two : reads.Follows t otherwise other)
    (unanimous : reads.Unanimous t) : answer = other := by
  rcases one with ⟨e, member, x, said, rfl⟩ | ⟨silent, rfl⟩
  · rcases two with ⟨f, held, y, told, rfl⟩ | ⟨silent, -⟩
    · rw [unanimous e member f held x y said told]
    · rw [silent e member] at said
      cases said
  · rcases two with ⟨f, held, y, told, rfl⟩ | ⟨-, rfl⟩
    · rw [silent f held] at told
      cases told
    · rfl

end

end Reading

/-! ## Three readings -/

/-- Whether the result has to be used, by the class of the annotation. -/
def CheckReturn.reading : Reading CheckReturn :=
  fun e => ofAnnotationClass? e.1.name

/-- Whether null is promised, by the class of the annotation. -/
def Nullness.classReading : Reading Nullness :=
  fun e => ofAnnotationClass? e.1.name

/-- Whether null is promised, by the annotation as a type qualifier. -/
def Nullness.qualifierReading : Reading Nullness :=
  fun e => ofQualifier? e.2

theorem CheckReturn.ofAnnotations?_eq (t : AnnotationTable) :
    ofAnnotations? t = t.findSome? reading := by
  unfold ofAnnotations? Table.keys
  rw [findSome?_map]
  rfl

theorem Nullness.ofClasses?_eq (t : AnnotationTable) : ofClasses? t = t.findSome? classReading := by
  unfold ofClasses? Table.keys
  rw [findSome?_map]
  rfl

theorem Nullness.ofQualifiers?_eq (t : AnnotationTable) :
    ofQualifiers? t = t.findSome? qualifierReading := by
  unfold ofQualifiers? Table.values
  rw [findSome?_map]
  rfl

/-- An annotation that does not qualify says by its class what it says. -/
theorem Nullness.ofQualifier?_of_plain {a : Annotation}
    (plain : a.type.name = qualifierClass → a.enumConstant? qualifierElement = none) :
    ofQualifier? a = ofAnnotationClass? a.type.name := by
  unfold ofQualifier?
  split
  · rename_i named
    have known : ofAnnotationClass? qualifierClass = some nonnull := by
      decide +kernel
    rw [plain named, named, known]
  · rfl

/-- The two readings differ on annotations that qualify only. -/
theorem Nullness.ofQualifiers?_eq_ofClasses? {t : AnnotationTable} (proper : t.Proper)
    (plain : ∀ a ∈ Table.values t, a.type.name = qualifierClass →
      a.enumConstant? qualifierElement = none) : ofQualifiers? t = ofClasses? t := by
  have same : ∀ e ∈ t, qualifierReading e = classReading e := by
    intro e member
    unfold qualifierReading classReading
    rw [ofQualifier?_of_plain (plain e.2 (mem_map_of_mem member)), proper.labelled e member]
  rw [ofQualifiers?_eq, ofClasses?_eq]
  exact findSome?_eq_of_forall same

/-! ## The three databases -/

section

variable (m : MethodBody) (annotations : MethodAnnotations) (slot : Slot)

theorem CheckReturnTable.resolve_eq (t : CheckReturnTable) (table : AnnotationTable) :
    t.resolve m table = (table.findSome? CheckReturn.reading).or (t.resolve m []) := by
  unfold resolve
  rw [CheckReturn.ofAnnotations?_eq, CheckReturn.ofAnnotations?_eq]
  cases table.findSome? CheckReturn.reading <;> rfl

theorem DeclaredNullness.resolve_eq (t : DeclaredNullness) :
    t.resolve m annotations slot =
      ((annotations.inSlot slot).findSome? Nullness.classReading).or
        (t.entries.find? (m.descriptor.id, slot)) := by
  unfold resolve
  rw [Nullness.ofClasses?_eq]
  cases (annotations.inSlot slot).findSome? Nullness.classReading <;> rfl

end

end JvmFacts
