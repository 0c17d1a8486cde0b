import JvmFacts.Proofs.Promise.Readings
import JvmFacts.Proofs.Session.Asking
import JvmFacts.Proofs.Session.Labels

/-!
Two databases of nullness, of which a session asks one. They part where an annotation qualifies or
where the tables have an entry, and nowhere else.
-/

set_option autoImplicit false

namespace JvmFacts

namespace Session

theorem declaredOf_createDeclared (s : Session) :
    s.createDeclared.declaredOf s.runNumber = s.declaredOf s.runNumber := by
  unfold createDeclared modifyDatabases
  rw [modifyDatabasesOf_self]
  unfold declaredOf databasesOf
  rw [if_pos rfl, if_pos rfl]
  rfl

/-- What the table-backed database of the current run answers. -/
def declaredAnswer (s : Session) (m : Method) (slot : Slot) : Option Nullness :=
  (s.createDeclared.nullnessOf .declared s.runNumber m slot).1

theorem declaredAnswer_eq (s : Session) (m : Method) (slot : Slot) : s.declaredAnswer m slot =
    (((s.annotationsOf m).inSlot slot).findSome? Nullness.classReading).or
      ((s.declaredOf s.runNumber).entries.find? (m.descriptor.id, slot)) := by
  have asked : s.declaredAnswer m slot =
      (s.createDeclared.declaredOf s.runNumber).resolve m.toMethodBody
        (s.createDeclared.annotationsOf m) slot := rfl
  have annotations : s.createDeclared.annotationsOf m = s.annotationsOf m :=
    s.annotationsOf_createNullness .declared m
  rw [asked, declaredOf_createDeclared, annotations, DeclaredNullness.resolve_eq]

end Session

namespace Host

/-- Where only methods of the table were asked about: if no annotation of the slot qualifies and the
tables have no entry for it, the two databases give the same answer, whatever else the slot carries. -/
theorem Scanned.databases_agree {foreign : Bool} {h : Host} (scanned : h.Scanned ⟨foreign, false⟩)
    {m : Method} (held : h.session.method? m.descriptor = some m) {slot : Slot}
    (plain : ∀ a ∈ ((h.session.annotationsOf m).inSlot slot).values,
      a.type.name = "javax/annotation/Nonnull" → a.enumConstant? "when" = none)
    (unlisted : (h.session.declaredOf h.session.runNumber).entries.find? (m.descriptor.id, slot) =
      none) :
    (h.session.createDeclared.nullnessOf .declared h.session.runNumber m slot).1 =
      (h.session.createQualified.nullnessOf .qualified h.session.runNumber m slot).1 := by
  have proper := scanned.labelled.annotationsOf m slot
  calc h.session.declaredAnswer m slot
      = ((h.session.annotationsOf m).inSlot slot).findSome? Nullness.classReading := by
        rw [Session.declaredAnswer_eq, unlisted, Option.or_none]
    _ = Nullness.ofClasses? ((h.session.annotationsOf m).inSlot slot) :=
        (Nullness.ofClasses?_eq _).symm
    _ = h.session.stated m slot := (Nullness.ofQualifiers?_eq_ofClasses? proper plain).symm
    _ = h.session.answer m slot := (scanned.reached.answer_eq_stated held slot).symm

theorem scanned_built (free : Freedom) : built.Scanned free := by
  have gathered : findDraft.Scanned :=
    ⟨"a/Repo", "find", "()Ljava/lang/Object;", .ofList [], [], rfl⟩
  exact .after (.start (Registry.wellFormed_start 0)) trivial gathered

/-- A host that asked about the result of the method before two annotations were put on it. One is of
no class that is known, and what the other says in the element that qualifies is only text. -/
def annotated : Host :=
  (asked.after (.annotate find none
    ⟨⟨0, 3, "org/acme/Tested"⟩, [("when", .enum "Ljavax/annotation/meta/When;" "NEVER")]⟩)).after
    (.annotate find none ⟨⟨0, 4, "javax/annotation/Nonnull"⟩, [("when", .string "NEVER")]⟩)

theorem databases_agree_annotated : annotated.Scanned ⟨true, false⟩ ∧
    annotated.session.method? find.descriptor = some find ∧
    (annotated.session.createDeclared.nullnessOf .declared annotated.session.runNumber find none).1 =
      some .nonnull ∧
    (annotated.session.createQualified.nullnessOf .qualified annotated.session.runNumber find none).1 =
      some .nonnull := by
  have first : find ∈ built.methods := by
    decide +kernel
  have inTable : (built.after (.register find)).session.method? find.descriptor = some find := by
    decide +kernel
  have further : find ∈ asked.methods := by
    decide +kernel
  have still : find ∈ (asked.after (.annotate find none ⟨⟨0, 3, "org/acme/Tested"⟩,
      [("when", .enum "Ljavax/annotation/meta/When;" "NEVER")]⟩)).methods := by
    decide +kernel
  have scanned : annotated.Scanned ⟨true, false⟩ :=
    .after (.after (.after (.after (scanned_built _) first trivial) (Or.inr fun _ => inTable) trivial)
      further trivial) still trivial
  have held : annotated.session.method? find.descriptor = some find := by
    decide +kernel
  have unlisted : (annotated.session.declaredOf annotated.session.runNumber).entries.find?
      (find.descriptor.id, none) = none := by
    decide +kernel
  have plain : ∀ a ∈ ((annotated.session.annotationsOf find).inSlot none).values,
      a.type.name = "javax/annotation/Nonnull" → a.enumConstant? "when" = none := by
    decide +kernel
  have agree := scanned.databases_agree held plain unlisted
  have declared : (annotated.session.createDeclared.nullnessOf .declared
      annotated.session.runNumber find none).1 = some .nonnull := by
    decide +kernel
  exact ⟨scanned, held, declared, agree.symm.trans declared⟩

end Host

end JvmFacts
