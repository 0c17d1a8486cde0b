import JvmFacts.Proofs.Session.Sources
import Mathlib.Logic.Function.Iterate

/-!
Whether an answer depends on the order in which annotations are enumerated, or in which they were
added. Each database takes the first annotation that says anything, so it does where two annotations
contradict each other, and nowhere else.
-/

set_option autoImplicit false

namespace JvmFacts

open List

namespace Session

/-! ## Answers that go by the annotations -/

section

variable (s : Session) (m : Method) (slot : Slot)

theorem follows_checkReturnOf : CheckReturn.reading.Follows ((s.annotationsOf m).inSlot none)
    (s.checkReturn.resolve m.toMethodBody []) (s.checkReturnOf m) := by
  have read : s.checkReturnOf m =
      s.checkReturn.resolve m.toMethodBody ((s.annotationsOf m).inSlot none) := rfl
  rw [read, CheckReturnTable.resolve_eq _ _ ((s.annotationsOf m).inSlot none)]
  exact Reading.follows_findSome? _ _ _

theorem follows_declaredAnswer : Nullness.classReading.Follows ((s.annotationsOf m).inSlot slot)
    ((s.declaredOf s.runNumber).entries.find? (m.descriptor.id, slot)) (s.declaredAnswer m slot) := by
  rw [declaredAnswer_eq]
  exact Reading.follows_findSome? _ _ _

theorem follows_stated :
    Nullness.qualifierReading.Follows ((s.annotationsOf m).inSlot slot) none (s.stated m slot) := by
  unfold stated
  rw [Nullness.ofQualifiers?_eq, ← Option.or_none (o := findSome? _ _)]
  exact Reading.follows_findSome? _ _ _

end

/-! ## Enumerating in another order -/

/-- The one session is the other but for the order in which its annotation tables are enumerated, and
for facts, which no answer goes by. -/
structure Reordered (s t : Session) : Prop where
  rest : t = { s with annotations := t.annotations, run := { s.run with facts := t.run.facts } }
  tables : ∀ m, (s.annotationsOf m).Alike (t.annotationsOf m)

/-- About this method the two sessions answer alike, as far as its annotations do not contradict each
other. -/
structure AgreeAbout (m : Method) (s t : Session) : Prop where
  checkReturn : CheckReturn.reading.Unanimous ((s.annotationsOf m).inSlot none) →
    t.checkReturnOf m = s.checkReturnOf m
  declared : ∀ slot, Nullness.classReading.Unanimous ((s.annotationsOf m).inSlot slot) →
    t.declaredAnswer m slot = s.declaredAnswer m slot
  qualified : ∀ slot, Nullness.qualifierReading.Unanimous ((s.annotationsOf m).inSlot slot) →
    t.answer m slot = s.answer m slot

/-- About this method each database answers as one of the annotations says, and by its tables only
where none says anything. -/
structure AnswersByAnnotations (s : Session) (m : Method) : Prop where
  checkReturn : CheckReturn.reading.Follows ((s.annotationsOf m).inSlot none)
    (s.checkReturn.resolve m.toMethodBody []) (s.checkReturnOf m)
  declared : ∀ slot, Nullness.classReading.Follows ((s.annotationsOf m).inSlot slot)
    ((s.declaredOf s.runNumber).entries.find? (m.descriptor.id, slot)) (s.declaredAnswer m slot)
  qualified : ∀ slot,
    Nullness.qualifierReading.Follows ((s.annotationsOf m).inSlot slot) none (s.answer m slot)

section

variable {s t u : Session}

theorem Reordered.refl (s : Session) : s.Reordered s where
  rest := rfl
  tables := fun _ _ => .refl _

theorem Reordered.symm (reordered : s.Reordered t) : t.Reordered s where
  rest := by
    rw [reordered.rest]
  tables := fun m slot => (reordered.tables m slot).symm

theorem Reordered.trans (first : s.Reordered t) (second : t.Reordered u) : s.Reordered u where
  rest := by
    rw [second.rest, first.rest]
  tables := fun m slot => (first.tables m slot).trans (second.tables m slot)

theorem Reordered.recalled?_eq (reordered : s.Reordered t) (m : Method) (slot : Slot) :
    t.recalled? m slot = s.recalled? m slot := by
  rw [reordered.rest]
  rfl

theorem Reordered.agreeAbout (reordered : s.Reordered t) (m : Method) : AgreeAbout m s t where
  checkReturn := by
    intro unanimous
    have tables : t.checkReturn = s.checkReturn := by
      rw [reordered.rest]
      rfl
    have other := (t.follows_checkReturnOf m).perm (reordered.tables m none).symm
    rw [tables] at other
    exact other.unique (s.follows_checkReturnOf m) unanimous
  declared := by
    intro slot unanimous
    have tables : t.declaredOf t.runNumber = s.declaredOf s.runNumber := by
      rw [reordered.rest]
      rfl
    have other := (t.follows_declaredAnswer m slot).perm (reordered.tables m slot).symm
    rw [tables] at other
    exact other.unique (s.follows_declaredAnswer m slot) unanimous
  qualified := by
    intro slot unanimous
    have other := (t.follows_stated m slot).perm (reordered.tables m slot).symm
    rw [answer_eq_recalled, answer_eq_recalled, reordered.recalled?_eq m slot,
      other.unique (s.follows_stated m slot) unanimous]

/-- What was remembered before still goes by the annotations. -/
theorem Reordered.answersByAnnotations {m : Method} (reordered : s.Reordered t)
    (stated : ∀ slot, s.answer m slot = s.stated m slot) : t.AnswersByAnnotations m where
  checkReturn := t.follows_checkReturnOf m
  declared := t.follows_declaredAnswer m
  qualified := by
    intro slot
    have fresh := stated slot
    rw [answer_eq_recalled] at fresh
    rw [answer_eq_recalled, reordered.recalled?_eq m slot]
    cases remembered : s.recalled? m slot with
    | none => exact t.follows_stated m slot
    | some answer =>
      rw [remembered, Option.getD_some] at fresh
      rw [Option.getD_some, fresh]
      exact (s.follows_stated m slot).perm (reordered.tables m slot)

end

/-! ## Adding in another order -/

/-- The annotations are added one after the other. -/
def annotateAll (s : Session) (m : Method) (additions : List (Slot × Annotation)) : Session :=
  additions.foldl (fun s e => s.annotate m e.1 e.2) s

section

variable (s : Session) (m : Method)

theorem tell_withAnnotations (listener : Listener) (annotations : Table Nat MethodAnnotations) :
    tell m { s with annotations } listener = { tell m s listener with annotations } := by
  cases listener with
  | recorder index => rfl
  | qualifiedNullness =>
    rw [tell_qualifiedNullness, tell_qualifiedNullness]
    rfl

/-- Telling the listeners is the same whatever annotations there are. -/
theorem notify_withAnnotations (annotations : Table Nat MethodAnnotations) :
    ({ s with annotations } : Session).notify m = { s.notify m with annotations } := by
  have told : ∀ (listeners : List Listener) (t : Session),
      listeners.foldl (tell m) { t with annotations } =
        { listeners.foldl (tell m) t with annotations } := by
    intro listeners
    induction listeners with
    | nil => exact fun t => rfl
    | cons listener rest ih =>
      intro t
      rw [foldl_cons, foldl_cons, tell_withAnnotations, ih]
  exact told s.run.listeners s

theorem iterate_notify_withAnnotations (times : Nat) (annotations : Table Nat MethodAnnotations) :
    (·.notify m)^[times] ({ s with annotations } : Session) =
      { (·.notify m)^[times] s with annotations } := by
  induction times generalizing s with
  | zero => rfl
  | succ times ih =>
    rw [Function.iterate_succ_apply, notify_withAnnotations, ih, Function.iterate_succ_apply]

theorem annotate_eq (slot : Slot) (a : Annotation) : s.annotate m slot a = { s.notify m with
    annotations := s.annotations.insert m.serial ((s.annotationsOf m).add slot a) } :=
  s.notify_withAnnotations m _

theorem annotateAll_eq_iterate (additions : List (Slot × Annotation)) :
    s.annotateAll m additions = { (·.notify m)^[additions.length] s with
      annotations := (s.annotateAll m additions).annotations } := by
  induction additions generalizing s with
  | nil => rfl
  | cons e rest ih =>
    have added : s.annotateAll m (e :: rest) = (s.annotate m e.1 e.2).annotateAll m rest := rfl
    rw [added, ih, annotate_eq, iterate_notify_withAnnotations, length_cons,
      Function.iterate_succ_apply]

/-- But for the annotations, it only matters how many were added. -/
theorem annotateAll_rest {first second : List (Slot × Annotation)}
    (length : first.length = second.length) :
    s.annotateAll m second =
      { s.annotateAll m first with annotations := (s.annotateAll m second).annotations } := by
  rw [annotateAll_eq_iterate s m first, annotateAll_eq_iterate s m second, length]

theorem annotationsOf_annotateAll (n : Method) (additions : List (Slot × Annotation)) :
    (s.annotateAll m additions).annotationsOf n =
      if m.serial = n.serial then (s.annotationsOf n).addAll additions else s.annotationsOf n := by
  induction additions generalizing s with
  | nil => exact (ite_self _).symm
  | cons e rest ih =>
    have added : s.annotateAll m (e :: rest) = (s.annotate m e.1 e.2).annotateAll m rest := rfl
    rw [added, ih]
    by_cases same : m.serial = n.serial
    · have shared : ∀ t : Session, t.annotationsOf n = t.annotationsOf m := by
        intro t
        unfold annotationsOf
        rw [same]
      rw [if_pos same, if_pos same, shared, annotationsOf_annotate, shared]
      rfl
    · obtain ⟨recorders, annotated⟩ := s.exists_annotate m e.1 e.2
      rw [if_neg same, if_neg same, annotated]
      exact annotationsOf_withAnnotation e.1 e.2 same

theorem Labelled.reordered_annotateAll {s : Session} (labelled : s.Labelled)
    {first second : List (Slot × Annotation)} (distinct : MethodAnnotations.OneEach first)
    (perm : first.Perm second) : (s.annotateAll m first).Reordered (s.annotateAll m second) where
  rest := by
    rw [s.annotateAll_rest m perm.length_eq]
  tables := by
    intro n
    rw [annotationsOf_annotateAll, annotationsOf_annotateAll]
    split
    · exact MethodAnnotations.Proper.alike_addAll (labelled.annotationsOf n) distinct perm
    · exact fun slot => .refl _

end

/-! ## Seeing in another order -/

theorem Reordered.makeMethod {s : Session} {p q : PreparedMethod} (body : q.body = p.body)
    (alike : p.tables.Alike q.tables) : (s.makeMethod q).1 = (s.makeMethod p).1 ∧
      (s.makeMethod p).2.Reordered (s.makeMethod q).2 := by
  refine ⟨?_, ?_, ?_⟩
  · unfold Session.makeMethod
    rw [body]
  · rfl
  · intro n slot
    have made : ∀ r : PreparedMethod, ((s.makeMethod r).2.annotationsOf n) =
        if s.methodsMade = n.serial then r.tables else s.annotationsOf n := by
      intro r
      have written := Table.find?_insert s.methodsMade n.serial r.tables s.annotations
      have annotations : (s.makeMethod r).2.annotations =
          s.annotations.insert s.methodsMade r.tables := rfl
      unfold annotationsOf
      rw [annotations, written]
      split <;> rfl
    rw [made p, made q]
    split
    · exact alike slot
    · exact .refl _

theorem reordered_buildMethod (s : Session) {d e : MethodDraft} (differs : d.DiffersInTables e)
    (alike : d.tables.Alike e.tables) :
    ((buildMethod e).run.run s).1 = ((buildMethod d).run.run s).1 ∧
      ((buildMethod d).run.run s).2.Reordered ((buildMethod e).run.run s).2 := by
  have handed := (d.gives_prepare s.registry).post
  unfold buildMethod
  rw [run_interning_modifyGet, run_interning_modifyGet, differs.prepare_eq, Work.run_map]
  rcases prepared : d.prepare.run.run s.registry with ⟨fault | p, r⟩
  · exact ⟨rfl, .refl _⟩
  · rw [prepared] at handed
    have same : p.tables = d.tables := (handed p rfl).2
    obtain ⟨method, reordered⟩ := Reordered.makeMethod (s := { s with registry := r }) (p := p)
      (q := { p with
        isIdentity := e.isIdentity
        annotations := e.annotations
        parameterAnnotations := e.parameterAnnotations }) rfl (same ▸ alike)
    exact ⟨congrArg Except.ok method, reordered⟩

end Session

namespace Host

open Session (AgreeAbout buildMethod)

/-- The answers are the same in any order in which annotations are enumerated, were added or were
seen, as far as they do not contradict each other. Where they do, the answer is what one of them
says. -/
theorem Scanned.answers_in_any_order {free : Freedom} {h : Host} (scanned : h.Scanned free) :
    (∀ m t, h.session.Reordered t → AgreeAbout m h.session t) ∧
    (∀ n first second, MethodAnnotations.OneEach first → first.Perm second → ∀ m t u,
      (h.session.annotateAll n first).Reordered t → (h.session.annotateAll n second).Reordered u →
        AgreeAbout m t u) ∧
    (∀ (d : MethodDraft) first second, d.Scanned → MethodDraft.SameSights first second →
      ((buildMethod (d.applyAll second)).run.run h.session).1 =
          ((buildMethod (d.applyAll first)).run.run h.session).1 ∧
        ∀ m t u, ((buildMethod (d.applyAll first)).run.run h.session).2.Reordered t →
          ((buildMethod (d.applyAll second)).run.run h.session).2.Reordered u → AgreeAbout m t u) ∧
    (free.stray = false → ∀ m, h.session.method? m.descriptor = some m →
      ∀ t, h.session.Reordered t → t.AnswersByAnnotations m) := by
  refine ⟨?_, ?_, ?_, ?_⟩
  · exact fun m t reordered => reordered.agreeAbout m
  · intro n first second distinct perm m t u one two
    have between := scanned.labelled.reordered_annotateAll n distinct perm
    exact ((one.symm.trans between).trans two).agreeAbout m
  · intro d first second gathered same
    obtain ⟨method, between⟩ := h.session.reordered_buildMethod (same.differsInTables d)
      (same.alike gathered.proper)
    exact ⟨method, fun m t u one two => ((one.symm.trans between).trans two).agreeAbout m⟩
  · obtain ⟨foreign, stray⟩ := free
    rintro rfl m held t reordered
    exact reordered.answersByAnnotations (scanned.reached.answer_eq_stated held)

/-- A session whose only method gained these annotations. -/
def gaining (additions : List (Slot × Annotation)) : Session :=
  built.session.annotateAll find additions

/-- Two classes that say the same of null, and one that says nothing. -/
def agreeing : List (Slot × Annotation) :=
  [(none, ⟨⟨0, 3, "org/jetbrains/annotations/Nullable"⟩, []⟩),
    (none, ⟨⟨0, 4, "org/acme/Tested"⟩, []⟩),
    (none, ⟨⟨0, 5, "javax/annotation/Nullable"⟩, []⟩)]

theorem answers_in_any_order_agreeing : built.Scanned ⟨false, false⟩ ∧
    AgreeAbout find (gaining agreeing) (gaining agreeing.reverse) ∧
    (gaining agreeing).answer find none = some .nullable ∧
    (gaining agreeing.reverse).answer find none = some .nullable := by
  have scanned := scanned_built ⟨false, false⟩
  have distinct : MethodAnnotations.OneEach agreeing := by
    unfold MethodAnnotations.OneEach
    decide +kernel
  have agree := scanned.answers_in_any_order.2.1 find agreeing agreeing.reverse distinct
    (reverse_perm agreeing).symm find _ _ (.refl _) (.refl _)
  have unanimous : Nullness.qualifierReading.Unanimous
      (((gaining agreeing).annotationsOf find).inSlot none) := by
    apply Reading.unanimous_of_forall (x := .nullable)
    decide +kernel
  have answered : (gaining agreeing).answer find none = some .nullable := by
    decide +kernel
  exact ⟨scanned, agree, answered, (agree.qualified none unanimous).trans answered⟩

/-- Each database reads one of these and another one that says something else. -/
def contradictory : List (Slot × Annotation) :=
  [(none, ⟨⟨0, 3, "javax/annotation/CheckReturnValue"⟩, []⟩),
    (none, ⟨⟨0, 4, "com/google/errorprone/annotations/CanIgnoreReturnValue"⟩, []⟩),
    (none, ⟨⟨0, 5, "javax/annotation/Nonnull"⟩, []⟩),
    (none, ⟨⟨0, 6, "javax/annotation/Nullable"⟩, []⟩)]

/-- Two annotations of one class, which differ in the element that qualifies. -/
def requalified : List (Slot × Annotation) :=
  ["ALWAYS", "NEVER"].map fun constant =>
    (none, ⟨⟨0, 3, "javax/annotation/Nonnull"⟩,
      [("when", .enum "Ljavax/annotation/meta/When;" constant)]⟩)

/-- A table of contradictory annotations gives other answers when it is enumerated in another order;
and of two annotations of one class the one that was added last decides. -/
theorem answers_depend_on_order :
    (gaining contradictory).Reordered (gaining contradictory.reverse) ∧
    (gaining contradictory).checkReturnOf find = some .medium ∧
    (gaining contradictory.reverse).checkReturnOf find = some .ignore ∧
    (gaining contradictory).declaredAnswer find none = some .nonnull ∧
    (gaining contradictory.reverse).declaredAnswer find none = some .nullable ∧
    (gaining contradictory).answer find none = some .nonnull ∧
    (gaining contradictory.reverse).answer find none = some .nullable ∧
    (gaining requalified).answer find none = some .checkForNull ∧
    (gaining requalified.reverse).answer find none = some .nonnull := by
  have scanned := scanned_built ⟨false, false⟩
  have distinct : MethodAnnotations.OneEach contradictory := by
    unfold MethodAnnotations.OneEach
    decide +kernel
  have reordered := scanned.labelled.reordered_annotateAll find distinct
    (reverse_perm contradictory).symm
  refine ⟨reordered, ?_⟩
  decide +kernel

end Host

end JvmFacts
