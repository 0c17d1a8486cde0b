import JvmFacts.Proofs.Session.Memo

/-!
Asking the nullness database about a handle of an earlier run. Answers are remembered by the id of a
method, and all handles of a method share its id while each has its own annotations; so an answer can
be that of another handle, if that one was asked about first.
-/

set_option autoImplicit false

namespace JvmFacts

namespace Session

/-- What the database of the current run remembers of a slot. -/
def recalled? (s : Session) (m : Method) (slot : Slot) : Option (Option Nullness) :=
  s.run.databases.qualified.bind (·.memo.find? (m.descriptor.id, slot))

/-- What the annotations of the method say now. -/
def stated (s : Session) (m : Method) (slot : Slot) : Option Nullness :=
  Nullness.ofQualifiers? ((s.annotationsOf m).inSlot slot)

/-- What the database of the current run answers. -/
def answer (s : Session) (m : Method) (slot : Slot) : Option Nullness :=
  (s.createQualified.nullnessOf .qualified s.runNumber m slot).1

/-- The session after the database of the current run was asked. -/
def askedAbout (s : Session) (m : Method) (slot : Slot) : Session :=
  ((s.ready .qualified s.runNumber).nullnessOf .qualified s.runNumber m slot).2

section

variable (s : Session) (m : Method) (slot : Slot)

/-- A database that is created remembers nothing. -/
theorem recalled?_createQualified : s.createQualified.recalled? m slot = s.recalled? m slot := by
  unfold createQualified
  cases held : s.run.databases.qualified with
  | some q => rfl
  | none =>
    unfold listen modifyDatabases recalled?
    rw [modifyDatabasesOf_self, held]
    rfl

theorem stated_createQualified : s.createQualified.stated m slot = s.stated m slot := by
  obtain ⟨listeners, qualified, created⟩ := s.createQualified_frame
  rw [created]
  rfl

theorem answer_eq_recalled : s.answer m slot = (s.recalled? m slot).getD (s.stated m slot) := by
  obtain ⟨q, present⟩ := Option.isSome_iff_exists.1 (createQualified_isSome (s := s))
  have current : s.createQualified.qualifiedOf s.runNumber = q := by
    rw [← s.runNumber_createQualified]
    exact qualifiedOf_self present
  have remembered : s.createQualified.recalled? m slot = q.memo.find? (m.descriptor.id, slot) := by
    unfold recalled?
    rw [present]
    rfl
  unfold answer
  rw [nullnessOf_qualified, current, ← s.recalled?_createQualified, ← s.stated_createQualified,
    remembered]
  exact q.resolve_fst m.toMethodBody (s.createQualified.annotationsOf m) slot

theorem askedAbout_eq : ∃ q, s.createQualified.run.databases.qualified = some q ∧
    s.askedAbout m slot = s.createQualified.setQualified s.createQualified.runNumber
      (q.resolve m.toMethodBody (s.createQualified.annotationsOf m) slot).2 := by
  obtain ⟨q, present⟩ := Option.isSome_iff_exists.1 (createQualified_isSome (s := s))
  have ready : s.ready .qualified s.runNumber = s.createQualified := if_pos rfl
  refine ⟨q, present, ?_⟩
  unfold askedAbout
  rw [ready, nullnessOf_qualified, ← s.runNumber_createQualified, qualifiedOf_self present]

/-- A question remembers its answer and nothing else. -/
theorem recalled?_askedAbout (o : Method) (other : Slot) : (s.askedAbout o other).recalled? m slot =
    if (o.descriptor.id, other) = (m.descriptor.id, slot) then some (s.answer o other)
    else s.recalled? m slot := by
  obtain ⟨q, present, asked⟩ := s.askedAbout_eq o other
  have before : s.createQualified.recalled? m slot = q.memo.find? (m.descriptor.id, slot) := by
    unfold recalled?
    rw [present]
    rfl
  have given : (q.resolve o.toMethodBody (s.createQualified.annotationsOf o) other).1 =
      s.answer o other := by
    unfold answer
    rw [nullnessOf_qualified, ← s.runNumber_createQualified, qualifiedOf_self present]
  rw [asked, ← s.recalled?_createQualified m slot, before, ← given]
  unfold setQualified
  rw [modifyDatabasesOf_self]
  exact QualifiedNullness.find?_resolve q o.toMethodBody (s.createQualified.annotationsOf o) other _

theorem stated_askedAbout (o : Method) (other : Slot) :
    (s.askedAbout o other).stated m slot = s.stated m slot := by
  obtain ⟨q, -, asked⟩ := s.askedAbout_eq o other
  rw [asked, ← s.stated_createQualified]
  unfold setQualified
  rw [modifyDatabasesOf_self]
  rfl

/-- A question about another handle shows in an answer where it is the first one about the slot and
the annotations of the two handles differ in what they say. -/
theorem answer_askedAbout_iff {o : Method} {other : Slot} :
    (s.askedAbout o other).answer m slot = s.answer m slot ↔
      ¬ (o.descriptor.id = m.descriptor.id ∧ other = slot ∧ s.recalled? m slot = none ∧
        s.stated o slot ≠ s.stated m slot) := by
  rw [answer_eq_recalled, recalled?_askedAbout, stated_askedAbout, s.answer_eq_recalled m slot]
  by_cases here : (o.descriptor.id, other) = (m.descriptor.id, slot)
  · obtain ⟨id, rfl⟩ := Prod.mk.inj here
    have shared : s.recalled? o other = s.recalled? m other := by
      unfold recalled?
      rw [id]
    rw [if_pos here, Option.getD_some, answer_eq_recalled, shared]
    cases s.recalled? m other with
    | none => simp [id]
    | some answer => simp
  · have apart : ¬ (o.descriptor.id = m.descriptor.id ∧ other = slot) := by
      rintro ⟨id, same⟩
      exact here (Prod.ext id same)
    rw [if_neg here]
    exact iff_of_true rfl fun both => apart ⟨both.1, both.2.1⟩

end

end Session

/-- Where only methods of the table were asked about, nothing that is remembered of one of them differs
from what its annotations say. -/
theorem Session.Memo.answer_eq_stated {known : List Method} {s : Session} (memo : Memo [] s)
    (genuine : Genuine known s) (wf : s.registry.WellFormed) {m : Method}
    (held : s.method? m.descriptor = some m) (slot : Slot) : s.answer m slot = s.stated m slot := by
  rw [answer_eq_recalled]
  unfold recalled?
  cases present : s.run.databases.qualified with
  | none => rfl
  | some q =>
    have given := memo.resolve genuine wf present held slot
    rw [QualifiedNullness.resolve_fst] at given
    exact given

theorem Host.Reached.answer_eq_stated {foreign : Bool} {h : Host}
    (reached : h.Reached ⟨foreign, false⟩) {m : Method}
    (held : h.session.method? m.descriptor = some m) (slot : Slot) :
    h.session.answer m slot = h.session.stated m slot :=
  reached.memo.answer_eq_stated reached.genuine reached.tidy.registry held slot

/-- A question to a database is one about a method that the host has. -/
def Call.AsksOwn (h : Host) : Call → Prop
  | .askNullness .qualified _ m _ => m ∈ h.methods
  | _ => True

/-- What the database of the current run was asked about. A new run has a new database. -/
def Call.questions (call : Call) (s : Session) (asked : List (Method × Slot)) :
    List (Method × Slot) :=
  match call with
  | .reset => []
  | .askNullness .qualified run m slot =>
    if run = s.runNumber then asked ++ [(m, slot)] else asked
  | _ => asked

namespace Host

/-- What a host can reach that asks about methods that it has, with what it asked. -/
inductive Asked (free : Freedom) : Host → List (Method × Slot) → Prop
  | start {config : Config} {registry : Registry} {paths : Paths} {reporter : Reporter}
    (wf : registry.WellFormed) : Asked free (start config registry paths reporter) []
  | after {h : Host} {asked : List (Method × Slot)} {call : Call} (before : Asked free h asked)
    (allowed : call.Allowed free h) (own : call.AsksOwn h) :
    Asked free (h.after call) (call.questions h.session asked)

section

variable {free : Freedom} {h : Host} {asked : List (Method × Slot)} (run : h.Asked free asked)

include run

theorem Asked.reached : h.Reached free := by
  induction run with
  | start wf => exact .start wf
  | after _ allowed _ ih => exact .after ih allowed

theorem Asked.own : ∀ e ∈ asked, e.1 ∈ h.methods := by
  induction run with
  | start wf => exact fun e none => absurd none List.not_mem_nil
  | @after h asked call before allowed own ih =>
    have kept : ∀ e ∈ asked, e.1 ∈ (h.after call).methods := fun e member =>
      List.mem_append_left _ (List.mem_append_left _ (ih e member))
    unfold Call.questions
    split
    · exact fun e none => absurd none List.not_mem_nil
    · rename_i run m slot
      split
      · intro e member
        rcases List.mem_append.1 member with former | last
        · exact kept e former
        · rw [List.mem_singleton.1 last]
          exact List.mem_append_left _ (List.mem_append_left _ own)
      · exact kept
    · exact kept

omit run in
/-- A call that asks nothing needs no liberty to ask. -/
theorem allowed_of_silent {call : Call}
    (silent : ∀ run m slot, call ≠ .askNullness .qualified run m slot)
    (allowed : call.Allowed free h) : call.Allowed ⟨free.foreign, false⟩ h := by
  cases call with
  | askNullness source run m slot =>
    cases source with
    | declared => trivial
    | qualified => exact absurd rfl (silent run m slot)
  | _ => exact allowed

omit run in
theorem tidy_of_tidy {s : Session} (tidy : Session.Tidy free s) :
    Session.Tidy ⟨free.foreign, false⟩ s where
  registry := tidy.registry
  classes := fun id record found =>
    have held := tidy.classes id record found
    ⟨held.1, held.2.named, held.2.speaks⟩

/-- Each answer that is remembered is what the annotations of a method say that is in the table or was
asked about in this run. -/
theorem Asked.memo : Session.Memo asked h.session := by
  induction run with
  | start wf => exact .nothing rfl rfl
  | @after h asked call before allowed own ih =>
    have genuine := before.reached.genuine
    by_cases asks : ∃ run m slot, call = .askNullness .qualified run m slot
    · obtain ⟨run, m, slot, rfl⟩ := asks
      have made : Session.Changes ⟨free.foreign, false⟩ h.methods h.session
          (h.session.ready .qualified run) := Session.changes_ready .qualified run
      have ready := Session.memo_of_changes genuine before.own rfl ih made
      have more : asked ⊆
          (Call.askNullness .qualified run m slot).questions h.session asked := by
        unfold Call.questions
        dsimp only
        split
        · exact List.subset_append_left _ _
        · exact List.Subset.refl _
      apply (ready.mono more).askQualified run _ (Session.ready_isSome rfl)
      intro now
      have here : run = h.session.runNumber := now.trans (h.session.runNumber_ready .qualified run)
      right
      unfold Call.questions
      dsimp only
      rw [if_pos here]
      exact List.mem_append_right _ (List.mem_singleton_self _)
    · have silent : ∀ run m slot, call ≠ .askNullness .qualified run m slot :=
        fun run m slot same => asks ⟨run, m, slot, same⟩
      have changes := Call.changes (tidy_of_tidy before.reached.tidy)
        (allowed_of_silent silent allowed)
      have after := Session.memo_of_changes genuine before.own rfl ih changes
      cases call with
      | askNullness source run m slot =>
        cases source with
        | declared => exact after
        | qualified => exact absurd rfl (silent run m slot)
      | reset => exact Session.Memo.reset h.session
      | _ => exact after

end

/-- An answer is what the annotations of the method say, or those of another handle of it that is in
the table or was asked about in this run; and a question about another handle changes an answer
exactly when the slot was not asked about and the two handles say different things there. -/
theorem Asked.answer_spec {free : Freedom} {h : Host} {asked : List (Method × Slot)}
    (run : h.Asked free asked) {m : Method} (member : m ∈ h.methods) (slot : Slot) :
    (∃ n, n.descriptor = m.descriptor ∧
      (n = m ∨ (n, slot) ∈ asked ∨ h.session.method? n.descriptor = some n) ∧
      h.session.answer m slot = h.session.stated n slot) ∧
    ∀ o ∈ h.methods, ∀ other,
      ((h.after (.askNullness .qualified h.session.runNumber o other)).session.answer m slot =
          h.session.answer m slot ↔
        ¬ (o.descriptor = m.descriptor ∧ other = slot ∧ h.session.recalled? m slot = none ∧
          h.session.stated o slot ≠ h.session.stated m slot)) := by
  have tidy := run.reached.tidy
  have genuine := run.reached.genuine
  constructor
  · rw [Session.answer_eq_recalled]
    unfold Session.recalled?
    cases held : h.session.run.databases.qualified with
    | none => exact ⟨m, rfl, Or.inl rfl, rfl⟩
    | some q =>
      obtain ⟨n, descriptor, source, given⟩ :=
        run.memo.exists_resolve genuine tidy.registry run.own held (Or.inl member) slot
      rw [QualifiedNullness.resolve_fst] at given
      exact ⟨n, descriptor, source.imp_right Or.symm, given⟩
  · intro o handed other
    have ids : o.descriptor.id = m.descriptor.id ↔ o.descriptor = m.descriptor := by
      constructor
      · exact tidy.registry.method_inj (genuine.registered o (Or.inl handed))
          (genuine.registered m (Or.inl member))
      · exact congrArg MemberDescriptor.id
    rw [← ids]
    exact h.session.answer_askedAbout_iff m slot

/-- A method that is marked not to give null. -/
def nonnullDraft : MethodDraft :=
  { findDraft with
    annotations :=
      [(⟨0, 1, "javax/annotation/Nonnull"⟩, ⟨⟨0, 1, "javax/annotation/Nonnull"⟩, []⟩)] }

/-- The method as the first run made it, with the mark. -/
def earlier : Method :=
  { find with descriptor := ⟨3, ⟨0, 2, "a/Repo"⟩, "find", "()Ljava/lang/Object;", false⟩ }

/-- The method as the second run made it, without. -/
def fresh : Method :=
  { earlier with serial := 1 }

/-- A host that kept the method of its first run and made it again in the second one. -/
def twice : Host :=
  ((((start .usual { token := 0 } .fixed (.collect [])).after
    (.intern (.ofClass "javax/annotation/Nonnull"))).after (.build nonnullDraft)).after .reset).after
    (.build findDraft)

theorem asked_twice : twice.Asked ⟨true, true⟩ [] := by
  have started : (start .usual { token := 0 } .fixed (.collect [])).Asked ⟨true, true⟩ [] :=
    .start (Registry.wellFormed_start 0)
  exact .after (.after (.after (.after started trivial trivial) trivial trivial) trivial trivial)
    trivial trivial

/-- Nothing is known of the method of this run, unless the one that was kept is asked about first. -/
theorem answer_fresh : earlier ∈ twice.methods ∧ fresh ∈ twice.methods ∧
    twice.session.answer fresh none = none ∧
    (twice.after (.askNullness .qualified 1 earlier none)).session.answer fresh none =
      some .nonnull := by
  decide +kernel

theorem answer_twice : twice.Asked ⟨true, true⟩ [] ∧ earlier ∈ twice.methods ∧
    fresh ∈ twice.methods ∧
    (twice.after (.askNullness .qualified 1 earlier none)).session.answer fresh none ≠
      twice.session.answer fresh none := by
  have kept : earlier ∈ twice.methods := by decide +kernel
  have handed : fresh ∈ twice.methods := by decide +kernel
  have unknown : twice.session.recalled? fresh none = none := by decide +kernel
  have second : twice.session.runNumber = 1 := by decide +kernel
  have differ : twice.session.stated earlier none ≠ twice.session.stated fresh none := by
    decide +kernel
  refine ⟨asked_twice, kept, handed, ?_⟩
  intro same
  have spec := (asked_twice.answer_spec handed none).2 earlier kept none
  rw [second] at spec
  exact spec.1 same ⟨rfl, rfl, unknown, differ⟩

end Host

end JvmFacts
