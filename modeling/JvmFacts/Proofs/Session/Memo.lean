import JvmFacts.Proofs.Session.Handles

/-!
The memo of the nullness database. What is remembered of a method is what the annotations of some
handle of it say now, because the database hears of every annotation that is added. With questions
about methods of the table only, the memo never shows.
-/

set_option autoImplicit false

namespace JvmFacts

namespace QualifiedNullness

section

variable (q : QualifiedNullness) (m : MethodBody) (annotations : MethodAnnotations) (slot : Slot)

theorem resolve_fst : (q.resolve m annotations slot).1 =
    (q.memo.find? (m.descriptor.id, slot)).getD
      (Nullness.ofQualifiers? (annotations.inSlot slot)) := by
  unfold resolve
  cases remembered : q.memo.find? (m.descriptor.id, slot) with
  | none => simp only [remembered, Option.getD_none]
  | some answer => simp only [remembered, Option.getD_some]

/-- An answer that is given is remembered. -/
theorem find?_resolve (key : Nat × Slot) :
    (q.resolve m annotations slot).2.memo.find? key =
      if (m.descriptor.id, slot) = key then some (q.resolve m annotations slot).1
      else q.memo.find? key := by
  rw [resolve_fst]
  unfold resolve
  cases remembered : q.memo.find? (m.descriptor.id, slot) with
  | none =>
    simp only [remembered, Option.getD_none]
    exact Table.find?_insert (m.descriptor.id, slot) key _ q.memo
  | some answer =>
    simp only [remembered, Option.getD_some]
    by_cases same : (m.descriptor.id, slot) = key
    · rw [if_pos same, ← same]
      exact remembered
    · rw [if_neg same]

end

end QualifiedNullness

namespace Session

/-- Where an answer may stem from: the method is in the table, or it was asked about in this slot. -/
def Source (asked : List (Method × Slot)) (s : Session) (m : Method) (slot : Slot) : Prop :=
  s.method? m.descriptor = some m ∨ (m, slot) ∈ asked

/-- The database of the current run listens once, and each answer that it remembers is what the
annotations of some method say that is in the table or was asked about. -/
structure Memo (asked : List (Method × Slot)) (s : Session) : Prop where
  listening : s.run.listeners.count .qualifiedNullness = s.run.databases.qualified.isSome.toNat
  current : ∀ q, s.run.databases.qualified = some q → ∀ key answer, q.memo.find? key = some answer →
    ∃ m, Source asked s m key.2 ∧ m.descriptor.id = key.1 ∧
      answer = Nullness.ofQualifiers? ((s.annotationsOf m).inSlot key.2)

section

variable {free : Freedom} {known : List Method} {asked : List (Method × Slot)} {s t : Session}

/-- A host asks about methods that it has. -/
theorem Source.handed {m : Method} {slot : Slot} (own : ∀ e ∈ asked, e.1 ∈ known)
    (source : Source asked s m slot) : Handed known s m := by
  rcases source with held | before
  · exact handed_of_method? held
  · exact Or.inl (own _ before)

theorem Memo.nothing (listening : s.run.listeners.count .qualifiedNullness = 0)
    (absent : s.run.databases.qualified = none) : Memo asked s where
  listening := by
    rw [listening, absent]
    rfl
  current := by
    intro q held
    rw [absent] at held
    cases held

/-- More questions give more that an answer may stem from. -/
theorem Memo.mono {more : List (Method × Slot)} (memo : Memo asked s) (fewer : asked ⊆ more) :
    Memo more s where
  listening := memo.listening
  current := by
    intro q held key answer remembered
    obtain ⟨m, source, fits⟩ := memo.current q held key answer remembered
    exact ⟨m, source.imp_right fun before => fewer before, fits⟩

/-- A step that changes neither the memo nor what is known of the methods it may stem from. -/
theorem Memo.kept (memo : Memo asked s)
    (methods : ∀ m slot, Source asked s m slot →
      (s.method? m.descriptor = some m → t.method? m.descriptor = some m) ∧
        t.annotationsOf m = s.annotationsOf m)
    (listeners : t.run.listeners.count .qualifiedNullness =
      s.run.listeners.count .qualifiedNullness)
    (qualified : t.run.databases.qualified = s.run.databases.qualified) : Memo asked t where
  listening := by
    rw [listeners, qualified]
    exact memo.listening
  current := by
    intro q held key answer remembered
    rw [qualified] at held
    obtain ⟨m, source, id, rfl⟩ := memo.current q held key answer remembered
    obtain ⟨still, annotations⟩ := methods m key.2 source
    refine ⟨m, source.imp_left still, id, ?_⟩
    rw [annotations]

theorem Memo.quiet (memo : Memo asked s) (methods : t.run.methods = s.run.methods)
    (annotations : t.annotations = s.annotations) (listeners : t.run.listeners = s.run.listeners)
    (qualified : t.run.databases.qualified = s.run.databases.qualified) : Memo asked t := by
  apply memo.kept _ _ qualified
  · intro m slot _
    unfold method? annotationsOf
    rw [methods, annotations]
    exact ⟨id, rfl⟩
  · rw [listeners]

theorem Memo.modifyDatabasesOf (memo : Memo asked s) (run : Nat) {change : Databases → Databases}
    (qualified : run = s.runNumber →
      (change s.run.databases).qualified = s.run.databases.qualified) :
    Memo asked (s.modifyDatabasesOf run change) := by
  by_cases current : run = s.runNumber
  · subst current
    rw [modifyDatabasesOf_self]
    exact memo.quiet rfl rfl rfl (qualified rfl)
  · unfold Session.modifyDatabasesOf
    rw [if_neg current]
    exact memo.quiet rfl rfl rfl rfl

theorem Memo.makeMethod (genuine : Genuine known s) (own : ∀ e ∈ asked, e.1 ∈ known)
    (memo : Memo asked s) (p : PreparedMethod) : Memo asked (s.makeMethod p).2 := by
  refine memo.kept ?_ rfl rfl
  intro m slot source
  refine ⟨id, ?_⟩
  have older := genuine.older m (source.handed own)
  have apart : s.methodsMade ≠ m.serial := by omega
  have inserted := Table.find?_insert s.methodsMade m.serial
    (⟨p.annotations, p.parameterAnnotations⟩ : MethodAnnotations) s.annotations
  rw [if_neg apart] at inserted
  exact congrArg (Option.getD · MethodAnnotations.empty) inserted

theorem Memo.keepMethod (memo : Memo asked s) (m : Method) : Memo asked (s.keepMethod m).2 := by
  obtain ⟨methods, kept⟩ := keepMethod_frame m s
  have table : ∀ n, s.method? n.descriptor = some n →
      (s.keepMethod m).2.method? n.descriptor = some n := by
    intro n held
    rw [method?_keepMethod, held, Option.some_or]
  rw [kept] at table ⊢
  exact memo.kept (fun n _ _ => ⟨table n, rfl⟩) rfl rfl

/-- The database hears of a method whenever the listeners are told. -/
theorem Memo.memoTold_eq (memo : Memo asked s) (m : Method) :
    memoTold s.run.listeners m s.run.databases.qualified =
      s.run.databases.qualified.map (·.forget m.descriptor.id) := by
  have once := memo.listening
  unfold memoTold
  cases held : s.run.databases.qualified with
  | none => rw [Option.map_none, ite_self]
  | some q =>
    rw [held] at once
    have hears : .qualifiedNullness ∈ s.run.listeners := by
      apply List.count_pos_iff.1
      rw [once]
      exact Nat.one_pos
    rw [if_pos hears]

/-- After the listeners were told of a method, only what was known of this method may differ. -/
theorem Memo.told (memo : Memo asked s) {m : Method}
    (methods : ∀ n slot, Source asked s n slot → n.descriptor.id ≠ m.descriptor.id →
      t.annotationsOf n = s.annotationsOf n)
    (table : t.run.methods = s.run.methods) (listeners : t.run.listeners = s.run.listeners)
    (told : t.run.databases.qualified =
      memoTold s.run.listeners m s.run.databases.qualified) : Memo asked t := by
  rw [memo.memoTold_eq] at told
  constructor
  · rw [listeners, told, Option.isSome_map]
    exact memo.listening
  · intro p after key answer remembered
    rw [told] at after
    obtain ⟨q, held, rfl⟩ := Option.map_eq_some_iff.1 after
    rw [QualifiedNullness.find?_forget] at remembered
    by_cases same : key.1 = m.descriptor.id
    · rw [if_pos same] at remembered
      cases remembered
    · rw [if_neg same] at remembered
      obtain ⟨n, source, id, rfl⟩ := memo.current q held key answer remembered
      have annotations := methods n key.2 source (id ▸ same)
      unfold Source method?
      rw [table]
      refine ⟨n, source, id, ?_⟩
      rw [annotations]

theorem Memo.notify (memo : Memo asked s) (m : Method) : Memo asked (s.notify m) := by
  obtain ⟨recorders, notified⟩ := s.exists_notify m
  rw [notified]
  exact memo.told (fun _ _ _ _ => rfl) rfl rfl rfl

theorem annotationsOf_withAnnotation {m n : Method} (slot : Slot) (a : Annotation)
    (apart : m.serial ≠ n.serial) :
    (s.withAnnotation m slot a).annotationsOf n = s.annotationsOf n := by
  have inserted :=
    Table.find?_insert m.serial n.serial ((s.annotationsOf m).add slot a) s.annotations
  rw [if_neg apart] at inserted
  exact congrArg (Option.getD · MethodAnnotations.empty) inserted

/-- Methods with other ids have other serial numbers, so they keep their annotations. -/
theorem Memo.annotate (genuine : Genuine known s) (own : ∀ e ∈ asked, e.1 ∈ known)
    (memo : Memo asked s) {m : Method} (handed : Handed known s m) (slot : Slot) (a : Annotation) :
    Memo asked (s.annotate m slot a) := by
  obtain ⟨recorders, annotated⟩ := s.exists_annotate m slot a
  rw [annotated]
  refine memo.told ?_ rfl rfl rfl
  intro n place source other
  apply annotationsOf_withAnnotation slot a
  intro same
  have one := genuine.apart m n handed (source.handed own) same
  exact other (congrArg (·.descriptor.id) one.symm)

theorem count_listen (s : Session) (listener : Listener) :
    (s.listen listener).run.listeners.count .qualifiedNullness =
      s.run.listeners.count .qualifiedNullness + [listener].count .qualifiedNullness := by
  unfold listen
  rw [List.count_append, List.count_filter rfl]

theorem Memo.createQualified (memo : Memo asked s) : Memo asked s.createQualified := by
  unfold Session.createQualified
  split
  · exact memo
  · rename_i absent
    have silent := memo.listening
    rw [absent] at silent
    have created : (s.modifyDatabases fun d => { d with qualified := some {} }) =
        { s with run := { s.run with
            databases := { s.run.databases with qualified := some {} } } } :=
      modifyDatabasesOf_self s _
    rw [created]
    constructor
    · rw [count_listen, silent]
      rfl
    · intro q held key answer remembered
      obtain rfl := Option.some.inj held
      cases remembered

theorem qualifiedOf_self {q : QualifiedNullness} (held : s.run.databases.qualified = some q) :
    s.qualifiedOf s.runNumber = q := by
  unfold qualifiedOf databasesOf
  rw [if_pos rfl, held]
  rfl

/-- The answer for a method is what its annotations say, or what those of a method say that an
earlier answer stems from. -/
theorem Memo.exists_resolve (memo : Memo asked s) (genuine : Genuine known s)
    (wf : s.registry.WellFormed) (own : ∀ e ∈ asked, e.1 ∈ known) {q : QualifiedNullness}
    (present : s.run.databases.qualified = some q) {m : Method} (handed : Handed known s m)
    (slot : Slot) : ∃ n, n.descriptor = m.descriptor ∧ (n = m ∨ Source asked s n slot) ∧
      (q.resolve m.toMethodBody (s.annotationsOf m) slot).1 =
        Nullness.ofQualifiers? ((s.annotationsOf n).inSlot slot) := by
  rw [QualifiedNullness.resolve_fst]
  cases remembered : q.memo.find? (m.descriptor.id, slot) with
  | none => exact ⟨m, rfl, Or.inl rfl, Option.getD_none⟩
  | some answer =>
    obtain ⟨n, source, id, given⟩ := memo.current q present _ answer remembered
    have descriptor : n.descriptor = m.descriptor :=
      wf.method_inj (genuine.registered n (source.handed own)) (genuine.registered m handed) id
    exact ⟨n, descriptor, Or.inr source, given⟩

/-- Where only methods of the table were asked about, the answer for one of them is what its
annotations say. -/
theorem Memo.resolve (memo : Memo [] s) (genuine : Genuine known s) (wf : s.registry.WellFormed)
    {q : QualifiedNullness} (present : s.run.databases.qualified = some q) {m : Method}
    (held : s.method? m.descriptor = some m) (slot : Slot) :
    (q.resolve m.toMethodBody (s.annotationsOf m) slot).1 =
      Nullness.ofQualifiers? ((s.annotationsOf m).inSlot slot) := by
  have own : ∀ e ∈ ([] : List (Method × Slot)), e.1 ∈ known := fun e none => absurd none List.not_mem_nil
  obtain ⟨n, descriptor, source, given⟩ :=
    memo.exists_resolve genuine wf own present (handed_of_method? held) slot
  have same : n = m := by
    rcases source with same | inTable | none
    · exact same
    · rw [descriptor, held] at inTable
      exact (Option.some.inj inTable).symm
    · exact absurd none List.not_mem_nil
  rw [given, same]

theorem Memo.setQualified (memo : Memo asked s) {q : QualifiedNullness}
    (present : s.run.databases.qualified.isSome)
    (current : ∀ key answer, q.memo.find? key = some answer →
      ∃ m, Source asked s m key.2 ∧ m.descriptor.id = key.1 ∧
        answer = Nullness.ofQualifiers? ((s.annotationsOf m).inSlot key.2)) :
    Memo asked (s.setQualified s.runNumber q) := by
  unfold Session.setQualified
  rw [modifyDatabasesOf_self]
  constructor
  · have once := memo.listening
    rw [present] at once
    exact once
  · intro p after key answer remembered
    obtain rfl := Option.some.inj after
    exact current key answer remembered

/-- A past run keeps its own memo. -/
theorem Memo.setQualified_of_ne (memo : Memo asked s) {run : Nat} (past : run ≠ s.runNumber)
    (q : QualifiedNullness) : Memo asked (s.setQualified run q) :=
  memo.modifyDatabasesOf run fun current => absurd current past

/-- A question leaves what is remembered, and remembers what the annotations of the method say where
nothing is. -/
theorem Memo.askQualified (memo : Memo asked s) (run : Nat) {m : Method} {slot : Slot}
    (source : run = s.runNumber → Source asked s m slot)
    (present : run = s.runNumber → s.run.databases.qualified.isSome) :
    Memo asked (s.nullnessOf .qualified run m slot).2 := by
  rw [nullnessOf_qualified]
  by_cases now : run = s.runNumber
  · subst now
    obtain ⟨q, qualified⟩ := Option.isSome_iff_exists.1 (present rfl)
    rw [qualifiedOf_self qualified]
    apply memo.setQualified (present rfl)
    intro key answer remembered
    rw [QualifiedNullness.find?_resolve, QualifiedNullness.resolve_fst] at remembered
    by_cases here : (m.descriptor.id, slot) = key
    · subst here
      rw [if_pos rfl] at remembered
      cases before : q.memo.find? (m.descriptor.id, slot) with
      | none =>
        rw [before, Option.getD_none] at remembered
        exact ⟨m, source rfl, rfl, (Option.some.inj remembered).symm⟩
      | some held =>
        rw [before, Option.getD_some] at remembered
        obtain rfl := Option.some.inj remembered
        exact memo.current q qualified _ held before
    · rw [if_neg here] at remembered
      exact memo.current q qualified key answer remembered
  · exact memo.setQualified_of_ne now _

theorem Memo.markLoaded (memo : Memo asked s) (run : Nat)
    (present : run = s.runNumber → s.run.databases.qualified.isSome) :
    Memo asked (s.setQualified run { s.qualifiedOf run with isLoaded := true }) := by
  by_cases now : run = s.runNumber
  · subst now
    obtain ⟨q, qualified⟩ := Option.isSome_iff_exists.1 (present rfl)
    rw [qualifiedOf_self qualified]
    exact memo.setQualified (present rfl) (memo.current q qualified)
  · exact memo.setQualified_of_ne now _

theorem Memo.reset (s : Session) : Memo asked s.reset :=
  .nothing rfl rfl

theorem Memo.making (genuine : Genuine known s) (own : ∀ e ∈ asked, e.1 ∈ known)
    (memo : Memo asked s) (step : Making s t) : Memo asked t := by
  cases step with
  | intern grows => exact memo.quiet rfl rfl rfl rfl
  | @makeAndKeep p within => exact (memo.makeMethod genuine own p).keepMethod (s.makeMethod p).1
  | countClass => exact memo.quiet rfl rfl rfl rfl

theorem Change.memo (genuine : Genuine known s) (own : ∀ e ∈ asked, e.1 ∈ known)
    (inTable : free.stray = false) (memo : Memo asked s) (change : Change free known s t) :
    Memo asked t := by
  cases change with
  | resolving step =>
    cases step with
    | making step => exact memo.making genuine own step
    | remember fits kept => exact memo.quiet rfl rfl rfl rfl
  | rememberDepth =>
    unfold Session.rememberDepth
    split <;> exact memo.quiet rfl rfl rfl rfl
  | @makeMethod p within => exact memo.makeMethod genuine own p
  | @keepMethod m handed => exact memo.keepMethod m
  | annotate handed => exact memo.annotate genuine own handed _ _
  | @notify m => exact memo.notify m
  | addRecorder =>
    refine memo.kept (fun _ _ _ => ⟨id, rfl⟩) ?_ rfl
    exact count_listen { s with recorders := s.recorders ++ [{}] } (.recorder s.recorders.length)
  | dropRecorder => exact memo.quiet rfl rfl rfl rfl
  | addLog => exact memo.quiet rfl rfl rfl rfl
  | report =>
    unfold Session.report
    split <;> exact memo.quiet rfl rfl rfl rfl
  | createHierarchy =>
    unfold Session.createHierarchy modifyDatabases
    exact memo.modifyDatabasesOf s.runNumber fun _ => rfl
  | @addToHierarchy run c kind =>
    rcases addToHierarchy_frame s run c kind with same | ⟨grown, added⟩
    · rw [same]
      exact memo
    · rw [added]
      exact memo.modifyDatabasesOf run fun _ => rfl
  | promise hierarchy qualified => exact memo.modifyDatabasesOf _ fun _ => qualified _
  | createQualified => exact memo.createQualified
  | @askQualified run m slot may present =>
    rcases may with stray | held
    · rw [inTable] at stray
      cases stray
    · exact memo.askQualified run (fun now => Or.inl (held now)) present
  | @markLoaded run present => exact memo.markLoaded run present
  | setBridges => exact memo.quiet rfl rfl rfl rfl
  | setPaths => exact memo.quiet rfl rfl rfl rfl
  | clearFacts => exact memo.quiet rfl rfl rfl rfl
  | purgeClasses => exact memo.quiet rfl rfl rfl rfl
  | reset => exact .reset s

theorem memo_of_changes (genuine : Genuine known s) (own : ∀ e ∈ asked, e.1 ∈ known)
    (inTable : free.stray = false) (memo : Memo asked s) (changes : Changes free known s t) :
    Memo asked t := by
  induction changes with
  | refl => exact memo
  | tail before change ih => exact change.memo (genuine_of_changes genuine before) own inTable ih

end

end Session

theorem Host.Reached.memo {foreign : Bool} {h : Host} (reached : Reached ⟨foreign, false⟩ h) :
    Session.Memo [] h.session := by
  induction reached with
  | start wf => exact .nothing rfl rfl
  | after before allowed ih =>
    exact Session.memo_of_changes before.genuine (fun e none => absurd none List.not_mem_nil) rfl ih
      (Call.changes before.tidy allowed)

/-- Whatever was called for before, the database of the current run answers for a method of the table
as if it remembered nothing. -/
theorem Host.Reached.answer_eq {foreign : Bool} {h : Host} (reached : Reached ⟨foreign, false⟩ h)
    {m : Method} (held : h.session.method? m.descriptor = some m) (slot : Slot) :
    (h.session.createQualified.nullnessOf .qualified h.session.runNumber m slot).1 =
      Nullness.ofQualifiers? ((h.session.annotationsOf m).inSlot slot) := by
  have memo := reached.memo.createQualified
  have change : Session.Change ⟨foreign, false⟩ h.methods h.session h.session.createQualified :=
    .createQualified
  have genuine := reached.genuine.change change
  obtain ⟨q, present⟩ := Option.isSome_iff_exists.1 (Session.createQualified_isSome (s := h.session))
  obtain ⟨listeners, qualified, created⟩ := h.session.createQualified_frame
  rw [created] at memo genuine present ⊢
  rw [Session.nullnessOf_qualified]
  have current := Session.qualifiedOf_self present
  rw [current]
  exact memo.resolve genuine reached.tidy.registry present held slot

namespace Host

def findDraft : MethodDraft where
  className := "a/Repo"
  name := "find"
  signature := "()Ljava/lang/Object;"
  flags := .ofList []

/-- The first method of a session, made from that draft. -/
def find : Method where
  descriptor := ⟨2, ⟨0, 1, "a/Repo"⟩, "find", "()Ljava/lang/Object;", false⟩
  flags := .ofList []
  sourceSignature := none
  exceptions := []
  syntheticParameters := 0
  callCount := 0
  usesConcurrency := false
  hasBackBranch := false
  isStub := false
  serial := 0

def built : Host :=
  (start .usual { token := 0 } .fixed (.collect [])).after (.build findDraft)

/-- A host that asked about the result of the method; that nothing is known is remembered. -/
def asked : Host :=
  (built.after (.register find)).after (.askNullness .qualified 0 find none)

def cleared : Host :=
  (asked.after .clearFacts).after (.intern (.ofClass Nullness.checkForNullClass))

/-- The host after it marked the method. -/
def marked : Host :=
  cleared.after (.annotate find none ⟨⟨0, 3, Nullness.checkForNullClass⟩, []⟩)

example : asked.session.run.databases.qualified =
    some { memo := [((2, none), none)], isLoaded := false } := by
  decide +kernel

theorem answer_marked : marked.Reached ⟨true, false⟩ ∧
    marked.session.method? find.descriptor = some find ∧
    (marked.session.createQualified.nullnessOf .qualified marked.session.runNumber find none).1 =
      some .checkForNull := by
  have first : find ∈ built.methods := by
    decide +kernel
  have inTable : (built.after (.register find)).session.method? find.descriptor = some find := by
    decide +kernel
  have further : find ∈ cleared.methods := by
    decide +kernel
  have started : built.Reached ⟨true, false⟩ :=
    .after (.start (Registry.wellFormed_start 0)) trivial
  have reached : marked.Reached ⟨true, false⟩ :=
    .after (.after (.after (.after (.after started first) (Or.inr fun _ => inTable)) trivial)
      trivial) further
  have held : marked.session.method? find.descriptor = some find := by
    decide +kernel
  have now : Nullness.ofQualifiers? ((marked.session.annotationsOf find).inSlot none) =
      some .checkForNull := by
    decide +kernel
  exact ⟨reached, held, (reached.answer_eq held none).trans now⟩

end Host

end JvmFacts
