import JvmFacts.Proofs.Method.Tables
import JvmFacts.Proofs.Registry.References
import JvmFacts.Proofs.Session.Asking
import JvmFacts.Proofs.Session.Repetition

/-!
What the nullness database does when it loads. It marks the parameter of each `equals` in the table
about which nothing is stated, and with this the answers for these parameters change and no others.
-/

set_option autoImplicit false

namespace JvmFacts

/-- Where annotations say nothing, one that is added has its say, be it in the place of another. -/
theorem Nullness.ofQualifiers?_add {t : AnnotationTable} {a : Annotation} {value : Nullness}
    (silent : ofQualifiers? t = none) (meant : ofQualifier? a = some value) :
    ofQualifiers? (AnnotationTable.add t a) = some value :=
  Table.findSome?_values_insert silent meant

/-- An annotation of this class without elements says that the value may be null. -/
theorem Nullness.ofQualifier?_checkForNull {type : ClassDescriptor}
    (named : type.name = checkForNullClass) : ofQualifier? ⟨type, []⟩ = some .checkForNull := by
  have plain : checkForNullClass ≠ qualifierClass := by
    decide +kernel
  have known : ofAnnotationClass? checkForNullClass = some .checkForNull := by
    decide +kernel
  unfold ofQualifier?
  rw [named, if_neg plain, known]

namespace Session

section

variable (s : Session)

theorem stated_annotate (m : Method) (slot : Slot) (a : Annotation) (n : Method) (other : Slot) :
    (s.annotate m slot a).stated n other =
      if m.serial = n.serial ∧ slot = other then
        Nullness.ofQualifiers? (AnnotationTable.add ((s.annotationsOf n).inSlot other) a)
      else s.stated n other := by
  unfold stated
  by_cases same : m.serial = n.serial
  · have shared : ∀ t : Session, t.annotationsOf n = t.annotationsOf m := by
      intro t
      unfold annotationsOf
      rw [same]
    rw [shared, annotationsOf_annotate, MethodAnnotations.inSlot_add, shared]
    by_cases here : slot = other
    · rw [if_pos here, if_pos ⟨same, here⟩]
    · rw [if_neg here, if_neg fun both => here both.2]
  · obtain ⟨recorders, annotated⟩ := s.exists_annotate m slot a
    have others : (s.annotate m slot a).annotationsOf n = s.annotationsOf n := by
      rw [annotated]
      exact annotationsOf_withAnnotation slot a same
    rw [others, if_neg fun both => same both.1]

end

section

variable {s : Session} {m : Method} {type : ClassDescriptor} {methods : List Method}

/-- The session after it looked at one method of the table. -/
def marked (type : ClassDescriptor) (s : Session) (m : Method) : Session :=
  if s.wantsCheckForNull m then s.annotate m (some 0) ⟨type, []⟩ else s

theorem annotateEquals_eq_foldl :
    (annotateEquals type methods s).2 = methods.foldl (marked type) s := by
  induction methods generalizing s with
  | nil => rfl
  | cons n rest ih =>
    unfold annotateEquals
    rw [List.foldl_cons, marked]
    by_cases wants : s.wantsCheckForNull n = true
    · rw [if_pos wants, if_pos wants]
      exact ih
    · rw [if_neg wants, if_neg wants]
      exact ih

/-- A method that compares with any object and says nothing of its parameter says then that it may be
null; what else is stated of a method stays. -/
theorem stated_marked {n : Method} (named : type.name = Nullness.checkForNullClass)
    (apart : n.serial = m.serial → n = m) (slot : Slot) :
    (s.marked type n).stated m slot =
      if n = m ∧ QualifiedNullness.isObjectEquals m.toMethodBody = true ∧ slot = some 0 then
        (s.stated m slot).or (some .checkForNull)
      else s.stated m slot := by
  have wants_iff : s.wantsCheckForNull n = true ↔
      QualifiedNullness.isObjectEquals n.toMethodBody = true ∧ s.stated n (some 0) = none :=
    Bool.and_eq_true_iff.trans (and_congr_right' Option.isNone_iff_eq_none)
  unfold marked
  by_cases wants : s.wantsCheckForNull n = true
  · obtain ⟨compares, silent⟩ := wants_iff.1 wants
    rw [if_pos wants, stated_annotate]
    by_cases here : n.serial = m.serial ∧ some 0 = slot
    · obtain ⟨serial, rfl⟩ := here
      obtain rfl := apart serial
      have gained := Nullness.ofQualifiers?_add silent (Nullness.ofQualifier?_checkForNull named)
      rw [if_pos ⟨rfl, rfl⟩, if_pos ⟨rfl, compares, rfl⟩, silent, Option.none_or]
      exact gained
    · rw [if_neg here, if_neg]
      rintro ⟨rfl, -, rfl⟩
      exact here ⟨rfl, rfl⟩
  · rw [if_neg wants]
    split
    · rename_i here
      obtain ⟨rfl, compares, rfl⟩ := here
      cases states : s.stated n (some 0) with
      | none => exact absurd (wants_iff.2 ⟨compares, states⟩) wants
      | some value => rw [Option.some_or]
    · rfl

theorem stated_annotateEquals (named : type.name = Nullness.checkForNullClass)
    (apart : ∀ n ∈ methods, n.serial = m.serial → n = m) (slot : Slot) :
    (annotateEquals type methods s).2.stated m slot =
      if m ∈ methods ∧ QualifiedNullness.isObjectEquals m.toMethodBody = true ∧ slot = some 0 then
        (s.stated m slot).or (some .checkForNull)
      else s.stated m slot := by
  rw [annotateEquals_eq_foldl]
  induction methods generalizing s with
  | nil => simp only [List.foldl_nil, List.not_mem_nil, false_and, if_false]
  | cons n rest ih =>
    have first : n.serial = m.serial → n = m := apart n (List.mem_cons_self ..)
    have others := ih (s := s.marked type n) fun n member => apart n (List.mem_cons_of_mem _ member)
    rw [List.foldl_cons, others, stated_marked named first]
    by_cases same : n = m
    · -- a mark is not written over another
      by_cases marks : QualifiedNullness.isObjectEquals m.toMethodBody = true ∧ slot = some 0
      · simp [same, marks]
      · simp [marks]
    · have other : m ≠ n := Ne.symm same
      simp only [same, other, List.mem_cons, false_and, if_false, false_or]

end

section

variable (s : Session)

/-- A database that is created is not loaded. -/
theorem qualifiedOf_createQualified :
    s.createQualified.qualifiedOf s.runNumber = s.qualifiedOf s.runNumber := by
  unfold createQualified
  cases held : s.run.databases.qualified with
  | some q => rfl
  | none =>
    unfold listen modifyDatabases qualifiedOf databasesOf
    rw [modifyDatabasesOf_self, if_pos rfl, if_pos rfl, held]
    rfl

/-- What a database that was not loaded does when it loads: it marks methods of the table, once its
annotation is interned. That is never refused. -/
theorem exists_annotateEquals {run : Nat} (unloaded : (s.qualifiedOf run).isLoaded = false) :
    ∃ t type log, type.name = Nullness.checkForNullClass ∧ t.run.methods = s.run.methods ∧
      t.annotations = s.annotations ∧
      s.loadQualified run = (annotateEquals type s.allMethods t).2.addLog log := by
  have fresh : ¬ (s.qualifiedOf run).isLoaded = true := by
    rw [unloaded]
    exact Bool.false_ne_true
  have valid : Name.isClass Nullness.checkForNullClass = true := by
    decide +kernel
  have slashed : Name.slashed Nullness.checkForNullClass = Nullness.checkForNullClass := by
    decide +kernel
  have load := loadQualified_of_unloaded fresh
  obtain ⟨databases, retired, changed⟩ := s.modifyDatabasesOf_frame run fun d =>
    { d with qualified := some { s.qualifiedOf run with isLoaded := true } }
  unfold setQualified at load
  dsimp only at load
  obtain ⟨type, given, named⟩ := Registry.exists_internClass s.registry valid
  rw [slashed] at named
  rw [changed, interning_run, given] at load
  let t : Session :=
    { s with
      registry := ((Registry.internClass Nullness.checkForNullClass).run.run s.registry).2
      retired
      run := { s.run with databases } }
  exact ⟨t, type, _, named, rfl, rfl, load⟩

theorem methods_annotateEquals (type : ClassDescriptor) (methods : List Method) :
    (annotateEquals type methods s).2.run.methods = s.run.methods := by
  rw [annotateEquals_eq_foldl]
  induction methods generalizing s with
  | nil => rfl
  | cons m rest ih =>
    have first : (s.marked type m).run.methods = s.run.methods := by
      unfold marked
      split
      · exact s.methods_annotate m (some 0) ⟨type, []⟩
      · rfl
    exact (ih (s.marked type m)).trans first

end

theorem stated_loadQualified {known : List Method} {s : Session} (genuine : Genuine known s)
    {run : Nat} (unloaded : (s.qualifiedOf run).isLoaded = false) {m : Method}
    (held : s.method? m.descriptor = some m) (slot : Slot) :
    (s.loadQualified run).run.methods = s.run.methods ∧
    (s.loadQualified run).stated m slot =
      if QualifiedNullness.isObjectEquals m.toMethodBody = true ∧ slot = some 0 then
        (s.stated m slot).or (some .checkForNull)
      else s.stated m slot := by
  obtain ⟨t, type, log, named, methods, annotations, load⟩ := s.exists_annotateEquals unloaded
  have listed : m ∈ s.allMethods := mem_allMethods.2 (Table.mem_values_of_find? held)
  have apart : ∀ n ∈ s.allMethods, n.serial = m.serial → n = m := fun n member =>
    genuine.apart n m (Or.inr (mem_allMethods.1 member)) (handed_of_method? held)
  have before : t.stated m slot = s.stated m slot := by
    unfold stated annotationsOf
    rw [annotations]
  constructor
  · rw [load]
    exact (t.methods_annotateEquals type s.allMethods).trans methods
  · have told : (s.loadQualified run).stated m slot =
        (annotateEquals type s.allMethods t).2.stated m slot := by
      rw [load]
      rfl
    have marks := stated_annotateEquals (s := t) named apart slot
    simp only [listed, true_and, before] at marks
    exact told.trans marks

end Session

namespace Host

/-- The first time that the nullness database loads, each `equals` of the table that compares with any
object gets the answer that its parameter may be null, where no answer was given; all other answers
for methods of the table stay, whatever was asked before. -/
theorem Reached.answer_loaded {foreign : Bool} {h : Host} (reached : h.Reached ⟨foreign, false⟩)
    (first : h.session.isNullnessLoaded .qualified h.session.runNumber = false) :
    let after := (h.after (.loadNullness .qualified h.session.runNumber)).session
    ∀ m, h.session.method? m.descriptor = some m →
      after.method? m.descriptor = some m ∧
      ∀ slot, after.answer m slot =
        if m.name = "equals" ∧ m.signature = "(Ljava/lang/Object;)Z" ∧ m.has .accStatic = false ∧
            slot = some 0 then
          (h.session.answer m slot).or (some .checkForNull)
        else h.session.answer m slot := by
  intro after m held
  have loading : after = h.session.createQualified.loadQualified h.session.runNumber :=
    congrArg (Session.loadQualified h.session.runNumber) (if_pos rfl)
  have change : Session.Change ⟨foreign, false⟩ h.methods h.session h.session.createQualified :=
    .createQualified
  have genuine := reached.genuine.change change
  have unloaded : (h.session.createQualified.qualifiedOf h.session.runNumber).isLoaded = false := by
    rw [Session.qualifiedOf_createQualified]
    exact first
  have created : h.session.createQualified.run.methods = h.session.run.methods := by
    obtain ⟨listeners, qualified, created⟩ := h.session.createQualified_frame
    rw [created]
  have inTable : h.session.createQualified.method? m.descriptor = some m := by
    unfold Session.method?
    rw [created]
    exact held
  have marks := Session.stated_loadQualified genuine unloaded inTable
  have still : after.method? m.descriptor = some m := by
    unfold Session.method?
    rw [loading, (marks none).1, created]
    exact held
  refine ⟨still, fun slot => ?_⟩
  have allowed : (Call.loadNullness .qualified h.session.runNumber).Allowed ⟨foreign, false⟩ h :=
    trivial
  have answered : after.answer m slot = after.stated m slot :=
    (reached.after allowed).answer_eq_stated still slot
  have answeredBefore : h.session.answer m slot = h.session.stated m slot :=
    reached.answer_eq_stated held slot
  have compares : QualifiedNullness.isObjectEquals m.toMethodBody = true ↔
      m.name = "equals" ∧ m.signature = "(Ljava/lang/Object;)Z" ∧ m.has .accStatic = false := by
    unfold QualifiedNullness.isObjectEquals
    simp only [Bool.and_eq_true, beq_iff_eq, Bool.not_eq_true', and_assoc]
  rw [answered, answeredBefore, loading, (marks slot).2, Session.stated_createQualified]
  simp only [compares, and_assoc]

/-- A method that compares, with an annotation on its parameter that means nothing that is known. -/
def equalsDraft : MethodDraft where
  className := "a/Repo"
  name := "equals"
  signature := "(Ljava/lang/Object;)Z"
  flags := .ofList []
  parameterAnnotations :=
    [(0, [(⟨0, 1, "javax/annotation/Nonnull"⟩,
      ⟨⟨0, 1, "javax/annotation/Nonnull"⟩, [("when", .enum "La/When;" "SOMETIMES")]⟩)])]

def equals : Method where
  descriptor := ⟨3, ⟨0, 2, "a/Repo"⟩, "equals", "(Ljava/lang/Object;)Z", false⟩
  flags := .ofList []
  sourceSignature := none
  exceptions := []
  syntheticParameters := 0
  callCount := 0
  usesConcurrency := false
  hasBackBranch := false
  isStub := false
  serial := 0

/-- A host that asked about the parameter before anything was loaded. -/
def unmarked : Host :=
  ((((start .usual { token := 0 } .fixed (.collect [])).after
    (.intern (.ofClass "javax/annotation/Nonnull"))).after (.build equalsDraft)).after
    (.register equals)).after (.askNullness .qualified 0 equals (some 0))

theorem answer_unmarked : unmarked.Reached ⟨true, false⟩ ∧
    unmarked.session.method? equals.descriptor = some equals ∧
    unmarked.session.recalled? equals (some 0) = some none ∧
    (unmarked.after (.loadNullness .qualified 0)).session.answer equals (some 0) =
      some .checkForNull := by
  have started : (start .usual { token := 0 } .fixed (.collect [])).Reached ⟨true, false⟩ :=
    .start (Registry.wellFormed_start 0)
  let interned := (start .usual { token := 0 } .fixed (.collect [])).after
    (.intern (.ofClass "javax/annotation/Nonnull"))
  have made : equals ∈ (interned.after (.build equalsDraft)).methods := by
    decide +kernel
  have kept : ((interned.after (.build equalsDraft)).after
      (.register equals)).session.method? equals.descriptor = some equals := by
    decide +kernel
  have reached : unmarked.Reached ⟨true, false⟩ :=
    .after (.after (.after (.after started trivial) trivial) made) (Or.inr fun _ => kept)
  have held : unmarked.session.method? equals.descriptor = some equals := by
    decide +kernel
  have remembered : unmarked.session.recalled? equals (some 0) = some none := by
    decide +kernel
  have first : unmarked.session.isNullnessLoaded .qualified unmarked.session.runNumber = false := by
    decide +kernel
  have silent : unmarked.session.answer equals (some 0) = none := by
    decide +kernel
  have number : unmarked.session.runNumber = 0 := by
    decide +kernel
  have plain : equals.has .accStatic = false := by
    decide +kernel
  have marks := ((reached.answer_loaded first) equals held).2 (some 0)
  rw [number, if_pos ⟨rfl, rfl, plain, rfl⟩, silent] at marks
  exact ⟨reached, held, remembered, marks⟩

end Host

end JvmFacts
