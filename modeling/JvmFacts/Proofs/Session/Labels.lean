import JvmFacts.Proofs.Method.Tables
import JvmFacts.Proofs.Session.Facts
import JvmFacts.Proofs.Session.Handles

/-!
The annotations that a session holds stand each under its own class, each class once, as long as the
drafts that it is given were gathered by a scanner: a method starts with the tables of its draft, and
after that annotations are only added.
-/

set_option autoImplicit false

namespace JvmFacts

open List

/-! ## Drafts that a call brings -/

/-- Every method that a class is read with was gathered by a scanner. -/
def ParsedClass.Scanned (parsed : ParsedClass) : Prop :=
  ∀ d ∈ parsed.methods, d.Scanned

def ClassReader.Scanned (reader : ClassReader) : Prop :=
  ∀ c parsed, reader c = .ok parsed → parsed.Scanned

/-- All drafts that the call can build were gathered by a scanner. -/
def Call.Scanned : Call → Prop
  | .build draft => draft.Scanned
  | .resolve _ parsed => parsed.Scanned
  | .lookup reader _ => ClassReader.Scanned reader
  | .analyze reader _ => ClassReader.Scanned reader
  | .depth reader _ _ => ClassReader.Scanned reader
  | .declareApplications reader _ _ => ClassReader.Scanned reader
  | _ => True

theorem ParsedClass.gives_prepare (parsed : ParsedClass) (c : ClassDescriptor) (r : Registry) :
    Work.Gives r (parsed.prepare c) fun p =>
      Forall₂ (fun d q => q.tables = d.tables) parsed.methods p.methods := by
  unfold prepare
  by_cases other : Name.slashed parsed.name ≠ c.name
  · simp only [if_pos other]
    exact Work.Yields.throw _
  · simp only [if_neg other]
    have method : ∀ d t, Work.Gives t (prepareMethod c d) fun q => q.tables = d.tables := by
      intro d t
      unfold prepareMethod
      by_cases foreign : Name.slashed d.className ≠ c.name
      · simp only [if_pos foreign]
        exact Work.Yields.throw _
      · simp only [if_neg foreign]
        exact (d.gives_prepare t).mono fun _ _ _ both => both.2
    apply Work.Yields.bind (Work.gives_anything r _)
    intro superclass r₁ _ _
    apply Work.Yields.bind (Work.gives_anything r₁ _)
    intro interfaces r₂ _ _
    apply Work.Yields.bind (Work.gives_anything r₂ _)
    intro fields r₃ _ _
    apply Work.Yields.bind (Work.Yields.mapM_forall₂
      (fun (d : MethodDraft) (_ : Registry) (q : PreparedMethod) => q.tables = d.tables)
      (fun _ same => same) parsed.methods fun d _ t _ => method d t)
    intro methods r₄ _ same
    apply Work.Yields.bind (Work.gives_anything r₄ _)
    intro sourceFile r₅ _ _
    exact Work.Yields.pure same

namespace Session

def Labelled (s : Session) : Prop :=
  ∀ a ∈ s.annotations.values, a.Proper

/-- The one session is labelled if the other is. -/
def Labels (s t : Session) : Prop :=
  s.Labelled → t.Labelled

instance : IsPreorder Session Labels where
  refl _ := id
  trans _ _ _ first second := second ∘ first

section

variable {s t : Session}

theorem labels_of_same (same : t.annotations = s.annotations) : Labels s t := by
  intro labelled
  unfold Labelled
  rw [same]
  exact labelled

theorem Labelled.annotationsOf (labelled : s.Labelled) (m : Method) : (s.annotationsOf m).Proper := by
  unfold Session.annotationsOf
  cases found : s.annotations.find? m.serial with
  | none => exact MethodAnnotations.proper_empty
  | some a => exact labelled a (Table.mem_values_of_find? found)

/-! ## Making methods -/

theorem labels_makeMethod {p : PreparedMethod} (proper : p.tables.Proper) :
    Labels s (s.makeMethod p).2 := by
  intro labelled a member
  rcases Table.mem_values_insert member with rfl | before
  · exact proper
  · exact labelled a before

theorem labels_keepMethod (m : Method) : Labels s (s.keepMethod m).2 := by
  obtain ⟨methods, kept⟩ := keepMethod_frame m s
  rw [kept]
  exact labels_of_same rfl

theorem labels_makeAll {prepared : List PreparedMethod} (proper : ∀ p ∈ prepared, p.tables.Proper) :
    Labels s (makeAll prepared s).2 := by
  induction prepared generalizing s with
  | nil => exact refl_of Labels s
  | cons p rest ih =>
    have made : Labels s (s.makeMethod p).2 := labels_makeMethod (proper p mem_cons_self)
    have kept := trans_of Labels made (labels_keepMethod (s.makeMethod p).1)
    exact trans_of Labels kept (ih fun q later => proper q (mem_cons_of_mem p later))

theorem labels_buildMethod {d : MethodDraft} (scanned : d.Scanned) :
    Labels s ((buildMethod d).run.run s).2 := by
  unfold buildMethod
  rw [run_interning_modifyGet]
  rcases prepared : d.prepare.run.run s.registry with ⟨fault | p, r⟩
  · exact labels_of_same rfl
  · have same := ((d.gives_prepare s.registry).of_ok prepared).2
    have proper : p.tables.Proper := same ▸ scanned.proper
    exact labels_makeMethod (s := { s with registry := r }) proper

theorem labels_resolve {parsed : ParsedClass} (scanned : parsed.Scanned) (c : ClassDescriptor) :
    Labels s ((resolve c parsed).run.run s).2 := by
  unfold resolve
  rw [run_interning_modifyGet]
  rcases prepared : (parsed.prepare c).run.run s.registry with ⟨fault | p, r⟩
  · exact labels_of_same rfl
  · have same := (parsed.gives_prepare c s.registry).of_ok prepared
    have proper : ∀ q ∈ p.methods, q.tables.Proper := by
      intro q member
      obtain ⟨d, declared, handed⟩ := exists_of_mem_right same member
      rw [handed]
      exact (scanned d declared).proper
    exact labels_makeAll (s := { s with registry := r }) proper

/-! ## Classes -/

theorem labels_interning {α : Type} (work : Interning α) :
    Labels s ((interning work).run.run s).2 :=
  labels_of_same rfl

section

variable {reader : ClassReader} (scanned : ClassReader.Scanned reader)

include scanned

theorem yields_labelled_classRecord (c : ClassDescriptor) :
    Work.Yields Labels s (classRecord reader c) fun _ _ => True := by
  unfold classRecord
  apply Work.Yields.get_bind
  cases s.run.classes.find? c.id with
  | some known => exact Work.Yields.pure trivial
  | none =>
    have read : Work.Yields Labels s (readClass reader c) fun _ _ => True := by
      unfold readClass
      cases delivered : reader c with
      | error fault => exact Work.Yields.throw fault
      | ok parsed => exact ⟨labels_resolve (scanned c parsed delivered) c, fun _ _ => trivial⟩
    apply (read.adapt _).bind
    intro fresh t _ _
    apply Work.Yields.bind (Work.Yields.modify (labels_of_same rfl))
    intro _ u _ _
    exact Work.Yields.pure trivial

theorem labels_lookup (name : String) : Labels s ((lookup reader name).run.run s).2 := by
  rcases lookup_cases reader name with ⟨-, fault, turned⟩ | ⟨-, wrap, sought⟩
  · rw [turned]
    exact refl_of Labels s
  · rw [sought]
    have interned : Work.Yields Labels s (interning (Registry.internClass (Name.slashed name)))
        fun _ _ => True := ⟨labels_interning _, fun _ _ => trivial⟩
    exact ((interned.bind fun c t _ _ => yields_labelled_classRecord scanned c).adapt wrap).steps

theorem yields_labelled_depthWithin (steps : Nat) (c : ClassDescriptor) :
    Work.Yields Labels s (depthWithin reader steps c) fun _ _ => True := by
  induction steps generalizing s c with
  | zero => exact Work.Yields.throw _
  | succ steps ih =>
    unfold depthWithin
    apply Work.Yields.get_bind
    cases s.run.depths.find? c.id with
    | some known => exact Work.Yields.pure trivial
    | none =>
      refine Work.Yields.bind (@Work.Yields.adapt _ _ _ _ (fun _ _ => True) _ _ ?_) ?_
      · apply (yields_labelled_classRecord scanned c).bind
        intro record t _ _
        cases record.superclass with
        | none => exact Work.Yields.pure trivial
        | some parent =>
          apply (ih parent).bind
          intro above u _ _
          exact Work.Yields.pure trivial
      · intro depth t _ _
        obtain ⟨depths, remembered⟩ := t.rememberDepth_frame c depth
        apply Work.Yields.modifyGet _ trivial
        rw [remembered]
        exact labels_of_same rfl

theorem labels_resolveAll (classes : List ClassDescriptor) :
    Labels s ((resolveAll reader classes).run s).2 := by
  induction classes generalizing s with
  | nil => exact refl_of Labels s
  | cons c rest ih => exact trans_of Labels (yields_labelled_classRecord scanned c).steps ih

end

/-! ## Annotations that are added -/

theorem labels_notify (m : Method) : Labels s (s.notify m) := by
  obtain ⟨recorders, notified⟩ := s.exists_notify m
  rw [notified]
  exact labels_of_same rfl

theorem labels_annotate (m : Method) (slot : Slot) (a : Annotation) :
    Labels s (s.annotate m slot a) := by
  intro labelled
  apply labels_notify m
  intro b member
  rcases Table.mem_values_insert member with rfl | before
  · exact (labelled.annotationsOf m).add slot a
  · exact labelled b before

theorem labels_annotateEquals (type : ClassDescriptor) (methods : List Method) :
    Labels s (annotateEquals type methods s).2 := by
  induction methods generalizing s with
  | nil => exact refl_of Labels s
  | cons m rest ih =>
    unfold annotateEquals
    split
    · exact trans_of Labels (labels_annotate m (some 0) ⟨type, []⟩) ih
    · exact ih

/-! ## Databases -/

theorem annotations_modifyDatabasesOf (s : Session) (run : Nat) (change : Databases → Databases) :
    (s.modifyDatabasesOf run change).annotations = s.annotations := by
  obtain ⟨databases, retired, modified⟩ := s.modifyDatabasesOf_frame run change
  rw [modified]

theorem labels_modifyDatabasesOf (run : Nat) (change : Databases → Databases) :
    Labels s (s.modifyDatabasesOf run change) :=
  labels_of_same (s.annotations_modifyDatabasesOf run change)

theorem labels_modifyDatabases (change : Databases → Databases) :
    Labels s (s.modifyDatabases change) :=
  labels_modifyDatabasesOf s.runNumber change

theorem labels_createNullness (source : NullnessSource) : Labels s (s.createNullness source) := by
  cases source with
  | declared => exact labels_modifyDatabases _
  | qualified =>
    obtain ⟨listeners, qualified, created⟩ := s.createQualified_frame
    change Labels s s.createQualified
    rw [created]
    exact labels_of_same rfl

theorem labels_ready (source : NullnessSource) (run : Nat) : Labels s (s.ready source run) := by
  unfold ready
  split
  · exact labels_createNullness source
  · exact refl_of Labels s

theorem labels_nullnessOf (source : NullnessSource) (run : Nat) (m : Method) (slot : Slot) :
    Labels s (s.nullnessOf source run m slot).2 := by
  cases source with
  | declared => exact refl_of Labels s
  | qualified => exact labels_modifyDatabasesOf run _

theorem labels_loadQualified (run : Nat) : Labels s (s.loadQualified run) := by
  unfold loadQualified
  by_cases loaded : (s.qualifiedOf run).isLoaded = true
  · simp only [if_pos loaded]
    exact refl_of Labels s
  · simp only [if_neg loaded]
    have marked : Labels s (s.setQualified run { s.qualifiedOf run with isLoaded := true }) :=
      labels_modifyDatabasesOf run _
    generalize s.setQualified run { s.qualifiedOf run with isLoaded := true } = t at marked
    have interned : Labels t ((interning (Registry.internClass Nullness.checkForNullClass)).run.run t).2 :=
      labels_interning _
    rcases ended : (interning (Registry.internClass Nullness.checkForNullClass)).run.run t
      with ⟨fault | type, u⟩ <;> rw [ended] at interned
    · exact trans_of Labels marked interned
    · have annotated : Labels u (annotateEquals type u.allMethods u).2 :=
        labels_annotateEquals type u.allMethods
      exact trans_of Labels marked (trans_of Labels interned annotated)

theorem labels_loadNullness (source : NullnessSource) (run : Nat) :
    Labels s (s.loadNullness source run) := by
  cases source with
  | declared => exact labels_of_same (annotations_modifyDatabasesOf _ run _)
  | qualified => exact labels_loadQualified run

theorem labels_loadCheckReturn : Labels s s.createCheckReturn.loadCheckReturn :=
  labels_of_same ((annotations_modifyDatabasesOf _ _ _).trans (s.annotations_modifyDatabasesOf _ _))

theorem labels_updateDatabases (pass : Nat) : Labels s (s.updateDatabases pass) := by
  unfold updateDatabases
  split
  · exact refl_of Labels s
  · have loaded : Labels s s.createCheckReturn.loadCheckReturn := labels_loadCheckReturn
    exact trans_of Labels loaded
      (trans_of Labels (labels_createNullness _) (labels_loadNullness _ _))

theorem labels_takeCensus : Labels s s.takeCensus.2 := by
  unfold takeCensus
  split
  · exact refl_of Labels s
  · exact trans_of Labels (labels_modifyDatabases _) (labels_modifyDatabases _)

theorem labels_report (r : Report) : Labels s (s.report r) := by
  unfold report
  split <;> exact labels_of_same rfl

theorem labels_clearClassCache : Labels s (clearClassCache.run.run s).2 := by
  unfold clearClassCache
  rw [Work.run_get_bind]
  cases s.paths <;> exact labels_of_same rfl

theorem labels_addEntry (entry : String) : Labels s ((addEntry entry).run.run s).2 := by
  unfold addEntry
  rw [Work.run_get_bind]
  cases s.paths with
  | fixed => exact labels_of_same rfl
  | entries names =>
    dsimp only
    by_cases empty : entry.isEmpty = true
    · simp only [if_pos empty]
      exact labels_of_same rfl
    · simp only [if_neg empty]
      by_cases new : (!names.contains entry) = true
      · simp only [if_pos new]
        exact labels_of_same rfl
      · simp only [if_neg new]
        exact labels_of_same rfl

theorem labels_addToHierarchy (run : Nat) (c : ResolvedClass) (kind : VertexKind) :
    Labels s (s.addToHierarchy run c kind).2 := by
  rcases s.addToHierarchy_frame run c kind with same | ⟨grown, added⟩
  · rw [same]
    exact refl_of Labels s
  · rw [added]
    exact labels_modifyDatabasesOf run _

theorem labels_enter (applications : List ClassDescriptor)
    (entry : ClassDescriptor × Except Fault ResolvedClass) :
    Labels s (enter applications s entry) := by
  obtain ⟨c, outcome⟩ := entry
  cases outcome with
  | error fault => exact labels_report _
  | ok record =>
    have added : Labels s (s.addToHierarchy s.runNumber record
        (if applications.contains c then .application else .library)).2 :=
      labels_addToHierarchy s.runNumber record _
    simp only [enter]
    split
    · rename_i t ended
      rw [ended] at added
      exact added
    · rename_i fault t ended
      rw [ended] at added
      exact trans_of Labels added (labels_report _)

theorem labels_declareApplications {reader : ClassReader} (scanned : ClassReader.Scanned reader)
    (schedule : Schedule) (applications : List ClassDescriptor) :
    Labels s ((declareApplications reader schedule applications).run s).2 := by
  have entered : ∀ (entries : List (ClassDescriptor × Except Fault ResolvedClass)) (t : Session),
      Labels t (entries.foldl (enter applications) t) := by
    intro entries
    induction entries with
    | nil => exact fun t => refl_of Labels t
    | cons entry rest ih => exact fun t => trans_of Labels (labels_enter applications entry) (ih _)
  have ahead : Labels s (s.internAhead reader schedule) := by
    rw [internAhead_frame]
    exact labels_of_same rfl
  have resolved : Labels s ((resolveKnown reader schedule).run s).2 :=
    trans_of Labels ahead (labels_resolveAll scanned (s.resolutionOrder schedule))
  have declared : Labels s (s.declared reader schedule applications) :=
    trans_of Labels resolved (trans_of Labels (labels_modifyDatabases _) (entered _ _))
  rcases declareApplications_run reader schedule applications s with same | ⟨records, logged⟩
  · rw [same]
    exact declared
  · rw [logged]
    exact trans_of Labels declared (labels_of_same rfl)

end

end Session

theorem Call.labels {call : Call} (scanned : call.Scanned) (s : Session) :
    Session.Labels s (call.effect s) := by
  cases call with
  | lookup reader name => exact Session.labels_lookup scanned name
  | analyze reader c => exact (Session.yields_labelled_classRecord scanned c).steps
  | resolve c parsed => exact Session.labels_resolve scanned c
  | depth reader steps c => exact (Session.yields_labelled_depthWithin scanned steps c).steps
  | build draft => exact Session.labels_buildMethod scanned
  | declareApplications reader schedule applications =>
    exact Session.labels_declareApplications scanned schedule applications
  | register m => exact Session.labels_keepMethod m
  | annotate m slot a => exact Session.labels_annotate m slot a
  | notify m => exact Session.labels_notify m
  | report r => exact Session.labels_report r
  | clearClassCache => exact Session.labels_clearClassCache
  | addEntry entry => exact Session.labels_addEntry entry
  | updateDatabases pass => exact Session.labels_updateDatabases pass
  | addClass run record kind => exact Session.labels_addToHierarchy run record kind
  | createNullness source => exact Session.labels_createNullness source
  | loadNullness source run =>
    exact trans_of Session.Labels (Session.labels_ready source run)
      (Session.labels_loadNullness source run)
  | askNullness source run m slot =>
    exact trans_of Session.Labels (Session.labels_ready source run)
      (Session.labels_nullnessOf source run m slot)
  | takeCensus => exact Session.labels_takeCensus
  | setDeclared run m slot value => exact Session.labels_modifyDatabasesOf run _
  | loadCheckReturn => exact Session.labels_loadCheckReturn
  | createHierarchy | createCheckReturn | createRetention => exact Session.labels_modifyDatabases _
  | setCheckReturn | setRetention =>
    exact trans_of Session.Labels (Session.labels_modifyDatabases _) (Session.labels_modifyDatabases _)
  | _ => exact Session.labels_of_same rfl

namespace Host

/-- What a host can reach that reads methods as a scanner gathers them. -/
inductive Scanned (free : Freedom) : Host → Prop
  | start {config : Config} {registry : Registry} {paths : Paths} {reporter : Reporter}
    (wf : registry.WellFormed) : Scanned free (start config registry paths reporter)
  | after {h : Host} {call : Call} (before : Scanned free h) (allowed : call.Allowed free h)
    (gathered : call.Scanned) : Scanned free (h.after call)

variable {free : Freedom} {h : Host}

theorem Scanned.reached (scanned : h.Scanned free) : h.Reached free := by
  induction scanned with
  | start wf => exact .start wf
  | after _ allowed _ ih => exact .after ih allowed

theorem Scanned.labelled (scanned : h.Scanned free) : h.session.Labelled := by
  induction scanned with
  | start wf => exact fun a none => absurd none not_mem_nil
  | after _ _ gathered ih => exact Call.labels gathered _ ih

end Host

end JvmFacts
