import JvmFacts.Proofs.Registry.Repetition
import JvmFacts.Proofs.Session.Change

/-!
Which steps the operations of a session are made of.
-/

set_option autoImplicit false

namespace JvmFacts.Session

open Relation

section

variable {free : Freedom} {known : List Method} {s : Session}

theorem yields_lookup (tidy : Tidy free s) (reader : ClassReader) (name : String) :
    Work.Yields (Resolves free) s (lookup reader name) fun _ _ => True := by
  rcases lookup_cases reader name with ⟨-, fault, turned⟩ | ⟨-, wrap, sought⟩
  · rw [turned]
    exact Work.Yields.throw fault
  · rw [sought]
    apply Work.Yields.adapt
    have named : Work.Yields (Resolves free) s _ _ :=
      (yields_interning (Registry.yields_internClass s.registry (Name.slashed name))).lift
        fun _ _ => resolves_of_makes
    apply Work.Yields.bind named
    intro c t resolves made
    have record := yields_classRecord (tidy.resolves resolves) (Or.inr made.1) reader
    exact record.mono fun _ _ _ _ => trivial

theorem yields_depthWithin (reader : ClassReader) (steps : Nat) (tidy : Tidy free s)
    {c : ClassDescriptor} (named : free.MayName s.registry c) :
    Work.Yields (Changes free known) s (depthWithin reader steps c) fun _ _ => True := by
  induction steps generalizing s c with
  | zero => exact Work.Yields.throw _
  | succ steps ih =>
    unfold depthWithin
    apply Work.Yields.get_bind
    cases s.run.depths.find? c.id with
    | some depth => exact Work.Yields.pure trivial
    | none =>
      refine Work.Yields.bind (@Work.Yields.adapt _ _ _ _ (fun _ _ => True) _ _ ?_) ?_
      · have resolved : Work.Yields (Changes free known) s (classRecord reader c) _ :=
          (yields_classRecord tidy named reader).lift fun _ _ => changes_of_resolves
        apply Work.Yields.bind resolved
        intro record t changes superclass
        cases parent : record.superclass with
        | none => exact Work.Yields.pure trivial
        | some parent' =>
          have held : parent' ∈ t.registry.classes := superclass parent' parent
          apply Work.Yields.bind (ih (tidy.changes changes) (Or.inr held))
          intro above u _ _
          exact Work.Yields.pure trivial
      · intro depth t _ _
        exact Work.Yields.modifyGet (.single .rememberDepth) trivial

theorem yields_buildMethod (wf : s.registry.WellFormed) (d : MethodDraft) :
    Work.Yields (Changes free known) s (buildMethod d) fun _ _ => True := by
  unfold buildMethod
  have prepared : Work.Yields (Changes free known) s (interning d.prepare) _ :=
    (yields_interning (MethodDraft.yields_prepare wf d)).lift fun _ _ => changes_of_makes
  apply Work.Yields.bind prepared
  intro p t _ made
  exact Work.Yields.modifyGet (.single (.makeMethod made.within)) trivial

theorem Change.ofDatabases {change : Databases → Databases}
    (hierarchy : ∀ d, (change d).hierarchy = d.hierarchy)
    (qualified : ∀ d, (change d).qualified = d.qualified) :
    Change free known s (s.modifyDatabases change) :=
  .promise hierarchy qualified

theorem changes_createNullness (source : NullnessSource) :
    Changes free known s (s.createNullness source) := by
  cases source with
  | qualified => exact .single .createQualified
  | declared =>
    unfold createNullness createDeclared
    exact .single (.ofDatabases (by intro d; rfl) (by intro d; rfl))

theorem changes_createCheckReturn : Changes free known s s.createCheckReturn := by
  unfold createCheckReturn
  exact .single (.ofDatabases (by intro d; rfl) (by intro d; rfl))

theorem changes_setCheckReturn (change : CheckReturnTable → CheckReturnTable) :
    Changes free known s (s.setCheckReturn change) := by
  unfold setCheckReturn
  exact .single (.ofDatabases (by intro d; rfl) (by intro d; rfl))

theorem changes_setDeclared (run : Nat) (t : DeclaredNullness) :
    Changes free known s (s.setDeclared run t) := by
  unfold setDeclared
  exact .single (.promise (by intro d; rfl) (by intro d; rfl))

theorem changes_createRetention : Changes free known s s.createRetention := by
  unfold createRetention
  exact .single (.ofDatabases (by intro d; rfl) (by intro d; rfl))

theorem changes_setRetention (change : RetentionTable → RetentionTable) :
    Changes free known s (s.setRetention change) := by
  unfold setRetention
  exact .single (.ofDatabases (by intro d; rfl) (by intro d; rfl))

theorem changes_loadCheckReturn (wf : s.registry.WellFormed) :
    Changes free known s s.loadCheckReturn := by
  have interned :
      Change free known s { s with registry := (s.checkReturn.load s.registry).registry } :=
    .resolving (.making (.intern (s.checkReturn.grows_load wf)))
  unfold loadCheckReturn setCheckReturn
  apply ReflTransGen.tail _ .addLog
  apply ReflTransGen.tail (.single interned)
  exact .ofDatabases (by intro d; rfl) (by intro d; rfl)

theorem changes_loadDeclared (wf : s.registry.WellFormed) (run : Nat) :
    Changes free known s (s.loadDeclared run) := by
  have interned :
      Change free known s { s with registry := ((s.declaredOf run).load s.registry).registry } :=
    .resolving (.making (.intern ((s.declaredOf run).grows_load wf)))
  unfold loadDeclared
  apply ReflTransGen.tail _ .addLog
  apply ReflTransGen.tail (.single interned)
  exact .promise (by intro d; rfl) (by intro d; rfl)

theorem changes_annotateEquals (type : ClassDescriptor) (methods : List Method)
    (held : ∀ m ∈ methods, m ∈ s.run.methods.values) :
    Changes free known s (annotateEquals type methods s).2 := by
  induction methods generalizing s with
  | nil => exact .refl
  | cons m rest ih =>
    unfold annotateEquals
    by_cases wants : s.wantsCheckForNull m = true
    · simp only [if_pos wants]
      apply ReflTransGen.head (.annotate (Or.inr (held m (List.mem_cons_self ..))))
      apply ih
      intro other member
      rw [methods_annotate]
      exact held other (List.mem_cons_of_mem _ member)
    · simp only [if_neg wants]
      exact ih fun other member => held other (List.mem_cons_of_mem _ member)

theorem mem_allMethods {m : Method} : m ∈ s.allMethods ↔ m ∈ s.run.methods.values :=
  List.mem_mergeSort

theorem changes_loadQualified (run : Nat)
    (present : run = s.runNumber → s.run.databases.qualified.isSome) :
    Changes free known s (s.loadQualified run) := by
  unfold loadQualified
  by_cases loaded : (s.qualifiedOf run).isLoaded = true
  · simp only [if_pos loaded]
    exact .refl
  · simp only [if_neg loaded]
    apply ReflTransGen.head (.markLoaded present)
    generalize s.setQualified run { s.qualifiedOf run with isLoaded := true } = t
    have interned :=
      (yields_interning (Registry.yields_internClass t.registry Nullness.checkForNullClass)).steps
    rcases ended : (interning (Registry.internClass Nullness.checkForNullClass)).run.run t
      with ⟨fault | type, u⟩ <;> rw [ended] at interned
    · exact (changes_of_makes interned).tail .addLog
    · have annotated : Changes free known u (annotateEquals type u.allMethods u).2 :=
        changes_annotateEquals type u.allMethods fun m member => mem_allMethods.1 member
      exact ((changes_of_makes interned).trans annotated).tail .addLog

theorem changes_loadNullness (wf : s.registry.WellFormed) (source : NullnessSource) (run : Nat)
    (present : source = .qualified → run = s.runNumber → s.run.databases.qualified.isSome) :
    Changes free known s (s.loadNullness source run) := by
  cases source with
  | declared => exact changes_loadDeclared wf run
  | qualified => exact changes_loadQualified run (present rfl)

theorem createQualified_isSome : s.createQualified.run.databases.qualified.isSome := by
  unfold createQualified
  split
  · rename_i held
    rw [held]
    rfl
  · unfold listen modifyDatabases
    rw [modifyDatabasesOf_self]
    rfl

theorem createQualified_frame (s : Session) : ∃ listeners qualified, s.createQualified =
    { s with run := { s.run with
        listeners
        databases := { s.run.databases with qualified } } } := by
  unfold createQualified
  split
  · exact ⟨s.run.listeners, s.run.databases.qualified, rfl⟩
  · unfold listen modifyDatabases
    rw [modifyDatabasesOf_self]
    exact ⟨_, _, rfl⟩

theorem runNumber_createQualified (s : Session) : s.createQualified.runNumber = s.runNumber := by
  obtain ⟨listeners, qualified, created⟩ := s.createQualified_frame
  rw [created]

theorem runNumber_createNullness (s : Session) (source : NullnessSource) :
    (s.createNullness source).runNumber = s.runNumber := by
  cases source with
  | declared =>
    obtain ⟨databases, retired, created⟩ := s.modifyDatabasesOf_frame s.runNumber
      fun d => { d with declared := some (d.declared.getD .empty) }
    have same := congrArg Session.runNumber created
    exact same
  | qualified => exact s.runNumber_createQualified

theorem annotationsOf_createNullness (s : Session) (source : NullnessSource) (m : Method) :
    (s.createNullness source).annotationsOf m = s.annotationsOf m := by
  cases source with
  | declared =>
    obtain ⟨databases, retired, created⟩ := s.modifyDatabasesOf_frame s.runNumber
      fun d => { d with declared := some (d.declared.getD .empty) }
    have same := congrArg (annotationsOf · m) created
    exact same
  | qualified =>
    obtain ⟨listeners, qualified, created⟩ := s.createQualified_frame
    have same := congrArg (annotationsOf · m) created
    exact same

theorem createNullness_isSome {source : NullnessSource} (qualified : source = .qualified) :
    (s.createNullness source).run.databases.qualified.isSome := by
  subst qualified
  exact createQualified_isSome

theorem changes_updateDatabases (tidy : Tidy free s) (pass : Nat) :
    Changes free known s (s.updateDatabases pass) := by
  unfold updateDatabases
  by_cases idle : (pass ≠ 0 || !s.config.loadBuiltIns) = true
  · simp only [if_pos idle]
    exact .refl
  · simp only [if_neg idle]
    have created : Changes free known s s.createCheckReturn := changes_createCheckReturn
    have tidy₁ := tidy.changes created
    have loaded : Changes free known _ s.createCheckReturn.loadCheckReturn :=
      changes_loadCheckReturn tidy₁.registry
    have tidy₂ := tidy₁.changes loaded
    generalize s.createCheckReturn.loadCheckReturn = t at loaded tidy₂
    have listening : Changes free known t (t.createNullness t.config.nullnessSource) :=
      changes_createNullness t.config.nullnessSource
    have tidy₃ := tidy₂.changes listening
    apply ((created.trans loaded).trans listening).trans
    exact changes_loadNullness tidy₃.registry _ _ fun qualified _ => createNullness_isSome qualified

/-! ## Declaring application classes -/

theorem changes_enter (applications : List ClassDescriptor)
    (entry : ClassDescriptor × Except Fault ResolvedClass) :
    Changes free known s (enter applications s entry) := by
  obtain ⟨c, outcome⟩ := entry
  cases outcome with
  | error fault => exact .single .report
  | ok record =>
    have added : Change free known s (s.addToHierarchy s.runNumber record
        (if applications.contains c then .application else .library)).2 :=
      .addToHierarchy
    simp only [enter]
    split
    · rename_i t ended
      rw [ended] at added
      exact .single added
    · rename_i fault t ended
      rw [ended] at added
      exact (ReflTransGen.single added).tail .report

theorem changes_foldl_enter (applications : List ClassDescriptor)
    (entries : List (ClassDescriptor × Except Fault ResolvedClass)) :
    Changes free known s (entries.foldl (enter applications) s) := by
  induction entries generalizing s with
  | nil => exact .refl
  | cons entry rest ih => exact (changes_enter applications entry).trans ih

/-- All classes that are known are resolved, in whatever order. -/
theorem perm_resolutionOrder (s : Session) (schedule : Schedule) :
    (s.resolutionOrder schedule).Perm s.namedClasses := by
  unfold resolutionOrder
  split
  · exact schedule.perm s.namedClasses
  · exact .refl s.namedClasses

theorem nodup_resolutionOrder (wf : s.registry.WellFormed) (schedule : Schedule) :
    (s.resolutionOrder schedule).Nodup :=
  (s.perm_resolutionOrder schedule).nodup_iff.2 (wf.distinct.filter _)

theorem mem_of_mem_collect {classes : List ClassDescriptor}
    {outcomes : List (ClassDescriptor × Except Fault ResolvedClass)}
    {entry : ClassDescriptor × Except Fault ResolvedClass}
    (member : entry ∈ collect classes outcomes) : entry ∈ outcomes := by
  obtain ⟨c, -, found⟩ := List.mem_filterMap.1 member
  exact List.mem_of_find?_eq_some found

/-- Reading the outcomes in another way, by the same classes, does not matter for where they stand. -/
theorem map_collect {β : Type} {read : ClassDescriptor × Except Fault ResolvedClass → ClassDescriptor × β}
    (keeps : ∀ entry, (read entry).1 = entry.1) (classes : List ClassDescriptor)
    (outcomes : List (ClassDescriptor × Except Fault ResolvedClass)) :
    (collect classes outcomes).map read =
      classes.filterMap fun c => (outcomes.map read).find? fun entry => entry.1 = c := by
  unfold collect
  rw [List.map_filterMap]
  congr 1
  funext c
  rw [List.find?_map]
  simp only [Function.comp_def, keeps]

theorem collect_map
    {read : ClassDescriptor × Except Fault ResolvedClass → ClassDescriptor × Except Fault ResolvedClass}
    (keeps : ∀ entry, (read entry).1 = entry.1) (classes : List ClassDescriptor)
    (outcomes : List (ClassDescriptor × Except Fault ResolvedClass)) :
    collect classes (outcomes.map read) = (collect classes outcomes).map read :=
  (map_collect keeps classes outcomes).symm

/-- Outcomes that were had in any order stand in the order of the classes. -/
theorem map_collect_of_perm {β : Type}
    (read : ClassDescriptor × Except Fault ResolvedClass → ClassDescriptor × β)
    (keeps : ∀ entry, (read entry).1 = entry.1) {order classes : List ClassDescriptor}
    (perm : order.Perm classes) {outcomes : List (ClassDescriptor × Except Fault ResolvedClass)}
    {value : ClassDescriptor → β} (had : outcomes.map read = order.map fun c => (c, value c)) :
    (collect classes outcomes).map read = classes.map fun c => (c, value c) := by
  have listed : classes.map (fun c => (c, value c)) =
      classes.filterMap fun c => some (c, value c) := by
    rw [← List.filterMap_eq_map]
    rfl
  rw [map_collect keeps, had, listed]
  apply List.filterMap_congr
  intro c member
  have found : order.find? (fun d => d = c) = some c := by
    have among := perm.mem_iff.2 member
    cases sought : order.find? (fun d => d = c) with
    | none => exact absurd (decide_eq_true rfl) (List.find?_eq_none.1 sought c among)
    | some d =>
      have same := List.find?_some sought
      rw [of_decide_eq_true same]
  rw [List.find?_map]
  exact congrArg (Option.map _) found

/-- Interning ahead of its turn touches nothing but the registry. -/
theorem internAhead_frame (reader : ClassReader) (schedule : Schedule) (s : Session) :
    s.internAhead reader schedule =
      { s with registry := (s.internAhead reader schedule).registry } := by
  unfold internAhead
  split <;> rfl

theorem extends_internAhead (wf : s.registry.WellFormed) (reader : ClassReader)
    (schedule : Schedule) : s.registry.Extends (s.internAhead reader schedule).registry := by
  unfold internAhead
  split
  · exact Registry.extends_serveWithin _ schedule.ahead wf
  · exact refl_of Registry.Extends s.registry

theorem resolves_internAhead (wf : s.registry.WellFormed) (reader : ClassReader)
    (schedule : Schedule) : Resolves free s (s.internAhead reader schedule) := by
  rw [internAhead_frame]
  exact .single (.making (.intern (extends_internAhead wf reader schedule).toGrowsSoundly))

/-- The classes are still there when it comes to them. -/
theorem mem_classes_internAhead (wf : s.registry.WellFormed) (reader : ClassReader)
    {schedule : Schedule} {c : ClassDescriptor} (member : c ∈ s.resolutionOrder schedule) :
    c ∈ (s.internAhead reader schedule).registry.classes :=
  (extends_internAhead wf reader schedule).mem_classes
    (List.mem_of_mem_filter ((s.perm_resolutionOrder schedule).mem_iff.1 member))

theorem resolveKnown_run (reader : ClassReader) (schedule : Schedule) (s : Session) :
    (resolveKnown reader schedule).run s =
      (resolveAll reader (s.resolutionOrder schedule)).run (s.internAhead reader schedule) :=
  rfl

theorem resolves_resolveKnown (tidy : Tidy free s) (reader : ClassReader) (schedule : Schedule) :
    Resolves free s ((resolveKnown reader schedule).run s).2 := by
  have ahead : Resolves free s (s.internAhead reader schedule) :=
    resolves_internAhead tidy.registry reader schedule
  have resolved := resolves_resolveAll reader (s.resolutionOrder schedule) (tidy.resolves ahead)
    fun c member => Or.inr (mem_classes_internAhead tidy.registry reader member)
  exact ahead.trans resolved

/-- The session once every class that could be had is in the hierarchy. -/
def declared (reader : ClassReader) (schedule : Schedule) (applications : List ClassDescriptor)
    (s : Session) : Session :=
  let (outcomes, t) := (resolveKnown reader schedule).run s
  (collect s.namedClasses outcomes).foldl (enter applications) t.createHierarchy

/-- After that at most a line is logged. -/
theorem declareApplications_run (reader : ClassReader) (schedule : Schedule)
    (applications : List ClassDescriptor) (s : Session) :
    ((declareApplications reader schedule applications).run s).2 =
        s.declared reader schedule applications ∨
      ∃ records, ((declareApplications reader schedule applications).run s).2 =
        (s.declared reader schedule applications).addLog records := by
  have run : ((declareApplications reader schedule applications).run s).2 =
      let t := s.declared reader schedule applications
      if t.config.debugHierarchy then
        t.addLog [⟨.debug, s!"{t.hierarchy.vertexCount} vertices in inheritance graph"⟩]
      else t := rfl
  rw [run]
  dsimp only
  split
  · exact Or.inr ⟨_, rfl⟩
  · exact Or.inl rfl

/-- Once the classes are resolved, declaring only enters them and reports. -/
theorem changes_enterAll (reader : ClassReader) (schedule : Schedule)
    (applications : List ClassDescriptor) :
    Changes free known ((resolveKnown reader schedule).run s).2
      ((declareApplications reader schedule applications).run s).2 := by
  have created : Changes free known ((resolveKnown reader schedule).run s).2
      ((resolveKnown reader schedule).run s).2.createHierarchy :=
    .single .createHierarchy
  have declared : Changes free known ((resolveKnown reader schedule).run s).2
      (s.declared reader schedule applications) :=
    created.trans (changes_foldl_enter applications _)
  rcases declareApplications_run reader schedule applications s with same | ⟨records, logged⟩
  · rw [same]
    exact declared
  · rw [logged]
    exact declared.tail .addLog

theorem changes_declareApplications (tidy : Tidy free s) (reader : ClassReader)
    (schedule : Schedule) (applications : List ClassDescriptor) :
    Changes free known s ((declareApplications reader schedule applications).run s).2 :=
  (changes_of_resolves (resolves_resolveKnown tidy reader schedule)).trans
    (changes_enterAll reader schedule applications)

theorem changes_takeCensus : Changes free known s s.takeCensus.2 := by
  unfold takeCensus
  split
  · exact .refl
  · apply ReflTransGen.tail (.single .createHierarchy)
    dsimp only
    exact .ofDatabases (by intro d; rfl) (by intro d; rfl)

theorem yields_addEntry (entry : String) :
    Work.Yields (Changes free known) s (addEntry entry) fun _ _ => True := by
  unfold addEntry
  apply Work.Yields.get_bind
  cases s.paths with
  | fixed => exact Work.Yields.throw _
  | entries names =>
    dsimp only
    by_cases empty : entry.isEmpty = true
    · simp only [if_pos empty]
      exact Work.Yields.throw _
    · simp only [if_neg empty]
      by_cases new : (!names.contains entry) = true
      · simp only [if_pos new]
        exact (Work.Yields.modify (.single .setPaths)).mono fun _ _ _ _ => trivial
      · simp only [if_neg new]
        exact Work.Yields.pure trivial

theorem yields_clearClassCache :
    Work.Yields (Changes free known) s clearClassCache fun _ _ => True := by
  unfold clearClassCache
  apply Work.Yields.get_bind
  cases s.paths with
  | fixed => exact Work.Yields.throw _
  | entries names =>
    exact (Work.Yields.modify (.single .purgeClasses)).mono fun _ _ _ _ => trivial

end

end JvmFacts.Session
