import JvmFacts.Proofs.Session.Operations

/-!
Doing work again in a session that is the same but for a registry that has grown since. What the work
interns is there already, so the session does the same again; only declaring application classes asks
which classes there are.
-/

set_option autoImplicit false

namespace JvmFacts.Session

/-- The session over another registry and with other class path entries. -/
def onto (s : Session) (registry : Registry) (paths : Paths) : Session :=
  { s with registry, paths }

/-- The work only adds to the registry, and if all that is there afterwards is in a last registry, then
over that one it gives the same and leaves the registry as it is. -/
structure Repeats {α : Type} (last : Registry) (s : Session) (work : Session → α × Session) :
    Prop where
  grows : s.registry.Extends (work s).2.registry
  again : (work s).2.registry.Extends last →
    ∀ paths, work (s.onto last paths) = ((work s).1, (work s).2.onto last paths)

/-- The same of work that gives nothing. -/
def Redoes (last : Registry) (s : Session) (work : Session → Session) : Prop :=
  Repeats last s fun s => ((), work s)

section

variable {α β : Type} {last : Registry} {s : Session}

/-- Work that neither looks at the registry nor touches it. -/
theorem Repeats.of_onto {work : Session → α × Session}
    (onto : ∀ r paths, work (s.onto r paths) = ((work s).1, (work s).2.onto r paths)) :
    Repeats last s work where
  grows := by
    have same : work s = ((work s).1, (work s).2.onto s.registry s.paths) := onto s.registry s.paths
    rw [same]
    exact refl_of Registry.Extends s.registry
  again := fun _ => onto last

theorem Redoes.of_onto {work : Session → Session}
    (onto : ∀ r paths, work (s.onto r paths) = (work s).onto r paths) : Redoes last s work :=
  Repeats.of_onto fun r paths => congrArg (Prod.mk ()) (onto r paths)

/-- Only what the work does in this session counts, over its own registry and over the last one. -/
theorem Repeats.congr {work other : Session → α × Session} (repeats : Repeats last s other)
    (here : work s = other s)
    (there : ∀ paths, work (s.onto last paths) = other (s.onto last paths)) :
    Repeats last s work where
  grows := by
    rw [here]
    exact repeats.grows
  again := by
    intro within paths
    rw [here] at within ⊢
    rw [there]
    exact repeats.again within paths

theorem Redoes.congr {work other : Session → Session} (redoes : Redoes last s other)
    (here : work s = other s)
    (there : ∀ paths, work (s.onto last paths) = other (s.onto last paths)) : Redoes last s work :=
  Repeats.congr redoes (congrArg (Prod.mk ()) here) fun paths => congrArg (Prod.mk ()) (there paths)

theorem Repeats.andThen {first : Session → α × Session} (one : Repeats last s first)
    (next : α → Session → β × Session) (two : Repeats last (first s).2 (next (first s).1)) :
    Repeats last s fun s => next (first s).1 (first s).2 where
  grows := trans_of Registry.Extends one.grows two.grows
  again := by
    intro within paths
    rw [one.again (trans_of Registry.Extends two.grows within)]
    exact two.again within paths

theorem Repeats.map (change : α → β) {work : Session → α × Session}
    (repeats : Repeats last s work) : Repeats last s fun s => (change (work s).1, (work s).2) :=
  repeats.andThen (fun a s => (change a, s)) (.of_onto fun _ _ => rfl)

theorem Redoes.andThen {first next : Session → Session} (one : Redoes last s first)
    (two : Redoes last (first s) next) : Redoes last s fun s => next (first s) :=
  Repeats.andThen one (fun _ s => ((), next s)) two

theorem Redoes.grows {work : Session → Session} (redoes : Redoes last s work) :
    s.registry.Extends (work s).registry :=
  Repeats.grows redoes

theorem Redoes.again {work : Session → Session} (redoes : Redoes last s work)
    (within : (work s).registry.Extends last) (paths : Paths) :
    work (s.onto last paths) = (work s).onto last paths :=
  congrArg Prod.snd (Repeats.again redoes within paths)

/-! ## Work that may fail -/

theorem Repeats.pure (a : α) : Repeats last s (pure a : Working α).run.run :=
  .of_onto fun _ _ => rfl

theorem Repeats.throw (fault : Fault) : Repeats last s (throw fault : Working α).run.run :=
  .of_onto fun _ _ => rfl

theorem Repeats.bind {first : Working α} {next : α → Working β}
    (one : Repeats last s first.run.run)
    (two : ∀ a t, s.registry.Extends t.registry → first.run.run s = (.ok a, t) →
      Repeats last t (next a).run.run) : Repeats last s (first >>= next).run.run := by
  have further := one.grows
  have same := one.again
  have run := Work.run_bind first next s
  rcases ended : first.run.run s with ⟨fault | a, t⟩ <;> rw [ended] at further same run
  · constructor
    · rw [run]
      exact further
    · intro within paths
      rw [run] at within ⊢
      rw [Work.run_bind, same within paths]
  · have rest := two a t further ended
    constructor
    · rw [run]
      exact trans_of Registry.Extends further rest.grows
    · intro within paths
      rw [run] at within ⊢
      rw [Work.run_bind, same (trans_of Registry.Extends rest.grows within) paths]
      exact rest.again within paths

theorem Repeats.adapt (change : Fault → Fault) {work : Working α}
    (repeats : Repeats last s work.run.run) :
    Repeats last s (ExceptT.adapt change work).run.run where
  grows := repeats.grows
  again := by
    intro within paths
    rw [Work.run_adapt, Work.run_adapt, repeats.again within paths]

theorem Repeats.modifyGet {change : Session → α × Session} (repeats : Repeats last s change) :
    Repeats last s (modifyGet change : Working α).run.run where
  grows := repeats.grows
  again := by
    intro within paths
    have same := repeats.again within paths
    exact congrArg (fun outcome => (Except.ok outcome.1, outcome.2)) same

theorem Redoes.modify {change : Session → Session} (redoes : Redoes last s change) :
    Repeats last s (modify change : Working PUnit).run.run where
  grows := redoes.grows
  again := by
    intro within paths
    exact congrArg (Prod.mk (Except.ok PUnit.unit)) (redoes.again within paths)

theorem repeats_interning {work : Interning α} (repeats : Registry.Repeats last s.registry work) :
    Repeats last s (interning work).run.run where
  grows := repeats.grows
  again := by
    intro within paths
    have same := repeats.again within
    have asked : (s.onto last paths).registry = last := rfl
    rw [interning_run, interning_run, asked, same]
    rfl

end

/-! ## What the registry has no part in -/

section

variable (s : Session) (r : Registry) (paths : Paths)

theorem keepMethod_onto (m : Method) :
    (s.onto r paths).keepMethod m = ((s.keepMethod m).1, (s.keepMethod m).2.onto r paths) := by
  have same : (s.onto r paths).run = s.run := rfl
  unfold keepMethod
  rw [same]
  cases s.run.methods.find? m.descriptor <;> rfl

theorem makeAll_onto (prepared : List PreparedMethod) :
    makeAll prepared (s.onto r paths) =
      ((makeAll prepared s).1, (makeAll prepared s).2.onto r paths) := by
  induction prepared generalizing s with
  | nil => rfl
  | cons p rest ih =>
    have kept : (s.onto r paths).makeAndKeep p =
        ((s.makeAndKeep p).1, (s.makeAndKeep p).2.onto r paths) :=
      (s.makeMethod p).2.keepMethod_onto r paths (s.makeMethod p).1
    simp only [makeAll, kept, ih]

theorem makeClass_onto (p : PreparedClass) :
    makeClass p (s.onto r paths) = ((makeClass p s).1, (makeClass p s).2.onto r paths) := by
  unfold makeClass
  rw [makeAll_onto]
  rfl

theorem report_onto (report : Report) :
    (s.onto r paths).report report = (s.report report).onto r paths := by
  have same : (s.onto r paths).reporter = s.reporter := rfl
  unfold Session.report
  rw [same]
  cases s.reporter <;> rfl

theorem modifyDatabasesOf_onto (run : Nat) (change : Databases → Databases) :
    (s.onto r paths).modifyDatabasesOf run change = (s.modifyDatabasesOf run change).onto r paths := by
  have same : (s.onto r paths).runNumber = s.runNumber := rfl
  unfold modifyDatabasesOf
  rw [same]
  split <;> rfl

theorem modifyDatabases_onto (change : Databases → Databases) :
    (s.onto r paths).modifyDatabases change = (s.modifyDatabases change).onto r paths :=
  s.modifyDatabasesOf_onto r paths s.runNumber change

theorem addToHierarchy_onto (run : Nat) (c : ResolvedClass) (kind : VertexKind) :
    (s.onto r paths).addToHierarchy run c kind =
      ((s.addToHierarchy run c kind).1, (s.addToHierarchy run c kind).2.onto r paths) := by
  have same : (s.onto r paths).hierarchyOf run = s.hierarchyOf run := rfl
  unfold addToHierarchy
  rw [same]
  cases (s.hierarchyOf run).add c kind with
  | error why => rfl
  | ok grown => exact congrArg (Prod.mk (Except.ok ())) (s.modifyDatabasesOf_onto r paths run _)

theorem enter_onto (applications : List ClassDescriptor)
    (entry : ClassDescriptor × Except Fault ResolvedClass) :
    enter applications (s.onto r paths) entry = (enter applications s entry).onto r paths := by
  obtain ⟨c, outcome⟩ := entry
  cases outcome with
  | error fault => exact s.report_onto r paths _
  | ok record =>
    have added := s.addToHierarchy_onto r paths s.runNumber record
      (if applications.contains c then .application else .library)
    have same : (s.onto r paths).runNumber = s.runNumber := rfl
    simp only [enter, same, added]
    rcases s.addToHierarchy s.runNumber record
      (if applications.contains c then .application else .library) with ⟨fault | done, t⟩
    · exact t.report_onto r paths _
    · rfl

theorem createQualified_onto :
    (s.onto r paths).createQualified = s.createQualified.onto r paths := by
  have same : (s.onto r paths).run = s.run := rfl
  unfold createQualified
  rw [same]
  cases s.run.databases.qualified with
  | some q => rfl
  | none => exact congrArg (listen · .qualifiedNullness) (s.modifyDatabases_onto r paths _)

theorem createNullness_onto (source : NullnessSource) :
    (s.onto r paths).createNullness source = (s.createNullness source).onto r paths := by
  cases source with
  | declared =>
    exact s.modifyDatabases_onto r paths fun d =>
      { d with declared := some (d.declared.getD .empty) }
  | qualified => exact s.createQualified_onto r paths

theorem nullnessOf_onto (source : NullnessSource) (run : Nat) (m : Method) (slot : Slot) :
    (s.onto r paths).nullnessOf source run m slot =
      ((s.nullnessOf source run m slot).1, (s.nullnessOf source run m slot).2.onto r paths) := by
  cases source with
  | declared => rfl
  | qualified => exact congrArg (Prod.mk _) (s.modifyDatabasesOf_onto r paths run _)

theorem notify_onto (m : Method) : (s.onto r paths).notify m = (s.notify m).onto r paths := by
  have told : ∀ (listeners : List Listener) (s : Session),
      listeners.foldl (tell m) (s.onto r paths) = (listeners.foldl (tell m) s).onto r paths := by
    intro listeners
    induction listeners with
    | nil => exact fun _ => rfl
    | cons l rest ih =>
      intro s
      have here : tell m (s.onto r paths) l = (tell m s l).onto r paths := by
        cases l with
        | qualifiedNullness =>
          exact s.modifyDatabasesOf_onto r paths s.runNumber fun d =>
            { d with qualified := d.qualified.map (·.forget m.descriptor.id) }
        | recorder index => rfl
      rw [List.foldl_cons, List.foldl_cons, here]
      exact ih _
  exact told s.run.listeners s

theorem annotateEquals_onto (type : ClassDescriptor) (methods : List Method) :
    annotateEquals type methods (s.onto r paths) =
      ((annotateEquals type methods s).1, (annotateEquals type methods s).2.onto r paths) := by
  induction methods generalizing s with
  | nil => rfl
  | cons m rest ih =>
    have same : (s.onto r paths).wantsCheckForNull m = s.wantsCheckForNull m := rfl
    have annotated : (s.onto r paths).annotate m (some 0) ⟨type, []⟩ =
        (s.annotate m (some 0) ⟨type, []⟩).onto r paths :=
      (s.withAnnotation m (some 0) ⟨type, []⟩).notify_onto r paths m
    simp only [annotateEquals, same, annotated, ih]
    split <;> rfl

end

/-! ## Classes -/

section

variable {last : Registry} {s : Session}

theorem repeats_resolve (wf : s.registry.WellFormed) (c : ClassDescriptor) (parsed : ParsedClass) :
    Repeats last s (resolve c parsed).run.run := by
  unfold resolve
  apply (repeats_interning (ParsedClass.repeats_prepare wf c parsed)).bind
  intro p t _ _
  exact .modifyGet (.of_onto fun r paths => t.makeClass_onto r paths p)

theorem repeats_readClass (wf : s.registry.WellFormed) (reader : ClassReader)
    (c : ClassDescriptor) : Repeats last s (readClass reader c).run.run := by
  unfold readClass
  cases reader c with
  | error fault => exact .throw fault
  | ok parsed => exact repeats_resolve wf c parsed

theorem repeats_classRecord (wf : s.registry.WellFormed) (reader : ClassReader)
    (c : ClassDescriptor) : Repeats last s (classRecord reader c).run.run := by
  cases found : s.run.classes.find? c.id with
  | some known =>
    apply Repeats.of_onto
    intro r paths
    have again : (s.onto r paths).run.classes.find? c.id = some known := found
    rw [classRecord_of_known found, classRecord_of_known again]
  | none =>
    have read : Repeats last s
        (do
          let fresh ← ExceptT.adapt (Fault.unavailable c.name) (readClass reader c)
          modify (rememberClass c fresh)
          pure fresh : Working ResolvedClass).run.run := by
      apply ((repeats_readClass wf reader c).adapt _).bind
      intro fresh t _ _
      apply (Redoes.modify (.of_onto fun _ _ => rfl)).bind
      intro _ u _ _
      exact .pure fresh
    have asked : ∀ t : Session, t.run.classes.find? c.id = none →
        (classRecord reader c).run.run t = _ := fun t unknown => by
      rw [classRecord_run, unknown]
    exact read.congr (asked s found) fun paths => asked (s.onto last paths) found

theorem repeats_lookup (wf : s.registry.WellFormed) (reader : ClassReader) (name : String) :
    Repeats last s (lookup reader name).run.run := by
  rcases lookup_cases reader name with ⟨-, fault, turned⟩ | ⟨-, wrap, sought⟩
  · rw [turned]
    exact .throw fault
  · rw [sought]
    apply Repeats.adapt
    apply (repeats_interning (Registry.repeats_internClass wf (Name.slashed name))).bind
    intro c t grows _
    exact repeats_classRecord (grows.wellFormed wf) reader c

theorem repeats_resolveAll (wf : s.registry.WellFormed) (reader : ClassReader)
    (classes : List ClassDescriptor) : Repeats last s (resolveAll reader classes).run := by
  induction classes generalizing s with
  | nil => exact .of_onto fun _ _ => rfl
  | cons c rest ih =>
    have first : Repeats last s (classRecord reader c).run.run := repeats_classRecord wf reader c
    have others := ih (first.grows.wellFormed wf)
    exact first.andThen (fun outcome s =>
      ((c, outcome) :: ((resolveAll reader rest).run s).1, ((resolveAll reader rest).run s).2))
      (others.map ((c, ((classRecord reader c).run.run s).1) :: ·))

/-! ## Application classes -/

theorem redoes_foldl_enter (applications : List ClassDescriptor)
    (entries : List (ClassDescriptor × Except Fault ResolvedClass)) :
    Redoes last s fun s => entries.foldl (enter applications) s := by
  induction entries generalizing s with
  | nil => exact .of_onto fun _ _ => rfl
  | cons entry rest ih =>
    have first : Redoes last s (enter applications · entry) :=
      .of_onto fun r paths => s.enter_onto r paths applications entry
    exact first.andThen ih

/-- Takes analysed classes into the hierarchy, and logs its size if that is wanted. -/
def enterAll (applications : List ClassDescriptor)
    (entries : List (ClassDescriptor × Except Fault ResolvedClass)) (s : Session) : Session :=
  let entered := entries.foldl (enter applications) s.createHierarchy
  if entered.config.debugHierarchy then
    entered.addLog [⟨.debug, s!"{entered.hierarchy.vertexCount} vertices in inheritance graph"⟩]
  else entered

theorem redoes_enterAll (applications : List ClassDescriptor)
    (entries : List (ClassDescriptor × Except Fault ResolvedClass)) :
    Redoes last s (enterAll applications entries) := by
  have created : Redoes last s createHierarchy :=
    .of_onto fun r paths => s.modifyDatabases_onto r paths _
  have logged : ∀ t : Session, Redoes last t fun t =>
      if t.config.debugHierarchy then
        t.addLog [⟨.debug, s!"{t.hierarchy.vertexCount} vertices in inheritance graph"⟩]
      else t := by
    intro t
    apply Redoes.of_onto
    intro r paths
    have config : (t.onto r paths).config = t.config := rfl
    rw [config]
    split <;> rfl
  exact (created.andThen (redoes_foldl_enter applications entries)).andThen (logged _)

/-- Declares applications as if these were the classes that are known, resolved in this order. -/
def declareAmong (reader : ClassReader) (applications order classes : List ClassDescriptor)
    (s : Session) : Session :=
  let (outcomes, t) := (resolveAll reader order).run s
  t.enterAll applications (collect classes outcomes)

theorem declareApplications_eq (reader : ClassReader) (schedule : Schedule)
    (applications : List ClassDescriptor) (s : Session) :
    ((declareApplications reader schedule applications).run s).2 =
      (s.internAhead reader schedule).declareAmong reader applications (s.resolutionOrder schedule)
        s.namedClasses :=
  rfl

/-- Only by the classes that are known does declaring depend on what else the registry holds. -/
theorem redoes_declareAmong (wf : s.registry.WellFormed) (reader : ClassReader)
    (applications order classes : List ClassDescriptor) :
    Redoes last s (declareAmong reader applications order classes) :=
  (repeats_resolveAll wf reader order).andThen
    (fun outcomes t => ((), t.enterAll applications (collect classes outcomes)))
    (redoes_enterAll applications _)

theorem extends_declareApplications (wf : s.registry.WellFormed) (reader : ClassReader)
    (schedule : Schedule) (applications : List ClassDescriptor) :
    s.registry.Extends ((declareApplications reader schedule applications).run s).2.registry := by
  have ahead := extends_internAhead wf reader schedule
  have declared : Redoes s.registry (s.internAhead reader schedule) _ :=
    redoes_declareAmong (ahead.wellFormed wf) reader applications (s.resolutionOrder schedule)
      s.namedClasses
  exact trans_of Registry.Extends ahead declared.grows

/-- Where resolving the classes in turn interns nothing, nothing is interned ahead of its turn. -/
theorem internAhead_of_complete {reader : ClassReader} {schedule : Schedule}
    (complete : ((resolveAll reader (s.resolutionOrder schedule)).run s).2.registry = s.registry) :
    s.internAhead reader schedule = s := by
  unfold internAhead
  rw [complete]
  dsimp only
  rw [Registry.serveWithin_self]
  split <;> rfl

theorem onto_internAhead (reader : ClassReader) (schedule : Schedule) (s : Session) (r : Registry)
    (paths : Paths) : (s.internAhead reader schedule).onto r paths = s.onto r paths := by
  rw [internAhead_frame]
  rfl

/-- The classes of a declaration intern nothing over a registry that has all there was in the end. -/
theorem registry_resolveAll_onto (wf : s.registry.WellFormed) {reader : ClassReader}
    {schedule : Schedule} {applications : List ClassDescriptor}
    (within : ((declareApplications reader schedule applications).run s).2.registry.Extends last)
    (paths : Paths) :
    ((resolveAll reader (s.resolutionOrder schedule)).run (s.onto last paths)).2.registry = last := by
  have wfAhead := (extends_internAhead wf reader schedule).wellFormed wf
  have resolved : Repeats last (s.internAhead reader schedule)
      (resolveAll reader (s.resolutionOrder schedule)).run :=
    repeats_resolveAll wfAhead reader _
  have entered : Redoes last ((resolveKnown reader schedule).run s).2
      (enterAll applications (collect s.namedClasses ((resolveKnown reader schedule).run s).1)) :=
    redoes_enterAll applications _
  have again := resolved.again (trans_of Registry.Extends entered.grows within) paths
  rw [onto_internAhead] at again
  rw [again]
  rfl

/-- A declaration is the same again if it finds the same classes. -/
theorem redoes_declareApplications (wf : s.registry.WellFormed) (reader : ClassReader)
    (schedule : Schedule) (applications : List ClassDescriptor)
    (known : ∀ paths, (s.onto last paths).namedClasses = s.namedClasses) :
    Redoes last s fun s => ((declareApplications reader schedule applications).run s).2 where
  grows := extends_declareApplications wf reader schedule applications
  again := by
    intro within paths
    have config : (s.onto last paths).config = s.config := rfl
    have order : (s.onto last paths).resolutionOrder schedule = s.resolutionOrder schedule := by
      unfold resolutionOrder
      rw [known, config]
    have complete : (s.onto last paths).internAhead reader schedule = s.onto last paths := by
      apply internAhead_of_complete
      rw [order]
      exact registry_resolveAll_onto wf within paths
    have wfAhead := (extends_internAhead wf reader schedule).wellFormed wf
    have declared : Redoes last (s.internAhead reader schedule) _ :=
      redoes_declareAmong wfAhead reader applications (s.resolutionOrder schedule) s.namedClasses
    have again := declared.again within paths
    rw [onto_internAhead] at again
    dsimp only
    rw [declareApplications_eq, complete, order, known, again]
    rfl

/-! ## Databases -/

theorem registry_modifyDatabasesOf (s : Session) (run : Nat) (change : Databases → Databases) :
    (s.modifyDatabasesOf run change).registry = s.registry := by
  obtain ⟨databases, retired, modified⟩ := s.modifyDatabasesOf_frame run change
  rw [modified]

/-- Takes loaded entries into the session. -/
def takeIn {τ : Type} (keep : τ → Session → Session) (loaded : Loading τ) (s : Session) : Session :=
  (keep loaded.table { s with registry := loaded.registry }).addLog loaded.log

theorem redoes_takeIn {τ : Type} {load : Session → Loading τ} {keep : τ → Session → Session}
    (registry : ∀ t table, (keep table t).registry = t.registry)
    (onto : ∀ t table r paths, keep table (onto t r paths) = (keep table t).onto r paths)
    (grows : s.registry.Extends (load s).registry)
    (again : (load s).registry.Extends last →
      ∀ paths, load (s.onto last paths) = (load s).onto last) :
    Redoes last s fun s => s.takeIn keep (load s) := by
  have taken : (s.takeIn keep (load s)).registry = (load s).registry := registry _ _
  constructor
  · dsimp only
    rw [taken]
    exact grows
  · intro within paths
    dsimp only at within ⊢
    rw [taken] at within
    have kept := onto { s with registry := (load s).registry } (load s).table last paths
    rw [again within paths]
    exact congrArg (fun t : Session => ((), t.addLog (load s).log)) kept

theorem loadCheckReturn_eq (s : Session) : s.loadCheckReturn =
    s.takeIn (fun table t => t.setCheckReturn fun _ => table) (s.checkReturn.load s.registry) :=
  rfl

theorem redoes_loadCheckReturn (wf : s.registry.WellFormed) : Redoes last s loadCheckReturn := by
  obtain ⟨grows, again⟩ := CheckReturnTable.repeats_load last wf s.checkReturn
  have taken : Redoes last s fun s =>
      s.takeIn (fun table t => t.setCheckReturn fun _ => table) (s.checkReturn.load s.registry) :=
    redoes_takeIn (fun t _ => t.registry_modifyDatabasesOf _ _)
      (fun t _ r paths => t.modifyDatabases_onto r paths _) grows fun within _ => again within
  rw [← funext loadCheckReturn_eq] at taken
  exact taken

theorem loadDeclared_eq (run : Nat) (s : Session) : s.loadDeclared run =
    s.takeIn (fun table t => t.setDeclared run table) ((s.declaredOf run).load s.registry) :=
  rfl

theorem redoes_loadDeclared (wf : s.registry.WellFormed) (run : Nat) :
    Redoes last s (loadDeclared run) := by
  obtain ⟨grows, again⟩ := DeclaredNullness.repeats_load last wf (s.declaredOf run)
  have taken : Redoes last s fun s =>
      s.takeIn (fun table t => t.setDeclared run table) ((s.declaredOf run).load s.registry) :=
    redoes_takeIn (fun t _ => t.registry_modifyDatabasesOf _ _)
      (fun t _ r paths => t.modifyDatabasesOf_onto r paths run _) grows fun within _ => again within
  rw [← funext (loadDeclared_eq run)] at taken
  exact taken

/-- Annotates the `equals` methods of the table once their annotation is interned, or logs why it is
not. -/
def markEquals (outcome : Except Fault ClassDescriptor) (s : Session) : Session :=
  match outcome with
  | .error fault =>
    s.addLog [⟨.warn, s!"cannot intern {Nullness.checkForNullClass}: {fault.message}"⟩]
  | .ok type =>
    let (added, t) := annotateEquals type s.allMethods s
    t.addLog [⟨.debug, s!"added @CheckForNull to {added} equals methods"⟩]

theorem redoes_markEquals (outcome : Except Fault ClassDescriptor) :
    Redoes last s (markEquals outcome) := by
  apply Redoes.of_onto
  intro r paths
  cases outcome with
  | error fault => rfl
  | ok type =>
    have methods : (s.onto r paths).allMethods = s.allMethods := rfl
    unfold markEquals
    dsimp only
    rw [methods, annotateEquals_onto]
    rfl

theorem loadQualified_of_unloaded {run : Nat} (unloaded : ¬ (s.qualifiedOf run).isLoaded = true) :
    s.loadQualified run =
      let marked := s.setQualified run { s.qualifiedOf run with isLoaded := true }
      let (outcome, t) :=
        (interning (Registry.internClass Nullness.checkForNullClass)).run.run marked
      t.markEquals outcome := by
  unfold loadQualified
  simp only [if_neg unloaded]
  generalize s.setQualified run { s.qualifiedOf run with isLoaded := true } = marked
  rcases (interning (Registry.internClass Nullness.checkForNullClass)).run.run marked
    with ⟨fault | type, t⟩ <;> rfl

theorem redoes_loadQualified (wf : s.registry.WellFormed) (run : Nat) :
    Redoes last s (loadQualified run) := by
  have asked : ∀ r paths, (s.onto r paths).qualifiedOf run = s.qualifiedOf run := fun _ _ => rfl
  by_cases loaded : (s.qualifiedOf run).isLoaded = true
  · apply Redoes.of_onto
    intro r paths
    unfold loadQualified
    simp only [asked, if_pos loaded]
  · have marked : Redoes last s fun s =>
        s.setQualified run { s.qualifiedOf run with isLoaded := true } :=
      .of_onto fun r paths => s.modifyDatabasesOf_onto r paths run _
    have interned : Repeats last (s.setQualified run { s.qualifiedOf run with isLoaded := true })
        (interning (Registry.internClass Nullness.checkForNullClass)).run.run :=
      repeats_interning
        (Registry.repeats_internClass (marked.grows.wellFormed wf) Nullness.checkForNullClass)
    have marks : Redoes last (s.setQualified run { s.qualifiedOf run with isLoaded := true })
        fun t => ((interning (Registry.internClass Nullness.checkForNullClass)).run.run t).2.markEquals
          ((interning (Registry.internClass Nullness.checkForNullClass)).run.run t).1 :=
      interned.andThen (fun outcome t => ((), t.markEquals outcome)) (redoes_markEquals _)
    exact (marked.andThen marks).congr (loadQualified_of_unloaded loaded) fun paths =>
      loadQualified_of_unloaded (s := s.onto last paths) loaded

theorem redoes_loadNullness (wf : s.registry.WellFormed) (source : NullnessSource) (run : Nat) :
    Redoes last s (loadNullness · source run) := by
  cases source with
  | declared => exact redoes_loadDeclared wf run
  | qualified => exact redoes_loadQualified wf run

theorem redoes_updateDatabases (wf : s.registry.WellFormed) (pass : Nat) :
    Redoes last s (updateDatabases · pass) := by
  by_cases idle : (pass ≠ 0 || !s.config.loadBuiltIns) = true
  · have nothing : Redoes last s fun s => s := .of_onto fun _ _ => rfl
    exact nothing.congr (if_pos idle) fun _ => if_pos idle
  · have created : Redoes last s createCheckReturn :=
      .of_onto fun r paths => s.modifyDatabases_onto r paths _
    have loaded := created.andThen (redoes_loadCheckReturn (created.grows.wellFormed wf))
    have filled : ∀ t : Session, t.registry.WellFormed → Redoes last t fun t =>
        (t.createNullness t.config.nullnessSource).loadNullness t.config.nullnessSource t.runNumber := by
      intro t wf
      have listening : Redoes last t (createNullness · t.config.nullnessSource) :=
        .of_onto fun r paths => t.createNullness_onto r paths _
      have both := listening.andThen (redoes_loadNullness (listening.grows.wellFormed wf)
        t.config.nullnessSource t.runNumber)
      exact both.congr rfl fun _ => rfl
    have all := loaded.andThen (filled _ (loaded.grows.wellFormed wf))
    exact all.congr (if_neg idle) fun _ => if_neg idle

end

end JvmFacts.Session
