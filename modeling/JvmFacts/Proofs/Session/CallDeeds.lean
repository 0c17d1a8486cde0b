import JvmFacts.Proofs.Session.Deeds

/-!
What each call does. All but those that resolve classes or build methods do nothing that shows in the
records, and none but a reset takes a method out of the table or unloads a table that is loaded.
-/

set_option autoImplicit false

namespace JvmFacts

open List

/-! ## Tables that are loaded -/

theorem Loading.isLoaded_foldl {τ ι : Type} {step : Loading τ → ι → Loading τ} {isLoaded : τ → Bool}
    (each : ∀ l entry, isLoaded l.table = true → isLoaded (step l entry).table = true)
    (entries : List ι) {l : Loading τ} (loaded : isLoaded l.table = true) :
    isLoaded (entries.foldl step l).table = true := by
  induction entries generalizing l with
  | nil => exact loaded
  | cons entry rest ih => exact ih (each l entry loaded)

/-- Recording an entry leaves a loaded table loaded. -/
theorem Loading.isLoaded_take {τ δ : Type} {kind entry : String} {intern : Interning δ}
    {record : δ → τ → τ} {isLoaded : τ → Bool}
    (kept : ∀ d t, isLoaded t = true → isLoaded (record d t) = true) {l : Loading τ}
    (loaded : isLoaded l.table = true) : isLoaded (take kind entry intern record l).table = true := by
  unfold take
  split
  · exact kept _ _ loaded
  · exact loaded

theorem CheckReturnTable.isLoaded_takeMethod {l : Loading CheckReturnTable}
    (entry : KnownMethod × CheckReturn) (loaded : l.table.isLoaded = true) :
    (takeMethod l entry).table.isLoaded = true := by
  unfold takeMethod Loading.takeMethod
  apply Loading.isLoaded_take _ loaded
  exact fun _ _ held => held

theorem CheckReturnTable.isLoaded_takeClass {l : Loading CheckReturnTable}
    (entry : String × CheckReturn) (loaded : l.table.isLoaded = true) :
    (takeClass l entry).table.isLoaded = true := by
  unfold takeClass Loading.takeClass
  apply Loading.isLoaded_take _ loaded
  exact fun _ _ held => held

theorem CheckReturnTable.isLoaded_loadFrom (methods : List (KnownMethod × CheckReturn))
    (classes : List (String × CheckReturn)) {l : Loading CheckReturnTable}
    (loaded : l.table.isLoaded = true) : (loadFrom methods classes l).table.isLoaded = true := by
  have first := Loading.isLoaded_foldl (fun _ entry => isLoaded_takeMethod entry) methods loaded
  exact Loading.isLoaded_foldl (fun _ entry => isLoaded_takeClass entry) classes first

theorem CheckReturnTable.isLoaded_load (t : CheckReturnTable) (r : Registry) :
    (t.load r).table.isLoaded = true := by
  by_cases loaded : t.isLoaded = true
  · unfold load
    rw [if_pos loaded]
    exact loaded
  · rw [load_of_unloaded loaded]
    exact isLoaded_loadFrom _ _ rfl

theorem DeclaredNullness.isLoaded_takeKnown {l : Loading DeclaredNullness}
    (entry : KnownMethod × Slot × Nullness) (loaded : l.table.isLoaded = true) :
    (takeKnown l entry).table.isLoaded = true := by
  unfold takeKnown Loading.takeMethod
  apply Loading.isLoaded_take _ loaded
  exact fun _ _ held => held

theorem DeclaredNullness.isLoaded_loadFrom (entries : List (KnownMethod × Slot × Nullness))
    {l : Loading DeclaredNullness} (loaded : l.table.isLoaded = true) :
    (loadFrom entries l).table.isLoaded = true :=
  Loading.isLoaded_foldl (fun _ entry => isLoaded_takeKnown entry) entries loaded

theorem DeclaredNullness.isLoaded_load (t : DeclaredNullness) (r : Registry) :
    (t.load r).table.isLoaded = true := by
  by_cases loaded : t.isLoaded = true
  · unfold load
    rw [if_pos loaded]
    exact loaded
  · rw [load_of_unloaded loaded]
    exact isLoaded_loadFrom _ rfl

theorem Databases.any_getD {α : Type} {holds : α → Bool} {item : Option α} {default : α}
    (held : item.any holds = true) : holds (item.getD default) = true := by
  cases item with
  | none => cases held
  | some a => exact held

namespace Session

section

variable {free : Freedom} {recording : Prop} {s : Session}

/-! ## Databases -/

theorem does_modifyDatabasesOf (run : Nat) {change : Databases → Databases}
    (keeps : run = s.runNumber → recording → s.run.databases.Keeps (change s.run.databases)) :
    Does free recording [] s (s.modifyDatabasesOf run change) := by
  by_cases current : run = s.runNumber
  · subst current
    rw [modifyDatabasesOf_self]
    exact .idle (refl_of Registry.Extends s.registry) (fun _ _ held => held) rfl rfl (keeps rfl)
      (Or.inl rfl)
  · unfold modifyDatabasesOf
    rw [if_neg current]
    exact .aside rfl rfl rfl rfl rfl (Or.inl rfl)

theorem does_modifyDatabases {change : Databases → Databases}
    (keeps : recording → s.run.databases.Keeps (change s.run.databases)) :
    Does free recording [] s (s.modifyDatabases change) :=
  does_modifyDatabasesOf s.runNumber fun _ => keeps

theorem does_addLog (records : List LogRecord) : Does free recording [] s (s.addLog records) :=
  .aside rfl rfl rfl rfl rfl (Or.inl rfl)

theorem does_report (r : Report) : Does free recording [] s (s.report r) := by
  unfold Session.report
  split <;> exact .aside rfl rfl rfl rfl rfl (Or.inl rfl)

theorem does_createHierarchy : Does free recording [] s s.createHierarchy :=
  does_modifyDatabases fun _ => .of_same rfl rfl rfl

theorem does_addToHierarchy (run : Nat) (c : ResolvedClass) (kind : VertexKind) :
    Does free recording [] s (s.addToHierarchy run c kind).2 := by
  rcases s.addToHierarchy_frame run c kind with same | ⟨grown, added⟩
  · rw [same]
    exact .refl s
  · rw [added]
    exact does_modifyDatabasesOf run fun _ _ => .of_same rfl rfl rfl

theorem does_enter (applications : List ClassDescriptor)
    (entry : ClassDescriptor × Except Fault ResolvedClass) :
    Does free recording [] s (enter applications s entry) := by
  obtain ⟨c, outcome⟩ := entry
  cases outcome with
  | error fault => exact does_report _
  | ok record =>
    have added : Does free recording [] s (s.addToHierarchy s.runNumber record
        (if applications.contains c then .application else .library)).2 :=
      does_addToHierarchy _ _ _
    simp only [enter]
    split
    · rename_i t ended
      rw [ended] at added
      exact added
    · rename_i fault t ended
      rw [ended] at added
      exact added.trans (does_report _)

theorem does_foldl_enter (applications : List ClassDescriptor)
    (entries : List (ClassDescriptor × Except Fault ResolvedClass)) :
    Does free recording [] s (entries.foldl (enter applications) s) := by
  induction entries generalizing s with
  | nil => exact .refl s
  | cons entry rest ih =>
    have first : Does free recording [] s (enter applications s entry) := does_enter applications entry
    exact first.trans ih

theorem does_declareApplications (tidy : Tidy free s) (reader : ClassReader) (schedule : Schedule)
    (applications : List ClassDescriptor) :
    Does free recording
      (deedsOfClasses reader (s.resolutionOrder schedule) (s.internAhead reader schedule)) s
      ((declareApplications reader schedule applications).run s).2 := by
  have ahead : Does free recording [] s (s.internAhead reader schedule) := by
    rw [internAhead_frame]
    exact .intern (extends_internAhead tidy.registry reader schedule)
  have steps : Resolves free s (s.internAhead reader schedule) :=
    resolves_internAhead tidy.registry reader schedule
  have resolved : Does free recording _ (s.internAhead reader schedule) _ :=
    does_resolveAll (tidy.resolves steps) reader (s.resolutionOrder schedule) fun c member =>
      Or.inr (mem_classes_internAhead tidy.registry reader member)
  have entered : Does free recording [] ((resolveKnown reader schedule).run s).2
      (s.declared reader schedule applications) :=
    does_createHierarchy.trans (does_foldl_enter applications _)
  have declared := (ahead.idle_left resolved).idle_right entered
  rcases declareApplications_run reader schedule applications s with same | ⟨records, logged⟩
  · rw [same]
    exact declared
  · rw [logged]
    exact declared.idle_right (does_addLog records)

/-! ## Promises -/

theorem does_createCheckReturn : Does free recording [] s s.createCheckReturn :=
  does_modifyDatabases fun _ =>
    { checkReturn := Databases.any_getD
      nullness := fun _ held => held }

theorem does_setCheckReturn {change : CheckReturnTable → CheckReturnTable}
    (kept : recording → ∀ t, t.isLoaded = true → (change t).isLoaded = true) :
    Does free recording [] s (s.setCheckReturn change) := by
  apply does_modifyDatabases
  intro tame
  refine ⟨?_, fun _ held => held⟩
  intro held
  unfold Databases.hasCheckReturn at held ⊢
  rw [Option.any_map]
  cases table : s.run.databases.checkReturn with
  | none =>
    rw [table] at held
    cases held
  | some t =>
    rw [table] at held
    exact kept tame t held

/-- Entries that are taken in are interned and kept, and it is logged. -/
theorem does_takeIn {τ : Type} {keep : τ → Session → Session} {loaded : Loading τ}
    (grows : s.registry.Extends loaded.registry)
    (kept : ∀ t, Does free recording [] t (keep loaded.table t)) :
    Does free recording [] s (s.takeIn keep loaded) := by
  have interned : Does free recording [] s { s with registry := loaded.registry } := .intern grows
  exact (interned.trans (kept _)).trans (does_addLog loaded.log)

theorem does_loadCheckReturn (wf : s.registry.WellFormed) :
    Does free recording [] s s.loadCheckReturn := by
  rw [loadCheckReturn_eq]
  apply does_takeIn (CheckReturnTable.repeats_load s.registry wf s.checkReturn).1
  intro t
  exact does_setCheckReturn fun _ _ _ => CheckReturnTable.isLoaded_load s.checkReturn s.registry

theorem does_setDeclared {run : Nat} {t : DeclaredNullness}
    (kept : (s.declaredOf run).isLoaded = true → t.isLoaded = true) :
    Does free recording [] s (s.setDeclared run t) := by
  apply does_modifyDatabasesOf
  rintro rfl -
  refine ⟨id, ?_⟩
  intro source held
  cases source with
  | declared =>
    apply kept
    unfold declaredOf databasesOf
    rw [if_pos rfl]
    exact Databases.any_getD held
  | qualified => exact held

theorem does_setQualified {run : Nat} {q : QualifiedNullness}
    (kept : (s.qualifiedOf run).isLoaded = true → q.isLoaded = true) :
    Does free recording [] s (s.setQualified run q) := by
  apply does_modifyDatabasesOf
  rintro rfl -
  refine ⟨id, ?_⟩
  intro source held
  cases source with
  | declared => exact held
  | qualified =>
    apply kept
    unfold qualifiedOf databasesOf
    rw [if_pos rfl]
    exact Databases.any_getD held

theorem does_loadDeclared (wf : s.registry.WellFormed) (run : Nat) :
    Does free recording [] s (s.loadDeclared run) := by
  rw [loadDeclared_eq]
  apply does_takeIn (DeclaredNullness.repeats_load s.registry wf (s.declaredOf run)).1
  intro t
  exact does_setDeclared fun _ => DeclaredNullness.isLoaded_load (s.declaredOf run) s.registry

theorem does_listen (listener : Listener) : Does free recording [] s (s.listen listener) :=
  .aside rfl rfl rfl rfl rfl (Or.inl rfl)

theorem does_createQualified : Does free recording [] s s.createQualified := by
  unfold createQualified
  cases held : s.run.databases.qualified with
  | some q => exact .refl s
  | none =>
    have created : Does free recording [] s
        (s.modifyDatabases fun d => { d with qualified := some {} }) := by
      apply does_modifyDatabases
      intro _
      refine ⟨id, ?_⟩
      intro source loaded
      cases source with
      | declared => exact loaded
      | qualified =>
        unfold Databases.hasNullness at loaded
        rw [held] at loaded
        cases loaded
    exact created.trans (does_listen .qualifiedNullness)

theorem does_createNullness (source : NullnessSource) :
    Does free recording [] s (s.createNullness source) := by
  cases source with
  | qualified => exact does_createQualified
  | declared =>
    unfold createNullness createDeclared
    apply does_modifyDatabases
    intro _
    refine ⟨id, ?_⟩
    intro source held
    cases source with
    | declared => exact Databases.any_getD held
    | qualified => exact held

theorem does_withMemo {m : Method} (recorders : List Recorder) :
    Does free recording [] s
      (s.withMemo (memoTold s.run.listeners m s.run.databases.qualified) recorders) := by
  refine .idle (refl_of Registry.Extends s.registry) (fun _ _ held => held) rfl rfl ?_ (Or.inl rfl)
  intro _
  refine ⟨id, ?_⟩
  intro source held
  cases source with
  | declared => exact held
  | qualified =>
    unfold Databases.hasNullness at held ⊢
    dsimp only [withMemo]
    unfold memoTold
    split
    · rw [Option.any_map]
      exact held
    · exact held

theorem does_notify (m : Method) : Does free recording [] s (s.notify m) := by
  obtain ⟨recorders, notified⟩ := s.exists_notify m
  rw [notified]
  exact does_withMemo recorders

theorem does_annotate (m : Method) (slot : Slot) (a : Annotation) :
    Does free recording [] s (s.annotate m slot a) := by
  have annotated : Does free recording [] s (s.withAnnotation m slot a) :=
    .aside rfl rfl rfl rfl rfl (Or.inl rfl)
  exact annotated.trans (does_notify m)

theorem does_annotateEquals (type : ClassDescriptor) (methods : List Method) :
    Does free recording [] s (annotateEquals type methods s).2 := by
  induction methods generalizing s with
  | nil => exact .refl s
  | cons m rest ih =>
    unfold annotateEquals
    split
    · have first : Does free recording [] s (s.annotate m (some 0) ⟨type, []⟩) := does_annotate _ _ _
      exact first.trans ih
    · exact ih

theorem does_markEquals (outcome : Except Fault ClassDescriptor) :
    Does free recording [] s (s.markEquals outcome) := by
  cases outcome with
  | error fault => exact does_addLog _
  | ok type =>
    have annotated : Does free recording [] s (annotateEquals type s.allMethods s).2 :=
      does_annotateEquals type s.allMethods
    exact annotated.trans (does_addLog _)

theorem does_loadQualified (wf : s.registry.WellFormed) (run : Nat) :
    Does free recording [] s (s.loadQualified run) := by
  by_cases loaded : (s.qualifiedOf run).isLoaded = true
  · unfold loadQualified
    simp only [if_pos loaded]
    exact .refl s
  · have marked : Does free recording [] s
        (s.setQualified run { s.qualifiedOf run with isLoaded := true }) :=
      does_setQualified fun _ => rfl
    rw [loadQualified_of_unloaded loaded]
    generalize s.setQualified run { s.qualifiedOf run with isLoaded := true } = t at marked
    have repeats : Registry.Repeats t.registry t.registry
        (Registry.internClass Nullness.checkForNullClass) :=
      Registry.repeats_internClass (marked.registry.wellFormed wf) _
    have interned : Does free recording [] t _ := does_interning repeats.grows
    exact (marked.trans interned).trans (does_markEquals _)

theorem does_loadNullness (wf : s.registry.WellFormed) (source : NullnessSource) (run : Nat) :
    Does free recording [] s (s.loadNullness source run) := by
  cases source with
  | declared => exact does_loadDeclared wf run
  | qualified => exact does_loadQualified wf run

theorem does_ready (source : NullnessSource) (run : Nat) :
    Does free recording [] s (s.ready source run) := by
  unfold ready
  split
  · exact does_createNullness source
  · exact .refl s

theorem does_nullnessOf (source : NullnessSource) (run : Nat) (m : Method) (slot : Slot) :
    Does free recording [] s (s.nullnessOf source run m slot).2 := by
  cases source with
  | declared => exact .refl s
  | qualified =>
    apply does_setQualified
    intro loaded
    split <;> exact loaded

theorem does_updateDatabases (wf : s.registry.WellFormed) (pass : Nat) :
    Does free recording [] s (s.updateDatabases pass) := by
  unfold updateDatabases
  split
  · exact .refl s
  · have created : Does free recording [] s s.createCheckReturn := does_createCheckReturn
    have loaded := created.trans (does_loadCheckReturn (created.registry.wellFormed wf))
    generalize s.createCheckReturn.loadCheckReturn = t at loaded
    have listening := loaded.trans (does_createNullness t.config.nullnessSource)
    exact listening.trans (does_loadNullness (listening.registry.wellFormed wf) _ _)

theorem does_createRetention : Does free recording [] s s.createRetention :=
  does_modifyDatabases fun _ => .of_same rfl rfl rfl

theorem does_setRetention (change : RetentionTable → RetentionTable) :
    Does free recording [] s (s.setRetention change) :=
  does_modifyDatabases fun _ => .of_same rfl rfl rfl

theorem does_takeCensus : Does free recording [] s s.takeCensus.2 := by
  unfold takeCensus
  split
  · exact .refl s
  · dsimp only
    exact does_createHierarchy.trans (does_modifyDatabases fun _ => .of_same rfl rfl rfl)

/-! ## Class path entries -/

theorem does_addEntry (entry : String) : Does free recording [] s ((addEntry entry).run.run s).2 := by
  unfold addEntry
  rw [Work.run_get_bind]
  cases s.paths with
  | fixed => exact .refl s
  | entries names =>
    dsimp only
    by_cases empty : entry.isEmpty = true
    · simp only [if_pos empty]
      exact .refl s
    · simp only [if_neg empty]
      by_cases new : (!names.contains entry) = true
      · simp only [if_pos new]
        exact .aside rfl rfl rfl rfl rfl (Or.inl rfl)
      · simp only [if_neg new]
        exact .refl s

theorem does_clearClassCache : Does free recording [] s (clearClassCache.run.run s).2 := by
  unfold clearClassCache
  rw [Work.run_get_bind]
  cases s.paths with
  | fixed => exact .refl s
  | entries names => exact .aside rfl rfl rfl rfl rfl (Or.inr rfl)

end

end Session

/-! ## Calls -/

namespace Call

/-- What the call does, in this order. -/
def deeds : Call → Session → List Deed
  | lookup reader name, s => Session.deedsOfLookup reader name s
  | analyze reader c, s => Session.deedsOfRecord reader c s
  | resolve c parsed, s => Session.deedsOfResolve c parsed s
  | depth reader steps c, s => Session.deedsOfDepth reader steps c s
  | build draft, s => Session.deedsOfBuild draft s
  | declareApplications reader schedule _, s =>
    Session.deedsOfClasses reader (s.resolutionOrder schedule) (s.internAhead reader schedule)
  | clearFacts, _ => [.cleared]
  | _, _ => []

/-- What was done in the run so far. -/
def chronicle (call : Call) (s : Session) (deeds : List Deed) : List Deed :=
  match call with
  | reset => []
  | _ => deeds ++ call.deeds s

/-- A host puts entries into the check-return table and takes none out. -/
def Records : Call → Prop
  | setCheckReturn change =>
    (∃ m value, change = (·.setMethod m value)) ∨ ∃ c value, change = (·.setClass c value)
  | _ => True

/-- A class that the host resolves itself is one that it may name. -/
def ResolvesOwn (free : Freedom) (h : Host) : Call → Prop
  | resolve c _ => free.MayName h.session.registry c
  | _ => True

theorem does {free : Freedom} {h : Host} {call : Call} (tidy : Session.Tidy free h.session)
    (allowed : call.Allowed free h) (own : call.ResolvesOwn free h) (stays : call ≠ .reset) :
    Session.Does free call.Records (call.deeds h.session) h.session (call.effect h.session) := by
  have wf := tidy.registry
  cases call with
  | lookup reader name => exact Session.does_lookup wf reader name
  | analyze reader c => exact Session.does_classRecord wf allowed reader
  | resolve c parsed => exact Session.does_resolve wf own parsed
  | depth reader steps c => exact Session.does_depthWithin tidy reader steps allowed
  | build draft => exact Session.does_buildMethod wf draft
  | declareApplications reader schedule applications =>
    exact Session.does_declareApplications tidy reader schedule applications
  | clearFacts =>
    have idle : Session.Does free True [] h.session h.session.clearFacts :=
      .aside rfl rfl rfl rfl rfl (Or.inl rfl)
    apply idle.unresolved
    intro parsed record member
    cases List.mem_singleton.1 member
  | reset => exact absurd rfl stays
  | intern request =>
    exact Session.does_interning (request.repeats_work h.session.registry wf).grows
  | canonical text => exact Session.does_interning (h.session.registry.extends_addString text)
  | register m => exact Session.does_keepMethod m
  | annotate m slot a => exact Session.does_annotate m slot a
  | notify m => exact Session.does_notify m
  | addRecorder => exact .aside rfl rfl rfl rfl rfl (Or.inl rfl)
  | dropRecorder index => exact .aside rfl rfl rfl rfl rfl (Or.inl rfl)
  | addLog records => exact Session.does_addLog records
  | report r => exact Session.does_report r
  | purgeClasses => exact .aside rfl rfl rfl rfl rfl (Or.inr rfl)
  | clearClassCache => exact Session.does_clearClassCache
  | addEntry entry => exact Session.does_addEntry entry
  | setBridge source target => exact .aside rfl rfl rfl rfl rfl (Or.inl rfl)
  | clearBridges => exact .aside rfl rfl rfl rfl rfl (Or.inl rfl)
  | updateDatabases pass => exact Session.does_updateDatabases wf pass
  | createHierarchy => exact Session.does_createHierarchy
  | addClass run record kind => exact Session.does_addToHierarchy run record kind
  | createCheckReturn => exact Session.does_createCheckReturn
  | setCheckReturn change =>
    apply Session.does_createCheckReturn.trans (Session.does_setCheckReturn _)
    rintro (⟨m, value, rfl⟩ | ⟨c, value, rfl⟩) t loaded <;> exact loaded
  | loadCheckReturn =>
    have created : Session.Does free True [] h.session h.session.createCheckReturn :=
      Session.does_createCheckReturn
    exact created.trans (Session.does_loadCheckReturn (created.registry.wellFormed wf))
  | createNullness source => exact Session.does_createNullness source
  | setDeclared run m slot value => exact Session.does_setDeclared id
  | loadNullness source run =>
    have ready : Session.Does free True [] h.session (h.session.ready source run) :=
      Session.does_ready source run
    exact ready.trans (Session.does_loadNullness (ready.registry.wellFormed wf) source run)
  | askNullness source run m slot =>
    exact (Session.does_ready source run).trans (Session.does_nullnessOf source run m slot)
  | createRetention => exact Session.does_createRetention
  | setRetention change => exact Session.does_createRetention.trans (Session.does_setRetention change)
  | takeCensus => exact Session.does_takeCensus

end Call

/-! ## What a host may do anyhow -/

theorem Call.allowed_freely {free : Freedom} {h : Host} {call : Call} (allowed : call.Allowed free h) :
    call.Allowed ⟨true, true⟩ h := by
  cases call with
  | analyze => exact Or.inl rfl
  | depth => exact Or.inl rfl
  | askNullness source run m slot =>
    cases source with
    | declared => trivial
    | qualified => exact Or.inl rfl
  | _ => exact allowed

theorem Host.Reached.freely {free : Freedom} {h : Host} (reached : h.Reached free) :
    h.Reached ⟨true, true⟩ := by
  induction reached with
  | start wf => exact .start wf
  | after _ allowed ih => exact .after ih (Call.allowed_freely allowed)

theorem Call.resolvesOwn_freely (h : Host) (call : Call) : call.ResolvesOwn ⟨true, true⟩ h := by
  cases call with
  | resolve => exact Or.inl rfl
  | _ => trivial

end JvmFacts
