import JvmFacts.Proofs.Session.Past.Classes

/-!
Databases in a session with a past, and the passes that fill them. The databases of a run are those
of the run that is as far from the past.
-/

set_option autoImplicit false

namespace JvmFacts

namespace Session

/-- Annotating makes no method, so what was made before stays made. -/
theorem methodsMade_annotate (s : Session) (m : Method) (slot : Slot) (a : Annotation) :
    (s.annotate m slot a).methodsMade = s.methodsMade := by
  obtain ⟨recorders, annotated⟩ := s.exists_annotate m slot a
  rw [annotated]
  rfl

end Session

namespace Past

variable {p : Past}

/-- A class with its outcome, as the session with the past numbers it. -/
def outcome (p : Past) :
    ClassDescriptor × Except Fault ResolvedClass → ClassDescriptor × Except Fault ResolvedClass :=
  Prod.map id (Except.map p.record)

namespace Before

section

variable {s t : Session} (before : p.Before s t)

include before

theorem createHierarchy : p.Before s.createHierarchy t.createHierarchy :=
  before.modifyDatabases _

theorem hierarchyOf {n : Nat} (known : n ≤ s.runNumber) :
    t.hierarchyOf (n + p.runs) = s.hierarchyOf n := by
  unfold Session.hierarchyOf
  rw [before.databasesOf known]

theorem hierarchy : t.hierarchy = s.hierarchy := by
  unfold Session.hierarchy
  rw [before.runNumber, before.hierarchyOf (Nat.le_refl _)]

theorem addToHierarchy {n : Nat} (known : n ≤ s.runNumber) (c : ResolvedClass) (kind : VertexKind) :
    p.Matches id (s.addToHierarchy n c kind) (t.addToHierarchy (n + p.runs) (p.record c) kind) := by
  have content : (t.hierarchyOf (n + p.runs)).add (p.record c) kind = (s.hierarchyOf n).add c kind := by
    rw [before.hierarchyOf known]
    rfl
  unfold Session.addToHierarchy
  rw [content]
  cases (s.hierarchyOf n).add c kind with
  | error why => exact ⟨rfl, before⟩
  | ok grown =>
    exact ⟨rfl, before.modifyDatabasesOf known fun d => { d with hierarchy := some grown }⟩

theorem takeCensus : p.Matches id s.takeCensus t.takeCensus := by
  unfold Session.takeCensus
  rw [before.databases]
  cases s.run.databases.census with
  | some census => exact ⟨rfl, before⟩
  | none =>
    have created := before.createHierarchy
    have counts : (⟨t.createHierarchy.registry.classes.length, t.createHierarchy.hierarchy.vertexCount,
          t.createHierarchy.run.methods.length⟩ : Census) =
        ⟨s.createHierarchy.registry.classes.length, s.createHierarchy.hierarchy.vertexCount,
          s.createHierarchy.run.methods.length⟩ := by
      rw [created.registry, created.hierarchy, created.methods, Table.length_mapValues]
    dsimp only
    rw [counts]
    refine ⟨rfl, ?_⟩
    dsimp only
    exact created.modifyDatabases _

theorem createCheckReturn : p.Before s.createCheckReturn t.createCheckReturn :=
  before.modifyDatabases _

theorem setCheckReturn (change : CheckReturnTable → CheckReturnTable) :
    p.Before (s.setCheckReturn change) (t.setCheckReturn change) :=
  before.modifyDatabases _

theorem loadCheckReturn : p.Before s.loadCheckReturn t.loadCheckReturn := by
  have loaded : t.checkReturn.load t.registry = s.checkReturn.load s.registry := by
    unfold Session.checkReturn
    rw [before.databases, before.registry]
  unfold Session.loadCheckReturn
  dsimp only
  rw [loaded]
  have interned := before.withRegistry (s.checkReturn.load s.registry).registry
  exact (interned.setCheckReturn _).addLog _ _

theorem createRetention : p.Before s.createRetention t.createRetention :=
  before.modifyDatabases _

theorem setRetention (change : RetentionTable → RetentionTable) :
    p.Before (s.setRetention change) (t.setRetention change) :=
  before.modifyDatabases _

theorem createQualified : p.Before s.createQualified t.createQualified := by
  unfold Session.createQualified
  rw [before.databases]
  cases s.run.databases.qualified with
  | some q => exact before
  | none => exact (before.modifyDatabases _).listen .qualifiedNullness

theorem createNullness (source : NullnessSource) :
    p.Before (s.createNullness source) (t.createNullness source) := by
  cases source with
  | declared =>
    exact before.modifyDatabases fun d => { d with declared := some (d.declared.getD .empty) }
  | qualified => exact before.createQualified

theorem ready (source : NullnessSource) (run : Nat) :
    p.Before (s.ready source run) (t.ready source (run + p.runs)) := by
  have runNumber := before.runNumber
  unfold Session.ready
  by_cases now : run = s.runNumber
  · rw [if_pos now, if_pos (by omega)]
    exact before.createNullness source
  · rw [if_neg now, if_neg (by omega)]
    exact before

theorem declaredOf {n : Nat} (known : n ≤ s.runNumber) :
    t.declaredOf (n + p.runs) = s.declaredOf n := by
  unfold Session.declaredOf
  rw [before.databasesOf known]

theorem qualifiedOf {n : Nat} (known : n ≤ s.runNumber) :
    t.qualifiedOf (n + p.runs) = s.qualifiedOf n := by
  unfold Session.qualifiedOf
  rw [before.databasesOf known]

theorem setDeclared {n : Nat} (known : n ≤ s.runNumber) (table : DeclaredNullness) :
    p.Before (s.setDeclared n table) (t.setDeclared (n + p.runs) table) :=
  before.modifyDatabasesOf known _

theorem setQualified {n : Nat} (known : n ≤ s.runNumber) (q : QualifiedNullness) :
    p.Before (s.setQualified n q) (t.setQualified (n + p.runs) q) :=
  before.modifyDatabasesOf known _

theorem nullnessOf {n : Nat} (known : n ≤ s.runNumber) (source : NullnessSource) {m : Method}
    (made : m.serial < s.methodsMade) (slot : Slot) :
    p.Matches id (s.nullnessOf source n m slot)
      (t.nullnessOf source (n + p.runs) (p.method m) slot) := by
  have annotations := before.annotationsOf made
  have body : (p.method m).toMethodBody = m.toMethodBody := rfl
  cases source with
  | declared =>
    unfold Session.nullnessOf
    dsimp only
    rw [before.declaredOf known, annotations, body]
    exact ⟨rfl, before⟩
  | qualified =>
    rw [Session.nullnessOf_qualified, Session.nullnessOf_qualified, before.qualifiedOf known,
      annotations, body]
    exact ⟨rfl, before.setQualified known _⟩

theorem loadDeclared {n : Nat} (known : n ≤ s.runNumber) :
    p.Before (s.loadDeclared n) (t.loadDeclared (n + p.runs)) := by
  unfold Session.loadDeclared
  dsimp only
  rw [before.declaredOf known, before.registry]
  have interned := before.withRegistry ((s.declaredOf n).load s.registry).registry
  exact (interned.setDeclared known _).addLog _ _

theorem wantsCheckForNull {m : Method} (made : m.serial < s.methodsMade) :
    t.wantsCheckForNull (p.method m) = s.wantsCheckForNull m := by
  unfold Session.wantsCheckForNull
  rw [before.annotationsOf made]
  rfl

end

variable {s t : Session}

theorem annotateEquals (before : p.Before s t) (type : ClassDescriptor) (methods : List Method)
    (made : ∀ m ∈ methods, m.serial < s.methodsMade) :
    p.Matches id (Session.annotateEquals type methods s)
      (Session.annotateEquals type (methods.map p.method) t) := by
  induction methods generalizing s t with
  | nil => exact ⟨rfl, before⟩
  | cons m rest ih =>
    have first := made m (List.mem_cons_self ..)
    have others : ∀ n ∈ rest, n.serial < s.methodsMade :=
      fun n member => made n (List.mem_cons_of_mem _ member)
    rw [List.map_cons, Session.annotateEquals, Session.annotateEquals, before.wantsCheckForNull first]
    by_cases wants : s.wantsCheckForNull m = true
    · rw [if_pos wants, if_pos wants]
      have annotated := before.annotate first (some 0) ⟨type, []⟩
      obtain ⟨count, after⟩ := ih annotated (by rwa [Session.methodsMade_annotate])
      exact ⟨congrArg (· + 1) count, after⟩
    · rw [if_neg wants, if_neg wants]
      exact ih before others

section

variable (before : p.Before s t)

include before

theorem resolveAll (reader : ClassReader) (classes : List ClassDescriptor) :
    p.Matches (List.map p.outcome) ((Session.resolveAll reader classes).run s)
      ((Session.resolveAll reader classes).run t) := by
  induction classes generalizing s t with
  | nil => exact ⟨rfl, before⟩
  | cons c rest ih =>
    obtain ⟨fits, still⟩ := agrees_classRecord reader c s t before
    obtain ⟨more, after⟩ := ih still
    refine ⟨?_, after⟩
    rw [Session.resolveAll_cons, Session.resolveAll_cons, List.map_cons, ← more, fits]
    rfl

theorem namedClasses : t.namedClasses = s.namedClasses := by
  unfold Session.namedClasses
  rw [before.registry]

theorem resolveKnown (reader : ClassReader) (schedule : Session.Schedule) :
    p.Matches (List.map p.outcome) ((Session.resolveKnown reader schedule).run s)
      ((Session.resolveKnown reader schedule).run t) := by
  have order : t.resolutionOrder schedule = s.resolutionOrder schedule := by
    unfold Session.resolutionOrder
    rw [before.config, before.namedClasses]
  have last := (before.resolveAll reader (s.resolutionOrder schedule)).2.registry
  have served : (t.internAhead reader schedule).registry =
      (s.internAhead reader schedule).registry := by
    unfold Session.internAhead
    rw [before.config, order, last, before.registry]
    split
    · rfl
    · exact before.registry
  have ahead : p.Before (s.internAhead reader schedule) (t.internAhead reader schedule) := by
    rw [Session.internAhead_frame reader schedule s, Session.internAhead_frame reader schedule t, served]
    exact before.withRegistry _
  rw [Session.resolveKnown_run, Session.resolveKnown_run, order]
  exact ahead.resolveAll reader (s.resolutionOrder schedule)

theorem enter (applications : List ClassDescriptor)
    (entry : ClassDescriptor × Except Fault ResolvedClass) :
    p.Before (Session.enter applications s entry)
      (Session.enter applications t (p.outcome entry)) := by
  obtain ⟨c, outcome⟩ := entry
  cases outcome with
  | error fault => exact before.report _
  | ok record =>
    obtain ⟨fits, still⟩ := before.addToHierarchy (Nat.le_refl s.runNumber) record
      (if applications.contains c then .application else .library)
    rw [← before.runNumber] at fits still
    change p.Before (Session.enter applications s (c, .ok record))
      (Session.enter applications t (c, .ok (p.record record)))
    simp only [Session.enter]
    rcases ended : s.addToHierarchy s.runNumber record
        (if applications.contains c then .application else .library) with ⟨fault | done, s'⟩ <;>
      rcases endedLater : t.addToHierarchy t.runNumber (p.record record)
        (if applications.contains c then .application else .library) with ⟨why | also, t'⟩ <;>
      rw [ended, endedLater] at fits still <;> cases fits
    · exact still.report _
    · exact still

theorem declareApplications (reader : ClassReader) (schedule : Session.Schedule)
    (applications : List ClassDescriptor) :
    p.Before ((Session.declareApplications reader schedule applications).run s).2
      ((Session.declareApplications reader schedule applications).run t).2 := by
  have entered : ∀ (entries : List (ClassDescriptor × Except Fault ResolvedClass)) (s t : Session),
      p.Before s t → p.Before (entries.foldl (Session.enter applications) s)
        ((entries.map p.outcome).foldl (Session.enter applications) t) := by
    intro entries
    induction entries with
    | nil => exact fun _ _ before => before
    | cons entry rest ih => exact fun _ _ before => ih _ _ (before.enter applications entry)
  have declared : p.Before (s.declared reader schedule applications)
      (t.declared reader schedule applications) := by
    obtain ⟨outcomes, still⟩ := before.resolveKnown reader schedule
    have all := entered (Session.collect s.namedClasses
      ((Session.resolveKnown reader schedule).run s).1) _ _ still.createHierarchy
    have keeps : ∀ entry, (p.outcome entry).1 = entry.1 := fun _ => rfl
    rw [← Session.collect_map keeps, ← outcomes] at all
    unfold Session.declared
    rw [before.namedClasses]
    exact all
  rcases Session.declareApplications_run reader schedule applications s with same | ⟨records, same⟩ <;>
    rcases Session.declareApplications_run reader schedule applications t with later | ⟨more, later⟩ <;>
    rw [same, later]
  · exact declared
  · exact { declared with }
  · exact { declared with }
  · exact declared.addLog _ _

theorem loadQualified {known : List Method} (genuine : Session.Genuine known s) {n : Nat}
    (present : n ≤ s.runNumber) : p.Before (s.loadQualified n) (t.loadQualified (n + p.runs)) := by
  unfold Session.loadQualified
  rw [before.qualifiedOf present]
  by_cases loaded : (s.qualifiedOf n).isLoaded = true
  · simp only [if_pos loaded]
    exact before
  · simp only [if_neg loaded]
    have marked := before.setQualified present { s.qualifiedOf n with isLoaded := true }
    have still : Session.Genuine known (s.setQualified n { s.qualifiedOf n with isLoaded := true }) :=
      genuine.modifyDatabasesOf n _
    generalize s.setQualified n { s.qualifiedOf n with isLoaded := true } = s' at marked still
    generalize t.setQualified (n + p.runs) { s.qualifiedOf n with isLoaded := true } = t' at marked
    have grows := (Registry.yields_internClass s'.registry Nullness.checkForNullClass).steps
    have interned := still.still (t := ((Session.interning
      (Registry.internClass Nullness.checkForNullClass)).run.run s').2) rfl rfl grows
    obtain ⟨fits, after⟩ := agrees_interning (p := p)
      (Registry.internClass Nullness.checkForNullClass) s' t' marked
    rcases ended : (Session.interning (Registry.internClass Nullness.checkForNullClass)).run.run s'
      with ⟨fault | type, u⟩ <;>
      rcases endedLater : (Session.interning
        (Registry.internClass Nullness.checkForNullClass)).run.run t' with ⟨why | also, v⟩ <;>
      rw [ended, endedLater] at fits after <;> rw [ended] at interned <;> cases fits
    · exact after.addLog _ _
    · have older : ∀ m ∈ u.allMethods, m.serial < u.methodsMade :=
        fun m member => interned.older m (Or.inr (Session.mem_allMethods.1 member))
      have annotated := (after.annotateEquals type u.allMethods older).2
      rw [← after.allMethods] at annotated
      exact annotated.addLog _ _

theorem loadNullness {known : List Method} (genuine : Session.Genuine known s)
    (source : NullnessSource) {n : Nat} (present : n ≤ s.runNumber) :
    p.Before (s.loadNullness source n) (t.loadNullness source (n + p.runs)) := by
  cases source with
  | declared => exact before.loadDeclared present
  | qualified => exact before.loadQualified genuine present

theorem updateDatabases {free : Freedom} {known : List Method} (tidy : Session.Tidy free s)
    (genuine : Session.Genuine known s) (pass : Nat) :
    p.Before (s.updateDatabases pass) (t.updateDatabases pass) := by
  unfold Session.updateDatabases
  rw [before.config]
  by_cases idle : (pass ≠ 0 || !s.config.loadBuiltIns) = true
  · rw [if_pos idle, if_pos idle]
    exact before
  · rw [if_neg idle, if_neg idle]
    have loaded := before.createCheckReturn.loadCheckReturn
    have changes : Session.Changes free known s s.createCheckReturn.loadCheckReturn := by
      have created : Session.Changes free known s s.createCheckReturn :=
        Session.changes_createCheckReturn
      exact created.trans (Session.changes_loadCheckReturn (tidy.changes created).registry)
    dsimp only
    generalize s.createCheckReturn.loadCheckReturn = s' at loaded changes
    generalize t.createCheckReturn.loadCheckReturn = t' at loaded
    have listening : Session.Changes free known s (s'.createNullness s'.config.nullnessSource) :=
      changes.trans (Session.changes_createNullness _)
    have still := Session.genuine_of_changes genuine listening
    have created := loaded.createNullness s'.config.nullnessSource
    have current := Session.runNumber_createNullness s' s'.config.nullnessSource
    have filled := created.loadNullness still s'.config.nullnessSource (Nat.le_of_eq current.symm)
    rw [← loaded.runNumber] at filled
    rw [loaded.config]
    exact filled

end

end Before

end Past

end JvmFacts
