import JvmFacts.Proofs.Session.Facts
import JvmFacts.Proofs.Session.Handles
import JvmFacts.Proofs.Session.Links

/-!
The bridges of the current run: only a call that sets one, drops them all or begins a new run changes
them, so that they answer by the links that such calls set.
-/

set_option autoImplicit false

namespace JvmFacts

namespace Session

/-! ## Work -/

def KeepsBridges {α : Type} (work : Working α) : Prop :=
  ∀ s, (work.run.run s).2.run.bridges = s.run.bridges

theorem KeepsBridges.pure {α : Type} (a : α) : KeepsBridges (pure a) :=
  fun _ => rfl

theorem KeepsBridges.throw {α : Type} (fault : Fault) : KeepsBridges (throw fault : Working α) :=
  fun _ => rfl

theorem KeepsBridges.bind {α β : Type} {first : Working α} {next : α → Working β}
    (early : KeepsBridges first) (late : ∀ a, KeepsBridges (next a)) :
    KeepsBridges (first >>= next) := by
  intro s
  have before := early s
  rw [Work.run_bind]
  rcases ended : first.run.run s with ⟨fault | a, t⟩ <;> rw [ended] at before
  · exact before
  · exact (late a t).trans before

theorem KeepsBridges.get_bind {α : Type} {next : Session → Working α}
    (late : ∀ s, KeepsBridges (next s)) : KeepsBridges (get >>= next) :=
  fun s => late s s

theorem KeepsBridges.adapt {α : Type} (change : Fault → Fault) {work : Working α}
    (keeps : KeepsBridges work) : KeepsBridges (ExceptT.adapt change work) :=
  keeps

theorem KeepsBridges.modifyGet {α : Type} {change : Session → α × Session}
    (keeps : ∀ s, (change s).2.run.bridges = s.run.bridges) : KeepsBridges (modifyGet change) :=
  keeps

theorem keepsBridges_interning {α : Type} (work : Interning α) : KeepsBridges (interning work) :=
  fun _ => rfl

theorem bridges_keepMethod (s : Session) (m : Method) :
    (s.keepMethod m).2.run.bridges = s.run.bridges := by
  obtain ⟨methods, kept⟩ := keepMethod_frame m s
  rw [kept]

theorem bridges_makeAll (prepared : List PreparedMethod) (s : Session) :
    (makeAll prepared s).2.run.bridges = s.run.bridges := by
  induction prepared generalizing s with
  | nil => rfl
  | cons p rest ih => exact (ih (s.makeAndKeep p).2).trans (bridges_keepMethod _ _)

theorem keepsBridges_resolve (c : ClassDescriptor) (parsed : ParsedClass) :
    KeepsBridges (resolve c parsed) :=
  (keepsBridges_interning (parsed.prepare c)).bind fun p =>
    KeepsBridges.modifyGet fun s => bridges_makeAll p.methods s

theorem keepsBridges_classRecord (reader : ClassReader) (c : ClassDescriptor) :
    KeepsBridges (classRecord reader c) := by
  unfold classRecord
  apply KeepsBridges.get_bind
  intro s
  cases s.run.classes.find? c.id with
  | some known => exact KeepsBridges.pure known
  | none =>
    have read : KeepsBridges (readClass reader c) := by
      unfold readClass
      cases reader c with
      | error fault => exact KeepsBridges.throw fault
      | ok parsed => exact keepsBridges_resolve c parsed
    apply (read.adapt _).bind
    intro fresh
    exact KeepsBridges.bind (fun _ => rfl) fun _ => KeepsBridges.pure fresh

theorem keepsBridges_lookup (reader : ClassReader) (name : String) :
    KeepsBridges (lookup reader name) := by
  rcases lookup_cases reader name with ⟨-, fault, turned⟩ | ⟨-, wrap, sought⟩
  · rw [turned]
    exact KeepsBridges.throw fault
  · rw [sought]
    have found := (keepsBridges_interning (Registry.internClass (Name.slashed name))).bind
      (keepsBridges_classRecord reader)
    exact found.adapt wrap

theorem keepsBridges_depthWithin (reader : ClassReader) (steps : Nat) (c : ClassDescriptor) :
    KeepsBridges (depthWithin reader steps c) := by
  induction steps generalizing c with
  | zero => exact KeepsBridges.throw _
  | succ steps ih =>
    unfold depthWithin
    apply KeepsBridges.get_bind
    intro s
    cases s.run.depths.find? c.id with
    | some known => exact KeepsBridges.pure known
    | none =>
      apply KeepsBridges.bind
      · apply KeepsBridges.adapt
        apply (keepsBridges_classRecord reader c).bind
        intro record
        cases record.superclass with
        | none => exact KeepsBridges.pure 0
        | some parent => exact (ih parent).bind fun above => KeepsBridges.pure (above + 1)
      · intro depth
        apply KeepsBridges.modifyGet
        intro t
        obtain ⟨depths, remembered⟩ := t.rememberDepth_frame c depth
        rw [remembered]

theorem keepsBridges_clearClassCache : KeepsBridges clearClassCache := by
  unfold clearClassCache
  apply KeepsBridges.get_bind
  intro s
  cases s.paths with
  | fixed => exact KeepsBridges.throw _
  | entries names => exact fun _ => rfl

theorem keepsBridges_addEntry (entry : String) : KeepsBridges (addEntry entry) := by
  unfold addEntry
  apply KeepsBridges.get_bind
  intro s
  cases s.paths with
  | fixed => exact KeepsBridges.throw _
  | entries names =>
    by_cases empty : entry.isEmpty = true
    · simp only [if_pos empty]
      exact KeepsBridges.throw _
    · simp only [if_neg empty]
      by_cases new : (!names.contains entry) = true
      · simp only [if_pos new]
        exact fun _ => rfl
      · simp only [if_neg new]
        exact fun _ => rfl

/-! ## Operations that do not fail -/

section

variable (s : Session)

@[simp] theorem bridges_modifyDatabasesOf (run : Nat) (change : Databases → Databases) :
    (s.modifyDatabasesOf run change).run.bridges = s.run.bridges := by
  obtain ⟨databases, retired, modified⟩ := s.modifyDatabasesOf_frame run change
  rw [modified]

@[simp] theorem bridges_modifyDatabases (change : Databases → Databases) :
    (s.modifyDatabases change).run.bridges = s.run.bridges :=
  s.bridges_modifyDatabasesOf s.runNumber change

theorem bridges_report (r : Report) : (s.report r).run.bridges = s.run.bridges := by
  unfold report
  split <;> rfl

theorem bridges_notify (m : Method) : (s.notify m).run.bridges = s.run.bridges := by
  obtain ⟨recorders, notified⟩ := s.exists_notify m
  rw [notified]
  rfl

theorem bridges_annotate (m : Method) (slot : Slot) (a : Annotation) :
    (s.annotate m slot a).run.bridges = s.run.bridges :=
  bridges_notify (s.withAnnotation m slot a) m

@[simp] theorem bridges_createNullness (source : NullnessSource) :
    (s.createNullness source).run.bridges = s.run.bridges := by
  cases source with
  | declared => exact s.bridges_modifyDatabases _
  | qualified =>
    obtain ⟨listeners, qualified, created⟩ := s.createQualified_frame
    have same := congrArg (fun s => s.run.bridges) created
    exact same

theorem bridges_ready (source : NullnessSource) (run : Nat) :
    (ready source run s).run.bridges = s.run.bridges := by
  unfold ready
  split
  · exact s.bridges_createNullness source
  · rfl

theorem bridges_addToHierarchy (run : Nat) (c : ResolvedClass) (kind : VertexKind) :
    (s.addToHierarchy run c kind).2.run.bridges = s.run.bridges := by
  rcases s.addToHierarchy_frame run c kind with same | ⟨grown, added⟩
  · rw [same]
  · rw [added, bridges_modifyDatabasesOf]

theorem bridges_nullnessOf (source : NullnessSource) (run : Nat) (m : Method) (slot : Slot) :
    (s.nullnessOf source run m slot).2.run.bridges = s.run.bridges := by
  cases source with
  | declared => rfl
  | qualified => exact s.bridges_modifyDatabasesOf run _

theorem bridges_annotateEquals (type : ClassDescriptor) (methods : List Method) :
    (annotateEquals type methods s).2.run.bridges = s.run.bridges := by
  induction methods generalizing s with
  | nil => rfl
  | cons m rest ih =>
    unfold annotateEquals
    split
    · exact (ih _).trans (s.bridges_annotate m (some 0) ⟨type, []⟩)
    · exact ih s

@[simp] theorem bridges_loadNullness (source : NullnessSource) (run : Nat) :
    (s.loadNullness source run).run.bridges = s.run.bridges := by
  cases source with
  | declared => exact bridges_modifyDatabasesOf _ run _
  | qualified =>
    unfold loadNullness loadQualified
    by_cases loaded : (s.qualifiedOf run).isLoaded = true
    · simp only [if_pos loaded]
    · simp only [if_neg loaded]
      have marked : (s.setQualified run { s.qualifiedOf run with isLoaded := true }).run.bridges =
          s.run.bridges := s.bridges_modifyDatabasesOf run _
      generalize s.setQualified run { s.qualifiedOf run with isLoaded := true } = t at marked
      have interned := keepsBridges_interning (Registry.internClass Nullness.checkForNullClass) t
      rcases ended : (interning (Registry.internClass Nullness.checkForNullClass)).run.run t
        with ⟨fault | type, u⟩ <;> rw [ended] at interned
      · exact interned.trans marked
      · exact ((u.bridges_annotateEquals type u.allMethods).trans interned).trans marked

theorem bridges_updateDatabases (pass : Nat) :
    (s.updateDatabases pass).run.bridges = s.run.bridges := by
  unfold updateDatabases
  split
  · rfl
  · have loaded : s.createCheckReturn.loadCheckReturn.run.bridges = s.run.bridges :=
      (bridges_modifyDatabases _ _).trans (s.bridges_modifyDatabases _)
    rw [bridges_loadNullness, bridges_createNullness, loaded]

theorem bridges_takeCensus : s.takeCensus.2.run.bridges = s.run.bridges := by
  unfold takeCensus
  split
  · rfl
  · exact (bridges_modifyDatabases _ _).trans (s.bridges_modifyDatabases _)

theorem bridges_resolveAll (reader : ClassReader) (classes : List ClassDescriptor) :
    ((resolveAll reader classes).run s).2.run.bridges = s.run.bridges := by
  induction classes generalizing s with
  | nil => rfl
  | cons c rest ih => exact (ih _).trans (keepsBridges_classRecord reader c s)

theorem bridges_enter (applications : List ClassDescriptor)
    (entry : ClassDescriptor × Except Fault ResolvedClass) :
    (enter applications s entry).run.bridges = s.run.bridges := by
  obtain ⟨c, outcome⟩ := entry
  cases outcome with
  | error fault => exact s.bridges_report _
  | ok record =>
    have added := s.bridges_addToHierarchy s.runNumber record
      (if applications.contains c then .application else .library)
    simp only [enter]
    split
    · rename_i t ended
      rw [ended] at added
      exact added
    · rename_i fault t ended
      rw [ended] at added
      exact (t.bridges_report _).trans added

theorem bridges_declareApplications (reader : ClassReader) (schedule : Schedule)
    (applications : List ClassDescriptor) :
    ((declareApplications reader schedule applications).run s).2.run.bridges = s.run.bridges := by
  have entered : ∀ (entries : List (ClassDescriptor × Except Fault ResolvedClass)) (t : Session),
      (entries.foldl (enter applications) t).run.bridges = t.run.bridges := by
    intro entries
    induction entries with
    | nil => exact fun _ => rfl
    | cons entry rest ih => exact fun t => (ih _).trans (t.bridges_enter applications entry)
  have declared : (s.declared reader schedule applications).run.bridges = s.run.bridges := by
    have ahead : (s.internAhead reader schedule).run.bridges = s.run.bridges := by
      rw [internAhead_frame]
    have resolved := bridges_resolveAll (s.internAhead reader schedule) reader
      (s.resolutionOrder schedule)
    have created := bridges_modifyDatabases ((resolveKnown reader schedule).run s).2 fun d =>
      { d with hierarchy := some (d.hierarchy.getD .empty) }
    exact (entered _ _).trans (created.trans (resolved.trans ahead))
  rcases declareApplications_run reader schedule applications s with same | ⟨records, logged⟩
  · rw [same, declared]
  · rw [logged]
    exact declared

end

end Session

/-- What the call does to the table of bridges, if anything. -/
def Call.bridging? : Call → Option Bridges.Operation
  | setBridge source target => some (.set source target)
  | clearBridges | reset => some .clear
  | _ => none

theorem Call.bridges_effect (call : Call) (s : Session) :
    (call.effect s).run.bridges =
      call.bridging?.elim s.run.bridges fun operation => operation.apply s.run.bridges := by
  cases call with
  | setBridge | clearBridges | reset => rfl
  | lookup reader name => exact Session.keepsBridges_lookup reader name s
  | analyze reader c => exact Session.keepsBridges_classRecord reader c s
  | resolve c parsed => exact Session.keepsBridges_resolve c parsed s
  | depth reader steps c => exact Session.keepsBridges_depthWithin reader steps c s
  | register m => exact s.bridges_keepMethod m
  | annotate m slot a => exact s.bridges_annotate m slot a
  | notify m => exact s.bridges_notify m
  | report r => exact s.bridges_report r
  | clearClassCache => exact Session.keepsBridges_clearClassCache s
  | addEntry entry => exact Session.keepsBridges_addEntry entry s
  | declareApplications reader schedule applications =>
    exact s.bridges_declareApplications reader schedule applications
  | updateDatabases pass => exact s.bridges_updateDatabases pass
  | addClass run record kind => exact s.bridges_addToHierarchy run record kind
  | loadNullness source run =>
    exact (Session.bridges_loadNullness _ source run).trans (s.bridges_ready source run)
  | askNullness source run m slot =>
    exact (Session.bridges_nullnessOf _ source run m slot).trans (s.bridges_ready source run)
  | takeCensus => exact s.bridges_takeCensus
  | intern | canonical | addRecorder | dropRecorder | addLog | clearFacts | purgeClasses => rfl
  | build draft =>
    have built : Session.KeepsBridges (Session.buildMethod draft) :=
      (Session.keepsBridges_interning draft.prepare).bind fun _ =>
        Session.KeepsBridges.modifyGet fun _ => rfl
    exact built s
  | createHierarchy | createCheckReturn | createRetention => exact s.bridges_modifyDatabases _
  | createNullness source => exact s.bridges_createNullness source
  | setDeclared run m slot value => exact s.bridges_modifyDatabasesOf run _
  | setCheckReturn | loadCheckReturn | setRetention =>
    exact (Session.bridges_modifyDatabases _ _).trans (s.bridges_modifyDatabases _)

/-- A call sets a bridge, drops them all, or leaves them as they are. -/
theorem Call.bridges_cases (call : Call) (s : Session) :
    (call.effect s).run.bridges = s.run.bridges ∨ (call.effect s).run.bridges = .empty ∨
      ∃ source target, call = .setBridge source target ∧
        (call.effect s).run.bridges = s.run.bridges.set source target := by
  have effect := call.bridges_effect s
  cases call with
  | setBridge source target => exact Or.inr (Or.inr ⟨source, target, rfl, effect⟩)
  | clearBridges | reset => exact Or.inr (Or.inl effect)
  | _ => exact Or.inl effect

namespace Session

def afterCalls (calls : List Call) (s : Session) : Session :=
  calls.foldl (fun s call => call.effect s) s

theorem bridges_afterCalls (calls : List Call) (s : Session) :
    (s.afterCalls calls).run.bridges =
      Bridges.applyAll (calls.filterMap Call.bridging?) s.run.bridges := by
  induction calls generalizing s with
  | nil => rfl
  | cons call rest ih =>
    refine (ih (call.effect s)).trans ?_
    rw [call.bridges_effect s]
    cases does : call.bridging? with
    | none => rw [List.filterMap_cons_none does, Option.elim_none]
    | some operation =>
      rw [List.filterMap_cons_some does, Option.elim_some]
      rfl

/-- A table of bridges answers by its links, and so does a session by those of the current run. -/
theorem bridges_linked (operations : List Bridges.Operation) (config : Config) (registry : Registry)
    (paths : Paths) (reporter : Reporter) (calls : List Call) :
    (Bridges.applyAll operations .empty).Linked (Bridges.recordAll operations []) ∧
      ((start config registry paths reporter).afterCalls calls).run.bridges.Linked
        (Bridges.recordAll (calls.filterMap Call.bridging?) []) := by
  refine ⟨Bridges.linked_applyAll operations, ?_⟩
  rw [bridges_afterCalls]
  exact Bridges.linked_applyAll _

end Session

end JvmFacts
