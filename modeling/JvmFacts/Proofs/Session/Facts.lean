import JvmFacts.Proofs.Session.Call

/-!
Which operations leave the facts of the current run as they are: all that make no method and forget
nothing.
-/

set_option autoImplicit false

namespace JvmFacts.Session

section

variable (s : Session)

@[simp] theorem facts_modifyDatabasesOf (run : Nat) (change : Databases → Databases) :
    (s.modifyDatabasesOf run change).run.facts = s.run.facts := by
  obtain ⟨databases, retired, modified⟩ := s.modifyDatabasesOf_frame run change
  rw [modified]

@[simp] theorem facts_modifyDatabases (change : Databases → Databases) :
    (s.modifyDatabases change).run.facts = s.run.facts :=
  s.facts_modifyDatabasesOf s.runNumber change

@[simp] theorem facts_addLog (records : List LogRecord) :
    (s.addLog records).run.facts = s.run.facts :=
  rfl

@[simp] theorem facts_report (r : Report) : (s.report r).run.facts = s.run.facts := by
  unfold report
  split <;> rfl

@[simp] theorem facts_interning {α : Type} (work : Interning α) :
    ((interning work).run.run s).2.run.facts = s.run.facts :=
  rfl

theorem facts_notify (m : Method) : (s.notify m).run.facts = s.run.facts := by
  obtain ⟨recorders, notified⟩ := s.exists_notify m
  rw [notified]
  rfl

@[simp] theorem facts_annotate (m : Method) (slot : Slot) (a : Annotation) :
    (s.annotate m slot a).run.facts = s.run.facts :=
  facts_notify (s.withAnnotation m slot a) m

theorem facts_keepMethod (m : Method) : (s.keepMethod m).2.run.facts = s.run.facts := by
  obtain ⟨methods, kept⟩ := keepMethod_frame m s
  rw [kept]

theorem rememberDepth_frame (c : ClassDescriptor) (depth : Nat) : ∃ depths,
    (s.rememberDepth c depth).2 = { s with run := { s.run with depths } } := by
  unfold rememberDepth
  split
  · exact ⟨s.run.depths, rfl⟩
  · exact ⟨_, rfl⟩

theorem facts_clearClassCache : (clearClassCache.run.run s).2.run.facts = s.run.facts := by
  unfold clearClassCache
  rw [Work.run_get_bind]
  cases s.paths <;> rfl

theorem facts_addEntry (entry : String) :
    ((addEntry entry).run.run s).2.run.facts = s.run.facts := by
  unfold addEntry
  rw [Work.run_get_bind]
  cases s.paths with
  | fixed => rfl
  | entries names =>
    dsimp only
    by_cases empty : entry.isEmpty = true
    · simp only [if_pos empty]
      rfl
    · simp only [if_neg empty]
      by_cases new : (!names.contains entry) = true
      · simp only [if_pos new]
        rfl
      · simp only [if_neg new]
        rfl

/-! ## Databases -/

@[simp] theorem facts_createQualified : s.createQualified.run.facts = s.run.facts := by
  obtain ⟨listeners, qualified, created⟩ := s.createQualified_frame
  rw [created]

@[simp] theorem facts_createNullness (source : NullnessSource) :
    (s.createNullness source).run.facts = s.run.facts := by
  cases source with
  | declared => exact s.facts_modifyDatabases _
  | qualified => exact s.facts_createQualified

theorem facts_ready (source : NullnessSource) (run : Nat) :
    (ready source run s).run.facts = s.run.facts := by
  unfold ready
  split
  · exact s.facts_createNullness source
  · rfl

theorem facts_addToHierarchy (run : Nat) (c : ResolvedClass) (kind : VertexKind) :
    (s.addToHierarchy run c kind).2.run.facts = s.run.facts := by
  rcases s.addToHierarchy_frame run c kind with same | ⟨grown, added⟩
  · rw [same]
  · rw [added, facts_modifyDatabasesOf]

theorem facts_loadCheckReturn : s.loadCheckReturn.run.facts = s.run.facts :=
  facts_modifyDatabases _ _

theorem facts_nullnessOf (source : NullnessSource) (run : Nat) (m : Method) (slot : Slot) :
    (s.nullnessOf source run m slot).2.run.facts = s.run.facts := by
  cases source with
  | declared => rfl
  | qualified => exact s.facts_modifyDatabasesOf run _

theorem facts_annotateEquals (type : ClassDescriptor) (methods : List Method) :
    (annotateEquals type methods s).2.run.facts = s.run.facts := by
  induction methods generalizing s with
  | nil => rfl
  | cons m rest ih =>
    unfold annotateEquals
    split
    · exact (ih _).trans (s.facts_annotate m (some 0) ⟨type, []⟩)
    · exact ih s

theorem facts_loadQualified (run : Nat) : (s.loadQualified run).run.facts = s.run.facts := by
  unfold loadQualified
  by_cases loaded : (s.qualifiedOf run).isLoaded = true
  · simp only [if_pos loaded]
  · simp only [if_neg loaded]
    have marked : (s.setQualified run { s.qualifiedOf run with isLoaded := true }).run.facts =
        s.run.facts := s.facts_modifyDatabasesOf run _
    generalize s.setQualified run { s.qualifiedOf run with isLoaded := true } = t at marked
    have interned := t.facts_interning (Registry.internClass Nullness.checkForNullClass)
    rcases ended : (interning (Registry.internClass Nullness.checkForNullClass)).run.run t
      with ⟨fault | type, u⟩ <;> rw [ended] at interned
    · exact interned.trans marked
    · exact ((u.facts_annotateEquals type u.allMethods).trans interned).trans marked

@[simp] theorem facts_loadNullness (source : NullnessSource) (run : Nat) :
    (s.loadNullness source run).run.facts = s.run.facts := by
  cases source with
  | declared => exact facts_modifyDatabasesOf _ run _
  | qualified => exact s.facts_loadQualified run

theorem facts_updateDatabases (pass : Nat) : (s.updateDatabases pass).run.facts = s.run.facts := by
  unfold updateDatabases
  split
  · rfl
  · rw [facts_loadNullness, facts_createNullness, facts_loadCheckReturn]
    exact s.facts_modifyDatabases _

theorem facts_takeCensus : s.takeCensus.2.run.facts = s.run.facts := by
  unfold takeCensus
  split
  · rfl
  · exact (facts_modifyDatabases _ _).trans (s.facts_modifyDatabases _)

theorem facts_foldl_enter (applications : List ClassDescriptor)
    (entries : List (ClassDescriptor × Except Fault ResolvedClass)) :
    (entries.foldl (enter applications) s).run.facts = s.run.facts := by
  induction entries generalizing s with
  | nil => rfl
  | cons entry rest ih =>
    rw [List.foldl_cons, ih]
    obtain ⟨c, outcome⟩ := entry
    cases outcome with
    | error fault => exact s.facts_report _
    | ok record =>
      have added := s.facts_addToHierarchy s.runNumber record
        (if applications.contains c then .application else .library)
      simp only [enter]
      split
      · rename_i t ended
        rw [ended] at added
        exact added
      · rename_i fault t ended
        rw [ended] at added
        exact (t.facts_report _).trans added

end

end JvmFacts.Session
