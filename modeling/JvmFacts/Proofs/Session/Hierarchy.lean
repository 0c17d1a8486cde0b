import JvmFacts.Proofs.Hierarchy.Addition
import JvmFacts.Proofs.Session.Call

/-!
The hierarchy of the current run: it only ever changes by adding a class, and it is forgotten with
the run.
-/

set_option autoImplicit false

namespace JvmFacts

namespace Session

section

variable {s t : Session}

theorem hierarchy_eq (s : Session) : s.hierarchy = s.run.databases.hierarchy.getD .empty := by
  unfold hierarchy hierarchyOf databasesOf
  rw [if_pos rfl]

theorem hierarchy_of_same (same : t.run.databases.hierarchy = s.run.databases.hierarchy) :
    t.hierarchy = s.hierarchy := by
  rw [hierarchy_eq, hierarchy_eq, same]

theorem Beside.hierarchy (beside : Beside s t) : t.hierarchy = s.hierarchy := by
  apply hierarchy_of_same
  rw [beside.databases]

theorem hierarchy_createHierarchy (s : Session) : s.createHierarchy.hierarchy = s.hierarchy := by
  unfold createHierarchy modifyDatabases
  rw [modifyDatabasesOf_self, hierarchy_eq, hierarchy_eq]
  rfl

theorem hierarchy_modifyDatabasesOf (s : Session) (run : Nat) {change : Databases → Databases}
    (kept : ∀ d, (change d).hierarchy = d.hierarchy) :
    (s.modifyDatabasesOf run change).hierarchy = s.hierarchy := by
  apply hierarchy_of_same
  unfold modifyDatabasesOf
  split
  · exact kept s.run.databases
  · rfl

theorem hierarchy_report (s : Session) (r : Report) : (s.report r).hierarchy = s.hierarchy := by
  unfold report
  split <;> rfl

/-- The session with another hierarchy in one of its runs. -/
def withHierarchy (s : Session) (run : Nat) (grown : Hierarchy) : Session :=
  s.modifyDatabasesOf run fun d => { d with hierarchy := some grown }

theorem hierarchy_withHierarchy (s : Session) (grown : Hierarchy) :
    (s.withHierarchy s.runNumber grown).hierarchy = grown := by
  unfold withHierarchy
  rw [modifyDatabasesOf_self, hierarchy_eq]
  rfl

theorem hierarchy_withHierarchy_of_ne (s : Session) {run : Nat} (past : run ≠ s.runNumber)
    (grown : Hierarchy) : (s.withHierarchy run grown).hierarchy = s.hierarchy := by
  apply hierarchy_of_same
  unfold withHierarchy modifyDatabasesOf
  rw [if_neg past]

theorem addToHierarchy_of_ok {run : Nat} {c : ResolvedClass} {kind : VertexKind} {grown : Hierarchy}
    (ok : (s.hierarchyOf run).add c kind = .ok grown) :
    s.addToHierarchy run c kind = (.ok (), s.withHierarchy run grown) := by
  unfold addToHierarchy
  rw [ok]
  rfl

/-- A class that can be added is added, and the hierarchies of other runs stay. -/
theorem hierarchy_addToHierarchy (s : Session) (run : Nat) (c : ResolvedClass) (kind : VertexKind) :
    (s.addToHierarchy run c kind).2.hierarchy = s.hierarchy ∨
      s.hierarchy.add c kind = .ok (s.addToHierarchy run c kind).2.hierarchy := by
  cases ended : (s.hierarchyOf run).add c kind with
  | error why =>
    unfold addToHierarchy
    rw [ended]
    exact Or.inl rfl
  | ok grown =>
    rw [addToHierarchy_of_ok ended]
    by_cases current : run = s.runNumber
    · subst current
      rw [hierarchy_withHierarchy]
      exact Or.inr ended
    · rw [hierarchy_withHierarchy_of_ne s current]
      exact Or.inl rfl

theorem Change.hierarchy_cases {free : Freedom} {known : List Method}
    (change : Change free known s t) :
    t.hierarchy = s.hierarchy ∨ t.hierarchy = .empty ∨
      ∃ c kind, s.hierarchy.add c kind = .ok t.hierarchy := by
  cases change with
  | resolving step => exact Or.inl step.beside.hierarchy
  | rememberDepth =>
    unfold Session.rememberDepth
    split <;> exact Or.inl rfl
  | makeMethod within => exact Or.inl rfl
  | @keepMethod m genuine =>
    obtain ⟨methods, kept⟩ := keepMethod_frame m s
    rw [kept]
    exact Or.inl rfl
  | @annotate m slot a genuine =>
    obtain ⟨recorders, annotated⟩ := s.exists_annotate m slot a
    rw [annotated]
    exact Or.inl (hierarchy_of_same rfl)
  | @notify m =>
    obtain ⟨recorders, notified⟩ := s.exists_notify m
    rw [notified]
    exact Or.inl (hierarchy_of_same rfl)
  | addRecorder => exact Or.inl rfl
  | dropRecorder => exact Or.inl rfl
  | addLog => exact Or.inl rfl
  | report => exact Or.inl (hierarchy_report s _)
  | createHierarchy => exact Or.inl (hierarchy_createHierarchy s)
  | @addToHierarchy run c kind =>
    rcases hierarchy_addToHierarchy s run c kind with same | added
    · exact Or.inl same
    · exact Or.inr (Or.inr ⟨c, kind, added⟩)
  | promise hierarchy qualified => exact Or.inl (hierarchy_modifyDatabasesOf s _ hierarchy)
  | createQualified =>
    unfold Session.createQualified
    split
    · exact Or.inl rfl
    · exact Or.inl (hierarchy_modifyDatabasesOf s _ fun _ => rfl)
  | askQualified may present => exact Or.inl (hierarchy_modifyDatabasesOf s _ fun _ => rfl)
  | markLoaded present => exact Or.inl (hierarchy_modifyDatabasesOf s _ fun _ => rfl)
  | setBridges => exact Or.inl rfl
  | setPaths => exact Or.inl rfl
  | clearFacts => exact Or.inl rfl
  | purgeClasses => exact Or.inl rfl
  | reset => exact Or.inr (Or.inl (hierarchy_eq s.reset))

theorem sound_of_change {free : Freedom} {known : List Method} (sound : s.hierarchy.Sound)
    (change : Change free known s t) : t.hierarchy.Sound := by
  rcases change.hierarchy_cases with same | empty | ⟨c, kind, ran⟩
  · rw [same]
    exact sound
  · rw [empty]
    exact Hierarchy.sound_empty
  · obtain ⟨after, ok, added⟩ := sound.exists_add c kind
    rw [ok] at ran
    rw [← Except.ok.inj ran]
    exact added.sound

theorem sound_of_changes {free : Freedom} {known : List Method} (sound : s.hierarchy.Sound)
    (changes : Changes free known s t) : t.hierarchy.Sound := by
  induction changes with
  | refl => exact sound
  | tail _ change ih => exact sound_of_change ih change

end

end Session

theorem Host.Reached.sound {free : Freedom} {h : Host} (reached : Reached free h) :
    h.session.hierarchy.Sound := by
  induction reached with
  | start wf =>
    rw [Session.hierarchy_eq]
    exact Hierarchy.sound_empty
  | after before allowed ih => exact Session.sound_of_changes ih (Call.changes before.tidy allowed)

end JvmFacts
