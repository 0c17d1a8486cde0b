import JvmFacts.Proofs.Session.Notification
import JvmFacts.Proofs.Session.Resolution
import JvmFacts.Session.Paths
import JvmFacts.Session.Universe

/-!
The steps that everything a session does is made of. Whatever a host calls for is a series of them, so
what each step keeps, every call keeps.
-/

set_option autoImplicit false

namespace JvmFacts.Session

open Relation

/-- One step of a session whose host knows these methods. -/
inductive Change (free : Freedom) (known : List Method) : Session → Session → Prop
  | resolving {s t : Session} (step : Resolving free s t) : Change free known s t
  | rememberDepth {s : Session} {c : ClassDescriptor} {depth : Nat} :
    Change free known s (s.rememberDepth c depth).2
  | makeMethod {s : Session} {p : PreparedMethod} (within : p.Within s.registry) :
    Change free known s (s.makeMethod p).2
  | keepMethod {s : Session} {m : Method} (genuine : m ∈ known) :
    Change free known s (s.keepMethod m).2
  | annotate {s : Session} {m : Method} {slot : Slot} {a : Annotation}
    (genuine : m ∈ known ∨ m ∈ s.run.methods.values) :
    Change free known s (s.annotate m slot a)
  | notify {s : Session} {m : Method} : Change free known s (s.notify m)
  | addRecorder {s : Session} : Change free known s s.addRecorder.2
  | dropRecorder {s : Session} {index : Nat} : Change free known s (s.dropRecorder index)
  | addLog {s : Session} {records : List LogRecord} : Change free known s (s.addLog records)
  | report {s : Session} {r : Report} : Change free known s (s.report r)
  | createHierarchy {s : Session} : Change free known s s.createHierarchy
  | addToHierarchy {s : Session} {run : Nat} {c : ResolvedClass} {kind : VertexKind} :
    Change free known s (s.addToHierarchy run c kind).2
  | promise {s : Session} {run : Nat} {change : Databases → Databases}
    (hierarchy : ∀ d, (change d).hierarchy = d.hierarchy)
    (qualified : ∀ d, (change d).qualified = d.qualified) :
    Change free known s (s.modifyDatabasesOf run change)
  | createQualified {s : Session} : Change free known s s.createQualified
  | askQualified {s : Session} {run : Nat} {m : Method} {slot : Slot} (may : free.MayAsk s run m)
    (present : run = s.runNumber → s.run.databases.qualified.isSome) :
    Change free known s (s.nullnessOf .qualified run m slot).2
  | markLoaded {s : Session} {run : Nat}
    (present : run = s.runNumber → s.run.databases.qualified.isSome) :
    Change free known s (s.setQualified run { s.qualifiedOf run with isLoaded := true })
  | setBridges {s : Session} {bridges : Bridges} :
    Change free known s { s with run := { s.run with bridges } }
  | setPaths {s : Session} {paths : Paths} : Change free known s { s with paths }
  | clearFacts {s : Session} : Change free known s s.clearFacts
  | purgeClasses {s : Session} : Change free known s s.purgeClasses
  | reset {s : Session} : Change free known s s.reset

abbrev Changes (free : Freedom) (known : List Method) : Session → Session → Prop :=
  ReflTransGen (Change free known)

theorem modifyDatabasesOf_self (s : Session) (change : Databases → Databases) :
    s.modifyDatabasesOf s.runNumber change =
      { s with run := { s.run with databases := change s.run.databases } } :=
  if_pos rfl

theorem modifyDatabasesOf_frame (s : Session) (run : Nat) (change : Databases → Databases) :
    ∃ databases retired, s.modifyDatabasesOf run change =
      { s with retired, run := { s.run with databases } } := by
  unfold modifyDatabasesOf
  split
  · exact ⟨_, s.retired, rfl⟩
  · exact ⟨s.run.databases, _, rfl⟩

theorem addToHierarchy_frame (s : Session) (run : Nat) (c : ResolvedClass) (kind : VertexKind) :
    (s.addToHierarchy run c kind).2 = s ∨ ∃ grown, (s.addToHierarchy run c kind).2 =
      s.modifyDatabasesOf run fun d => { d with hierarchy := some grown } := by
  unfold addToHierarchy
  split
  · exact Or.inr ⟨_, rfl⟩
  · exact Or.inl rfl

theorem nullnessOf_qualified (s : Session) (run : Nat) (m : Method) (slot : Slot) :
    s.nullnessOf .qualified run m slot =
      (((s.qualifiedOf run).resolve m.toMethodBody (s.annotationsOf m) slot).1,
        s.setQualified run
          ((s.qualifiedOf run).resolve m.toMethodBody (s.annotationsOf m) slot).2) :=
  rfl

section

variable {free : Freedom} {known : List Method} {s t : Session}

theorem changes_of_resolves (steps : Resolves free s t) : Changes free known s t :=
  ReflTransGen.mono (fun _ _ step => Change.resolving step) _ _ steps

theorem changes_of_makes (steps : Makes s t) : Changes free known s t :=
  changes_of_resolves (resolves_of_makes steps)

/-- A step either belongs to resolving, or it leaves the registry and the records as they are, or it
forgets the records. -/
theorem Change.frame (change : Change free known s t) :
    Resolving free s t ∨ (t.registry = s.registry ∧
      (t.run.classes = s.run.classes ∨ t.run.classes = [])) := by
  have databases : ∀ run change, (s.modifyDatabasesOf run change).registry = s.registry ∧
      ((s.modifyDatabasesOf run change).run.classes = s.run.classes ∨
        (s.modifyDatabasesOf run change).run.classes = []) := by
    intro run change
    obtain ⟨databases, retired, modified⟩ := modifyDatabasesOf_frame s run change
    rw [modified]
    exact ⟨rfl, Or.inl rfl⟩
  cases change with
  | resolving step => exact Or.inl step
  | rememberDepth =>
    unfold Session.rememberDepth
    split <;> exact Or.inr ⟨rfl, Or.inl rfl⟩
  | makeMethod within => exact Or.inr ⟨rfl, Or.inl rfl⟩
  | @keepMethod m genuine =>
    obtain ⟨methods, kept⟩ := keepMethod_frame m s
    rw [kept]
    exact Or.inr ⟨rfl, Or.inl rfl⟩
  | @annotate m slot a genuine =>
    obtain ⟨recorders, annotated⟩ := s.exists_annotate m slot a
    rw [annotated]
    exact Or.inr ⟨rfl, Or.inl rfl⟩
  | @notify m =>
    obtain ⟨recorders, notified⟩ := s.exists_notify m
    rw [notified]
    exact Or.inr ⟨rfl, Or.inl rfl⟩
  | addRecorder => exact Or.inr ⟨rfl, Or.inl rfl⟩
  | dropRecorder => exact Or.inr ⟨rfl, Or.inl rfl⟩
  | addLog => exact Or.inr ⟨rfl, Or.inl rfl⟩
  | report =>
    unfold Session.report
    split <;> exact Or.inr ⟨rfl, Or.inl rfl⟩
  | createHierarchy => exact Or.inr (databases _ _)
  | @addToHierarchy run c kind =>
    rcases addToHierarchy_frame s run c kind with same | ⟨grown, added⟩
    · rw [same]
      exact Or.inr ⟨rfl, Or.inl rfl⟩
    · rw [added]
      exact Or.inr (databases _ _)
  | promise hierarchy qualified => exact Or.inr (databases _ _)
  | createQualified =>
    unfold Session.createQualified
    split
    · exact Or.inr ⟨rfl, Or.inl rfl⟩
    · exact Or.inr (databases _ _)
  | askQualified may present => exact Or.inr (databases _ _)
  | markLoaded present => exact Or.inr (databases _ _)
  | setBridges => exact Or.inr ⟨rfl, Or.inl rfl⟩
  | setPaths => exact Or.inr ⟨rfl, Or.inl rfl⟩
  | clearFacts => exact Or.inr ⟨rfl, Or.inl rfl⟩
  | purgeClasses => exact Or.inr ⟨rfl, Or.inr rfl⟩
  | reset => exact Or.inr ⟨rfl, Or.inr rfl⟩

/-- The switches stay, and so does whether events are kept. -/
theorem Change.settings (change : Change free known s t) :
    t.config = s.config ∧ t.events?.isSome = s.events?.isSome := by
  have databases : ∀ run change, (s.modifyDatabasesOf run change).config = s.config ∧
      (s.modifyDatabasesOf run change).events?.isSome = s.events?.isSome := by
    intro run change
    obtain ⟨databases, retired, modified⟩ := modifyDatabasesOf_frame s run change
    rw [modified]
    exact ⟨rfl, rfl⟩
  cases change with
  | resolving step =>
    cases step with
    | making step =>
      cases step with
      | @makeAndKeep p within =>
        obtain ⟨methods, kept⟩ := makeAndKeep_frame p s
        rw [kept]
        exact ⟨rfl, rfl⟩
      | _ => exact ⟨rfl, rfl⟩
    | remember fits kept => exact ⟨rfl, rfl⟩
  | rememberDepth =>
    unfold Session.rememberDepth
    split <;> exact ⟨rfl, rfl⟩
  | @keepMethod m genuine =>
    obtain ⟨methods, kept⟩ := keepMethod_frame m s
    rw [kept]
    exact ⟨rfl, rfl⟩
  | @annotate m slot a genuine =>
    obtain ⟨recorders, annotated⟩ := s.exists_annotate m slot a
    rw [annotated]
    exact ⟨rfl, rfl⟩
  | @notify m =>
    obtain ⟨recorders, notified⟩ := s.exists_notify m
    rw [notified]
    exact ⟨rfl, rfl⟩
  | report =>
    unfold Session.report
    cases collecting : s.reporter with
    | log => exact ⟨rfl, rfl⟩
    | collect events =>
      refine ⟨rfl, ?_⟩
      unfold events?
      rw [collecting]
      rfl
  | createHierarchy => exact databases _ _
  | @addToHierarchy run c kind =>
    rcases addToHierarchy_frame s run c kind with same | ⟨grown, added⟩
    · rw [same]
      exact ⟨rfl, rfl⟩
    · rw [added]
      exact databases _ _
  | promise hierarchy qualified => exact databases _ _
  | createQualified =>
    unfold Session.createQualified
    split
    · exact ⟨rfl, rfl⟩
    · exact databases _ _
  | askQualified may present => exact databases _ _
  | markLoaded present => exact databases _ _
  | _ => exact ⟨rfl, rfl⟩

theorem Change.grows (change : Change free known s t) : s.registry.GrowsSoundly t.registry := by
  rcases change.frame with step | ⟨same, -⟩
  · exact step.grows
  · rw [same]
    exact refl_of Registry.GrowsSoundly s.registry

theorem Tidy.change (tidy : Tidy free s) (change : Change free known s t) : Tidy free t := by
  rcases change.frame with step | ⟨registry, classes⟩
  · exact tidy.resolving step
  · constructor
    · rw [registry]
      exact tidy.registry
    · rw [registry]
      intro id record found
      rcases classes with same | nothing
      · rw [same] at found
        exact tidy.classes id record found
      · rw [nothing] at found
        cases found

theorem grows_of_changes (changes : Changes free known s t) : s.registry.GrowsSoundly t.registry := by
  induction changes with
  | refl => exact refl_of Registry.GrowsSoundly s.registry
  | tail _ change ih => exact trans_of Registry.GrowsSoundly ih change.grows

theorem settings_of_changes (changes : Changes free known s t) :
    t.config = s.config ∧ t.events?.isSome = s.events?.isSome := by
  induction changes with
  | refl => exact ⟨rfl, rfl⟩
  | tail _ change ih => exact ⟨change.settings.1.trans ih.1, change.settings.2.trans ih.2⟩

theorem Tidy.changes (tidy : Tidy free s) (changes : Changes free known s t) : Tidy free t := by
  induction changes with
  | refl => exact tidy
  | tail _ change ih => exact ih.change change

end

end JvmFacts.Session
