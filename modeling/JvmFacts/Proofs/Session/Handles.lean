import JvmFacts.Proofs.Session.Call

/-!
The methods that a host has or can look up. The session made each of them, for a descriptor of its
registry, and their serial numbers tell them apart.
-/

set_option autoImplicit false

namespace JvmFacts

namespace Session

/-- The host has the method, or the table does. -/
def Handed (known : List Method) (s : Session) (m : Method) : Prop :=
  m ∈ known ∨ m ∈ s.run.methods.values

structure Genuine (known : List Method) (s : Session) : Prop where
  registered : ∀ m, Handed known s m → m.descriptor ∈ s.registry.methods
  older : ∀ m, Handed known s m → m.serial < s.methodsMade
  apart : ∀ m n, Handed known s m → Handed known s n → m.serial = n.serial → m = n

section

variable {free : Freedom} {known few : List Method} {s t : Session}

theorem handed_of_method? {m : Method} {descriptor : MethodDescriptor}
    (held : s.method? descriptor = some m) : Handed known s m :=
  Or.inr (Table.mem_values_of_find? held)

theorem Genuine.mono (genuine : Genuine known s) (fewer : ∀ m, Handed few t m → Handed known s m)
    (made : s.methodsMade ≤ t.methodsMade) (grows : s.registry.GrowsSoundly t.registry) :
    Genuine few t where
  registered := by
    intro m handed
    have before := genuine.registered m (fewer m handed)
    exact grows.mem_members before
  older := by
    intro m handed
    have before := genuine.older m (fewer m handed)
    omega
  apart := fun m n one two => genuine.apart m n (fewer m one) (fewer n two)

theorem Genuine.tail {m : Method} (genuine : Genuine (m :: known) s) : Genuine known s := by
  apply genuine.mono _ (Nat.le_refl _) (refl_of Registry.GrowsSoundly s.registry)
  intro n handed
  rcases handed with member | member
  · exact Or.inl (List.mem_cons_of_mem m member)
  · exact Or.inr member

theorem Genuine.still (genuine : Genuine known s) (methods : t.run.methods = s.run.methods)
    (made : t.methodsMade = s.methodsMade) (grows : s.registry.GrowsSoundly t.registry) :
    Genuine known t := by
  apply genuine.mono _ (Nat.le_of_eq made.symm) grows
  intro m handed
  unfold Handed at handed ⊢
  rw [← methods]
  exact handed

/-- A method that is made takes a serial number that no other has. -/
theorem Genuine.makeMethod (genuine : Genuine known s) {p : PreparedMethod}
    (held : p.body.descriptor ∈ s.registry.methods) :
    Genuine ((s.makeMethod p).1 :: known) (s.makeMethod p).2 := by
  have serial : (s.makeMethod p).1.serial = s.methodsMade := rfl
  have count : (s.makeMethod p).2.methodsMade = s.methodsMade + 1 := rfl
  have cases : ∀ m, Handed ((s.makeMethod p).1 :: known) (s.makeMethod p).2 m →
      m = (s.makeMethod p).1 ∨ Handed known s m := by
    intro m handed
    rcases handed with member | member
    · rcases List.mem_cons.1 member with fresh | before
      · exact Or.inl fresh
      · exact Or.inr (Or.inl before)
    · exact Or.inr (Or.inr member)
  constructor
  · intro m handed
    rcases cases m handed with rfl | before
    · exact held
    · exact genuine.registered m before
  · intro m handed
    rcases cases m handed with rfl | before
    · omega
    · have older := genuine.older m before
      omega
  · intro m n one two same
    rcases cases m one with rfl | before
    · rcases cases n two with rfl | former
      · rfl
      · have older := genuine.older n former
        omega
    · rcases cases n two with rfl | former
      · have older := genuine.older m before
        omega
      · exact genuine.apart m n before former same

theorem handed_keepMethod {m n : Method} (handed : Handed known (s.keepMethod m).2 n) :
    n = m ∨ Handed known s n := by
  rcases handed with member | member
  · exact Or.inr (Or.inl member)
  · unfold keepMethod at member
    split at member
    · exact Or.inr (Or.inr member)
    · rcases Table.mem_values_insert member with fresh | before
      · exact Or.inl fresh
      · exact Or.inr (Or.inr before)

theorem Genuine.keepMethod (genuine : Genuine known s) {m : Method} (handed : Handed known s m) :
    Genuine known (s.keepMethod m).2 := by
  obtain ⟨methods, kept⟩ := keepMethod_frame m s
  have made : (s.keepMethod m).2.methodsMade = s.methodsMade := by
    rw [kept]
  apply genuine.mono _ (Nat.le_of_eq made.symm)
  · rw [keepMethod_registry]
    exact refl_of Registry.GrowsSoundly s.registry
  · intro n further
    rcases handed_keepMethod further with rfl | before
    · exact handed
    · exact before

theorem Genuine.makeAndKeep (genuine : Genuine known s) {p : PreparedMethod}
    (held : p.body.descriptor ∈ s.registry.methods) : Genuine known (s.makeAndKeep p).2 := by
  have made := genuine.makeMethod held
  have kept := made.keepMethod (Or.inl (List.mem_cons_self ..))
  exact kept.tail

theorem Genuine.making (genuine : Genuine known s) (step : Making s t) : Genuine known t := by
  cases step with
  | intern grows => exact genuine.still rfl rfl grows
  | makeAndKeep within => exact genuine.makeAndKeep within.own
  | countClass => exact genuine.still rfl rfl (refl_of Registry.GrowsSoundly s.registry)

theorem Genuine.modifyDatabasesOf (genuine : Genuine known s) (run : Nat)
    (change : Databases → Databases) : Genuine known (s.modifyDatabasesOf run change) := by
  obtain ⟨databases, retired, modified⟩ := modifyDatabasesOf_frame s run change
  rw [modified]
  exact genuine.still rfl rfl (refl_of Registry.GrowsSoundly s.registry)

theorem Genuine.change (genuine : Genuine known s) (change : Change free known s t) :
    Genuine known t := by
  have grows := change.grows
  cases change with
  | resolving step =>
    cases step with
    | making step => exact genuine.making step
    | remember fits kept => exact genuine.still rfl rfl grows
  | rememberDepth =>
    unfold Session.rememberDepth
    split <;> exact genuine.still rfl rfl (refl_of Registry.GrowsSoundly s.registry)
  | makeMethod within => exact (genuine.makeMethod within.own).tail
  | keepMethod handed => exact genuine.keepMethod (Or.inl handed)
  | @annotate m slot a handed =>
    obtain ⟨recorders, annotated⟩ := s.exists_annotate m slot a
    rw [annotated]
    exact genuine.still rfl rfl (refl_of Registry.GrowsSoundly s.registry)
  | @notify m =>
    obtain ⟨recorders, notified⟩ := s.exists_notify m
    rw [notified]
    exact genuine.still rfl rfl (refl_of Registry.GrowsSoundly s.registry)
  | addRecorder => exact genuine.still rfl rfl grows
  | dropRecorder => exact genuine.still rfl rfl grows
  | addLog => exact genuine.still rfl rfl grows
  | report =>
    unfold Session.report
    split <;> exact genuine.still rfl rfl (refl_of Registry.GrowsSoundly s.registry)
  | createHierarchy =>
    unfold Session.createHierarchy modifyDatabases
    exact genuine.modifyDatabasesOf _ _
  | @addToHierarchy run c kind =>
    rcases addToHierarchy_frame s run c kind with same | ⟨grown, added⟩
    · rw [same]
      exact genuine
    · rw [added]
      exact genuine.modifyDatabasesOf run _
  | promise hierarchy qualified => exact genuine.modifyDatabasesOf _ _
  | createQualified =>
    unfold Session.createQualified
    split
    · exact genuine
    · have modified := genuine.modifyDatabasesOf s.runNumber fun d => { d with qualified := some {} }
      exact modified.still rfl rfl (refl_of Registry.GrowsSoundly _)
  | @askQualified run m slot may present =>
    rw [nullnessOf_qualified]
    exact genuine.modifyDatabasesOf run fun d => { d with qualified := some _ }
  | markLoaded present => exact genuine.modifyDatabasesOf _ _
  | setBridges => exact genuine.still rfl rfl grows
  | setPaths => exact genuine.still rfl rfl grows
  | clearFacts => exact genuine.still rfl rfl grows
  | purgeClasses => exact genuine.still rfl rfl grows
  | reset =>
    have none : ∀ m, Handed known s.reset m → Handed known s m := by
      intro m handed
      rcases handed with member | member
      · exact Or.inl member
      · cases member
    exact genuine.mono none (Nat.le_refl _) grows

theorem genuine_of_changes (genuine : Genuine known s) (changes : Changes free known s t) :
    Genuine known t := by
  induction changes with
  | refl => exact genuine
  | tail _ change ih => exact ih.change change

/-- The method that was built is new, so the host has one more. -/
theorem genuine_buildMethod (wf : s.registry.WellFormed) (genuine : Genuine known s)
    (d : MethodDraft) : Genuine (known ++ ((buildMethod d).run.run s).1.toOption.toList)
      ((buildMethod d).run.run s).2 := by
  have prepared := yields_interning (MethodDraft.yields_prepare wf d)
  unfold buildMethod
  rw [Work.run_bind]
  cases outcome : (interning d.prepare).run.run s with
  | mk result t =>
    have before : Genuine known t := by
      have steps : Makes s t := by
        have made := prepared.steps
        rw [outcome] at made
        exact made
      have changes : Changes ⟨false, false⟩ known s t := changes_of_makes steps
      exact genuine_of_changes genuine changes
    cases result with
    | error fault =>
      have nothing : known ++ (Except.error fault : Except Fault Method).toOption.toList = known :=
        List.append_nil known
      exact nothing.symm ▸ before
    | ok p =>
      have held : p.body.descriptor ∈ t.registry.methods := by
        have made := (prepared.post p (congrArg Prod.fst outcome)).1
        rw [outcome] at made
        exact made
      apply (before.makeMethod held).mono _ (Nat.le_refl _) (refl_of Registry.GrowsSoundly _)
      intro m handed
      rcases handed with member | member
      · rcases List.mem_append.1 member with former | fresh
        · exact Or.inl (List.mem_cons_of_mem _ former)
        · exact Or.inl (List.mem_singleton.1 fresh ▸ List.mem_cons_self ..)
      · exact Or.inr member

end

end Session

theorem Call.genuine {free : Freedom} {h : Host} {call : Call} (tidy : Session.Tidy free h.session)
    (allowed : call.Allowed free h) (genuine : Session.Genuine h.methods h.session) :
    Session.Genuine (h.methods ++ call.made h.session) (call.effect h.session) := by
  have changed := Session.genuine_of_changes genuine (Call.changes tidy allowed)
  cases call with
  | build draft => exact Session.genuine_buildMethod tidy.registry genuine draft
  | _ => exact (List.append_nil h.methods).symm ▸ changed

theorem Host.Reached.genuine {free : Freedom} {h : Host} (reached : Reached free h) :
    Session.Genuine h.methods h.session := by
  induction reached with
  | @start config registry paths reporter wf =>
    have nothing : ∀ m, ¬ Session.Handed [] (Session.start config registry paths reporter) m := by
      intro m handed
      rcases handed with member | member <;> cases member
    exact ⟨fun m handed => absurd handed (nothing m), fun m handed => absurd handed (nothing m),
      fun m _ handed => absurd handed (nothing m)⟩
  | after before allowed ih =>
    apply (Call.genuine before.tidy allowed ih).mono _ (Nat.le_refl _) (refl_of Registry.GrowsSoundly _)
    intro m handed
    rcases handed with member | member
    · exact List.mem_append.1 member
    · exact Or.inr member

end JvmFacts
