import JvmFacts.Proofs.Session.Builds
import JvmFacts.Proofs.Session.Handles

/-!
Where a run keeps what it knows. A method is filed under its own descriptor, a record tells of no
method that the table does not have, and facts hang on methods of the registry only.
-/

set_option autoImplicit false

namespace JvmFacts

namespace Session

structure Filed (s : Session) : Prop where
  keyed : ∀ descriptor m, s.method? descriptor = some m → m.descriptor = descriptor
  kept : ∀ id record, s.run.classes.find? id = some record →
    ∀ m ∈ record.methods, m ∈ s.run.methods.values

section

variable {free : Freedom} {known : List Method} {s t : Session}

theorem mem_methods_keepMethod (m : Method) {n : Method} (member : n ∈ s.run.methods.values) :
    n ∈ (s.keepMethod m).2.run.methods.values := by
  unfold keepMethod
  split
  · exact member
  · rename_i absent
    exact Table.mem_values_insert_of_absent absent member

theorem Filed.still (filed : Filed s) (methods : t.run.methods = s.run.methods)
    (classes : t.run.classes = s.run.classes ∨ t.run.classes = []) : Filed t where
  keyed := by
    intro descriptor m found
    unfold method? at found
    rw [methods] at found
    exact filed.keyed descriptor m found
  kept := by
    intro id record found
    rcases classes with same | nothing
    · rw [same] at found
      rw [methods]
      exact filed.kept id record found
    · rw [nothing] at found
      cases found

theorem Filed.keepMethod (filed : Filed s) (m : Method) : Filed (s.keepMethod m).2 where
  keyed := by
    intro descriptor n found
    rw [method?_keepMethod] at found
    rcases Option.or_eq_some_iff.1 found with held | ⟨-, fresh⟩
    · exact filed.keyed descriptor n held
    · split at fresh
      · rename_i same
        obtain rfl := Option.some.inj fresh
        exact same
      · cases fresh
  kept := by
    intro id record found n member
    obtain ⟨methods, same⟩ := keepMethod_frame m s
    have before : s.run.classes.find? id = some record := by
      rw [same] at found
      exact found
    exact mem_methods_keepMethod m (filed.kept id record before n member)

theorem Filed.makeMethod (filed : Filed s) (p : PreparedMethod) : Filed (s.makeMethod p).2 :=
  filed.still rfl (Or.inl rfl)

theorem Filed.makeAndKeep (filed : Filed s) (p : PreparedMethod) : Filed (s.makeAndKeep p).2 :=
  (filed.makeMethod p).keepMethod (s.makeMethod p).1

theorem Filed.remember (filed : Filed s) {record : ResolvedClass}
    (kept : ∀ m ∈ record.methods, m ∈ s.run.methods.values) (c : ClassDescriptor) :
    Filed (s.rememberClass c record) where
  keyed := filed.keyed
  kept := by
    intro id other found
    have inserted := (Table.find?_insert c.id id record s.run.classes).symm.trans found
    split at inserted
    · obtain rfl := Option.some.inj inserted
      exact kept
    · exact filed.kept id other inserted

theorem Filed.modifyDatabasesOf (filed : Filed s) (run : Nat) (change : Databases → Databases) :
    Filed (s.modifyDatabasesOf run change) := by
  obtain ⟨databases, retired, modified⟩ := modifyDatabasesOf_frame s run change
  rw [modified]
  exact filed.still rfl (Or.inl rfl)

theorem Filed.change (filed : Filed s) (change : Change free known s t) : Filed t := by
  cases change with
  | resolving step =>
    cases step with
    | making step =>
      cases step with
      | makeAndKeep within => exact filed.makeAndKeep _
      | _ => exact filed.still rfl (Or.inl rfl)
    | remember fits kept => exact filed.remember kept _
  | rememberDepth =>
    unfold Session.rememberDepth
    split <;> exact filed.still rfl (Or.inl rfl)
  | makeMethod within => exact filed.makeMethod _
  | keepMethod handed => exact filed.keepMethod _
  | @annotate m slot a handed =>
    obtain ⟨recorders, annotated⟩ := s.exists_annotate m slot a
    rw [annotated]
    exact filed.still rfl (Or.inl rfl)
  | @notify m =>
    obtain ⟨recorders, notified⟩ := s.exists_notify m
    rw [notified]
    exact filed.still rfl (Or.inl rfl)
  | report =>
    unfold Session.report
    split <;> exact filed.still rfl (Or.inl rfl)
  | createHierarchy =>
    unfold Session.createHierarchy modifyDatabases
    exact filed.modifyDatabasesOf _ _
  | @addToHierarchy run c kind =>
    rcases addToHierarchy_frame s run c kind with same | ⟨grown, added⟩
    · rw [same]
      exact filed
    · rw [added]
      exact filed.modifyDatabasesOf run _
  | promise hierarchy qualified => exact filed.modifyDatabasesOf _ _
  | createQualified =>
    obtain ⟨listeners, qualified, created⟩ := s.createQualified_frame
    rw [created]
    exact filed.still rfl (Or.inl rfl)
  | @askQualified run m slot may present =>
    rw [nullnessOf_qualified]
    exact filed.modifyDatabasesOf run fun d => { d with qualified := some _ }
  | markLoaded present => exact filed.modifyDatabasesOf _ _
  | purgeClasses => exact filed.still rfl (Or.inr rfl)
  | reset =>
    constructor
    · intro descriptor m found
      cases found
    · intro id record found
      cases found
  | _ => exact filed.still rfl (Or.inl rfl)

theorem filed_of_changes (filed : Filed s) (changes : Changes free known s t) : Filed t := by
  induction changes with
  | refl => exact filed
  | tail _ change ih => exact ih.change change

/-- The methods are genuine and filed, and of an id that no method has no fact is told. -/
structure Orderly (s : Session) : Prop where
  registry : s.registry.WellFormed
  genuine : Genuine [] s
  filed : Filed s
  noted : ∀ id, (∀ d ∈ s.registry.methods, d.id ≠ id) → FactTables.Agree id .empty s.run.facts

theorem Orderly.intern (orderly : Orderly s) {r : Registry} (grows : s.registry.GrowsSoundly r) :
    Orderly { s with registry := r } where
  registry := grows.wellFormed orderly.registry
  genuine := orderly.genuine.still rfl rfl grows
  filed := orderly.filed.still rfl (Or.inl rfl)
  noted := fun id absent => orderly.noted id fun d held => absent d (grows.mem_members held)

theorem Orderly.makeAndKeep (orderly : Orderly s) {p : PreparedMethod}
    (held : p.body.descriptor ∈ s.registry.methods) : Orderly (s.makeAndKeep p).2 := by
  constructor
  · rw [registry_makeAndKeep]
    exact orderly.registry
  · exact orderly.genuine.makeAndKeep held
  · exact orderly.filed.makeAndKeep p
  · rw [registry_makeAndKeep, facts_makeAndKeep]
    intro id absent
    exact (orderly.noted id absent).trans (FactTables.agree_record (absent _ held) s.run.facts)

theorem Orderly.countClass (orderly : Orderly s) :
    Orderly { s with classesMade := s.classesMade + 1 } where
  registry := orderly.registry
  genuine := orderly.genuine.still rfl rfl (refl_of Registry.GrowsSoundly s.registry)
  filed := orderly.filed.still rfl (Or.inl rfl)
  noted := orderly.noted

theorem Orderly.remember (orderly : Orderly s) {record : ResolvedClass}
    (kept : ∀ m ∈ record.methods, m ∈ s.run.methods.values) (c : ClassDescriptor) :
    Orderly (s.rememberClass c record) where
  registry := orderly.registry
  genuine := orderly.genuine.still rfl rfl (refl_of Registry.GrowsSoundly s.registry)
  filed := orderly.filed.remember kept c
  noted := orderly.noted

end

end Session

namespace Host

variable {free : Freedom} {h : Host}

theorem Reached.filed (reached : h.Reached free) : Session.Filed h.session := by
  induction reached with
  | start wf =>
    constructor
    · intro descriptor m found
      cases found
    · intro id record found
      cases found
  | after before allowed ih =>
    exact Session.filed_of_changes ih (Call.changes before.tidy allowed)

theorem Reached.orderly (reached : h.Reached free) : Session.Orderly h.session where
  registry := reached.tidy.registry
  genuine := by
    apply reached.genuine.mono _ (Nat.le_refl _) (refl_of Registry.GrowsSoundly _)
    intro m handed
    rcases handed with member | member
    · cases member
    · exact Or.inr member
  filed := reached.filed
  noted := by
    intro id absent
    obtain ⟨built, run⟩ := reached.exists_built
    obtain ⟨prepared, prepares, facts⟩ := run.exists_prepared
    rw [facts]
    apply FactTables.agree_foldl
    intro p member
    obtain ⟨d, -, made⟩ := exists_of_mem_right prepares member
    exact absent _ made.registered

end Host

end JvmFacts
