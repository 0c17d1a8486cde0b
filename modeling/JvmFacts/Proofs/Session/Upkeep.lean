import JvmFacts.Proofs.Session.Bookkeeping
import JvmFacts.Proofs.Session.MethodOrder

/-!
A session in which all that the run tells of is in the registry and stands where it belongs. There
names settle everything: what two such sessions over one registry tell alike by names is the same, but
for the numbers that tell makings apart.
-/

set_option autoImplicit false

namespace JvmFacts

theorem Registry.WellFormed.member_eq_of_reference {r : Registry} (wf : r.WellFormed)
    (kind : MemberKind) {m n : MemberDescriptor kind} (one : m ∈ r.members kind)
    (two : n ∈ r.members kind) (same : m.reference = n.reference) : m = n := by
  obtain ⟨owner, name, signature, isStatic⟩ := MemberReference.mk.inj same
  apply wf.member_eq_of_key one two
  rw [Descriptor.key_ofMember, Descriptor.key_ofMember, owner, name, signature, isStatic]

/-- The account once the method of this name has one more annotation. -/
def MethodAccount.annotated (r : MemberReference) (slot : Slot) (a : Annotation)
    (m : MethodAccount) : MethodAccount :=
  if m.reference = r then { m with annotations := m.annotations.add slot a } else m

/-- The method of this name has one more annotation, wherever it is told of. -/
def Ledger.annotate (l : Ledger) (r : MemberReference) (slot : Slot) (a : Annotation) : Ledger where
  classes := fun id => (l.classes id).map fun c =>
    { c with methods := c.methods.map (·.annotated r slot a) }
  entries := fun m =>
    { l.entries m with method := (l.entries m).method.map (·.annotated r slot a) }

namespace Session

/-- All that the run tells of is in the registry, and its tables are in order. -/
structure Kempt (s : Session) : Prop where
  tidy : Tidy ⟨false, true⟩ s
  orderly : Orderly s
  distinct : s.run.methods.keys.Nodup
  forwards : ∀ id d, s.run.facts.forwardsTo? id = some d → d ∈ s.registry.methods
  accesses : ∀ id f, s.run.facts.accesses? id = some f → f ∈ s.registry.fields

/-- What was learnt of classes and methods is the same. -/
structure Keeps (s t : Session) : Prop where
  registry : t.registry = s.registry
  classes : t.run.classes = s.run.classes
  methods : t.run.methods = s.run.methods
  facts : t.run.facts = s.run.facts
  annotations : t.annotations = s.annotations
  bridges : t.run.bridges = s.run.bridges
  methodsMade : t.methodsMade = s.methodsMade

section

variable {s t : Session}

theorem Keeps.ledger (keeps : Keeps s t) : t.ledger = s.ledger := by
  have accounts : t.methodAccount = s.methodAccount := by
    funext m
    unfold methodAccount annotationsOf
    rw [keeps.annotations]
  have classes : t.classAccount = s.classAccount := by
    funext c
    unfold classAccount
    rw [accounts]
  have entryOf : t.entryOf = s.entryOf := by
    funext d
    unfold Session.entryOf method?
    rw [accounts, keeps.methods, keeps.facts]
  have entries : t.entry = s.entry := by
    funext m
    unfold entry
    rw [entryOf, keeps.registry]
  unfold Session.ledger
  rw [entries, classes, keeps.classes]

theorem Keeps.refl (s : Session) : Keeps s s :=
  ⟨rfl, rfl, rfl, rfl, rfl, rfl, rfl⟩

theorem Keeps.trans {u : Session} (one : Keeps s t) (two : Keeps t u) : Keeps s u where
  registry := two.registry.trans one.registry
  classes := two.classes.trans one.classes
  methods := two.methods.trans one.methods
  facts := two.facts.trans one.facts
  annotations := two.annotations.trans one.annotations
  bridges := two.bridges.trans one.bridges
  methodsMade := two.methodsMade.trans one.methodsMade

theorem keeps_report (s : Session) (r : Report) : Keeps s (s.report r) := by
  unfold report
  split <;> exact ⟨rfl, rfl, rfl, rfl, rfl, rfl, rfl⟩

theorem keeps_modifyDatabasesOf (s : Session) (run : Nat) (change : Databases → Databases) :
    Keeps s (s.modifyDatabasesOf run change) := by
  unfold modifyDatabasesOf
  split <;> exact ⟨rfl, rfl, rfl, rfl, rfl, rfl, rfl⟩

theorem keeps_createHierarchy (s : Session) : Keeps s s.createHierarchy :=
  keeps_modifyDatabasesOf s s.runNumber fun d => { d with hierarchy := some (d.hierarchy.getD .empty) }

theorem keeps_addToHierarchy (s : Session) (run : Nat) (c : ResolvedClass) (kind : VertexKind) :
    Keeps s (s.addToHierarchy run c kind).2 := by
  unfold addToHierarchy
  split
  · rename_i grown _
    exact keeps_modifyDatabasesOf s run fun d => { d with hierarchy := some grown }
  · exact .refl s

theorem keeps_enter (applications : List ClassDescriptor) (s : Session)
    (entry : ClassDescriptor × Except Fault ResolvedClass) :
    Keeps s (enter applications s entry) := by
  obtain ⟨c, fault | record⟩ := entry
  · exact keeps_report s _
  · have added := keeps_addToHierarchy s s.runNumber record
      (if applications.contains c then .application else .library)
    unfold enter
    dsimp only
    split <;> rename_i ended <;> rw [ended] at added
    · exact added
    · exact added.trans (keeps_report _ _)

theorem keeps_foldl_enter (applications : List ClassDescriptor)
    (entries : List (ClassDescriptor × Except Fault ResolvedClass)) (s : Session) :
    Keeps s (entries.foldl (enter applications) s) := by
  induction entries generalizing s with
  | nil => exact .refl s
  | cons entry rest ih => exact (keeps_enter applications s entry).trans (ih _)

theorem Kempt.still (kempt : Kempt s) (registry : t.registry = s.registry)
    (classes : t.run.classes = s.run.classes) (methods : t.run.methods = s.run.methods)
    (facts : t.run.facts = s.run.facts) (made : t.methodsMade = s.methodsMade) : Kempt t := by
  have grows : s.registry.GrowsSoundly t.registry := by
    rw [registry]
    exact refl_of Registry.GrowsSoundly s.registry
  constructor
  · constructor
    · rw [registry]
      exact kempt.tidy.registry
    · rw [registry, classes]
      exact kempt.tidy.classes
  · constructor
    · rw [registry]
      exact kempt.orderly.registry
    · exact kempt.orderly.genuine.still methods made grows
    · exact kempt.orderly.filed.still methods (Or.inl classes)
    · rw [registry, facts]
      exact kempt.orderly.noted
  · rw [methods]
    exact kempt.distinct
  · rw [registry, facts]
    exact kempt.forwards
  · rw [registry, facts]
    exact kempt.accesses

theorem Kempt.keeps (kempt : Kempt s) (keeps : Keeps s t) : Kempt t :=
  kempt.still keeps.registry keeps.classes keeps.methods keeps.facts keeps.methodsMade

theorem Kempt.intern (kempt : Kempt s) {r : Registry} (grows : s.registry.GrowsSoundly r) :
    Kempt { s with registry := r } where
  tidy := kempt.tidy.resolving (.making (.intern grows))
  orderly := kempt.orderly.intern grows
  distinct := kempt.distinct
  forwards := fun id d told => grows.mem_members (kempt.forwards id d told)
  accesses := fun id f told => grows.mem_members (kempt.accesses id f told)

/-- What a fact points to after a method was made. -/
theorem mem_of_insertSome {α : Type} {id other : Nat} {value : Option α} {facts : Table Nat α}
    {held : List α} {a : α} (before : ∀ id a, facts.find? id = some a → a ∈ held)
    (brought : ∀ a ∈ value, a ∈ held)
    (told : (FactTables.insertSome id value facts).find? other = some a) : a ∈ held := by
  rw [FactTables.find?_insertSome] at told
  split at told
  · rcases Option.or_eq_some_iff.1 told with fresh | ⟨-, former⟩
    · exact brought a fresh
    · exact before other a former
  · exact before other a told

theorem Kempt.makeAndKeep (kempt : Kempt s) {p : PreparedMethod} (within : p.Within s.registry) :
    Kempt (s.makeAndKeep p).2 where
  tidy := kempt.tidy.resolving (.making (.makeAndKeep within))
  orderly := kempt.orderly.makeAndKeep within.own
  distinct := by
    rcases methods_keepMethod (s.makeMethod p).1 (s.makeMethod p).2 with same | ⟨-, added⟩
    · exact same ▸ kempt.distinct
    · exact added ▸ Table.nodup_keys_insert kempt.distinct
  forwards := by
    rw [registry_makeAndKeep, facts_makeAndKeep]
    exact fun id d told => mem_of_insertSome kempt.forwards within.forwardsTo told
  accesses := by
    rw [registry_makeAndKeep, facts_makeAndKeep]
    exact fun id f told => mem_of_insertSome kempt.accesses within.accesses told

theorem Kempt.resolving (kempt : Kempt s) (step : Resolving ⟨false, true⟩ s t) : Kempt t := by
  have tidy := kempt.tidy.resolving step
  cases step with
  | making step =>
    cases step with
    | intern grows => exact kempt.intern grows
    | makeAndKeep within => exact kempt.makeAndKeep within
    | countClass => exact kempt.still rfl rfl rfl rfl rfl
  | remember fits kept =>
    exact ⟨tidy, kempt.orderly.remember kept _, kempt.distinct, kempt.forwards, kempt.accesses⟩

theorem Kempt.resolves (kempt : Kempt s) (steps : Resolves ⟨false, true⟩ s t) : Kempt t := by
  induction steps with
  | refl => exact kempt
  | tail _ step ih => exact ih.resolving step

/-- In a kempt session the table has one method of a name. -/
theorem Kempt.eq_of_reference (kempt : Kempt s) {m n : Method} (one : m ∈ s.run.methods.values)
    (two : n ∈ s.run.methods.values) (same : m.descriptor.reference = n.descriptor.reference) :
    m = n := by
  have registered := fun k held => kempt.orderly.genuine.registered k (Or.inr held)
  have descriptors : m.descriptor = n.descriptor :=
    kempt.orderly.registry.member_eq_of_reference .method (registered m one)
      (registered n two) same
  have found := (kempt.orderly.filed.mem_values_iff kempt.distinct).1 one
  have foundToo := (kempt.orderly.filed.mem_values_iff kempt.distinct).1 two
  rw [descriptors, foundToo] at found
  exact (Option.some.inj found).symm

theorem Kempt.methodAccount_withAnnotation (kempt : Kempt s) {m n : Method}
    (held : m ∈ s.run.methods.values) (heldToo : n ∈ s.run.methods.values) (slot : Slot)
    (a : Annotation) : (s.withAnnotation m slot a).methodAccount n =
      (s.methodAccount n).annotated m.descriptor.reference slot a := by
  have written := Table.find?_insert m.serial n.serial ((s.annotationsOf m).add slot a) s.annotations
  by_cases same : n = m
  · subst same
    rw [if_pos rfl] at written
    have added : (s.withAnnotation n slot a).annotationsOf n = (s.annotationsOf n).add slot a :=
      congrArg (Option.getD · MethodAnnotations.empty) written
    unfold methodAccount MethodAccount.annotated
    rw [added]
    exact (if_pos rfl).symm
  · have serials : m.serial ≠ n.serial := fun equal =>
      same (kempt.orderly.genuine.apart n m (Or.inr heldToo) (Or.inr held) equal.symm)
    rw [if_neg serials] at written
    have kept : (s.withAnnotation m slot a).annotationsOf n = s.annotationsOf n :=
      congrArg (Option.getD · MethodAnnotations.empty) written
    have other : (s.methodAccount n).reference ≠ m.descriptor.reference := fun equal =>
      same (kempt.eq_of_reference heldToo held equal)
    unfold methodAccount at other ⊢
    unfold MethodAccount.annotated
    rw [kept, if_neg other]

theorem Kempt.ledger_withAnnotation (kempt : Kempt s) {m : Method}
    (held : m ∈ s.run.methods.values) (slot : Slot) (a : Annotation) :
    (s.withAnnotation m slot a).ledger = s.ledger.annotate m.descriptor.reference slot a := by
  have account := fun n heldToo => kempt.methodAccount_withAnnotation (n := n) held heldToo slot a
  have classes : (s.withAnnotation m slot a).ledger.classes =
      (s.ledger.annotate m.descriptor.reference slot a).classes := by
    funext id
    change (s.run.classes.find? id).map (s.withAnnotation m slot a).classAccount =
      ((s.run.classes.find? id).map s.classAccount).map _
    rw [Option.map_map]
    cases found : s.run.classes.find? id with
    | none => rfl
    | some record =>
      have kept := kempt.orderly.filed.kept id record found
      have methods : record.methods.map (s.withAnnotation m slot a).methodAccount =
          (record.methods.map s.methodAccount).map (·.annotated m.descriptor.reference slot a) := by
        rw [List.map_map]
        exact List.map_congr_left fun n member => account n (kept n member)
      apply congrArg some
      unfold classAccount
      rw [methods]
      rfl
  have entryOf : ∀ d, (s.withAnnotation m slot a).entryOf d =
      { s.entryOf d with
        method := (s.entryOf d).method.map (·.annotated m.descriptor.reference slot a) } := by
    intro d
    have method : (s.method? d).map (s.withAnnotation m slot a).methodAccount =
        ((s.method? d).map s.methodAccount).map (·.annotated m.descriptor.reference slot a) := by
      rw [Option.map_map]
      cases found : s.method? d with
      | none => rfl
      | some n => exact congrArg some (account n (Table.mem_values_of_find? found))
    exact congrArg (MethodEntry.mk · _) method
  have entries : (s.withAnnotation m slot a).entry =
      (s.ledger.annotate m.descriptor.reference slot a).entries := by
    funext r
    have registry : (s.withAnnotation m slot a).registry = s.registry := rfl
    unfold Ledger.annotate Session.ledger entry
    rw [registry]
    dsimp only
    cases s.registry.methodNamed? r with
    | none => rfl
    | some d => exact entryOf d
  exact congrArg₂ Ledger.mk classes entries

theorem kempt_start (config : Config) {registry : Registry} (wf : registry.WellFormed)
    (paths : Paths) (reporter : Reporter) : Kempt (start config registry paths reporter) := by
  have started : (⟨start config registry paths reporter, []⟩ : Host).Reached ⟨false, true⟩ := .start wf
  refine ⟨started.tidy, started.orderly, started.nodup_keys, ?_, ?_⟩
  · intro id d told
    cases told
  · intro id f told
    cases told

end

end Session

end JvmFacts
