import JvmFacts.Proofs.Session.Repetition
import JvmFacts.Proofs.Session.RunStep
import JvmFacts.Proofs.Session.Upkeep

/-!
Two sessions over one registry that tell the same by names. They may have made their methods in different
orders, so serial numbers differ, and tables may stand in different orders; a host that goes by names
finds no difference, now or later.
-/

set_option autoImplicit false

namespace JvmFacts

open List

/-! ## Names settle everything -/

namespace Session

section

variable {s t : Session}

/-- Of a method of the registry all is told but its serial number. -/
theorem unnumbered_eq_of_account {r : Registry} (wf : r.WellFormed) {m n : Method}
    (one : m.descriptor ∈ r.methods) (two : n.descriptor ∈ r.methods)
    (same : s.methodAccount m = t.methodAccount n) :
    m.unnumbered = n.unnumbered ∧ s.annotationsOf m = t.annotationsOf n := by
  obtain ⟨reference, flags, sourceSignature, exceptions, syntheticParameters, callCount,
    usesConcurrency, hasBackBranch, isStub, annotations⟩ := MethodAccount.mk.inj same
  have descriptor : m.descriptor = n.descriptor :=
    wf.member_eq_of_reference .method one two reference
  refine ⟨?_, annotations⟩
  have body : m.toMethodBody = n.toMethodBody := by
    rw [MethodBody.mk.injEq]
    exact ⟨descriptor, flags, sourceSignature, exceptions, syntheticParameters, callCount,
      usesConcurrency, hasBackBranch, isStub⟩
  exact congrArg (Method.mk · 0) body

/-- Of a record that speaks of the registry all is told but serial numbers. -/
theorem unnumbered_record_eq_of_account {r : Registry} (wf : r.WellFormed) {c d : ResolvedClass}
    (one : c.descriptor ∈ r.classes) (two : d.descriptor ∈ r.classes) (speaks : Speaks r c)
    (speaksToo : Speaks r d) (methods : ∀ m ∈ c.methods, m.descriptor ∈ r.methods)
    (methodsToo : ∀ m ∈ d.methods, m.descriptor ∈ r.methods)
    (same : s.classAccount c = t.classAccount d) : c.unnumbered = d.unnumbered := by
  obtain ⟨name, superclass, interfaces, flags, sourceFile, fields, accounts⟩ :=
    ClassAccount.mk.inj same
  have named : ∀ a ∈ r.classes, ∀ b ∈ r.classes, a.name = b.name → a = b :=
    fun a held b heldToo => wf.class_eq_of_name held heldToo
  have descriptors : c.descriptor = d.descriptor := named _ one _ two name
  have above : c.superclass = d.superclass :=
    option_eq_of_map_eq superclass fun a held b heldToo =>
      named a (speaks.superclass a held) b (speaksToo.superclass b heldToo)
  have beside : c.interfaces = d.interfaces :=
    eq_of_map_eq interfaces fun a held b heldToo =>
      named a (speaks.interfaces a held) b (speaksToo.interfaces b heldToo)
  have listed : c.fields = d.fields :=
    eq_of_map_eq fields fun a held b heldToo =>
      wf.member_eq_of_reference .field (speaks.fields a held) (speaksToo.fields b heldToo)
  have made : c.methods.map Method.unnumbered = d.methods.map Method.unnumbered :=
    map_eq_of_map_eq accounts fun m held n heldToo equal =>
      (unnumbered_eq_of_account wf (methods m held) (methodsToo n heldToo) equal).1
  unfold ResolvedClass.unnumbered
  rw [made, descriptors, above, beside, listed, flags, sourceFile]

end

/-! ## Twins -/

/-- Over one registry the two sessions tell the same by names. -/
structure Twins (s t : Session) : Prop extends Surrounds s t where
  registry : t.registry = s.registry
  ledger : t.ledger = s.ledger
  targets : ∀ m, (t.run.bridges.target? m).map (·.descriptor) =
    (s.run.bridges.target? m).map (·.descriptor)
  sources : ∀ m, (t.run.bridges.source? m).map (·.descriptor) =
    (s.run.bridges.source? m).map (·.descriptor)
  one : Kempt s
  two : Kempt t

theorem Twins.refl {s : Session} (kempt : Kempt s) : Twins s s :=
  ⟨.refl s, rfl, rfl, fun _ => rfl, fun _ => rfl, kempt, kempt⟩

section

variable {s t : Session} (twins : Twins s t)

include twins

/-! ### What a host finds -/

theorem Twins.entryOf {d : MethodDescriptor} (held : d ∈ s.registry.methods) :
    t.entryOf d = s.entryOf d := by
  have heldToo : d ∈ t.registry.methods := by
    rw [twins.registry]
    exact held
  have entries : t.entry = s.entry := congrArg Ledger.entries twins.ledger
  rw [← entry_of_mem twins.one.orderly held, ← entry_of_mem twins.two.orderly heldToo, entries]

/-- For a descriptor both sessions have a method or neither has, and of the two all is the same but
their serial numbers. -/
theorem Twins.method? (d : MethodDescriptor) :
    (s.method? d = none ∧ t.method? d = none) ∨ ∃ m n, s.method? d = some m ∧ t.method? d = some n ∧
      m.unnumbered = n.unnumbered ∧ s.annotationsOf m = t.annotationsOf n := by
  have registered : ∀ {u : Session} {m}, Kempt u → u.method? d = some m → d ∈ u.registry.methods := by
    intro u m kempt found
    have held := kempt.orderly.genuine.registered m (handed_of_method? found)
    rw [kempt.orderly.filed.keyed d m found] at held
    exact held
  by_cases held : d ∈ s.registry.methods
  · have accounts : (t.method? d).map t.methodAccount = (s.method? d).map s.methodAccount :=
      congrArg MethodEntry.method (twins.entryOf held)
    cases found : s.method? d with
    | none =>
      rw [found] at accounts
      exact Or.inl ⟨rfl, Option.map_eq_none_iff.1 accounts⟩
    | some m =>
      rw [found] at accounts
      obtain ⟨n, foundToo, equal⟩ := Option.map_eq_some_iff.1 accounts
      have named := twins.one.orderly.filed.keyed d m found
      have namedToo := twins.two.orderly.filed.keyed d n foundToo
      refine Or.inr ⟨m, n, rfl, foundToo, ?_⟩
      apply unnumbered_eq_of_account twins.one.orderly.registry _ _ equal.symm
      · rw [named]
        exact held
      · rw [namedToo]
        exact held
  · left
    constructor
    · cases found : s.method? d with
      | none => rfl
      | some m => exact absurd (registered twins.one found) held
    · cases found : t.method? d with
      | none => rfl
      | some m => exact absurd (twins.registry ▸ registered twins.two found) held

theorem Twins.facts {d : MethodDescriptor} (held : d ∈ s.registry.methods) :
    FactTables.Agree d.id s.run.facts t.run.facts := by
  have same : t.run.facts.account d.id = s.run.facts.account d.id :=
    congrArg MethodEntry.facts (twins.entryOf held)
  obtain ⟨alwaysThrows, isUnsupported, isIdentity, forwardsTo, accesses⟩ := FactAccount.mk.inj same
  have wf := twins.one.orderly.registry
  refine ⟨alwaysThrows, isUnsupported, isIdentity, ?_, ?_⟩
  · apply option_eq_of_map_eq forwardsTo
    intro m told n toldToo equal
    have one := twins.two.forwards d.id m told
    rw [twins.registry] at one
    exact wf.member_eq_of_reference .method one (twins.one.forwards d.id n toldToo) equal
  · apply option_eq_of_map_eq accesses
    intro m told n toldToo equal
    have one := twins.two.accesses d.id m told
    rw [twins.registry] at one
    exact wf.member_eq_of_reference .field one (twins.one.accesses d.id n toldToo) equal

theorem Twins.traitsOf {d : MethodDescriptor} (held : d ∈ s.registry.methods) :
    t.traitsOf d = s.traitsOf d := by
  have agree := twins.facts held
  unfold Session.traitsOf
  rw [agree.alwaysThrows, agree.isUnsupported, agree.isIdentity, agree.forwardsTo, agree.accesses,
    twins.targets, twins.sources]

theorem Twins.knowsClass (c : ClassDescriptor) : t.knowsClass c = s.knowsClass c := by
  have classes : (t.run.classes.find? c.id).map t.classAccount =
      (s.run.classes.find? c.id).map s.classAccount :=
    congrArg (fun l : Ledger => l.classes c.id) twins.ledger
  have known := congrArg Option.isSome classes
  rw [Option.isSome_map, Option.isSome_map] at known
  exact known

/-! ### What leaves twins alike -/

theorem Twins.keeps {u v : Session} (one : Keeps s u) (two : Keeps t v) (same : Surrounds u v) :
    Twins u v := by
  refine ⟨same, ?_, ?_, ?_, ?_, twins.one.keeps one, twins.two.keeps two⟩
  · rw [one.registry, two.registry, twins.registry]
  · rw [one.ledger, two.ledger, twins.ledger]
  · rw [one.bridges, two.bridges]
    exact twins.targets
  · rw [one.bridges, two.bridges]
    exact twins.sources

theorem Twins.intern {r : Registry} (grows : s.registry.GrowsSoundly r) :
    Twins { s with registry := r } { t with registry := r } := by
  have growsToo : t.registry.GrowsSoundly r := by
    rw [twins.registry]
    exact grows
  refine ⟨⟨twins.config, twins.databases, twins.listeners, twins.runNumber, twins.reporter,
    twins.recorders⟩, rfl, ?_, twins.targets, twins.sources, twins.one.intern grows,
    twins.two.intern growsToo⟩
  rw [ledger_intern twins.one.orderly grows, ledger_intern twins.two.orderly growsToo, twins.ledger]

theorem Twins.addLog (records others : List LogRecord) : Twins (s.addLog records) (t.addLog others) :=
  twins.keeps ⟨rfl, rfl, rfl, rfl, rfl, rfl, rfl⟩ ⟨rfl, rfl, rfl, rfl, rfl, rfl, rfl⟩
    ⟨twins.config, twins.databases, twins.listeners, twins.runNumber, twins.reporter, twins.recorders⟩

theorem Twins.report (r : Report) : Twins (s.report r) (t.report r) := by
  unfold Session.report
  rw [twins.reporter]
  cases s.reporter with
  | log => exact twins.addLog _ _
  | collect events =>
    exact twins.keeps ⟨rfl, rfl, rfl, rfl, rfl, rfl, rfl⟩ ⟨rfl, rfl, rfl, rfl, rfl, rfl, rfl⟩
      ⟨twins.config, twins.databases, twins.listeners, twins.runNumber, rfl, twins.recorders⟩

theorem Twins.modifyDatabases (change : Databases → Databases) :
    Twins (s.modifyDatabases change) (t.modifyDatabases change) := by
  unfold Session.modifyDatabases
  rw [modifyDatabasesOf_self, modifyDatabasesOf_self]
  exact twins.keeps ⟨rfl, rfl, rfl, rfl, rfl, rfl, rfl⟩ ⟨rfl, rfl, rfl, rfl, rfl, rfl, rfl⟩
    ⟨twins.config, congrArg change twins.databases, twins.listeners, twins.runNumber,
      twins.reporter, twins.recorders⟩

theorem Twins.listen (l : Listener) : Twins (s.listen l) (t.listen l) := by
  have live : t.isLive = s.isLive := by
    funext l
    cases l with
    | qualifiedNullness => rfl
    | recorder index =>
      unfold Session.isLive
      rw [twins.recorders]
  unfold Session.listen
  rw [live, twins.listeners]
  exact twins.keeps ⟨rfl, rfl, rfl, rfl, rfl, rfl, rfl⟩ ⟨rfl, rfl, rfl, rfl, rfl, rfl, rfl⟩
    ⟨twins.config, twins.databases, rfl, twins.runNumber, twins.reporter, twins.recorders⟩

theorem Twins.hear (index : Nat) (text : String) : Twins (s.hear index text) (t.hear index text) :=
  twins.keeps ⟨rfl, rfl, rfl, rfl, rfl, rfl, rfl⟩ ⟨rfl, rfl, rfl, rfl, rfl, rfl, rfl⟩
    ⟨twins.config, twins.databases, twins.listeners, twins.runNumber, twins.reporter, by
      unfold Session.hear
      rw [twins.recorders]⟩

theorem Twins.tell {m n : Method} (same : m.descriptor = n.descriptor) (l : Listener) :
    Twins (tell m s l) (tell n t l) := by
  cases l with
  | qualifiedNullness =>
    unfold Session.tell
    rw [same]
    exact twins.modifyDatabases _
  | recorder index =>
    unfold Session.tell
    rw [same]
    exact twins.hear index _

theorem Twins.notify {m n : Method} (same : m.descriptor = n.descriptor) :
    Twins (s.notify m) (t.notify n) := by
  have told : ∀ (listeners : List Listener) {u v : Session}, Twins u v →
      Twins (listeners.foldl (Session.tell m) u) (listeners.foldl (Session.tell n) v) := by
    intro listeners
    induction listeners with
    | nil => exact id
    | cons l rest ih => exact fun twins => ih (twins.tell same l)
  unfold Session.notify
  rw [twins.listeners]
  exact told s.run.listeners twins

theorem Twins.createQualified : Twins s.createQualified t.createQualified := by
  unfold Session.createQualified
  rw [twins.databases]
  cases s.run.databases.qualified with
  | some held => exact twins
  | none => exact (twins.modifyDatabases _).listen _

theorem Twins.createNullness (source : NullnessSource) :
    Twins (s.createNullness source) (t.createNullness source) := by
  cases source with
  | declared =>
    exact twins.modifyDatabases fun d => { d with declared := some (d.declared.getD .empty) }
  | qualified => exact twins.createQualified

theorem Twins.setBridge {m n m' n' : Method} (source : m.descriptor = n.descriptor)
    (target : m'.descriptor = n'.descriptor) : Twins (s.setBridge m m') (t.setBridge n n') := by
  refine ⟨⟨twins.config, twins.databases, twins.listeners, twins.runNumber, twins.reporter,
    twins.recorders⟩, twins.registry, ?_, ?_, ?_, twins.one.still rfl rfl rfl rfl rfl,
    twins.two.still rfl rfl rfl rfl rfl⟩
  · exact twins.ledger
  · intro d
    have before := twins.targets d
    unfold Bridges.target? at before ⊢
    unfold Session.setBridge Bridges.set
    dsimp only
    rw [Table.find?_insert, Table.find?_insert, source]
    split
    · exact congrArg some target.symm
    · exact before
  · intro d
    have before := twins.sources d
    unfold Bridges.source? at before ⊢
    unfold Session.setBridge Bridges.set
    dsimp only
    rw [Table.find?_insert, Table.find?_insert, target]
    split
    · exact congrArg some source.symm
    · exact before

/-! ### Adding classes to the hierarchy -/

theorem Twins.hierarchy : t.hierarchy = s.hierarchy := by
  unfold Session.hierarchy hierarchyOf databasesOf
  rw [if_pos rfl, if_pos rfl, twins.databases]

theorem Twins.addToHierarchy (c : ResolvedClass) (kind : VertexKind) :
    (t.addToHierarchy t.runNumber c kind).1 = (s.addToHierarchy s.runNumber c kind).1 ∧
      Twins (s.addToHierarchy s.runNumber c kind).2 (t.addToHierarchy t.runNumber c kind).2 := by
  have same : t.hierarchyOf t.runNumber = s.hierarchyOf s.runNumber := twins.hierarchy
  unfold Session.addToHierarchy
  rw [same]
  cases (s.hierarchyOf s.runNumber).add c kind with
  | error why => exact ⟨rfl, twins⟩
  | ok grown => exact ⟨rfl, twins.modifyDatabases fun d => { d with hierarchy := some grown }⟩

theorem Twins.enter (applications : List ClassDescriptor)
    (entry : ClassDescriptor × Except Fault ResolvedClass) :
    Twins (enter applications s entry) (enter applications t entry) := by
  obtain ⟨c, outcome⟩ := entry
  cases outcome with
  | error fault => exact twins.report _
  | ok record =>
    obtain ⟨answer, still⟩ := twins.addToHierarchy record
      (if applications.contains c then .application else .library)
    simp only [Session.enter]
    rcases added : s.addToHierarchy s.runNumber record
        (if applications.contains c then .application else .library) with ⟨fault | done, u⟩ <;>
      rcases addedToo : t.addToHierarchy t.runNumber record
        (if applications.contains c then .application else .library) with ⟨faultToo | doneToo, v⟩ <;>
      rw [added, addedToo] at answer still <;> cases answer
    · exact still.report _
    · exact still

/-! ### Annotating methods -/

theorem Twins.annotate {d : MethodDescriptor} {m n : Method} (found : s.method? d = some m)
    (foundToo : t.method? d = some n) (slot : Slot) (a : Annotation) :
    Twins (s.annotate m slot a) (t.annotate n slot a) := by
  have held := Table.mem_values_of_find? found
  have heldToo := Table.mem_values_of_find? foundToo
  have same : m.descriptor = n.descriptor :=
    (twins.one.orderly.filed.keyed d m found).trans (twins.two.orderly.filed.keyed d n foundToo).symm
  have ledger : (t.withAnnotation n slot a).ledger = (s.withAnnotation m slot a).ledger := by
    rw [twins.one.ledger_withAnnotation held, twins.two.ledger_withAnnotation heldToo, twins.ledger,
      same]
  have annotated : Twins (s.withAnnotation m slot a) (t.withAnnotation n slot a) :=
    ⟨⟨twins.config, twins.databases, twins.listeners, twins.runNumber, twins.reporter,
      twins.recorders⟩, twins.registry, ledger, twins.targets, twins.sources,
      twins.one.still rfl rfl rfl rfl rfl, twins.two.still rfl rfl rfl rfl rfl⟩
  exact annotated.notify same

/-- The methods come in the same order, whatever order they were made in. -/
theorem Twins.allMethods : s.allMethods.map (fun m => m.descriptor) =
    t.allMethods.map fun m => m.descriptor := by
  have keys : s.run.methods.keys.Perm t.run.methods.keys := by
    rw [List.perm_ext_iff_of_nodup twins.one.distinct twins.two.distinct]
    intro d
    rw [Table.mem_keys_iff, Table.mem_keys_iff]
    rcases twins.method? d with ⟨none, noneToo⟩ | ⟨m, n, found, foundToo, -⟩
    · constructor
      · rintro ⟨m, found⟩
        exact absurd (found.symm.trans none) (Option.some_ne_none m)
      · rintro ⟨m, found⟩
        exact absurd (found.symm.trans noneToo) (Option.some_ne_none m)
    · exact ⟨fun _ => ⟨n, foundToo⟩, fun _ => ⟨m, found⟩⟩
  rw [← twins.one.orderly.filed.descriptors_eq twins.one.distinct,
    ← twins.two.orderly.filed.descriptors_eq twins.two.distinct] at keys
  have contents : (s.run.methods.values.map Method.content).Perm
      (t.run.methods.values.map Method.content) := by
    have mapped := keys.map MemberDescriptor.content
    rw [List.map_map, List.map_map] at mapped
    exact mapped
  have listed : s.allMethods.map Method.content = t.allMethods.map Method.content :=
    contents_inOrder_eq contents
  apply map_eq_of_map_eq listed
  intro m member n memberToo same
  have one : m.descriptor ∈ s.registry.members .method :=
    twins.one.orderly.genuine.registered m (Or.inr (mem_allMethods.1 member))
  have two : n.descriptor ∈ t.registry.members .method :=
    twins.two.orderly.genuine.registered n (Or.inr (mem_allMethods.1 memberToo))
  rw [twins.registry] at two
  exact twins.one.orderly.registry.member_eq_of_content one two same

omit twins in
theorem wantsCheckForNull_eq {m n : Method} (same : m.unnumbered = n.unnumbered)
    (annotations : s.annotationsOf m = t.annotationsOf n) :
    t.wantsCheckForNull n = s.wantsCheckForNull m := by
  have body : m.toMethodBody = n.toMethodBody := (Method.mk.inj same).1
  unfold wantsCheckForNull
  rw [body, annotations]

omit twins in
theorem annotateEquals_twins (type : ClassDescriptor) {ms ns : List Method} {s t : Session}
    (twins : Twins s t) (same : ms.map (fun m => m.descriptor) = ns.map fun n => n.descriptor)
    (held : ∀ m ∈ ms, s.method? m.descriptor = some m)
    (heldToo : ∀ n ∈ ns, t.method? n.descriptor = some n) :
    Twins (annotateEquals type ms s).2 (annotateEquals type ns t).2 := by
  induction ms generalizing ns s t with
  | nil =>
    rw [List.map_nil, eq_comm, List.map_eq_nil_iff] at same
    rw [same]
    exact twins
  | cons m ms ih =>
    cases ns with
    | nil => cases same
    | cons n ns =>
      obtain ⟨first, others⟩ := List.cons.inj same
      obtain ⟨here, there⟩ := List.forall_mem_cons.1 held
      obtain ⟨hereToo, thereToo⟩ := List.forall_mem_cons.1 heldToo
      have descriptors : m.descriptor = n.descriptor := first
      rw [← descriptors] at hereToo
      have wants : t.wantsCheckForNull n = s.wantsCheckForNull m := by
        rcases twins.method? m.descriptor with ⟨none, -⟩ | ⟨m', n', found, foundToo, equal, notes⟩
        · rw [here] at none
          cases none
        · obtain rfl := Option.some.inj (here.symm.trans found)
          obtain rfl := Option.some.inj (hereToo.symm.trans foundToo)
          exact wantsCheckForNull_eq equal notes
      unfold annotateEquals
      rw [wants]
      split
      · have annotated := twins.annotate here hereToo (some 0) ⟨type, []⟩
        apply ih annotated others
        · intro k member
          unfold Session.method?
          rw [methods_annotate]
          exact there k member
        · intro k member
          unfold Session.method?
          rw [methods_annotate]
          exact thereToo k member
      · exact ih twins others there thereToo

/-! ### Loading -/

theorem Twins.checkReturn : t.checkReturn = s.checkReturn := by
  unfold Session.checkReturn
  rw [twins.databases]

theorem Twins.loadCheckReturn : Twins s.loadCheckReturn t.loadCheckReturn := by
  have grows := s.checkReturn.grows_load twins.one.orderly.registry
  unfold Session.loadCheckReturn setCheckReturn
  rw [twins.checkReturn, twins.registry]
  exact ((twins.intern grows).modifyDatabases _).addLog _ _

theorem Twins.databasesOf : t.databasesOf t.runNumber = s.databasesOf s.runNumber := by
  unfold Session.databasesOf
  rw [if_pos rfl, if_pos rfl, twins.databases]

theorem Twins.loadDeclared : Twins (s.loadDeclared s.runNumber) (t.loadDeclared t.runNumber) := by
  have table : t.declaredOf t.runNumber = s.declaredOf s.runNumber := by
    unfold declaredOf
    rw [twins.databasesOf]
  have grows := (s.declaredOf s.runNumber).grows_load twins.one.orderly.registry
  unfold Session.loadDeclared
  rw [table, twins.registry]
  exact ((twins.intern grows).modifyDatabases fun d => { d with declared := some _ }).addLog _ _

theorem Twins.qualifiedOf : t.qualifiedOf t.runNumber = s.qualifiedOf s.runNumber := by
  unfold Session.qualifiedOf
  rw [twins.databasesOf]

theorem Twins.markEquals (outcome : Except Fault ClassDescriptor) :
    Twins (s.markEquals outcome) (t.markEquals outcome) := by
  have held : ∀ {u : Session}, Kempt u → ∀ m ∈ u.allMethods, u.method? m.descriptor = some m :=
    fun kempt m member =>
      (kempt.orderly.filed.mem_values_iff kempt.distinct).1 (mem_allMethods.1 member)
  cases outcome with
  | error fault => exact twins.addLog _ _
  | ok type =>
    have annotated := annotateEquals_twins type twins twins.allMethods (held twins.one)
      (held twins.two)
    exact annotated.addLog _ _

theorem Twins.loadQualified : Twins (s.loadQualified s.runNumber) (t.loadQualified t.runNumber) := by
  by_cases loaded : (s.qualifiedOf s.runNumber).isLoaded = true
  · have loadedToo := loaded
    rw [← twins.qualifiedOf] at loadedToo
    unfold Session.loadQualified
    simp only [if_pos loaded, if_pos loadedToo]
    exact twins
  · have unloadedToo := loaded
    rw [← twins.qualifiedOf] at unloadedToo
    have marked : Twins
        (s.setQualified s.runNumber { s.qualifiedOf s.runNumber with isLoaded := true })
        (t.setQualified t.runNumber { t.qualifiedOf t.runNumber with isLoaded := true }) := by
      rw [twins.qualifiedOf]
      exact twins.modifyDatabases fun d => { d with qualified := some _ }
    rw [loadQualified_of_unloaded loaded, loadQualified_of_unloaded unloadedToo]
    generalize s.setQualified s.runNumber { s.qualifiedOf s.runNumber with isLoaded := true } = u
      at marked
    generalize t.setQualified t.runNumber { t.qualifiedOf t.runNumber with isLoaded := true } = v
      at marked
    have grows := (Registry.yields_internClass u.registry Nullness.checkForNullClass).steps
    dsimp only
    rw [interning_run, interning_run, marked.registry]
    exact (marked.intern grows).markEquals _

theorem Twins.loadNullness (source : NullnessSource) :
    Twins (s.loadNullness source s.runNumber) (t.loadNullness source t.runNumber) := by
  cases source with
  | declared => exact twins.loadDeclared
  | qualified => exact twins.loadQualified

theorem Twins.updateDatabases (pass : Nat) : Twins (s.updateDatabases pass) (t.updateDatabases pass) := by
  unfold Session.updateDatabases
  rw [twins.config]
  split
  · exact twins
  · have loaded : Twins s.createCheckReturn.loadCheckReturn t.createCheckReturn.loadCheckReturn :=
      (twins.modifyDatabases fun d =>
        { d with checkReturn := some (d.checkReturn.getD .empty) }).loadCheckReturn
    generalize s.createCheckReturn.loadCheckReturn = u at loaded
    generalize t.createCheckReturn.loadCheckReturn = v at loaded
    have created := loaded.createNullness u.config.nullnessSource
    have filled := created.loadNullness u.config.nullnessSource
    rw [runNumber_createNullness, runNumber_createNullness] at filled
    dsimp only
    rw [loaded.config]
    exact filled

/-! ### Asking about nullness -/

theorem Twins.nullnessNow {m n : Method} (same : m.unnumbered = n.unnumbered)
    (annotations : s.annotationsOf m = t.annotationsOf n) (slot : Slot) :
    (t.nullnessNow n slot).1 = (s.nullnessNow m slot).1 ∧
      Twins (s.nullnessNow m slot).2 (t.nullnessNow n slot).2 := by
  have body : m.toMethodBody = n.toMethodBody := (Method.mk.inj same).1
  have asked : ∀ source, ∀ {u v : Session}, Twins u v → u.annotationsOf m = v.annotationsOf n →
      (v.nullnessOf source v.runNumber n slot).1 = (u.nullnessOf source u.runNumber m slot).1 ∧
        Twins (u.nullnessOf source u.runNumber m slot).2
          (v.nullnessOf source v.runNumber n slot).2 := by
    intro source u v twins annotations
    cases source with
    | declared =>
      refine ⟨?_, twins⟩
      unfold nullnessOf declaredOf
      rw [body, annotations, twins.databasesOf]
    | qualified =>
      rw [nullnessOf_qualified, nullnessOf_qualified, body, annotations, twins.qualifiedOf]
      exact ⟨rfl, twins.modifyDatabases fun d => { d with qualified := some _ }⟩
  have created := twins.createNullness s.config.nullnessSource
  have notes : (s.createNullness s.config.nullnessSource).annotationsOf m =
      (t.createNullness s.config.nullnessSource).annotationsOf n := by
    rw [annotationsOf_createNullness, annotationsOf_createNullness, annotations]
  have answer := asked s.config.nullnessSource created notes
  rw [runNumber_createNullness, runNumber_createNullness] at answer
  unfold Session.nullnessNow
  rw [twins.config]
  exact answer

end

end Session

end JvmFacts
