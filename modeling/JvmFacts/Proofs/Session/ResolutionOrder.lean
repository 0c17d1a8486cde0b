import JvmFacts.Proofs.Hierarchy.Renumbering
import JvmFacts.Proofs.Session.Applications
import JvmFacts.Proofs.Session.Repetition
import JvmFacts.Proofs.Session.Upkeep

/-!
The order in which classes are resolved, one after the other or side by side. By names every class ends
the same way, the run knows the same afterwards, and a declaration of application classes reports the
same and builds the same hierarchy.

The order decides which ids are handed out, and with them in which order the registry lists what was
interned on the way. A later declaration finds these classes in that order, and reports in it.
-/

set_option autoImplicit false

namespace JvmFacts

open List

namespace Session

/-- The outcomes by names, as they read when all classes are done. -/
def accounts (resolved : List (ClassDescriptor × Except Fault ResolvedClass) × Session) :
    List (ClassDescriptor × Except Fault ClassAccount) :=
  resolved.1.map fun entry => (entry.1, resolved.2.outcomeAccount entry.2)

/-- By names the two series of resolutions cannot be told apart. -/
structure Alike (one two : List (ClassDescriptor × Except Fault ResolvedClass) × Session) :
    Prop where
  outcomes : (accounts one).Perm (accounts two)
  ledger : two.2.ledger = one.2.ledger
  beside : Beside one.2 two.2

section

variable {s : Session} {reader : ClassReader} {c : ClassDescriptor}

/-- A record that is handed out is remembered. -/
theorem find?_of_classRecord {record : ResolvedClass}
    (given : ((classRecord reader c).run.run s).1 = .ok record) :
    ((classRecord reader c).run.run s).2.run.classes.find? c.id = some record := by
  cases found : s.run.classes.find? c.id with
  | some known =>
    rw [classRecord_of_known found] at given ⊢
    obtain rfl := Except.ok.inj given
    exact found
  | none =>
    rw [classRecord_of_unknown found] at given ⊢
    rcases ended : (readClass reader c).run.run s with ⟨fault | fresh, t⟩ <;> rw [ended] at given
    · cases given
    · obtain rfl := Except.ok.inj given
      exact (Table.find?_insert ..).trans (if_pos rfl)

/-- Other classes leave a record as it is. -/
theorem find?_resolveAll (orderly : Orderly s) {classes : List ClassDescriptor} {id : Nat}
    (others : ∀ d ∈ classes, id ≠ d.id) :
    ((resolveAll reader classes).run s).2.run.classes.find? id = s.run.classes.find? id := by
  induction classes generalizing s with
  | nil => rfl
  | cons d rest ih =>
    obtain ⟨first, further⟩ := forall_mem_cons.1 others
    have still := (ledger_classRecord orderly reader d).1
    exact (ih still further).trans (find?_classRecord orderly.registry first)

theorem classes_ledger_of_find? {record : ResolvedClass} {id : Nat}
    (found : s.run.classes.find? id = some record) :
    s.ledger.classes id = some (s.classAccount record) :=
  congrArg (Option.map s.classAccount) found

/-- Classes that are resolved later do not change how an earlier outcome reads. -/
theorem outcomeAccount_resolveAll (orderly : Orderly s) {later : List ClassDescriptor}
    (others : ∀ d ∈ later, c.id ≠ d.id) {outcome : Except Fault ResolvedClass}
    (remembered : ∀ record, outcome = .ok record → s.run.classes.find? c.id = some record)
    (ledger : ((resolveAll reader later).run s).2.ledger = s.ledger.resolveAll reader later) :
    ((resolveAll reader later).run s).2.outcomeAccount outcome = s.outcomeAccount outcome := by
  cases outcome with
  | error fault => rfl
  | ok record =>
    have now := remembered record rfl
    have last : ((resolveAll reader later).run s).2.run.classes.find? c.id = some record :=
      (find?_resolveAll orderly others).trans now
    have same : ((resolveAll reader later).run s).2.ledger.classes c.id = s.ledger.classes c.id := by
      rw [ledger, Ledger.classes_resolveAll_of_ne others]
    rw [classes_ledger_of_find? last, classes_ledger_of_find? now] at same
    exact congrArg Except.ok (Option.some.inj same)

/-- A record that is handed out is remembered to the end. -/
theorem find?_of_resolveAll (orderly : Orderly s) {classes : List ClassDescriptor}
    (apart : classes.Pairwise Ledger.Apart) {record : ResolvedClass}
    (given : (c, .ok record) ∈ ((resolveAll reader classes).run s).1) :
    ((resolveAll reader classes).run s).2.run.classes.find? c.id = some record := by
  induction classes generalizing s with
  | nil => cases given
  | cons d rest ih =>
    obtain ⟨others, further⟩ := pairwise_cons.1 apart
    have still := (ledger_classRecord orderly reader d).1
    rcases mem_cons.1 given with head | tail
    · obtain ⟨rfl, outcome⟩ := Prod.mk.inj head
      exact (find?_resolveAll still fun e member => (others e member).id).trans
        (find?_of_classRecord outcome.symm)
    · exact ih still further tail

/-- What classes resolved one after the other do to the ledger, and what becomes of each. -/
theorem ledger_resolveAll (orderly : Orderly s) (reader : ClassReader)
    {classes : List ClassDescriptor} (apart : classes.Pairwise Ledger.Apart) :
    ((resolveAll reader classes).run s).2.ledger = s.ledger.resolveAll reader classes ∧
      accounts ((resolveAll reader classes).run s) =
        classes.map fun c => (c, (s.ledger.resolve reader c).1) := by
  induction classes generalizing s with
  | nil => exact ⟨rfl, rfl⟩
  | cons c rest ih =>
    obtain ⟨others, apart⟩ := pairwise_cons.1 apart
    obtain ⟨still, after, outcome⟩ := ledger_classRecord orderly reader c
    obtain ⟨ledger, accounted⟩ := ih still apart
    rw [after] at ledger accounted
    refine ⟨ledger, ?_⟩
    have head : ((resolveAll reader (c :: rest)).run s).2.outcomeAccount
        ((classRecord reader c).run.run s).1 = (s.ledger.resolve reader c).1 := by
      rw [← outcome]
      apply outcomeAccount_resolveAll still fun d member => (others d member).id
      · exact fun record given => find?_of_classRecord given
      · rw [after]
        exact ledger
    have tail : (rest.map fun d => (d, ((s.ledger.resolve reader c).2.resolve reader d).1)) =
        rest.map fun d => (d, (s.ledger.resolve reader d).1) := by
      apply map_congr_left
      intro d member
      have same : Ledger.Same d s.ledger (s.ledger.resolve reader c).2 :=
        Ledger.same_resolve (others d member)
      rw [same.resolve.1]
    rw [map_cons, ← tail, ← accounted, ← head]
    rfl

theorem apart_of_mem {r : Registry} (wf : r.WellFormed) {c d : ClassDescriptor}
    (one : c ∈ r.classes) (two : d ∈ r.classes) (different : c ≠ d) : Ledger.Apart c d where
  id := fun same => different (wf.class_inj one two same)
  name := fun same => different (wf.class_eq_of_name one two same)

theorem apart_of_nodup {r : Registry} (wf : r.WellFormed) {classes : List ClassDescriptor}
    (distinct : classes.Nodup) (held : ∀ c ∈ classes, c ∈ r.classes) :
    classes.Pairwise Ledger.Apart :=
  distinct.imp_of_mem fun one two => apart_of_mem wf (held _ one) (held _ two)

/-- Classes of the registry may be resolved in any order. -/
theorem alike_of_perm {free : Freedom} (tidy : Tidy free s) (orderly : Orderly s)
    (reader : ClassReader) {classes others : List ClassDescriptor} (perm : classes.Perm others)
    (distinct : classes.Nodup) (held : ∀ c ∈ classes, c ∈ s.registry.classes) :
    Alike ((resolveAll reader classes).run s) ((resolveAll reader others).run s) := by
  have apart : ∀ c ∈ classes, ∀ d ∈ classes, c ≠ d → Ledger.Apart c d := fun c one d two =>
    apart_of_mem orderly.registry (held c one) (held d two)
  have heldToo : ∀ c ∈ others, c ∈ s.registry.classes := fun c member =>
    held c (perm.mem_iff.2 member)
  obtain ⟨ledger, accounted⟩ :=
    ledger_resolveAll orderly reader (apart_of_nodup orderly.registry distinct held)
  obtain ⟨ledgerToo, accountedToo⟩ := ledger_resolveAll orderly reader
    (apart_of_nodup orderly.registry (perm.nodup_iff.1 distinct) heldToo)
  constructor
  · rw [accounted, accountedToo]
    exact perm.map _
  · rw [ledger, ledgerToo, Ledger.resolveAll_perm perm apart]
  · have one := resolves_resolveAll reader classes tidy fun c member => Or.inr (held c member)
    have two := resolves_resolveAll reader others tidy fun c member => Or.inr (heldToo c member)
    exact (beside_of_resolves one).symm.trans (beside_of_resolves two)

/-! ## Declaring application classes -/

/-- Each class has its outcome. -/
theorem classes_resolveAll (reader : ClassReader) (classes : List ClassDescriptor) (s : Session) :
    ((resolveAll reader classes).run s).1.map Prod.fst = classes := by
  induction classes generalizing s with
  | nil => rfl
  | cons c rest ih => exact congrArg (c :: ·) (ih ((classRecord reader c).run.run s).2)

/-- The series hands out a record that was known before it, or one of the class itself. -/
theorem known_or_own_of_resolveAll (orderly : Orderly s) {classes : List ClassDescriptor}
    (apart : classes.Pairwise Ledger.Apart) {record : ResolvedClass}
    (given : (c, .ok record) ∈ ((resolveAll reader classes).run s).1) :
    s.run.classes.find? c.id = some record ∨
      s.run.classes.find? c.id = none ∧ record.descriptor = c := by
  induction classes generalizing s with
  | nil => cases given
  | cons d rest ih =>
    obtain ⟨others, further⟩ := pairwise_cons.1 apart
    have still := (ledger_classRecord orderly reader d).1
    rcases mem_cons.1 given with head | tail
    · obtain ⟨rfl, outcome⟩ := Prod.mk.inj head
      exact known_or_own_of_classRecord orderly.registry outcome.symm
    · have listed : c ∈ rest := by
        rw [← classes_resolveAll reader rest ((classRecord reader d).run.run s).2]
        exact mem_map_of_mem tail
      have later := ih still further tail
      rw [find?_classRecord orderly.registry (others c listed).id.symm] at later
      exact later

theorem supertypesOf_byName (record : ResolvedClass) :
    (Hierarchy.supertypesOf record).map Hierarchy.byName =
      (record.superclass.map ClassDescriptor.name).toList.map (·, .superclass) ++
        (record.interfaces.map ClassDescriptor.name).map (·, .interface) := by
  unfold Hierarchy.supertypesOf
  rw [map_append, map_map, map_map, map_map]
  cases record.superclass <;> rfl

/-- A class of the registry is among the supertypes exactly if its name is. -/
theorem Speaks.mentions_iff {r : Registry} (wf : r.WellFormed) {record : ResolvedClass}
    (speaks : Speaks r record) (held : c ∈ r.classes) :
    c ∈ (Hierarchy.supertypesOf record).map Prod.fst ↔
      c.name ∈ ((Hierarchy.supertypesOf record).map Hierarchy.byName).map Prod.fst := by
  have spoken : ∀ link ∈ Hierarchy.supertypesOf record, link.1 ∈ r.classes := by
    intro link member
    rcases mem_append.1 member with above | beside
    · obtain ⟨d, listed, rfl⟩ := mem_map.1 above
      exact speaks.superclass d (Option.mem_toList.1 listed)
    · obtain ⟨d, listed, rfl⟩ := mem_map.1 beside
      exact speaks.interfaces d listed
  rw [map_map]
  constructor
  · intro member
    obtain ⟨link, listed, rfl⟩ := mem_map.1 member
    exact mem_map.2 ⟨link, listed, rfl⟩
  · intro member
    obtain ⟨link, listed, same⟩ := mem_map.1 member
    rw [← wf.class_eq_of_name (spoken link listed) held same]
    exact mem_map_of_mem listed

/-- Records that read the same by names bring the same into the hierarchy by names. -/
theorem renumbered_additions {known : List ClassDescriptor} {t u : Session}
    (applications : List ClassDescriptor) {record recordToo : ResolvedClass}
    (descriptor : recordToo.descriptor = record.descriptor)
    (speaks : Speaks t.registry record) (speaksToo : Speaks u.registry recordToo)
    (wf : t.registry.WellFormed) (wfToo : u.registry.WellFormed)
    (held : ∀ d ∈ known, d ∈ t.registry.classes) (heldToo : ∀ d ∈ known, d ∈ u.registry.classes)
    (same : t.classAccount record = u.classAccount recordToo) :
    Hierarchy.Addition.Renumbered known ⟨record, applications.contains c⟩
      ⟨recordToo, applications.contains c⟩ := by
  have supertypes : (Hierarchy.supertypesOf recordToo).map Hierarchy.byName =
      (Hierarchy.supertypesOf record).map Hierarchy.byName := by
    have above := congrArg ClassAccount.superclass same
    have beside := congrArg ClassAccount.interfaces same
    unfold classAccount at above beside
    dsimp only at above beside
    rw [supertypesOf_byName, supertypesOf_byName, above, beside]
  refine ⟨descriptor, rfl, supertypes, ?_⟩
  intro d listed
  rw [speaks.mentions_iff wf (held d listed), speaksToo.mentions_iff wfToo (heldToo d listed),
    supertypes]

/-- Taking classes into the hierarchy changes nothing else of what the run knows. -/
theorem enterAll_spec (applications : List ClassDescriptor)
    (entries : List (ClassDescriptor × Except Fault ResolvedClass)) (t : Session)
    (sound : t.hierarchy.Sound) :
    (t.enterAll applications entries).ledger = t.ledger ∧
      Hierarchy.addAll (entries.filterMap (addition? applications)) t.hierarchy =
        .ok (t.enterAll applications entries).hierarchy ∧
      (t.enterAll applications entries).events? = t.events?.map
        (· ++ (entries.map fun entry => (entry.1, Work.faultOf entry.2)).filterMap event?) := by
  have hierarchy := hierarchy_createHierarchy t
  have events : t.createHierarchy.events? = t.events? := by
    unfold createHierarchy modifyDatabases
    rw [modifyDatabasesOf_self]
    rfl
  obtain ⟨added, reported⟩ :=
    foldl_enter applications entries (s := t.createHierarchy) (hierarchy.symm ▸ sound)
  have keeps := (keeps_createHierarchy t).trans (keeps_foldl_enter applications entries _)
  rw [hierarchy] at added
  rw [events] at reported
  unfold enterAll
  dsimp only
  split
  · exact ⟨keeps.ledger, added, reported⟩
  · exact ⟨keeps.ledger, added, reported⟩

theorem faultOf_outcomeAccount (s : Session) (outcome : Except Fault ResolvedClass) :
    Work.faultOf (s.outcomeAccount outcome) = Work.faultOf outcome := by
  cases outcome <;> rfl

/-- What the classes of a session came to once they were resolved, told without the order. -/
structure Gathered (free : Freedom) (reader : ClassReader) (s t : Session)
    (entries : List (ClassDescriptor × Except Fault ResolvedClass)) : Prop where
  resolves : Resolves free s t
  ledger : t.ledger = s.ledger.resolveAll reader s.namedClasses
  accounts : entries.map (fun entry => (entry.1, t.outcomeAccount entry.2)) =
    s.namedClasses.map fun c => (c, (s.ledger.resolve reader c).1)
  origin : ∀ c record, (c, .ok record) ∈ entries → s.run.classes.find? c.id = some record ∨
    s.run.classes.find? c.id = none ∧ record.descriptor = c
  remembered : ∀ c record, (c, .ok record) ∈ entries → t.run.classes.find? c.id = some record

/-- What is interned ahead of its turn changes nothing by names. -/
theorem orderly_internAhead (orderly : Orderly s) (reader : ClassReader) (schedule : Schedule) :
    Orderly (s.internAhead reader schedule) ∧ (s.internAhead reader schedule).ledger = s.ledger := by
  have grows := (extends_internAhead orderly.registry reader schedule).toGrowsSoundly
  rw [internAhead_frame]
  exact ⟨orderly.intern grows, ledger_intern orderly grows⟩

theorem gathered_resolveKnown {free : Freedom} (tidy : Tidy free s) (orderly : Orderly s)
    (reader : ClassReader) (schedule : Schedule) :
    Gathered free reader s ((resolveKnown reader schedule).run s).2
      (collect s.namedClasses ((resolveKnown reader schedule).run s).1) := by
  have perm := s.perm_resolutionOrder schedule
  obtain ⟨still, same⟩ := orderly_internAhead orderly reader schedule
  have classes : (s.internAhead reader schedule).run.classes = s.run.classes := by
    rw [internAhead_frame]
  have held : ∀ c ∈ s.resolutionOrder schedule, c ∈ (s.internAhead reader schedule).registry.classes :=
    fun c => mem_classes_internAhead orderly.registry reader
  have apart := apart_of_nodup still.registry (nodup_resolutionOrder orderly.registry schedule) held
  obtain ⟨ledger, accounted⟩ := ledger_resolveAll still reader apart
  rw [same] at ledger accounted
  rw [← resolveKnown_run] at ledger accounted
  refine ⟨resolves_resolveKnown tidy reader schedule, ?_, ?_, ?_, ?_⟩
  · rw [ledger]
    refine Ledger.resolveAll_perm perm ?_ s.ledger
    exact fun c one d two => apart_of_mem still.registry (held c one) (held d two)
  · exact map_collect_of_perm
      (fun entry => (entry.1, ((resolveKnown reader schedule).run s).2.outcomeAccount entry.2))
      (fun _ => rfl) perm accounted
  · intro c record member
    rw [← classes]
    exact known_or_own_of_resolveAll still apart (mem_of_mem_collect member)
  · intro c record member
    exact find?_of_resolveAll still apart (mem_of_mem_collect member)

section

variable {free : Freedom} {t u : Session}
  {entries others : List (ClassDescriptor × Except Fault ResolvedClass)}

/-- Of a class that was resolved twice the records have one descriptor. -/
theorem Gathered.descriptor_eq (one : Gathered free reader s t entries)
    (two : Gathered free reader s u others) {record recordToo : ResolvedClass}
    (member : (c, .ok record) ∈ entries) (memberToo : (c, .ok recordToo) ∈ others) :
    recordToo.descriptor = record.descriptor := by
  rcases one.origin c record member with known | ⟨unknown, named⟩
  · rcases two.origin c recordToo memberToo with knownToo | ⟨unknown, -⟩
    · rw [known] at knownToo
      rw [Option.some.inj knownToo]
    · rw [known] at unknown
      cases unknown
  · rcases two.origin c recordToo memberToo with known | ⟨-, namedToo⟩
    · rw [known] at unknown
      cases unknown
    · rw [named, namedToo]

theorem Gathered.faults_eq (one : Gathered free reader s t entries)
    (two : Gathered free reader s u others) :
    entries.map (fun entry => (entry.1, Work.faultOf entry.2)) =
      others.map fun entry => (entry.1, Work.faultOf entry.2) := by
  apply map_eq_of_map_eq (one.accounts.trans two.accounts.symm)
  rintro ⟨c, outcome⟩ - ⟨d, outcomeToo⟩ - same
  obtain ⟨rfl, equal⟩ := Prod.mk.inj same
  have faults := congrArg Work.faultOf equal
  rw [faultOf_outcomeAccount, faultOf_outcomeAccount] at faults
  exact congrArg (Prod.mk c) faults

theorem Gathered.speaks (tidy : Tidy free s) (gathered : Gathered free reader s t entries)
    {record : ResolvedClass} (member : (c, .ok record) ∈ entries) : Speaks t.registry record :=
  ((tidy.resolves gathered.resolves).classes c.id record (gathered.remembered c record member)).2.speaks

theorem Gathered.additions (tidy : Tidy free s) (one : Gathered free reader s t entries)
    (two : Gathered free reader s u others) (applications : List ClassDescriptor) :
    Forall₂ (Hierarchy.Addition.Renumbered s.registry.classes)
      (entries.filterMap (addition? applications)) (others.filterMap (addition? applications)) := by
  have grows := grows_of_resolves one.resolves
  have growsToo := grows_of_resolves two.resolves
  have paired : Forall₂ (fun entry entryToo =>
      Option.Rel (Hierarchy.Addition.Renumbered s.registry.classes)
        (addition? applications entry) (addition? applications entryToo)) entries others := by
    apply forall₂_of_map_eq (one.accounts.trans two.accounts.symm)
    rintro ⟨c, outcome⟩ member ⟨d, outcomeToo⟩ memberToo same
    obtain ⟨rfl, equal⟩ := Prod.mk.inj same
    cases outcome with
    | error fault =>
      cases outcomeToo with
      | error faultToo => exact .none
      | ok recordToo => cases equal
    | ok record =>
      cases outcomeToo with
      | error faultToo => cases equal
      | ok recordToo =>
        exact .some (renumbered_additions applications (one.descriptor_eq two member memberToo)
          (one.speaks tidy member) (two.speaks tidy memberToo) (grows.wellFormed tidy.registry)
          (growsToo.wellFormed tidy.registry) (fun d held => grows.mem_classes held)
          (fun d held => growsToo.mem_classes held) (Except.ok.inj equal))
  exact rel_filterMap (fun _ _ related => related) paired

end

/-- By names the run knows the same, the same was reported, and the hierarchies are the same. -/
structure EndsAlike (known : List ClassDescriptor) (one two : Session) : Prop where
  ledger : two.ledger = one.ledger
  events : two.events? = one.events?
  hierarchy : Hierarchy.Renumbered known one.hierarchy two.hierarchy

/-- Two declarations that had the same classes to enter. -/
theorem Gathered.endsAlike {free : Freedom} {t u : Session}
    {entries others : List (ClassDescriptor × Except Fault ResolvedClass)}
    (tidy : Tidy free s) (one : Gathered free reader s t entries)
    (two : Gathered free reader s u others) (sound : s.hierarchy.Sound)
    (applications : List ClassDescriptor) :
    EndsAlike s.registry.classes (t.enterAll applications entries)
      (u.enterAll applications others) := by
  have beside := beside_of_resolves one.resolves
  have besideToo := beside_of_resolves two.resolves
  have events : t.events? = s.events? := congrArg Reporter.events? beside.reporter
  have eventsToo : u.events? = s.events? := congrArg Reporter.events? besideToo.reporter
  obtain ⟨ledger, added, reported⟩ :=
    enterAll_spec applications entries t (beside.hierarchy.symm ▸ sound)
  obtain ⟨ledgerToo, addedToo, reportedToo⟩ :=
    enterAll_spec applications others u (besideToo.hierarchy.symm ▸ sound)
  constructor
  · rw [ledger, ledgerToo, one.ledger, two.ledger]
  · rw [reported, reportedToo, events, eventsToo, one.faults_eq two]
  · rw [beside.hierarchy] at added
    rw [besideToo.hierarchy] at addedToo
    exact (Hierarchy.Renumbered.refl _ s.hierarchy).addAll (one.additions tidy two applications)
      sound sound added addedToo

end

/-- The last class first. -/
def Schedule.backwards : Schedule where
  order := List.reverse
  perm := List.reverse_perm

end Session

namespace Host

open Session

/-- Two classes may be resolved in either order, the classes that an analysis finds in any, and those of a
declaration side by side. -/
theorem Reached.resolution_commutes {free : Freedom} {h : Host} (reached : h.Reached free)
    (reader : ClassReader) :
    (∀ c ∈ h.session.registry.classes, ∀ d ∈ h.session.registry.classes, c ≠ d →
      Alike ((resolveAll reader [c, d]).run h.session) ((resolveAll reader [d, c]).run h.session)) ∧
    (∀ order : List ClassDescriptor, order.Perm h.session.namedClasses →
      Alike ((resolveAll reader h.session.namedClasses).run h.session)
        ((resolveAll reader order).run h.session)) ∧
    ∀ (schedule other : Schedule) (applications : List ClassDescriptor),
      EndsAlike h.session.registry.classes
        ((declareApplications reader schedule applications).run h.session).2
        ((declareApplications reader other applications).run h.session).2 := by
  have tidy := reached.tidy
  have orderly := reached.orderly
  refine ⟨?_, ?_, ?_⟩
  · intro c one d two different
    apply alike_of_perm tidy orderly reader (Perm.swap d c [])
    · exact nodup_cons.2 ⟨fun member => different (mem_singleton.1 member), pairwise_singleton _ d⟩
    · intro e member
      rcases mem_cons.1 member with rfl | last
      · exact one
      · exact mem_singleton.1 last ▸ two
  · intro order perm
    have distinct : h.session.namedClasses.Nodup := tidy.registry.distinct.filter _
    exact alike_of_perm tidy orderly reader perm.symm distinct fun c => mem_of_mem_filter
  · intro schedule other applications
    have one := gathered_resolveKnown tidy orderly reader schedule
    have two := gathered_resolveKnown tidy orderly reader other
    exact one.endsAlike tidy two reached.sound applications

/-- Two classes that share a supertype; a method of the first one forwards to one of the second. -/
def entangled : ClassReader := fun c =>
  if c.name = "a/A" then
    .ok
      { name := "a/A"
        superclass := some "x/S"
        methods :=
          [{ className := "a/A", name := "access", signature := "()V", flags := .ofList [],
             forwardsTo := some ⟨"a/B", "run", "()V", false⟩ }] }
  else if c.name = "a/B" then
    .ok
      { name := "a/B"
        superclass := some "x/T"
        interfaces := ["x/S"]
        methods :=
          [{ className := "a/B", name := "run", signature := "()V", flags := .ofList [],
             alwaysThrows := true }] }
  else .error (.missingClass c.name)

def entangledHost : Host :=
  ((Host.start .usual { token := 0 } .fixed (.collect [])).after
    (.intern (.ofClass "a/A"))).after (.intern (.ofClass "a/B"))

/-- The second class is begun before the first one is done; a name that neither speaks of is left alone. -/
def crossing : Schedule :=
  { Schedule.inTurn with ahead := [.ofClass "x/T", .ofClass "z/Z"] }

/-- The two orders hand out different ids, and side by side the classes get yet others. -/
theorem resolution_commutes_entangled :
    entangledHost.Reached ⟨true, true⟩ ∧
    entangledHost.session.registry.classes = [⟨0, 1, "a/A"⟩, ⟨0, 2, "a/B"⟩] ∧
    ((resolveAll entangled [⟨0, 1, "a/A"⟩, ⟨0, 2, "a/B"⟩]).run entangledHost.session).2.run.facts =
      { throwers := [5], forwards := [(4, ⟨5, ⟨0, 2, "a/B"⟩, "run", "()V", false⟩)] } ∧
    ((resolveAll entangled [⟨0, 2, "a/B"⟩, ⟨0, 1, "a/A"⟩]).run entangledHost.session).2.run.facts =
      { throwers := [5], forwards := [(6, ⟨5, ⟨0, 2, "a/B"⟩, "run", "()V", false⟩)] } ∧
    ((resolveKnown entangled crossing).run entangledHost.session).2.run.facts =
      { throwers := [6], forwards := [(5, ⟨6, ⟨0, 2, "a/B"⟩, "run", "()V", false⟩)] } ∧
    Alike ((resolveAll entangled [⟨0, 1, "a/A"⟩, ⟨0, 2, "a/B"⟩]).run entangledHost.session)
      ((resolveAll entangled [⟨0, 2, "a/B"⟩, ⟨0, 1, "a/A"⟩]).run entangledHost.session) ∧
    EndsAlike [⟨0, 1, "a/A"⟩, ⟨0, 2, "a/B"⟩]
      ((declareApplications entangled .inTurn []).run entangledHost.session).2
      ((declareApplications entangled crossing []).run entangledHost.session).2 := by
  have reached : entangledHost.Reached ⟨true, true⟩ :=
    .after (.after (.start (Registry.wellFormed_start 0)) trivial) trivial
  have classes : entangledHost.session.registry.classes = [⟨0, 1, "a/A"⟩, ⟨0, 2, "a/B"⟩] := by
    decide +kernel
  obtain ⟨either, -, declared⟩ := reached.resolution_commutes entangled
  refine ⟨reached, classes, by decide +kernel, by decide +kernel, by decide +kernel, ?_, ?_⟩
  · apply either ⟨0, 1, "a/A"⟩ _ ⟨0, 2, "a/B"⟩ _ (by decide)
    · rw [classes]
      exact mem_cons_self ..
    · rw [classes]
      exact mem_cons_of_mem _ (mem_singleton_self _)
  · rw [← classes]
    exact declared .inTurn crossing []

/-- Two classes whose superclasses are missing. -/
def orphans : ClassPath :=
  (ClassPath.add {} { name := "a/A", superclass := some "x/P" }).add
    { name := "b/B", superclass := some "y/Q" }

def orphansHost : Host :=
  ((Host.start .usual { token := 0 } .fixed (.collect [])).after
    (.intern (.ofClass "a/A"))).after (.intern (.ofClass "b/B"))

/-- What a declaration reports once these classes have been resolved. -/
def reportsAfter (classes : List ClassDescriptor) : Option (List Event) :=
  let resolved := ((resolveAll orphans.read classes).run orphansHost.session).2
  ((declareApplications orphans.read .inTurn []).run resolved).2.events?

/-- What two declarations report of which the first one resolves the classes in this order. -/
def reportsTwice (schedule : Schedule) : Option (List Event) :=
  let declared := ((declareApplications orphans.read schedule []).run orphansHost.session).2
  ((declareApplications orphans.read .inTurn []).run declared).2.events?

/-- The superclasses are interned as the classes are resolved, and reported in that order later on. -/
theorem reports_follow_resolution :
    orphansHost.session.namedClasses = [⟨0, 1, "a/A"⟩, ⟨0, 2, "b/B"⟩] ∧
    reportsAfter [⟨0, 1, "a/A"⟩, ⟨0, 2, "b/B"⟩] =
      some [.missingClass "x/P", .missingClass "y/Q"] ∧
    reportsAfter [⟨0, 2, "b/B"⟩, ⟨0, 1, "a/A"⟩] =
      some [.missingClass "y/Q", .missingClass "x/P"] ∧
    reportsAfter [⟨0, 2, "b/B"⟩, ⟨0, 1, "a/A"⟩] ≠ reportsAfter [⟨0, 1, "a/A"⟩, ⟨0, 2, "b/B"⟩] ∧
    reportsTwice .backwards ≠ reportsTwice .inTurn := by
  have inTurn : reportsAfter [⟨0, 1, "a/A"⟩, ⟨0, 2, "b/B"⟩] =
      some [.missingClass "x/P", .missingClass "y/Q"] := by
    decide +kernel
  have turned : reportsAfter [⟨0, 2, "b/B"⟩, ⟨0, 1, "a/A"⟩] =
      some [.missingClass "y/Q", .missingClass "x/P"] := by
    decide +kernel
  refine ⟨by decide +kernel, inTurn, turned, ?_, by decide +kernel⟩
  rw [inTurn, turned]
  decide

end Host

end JvmFacts
