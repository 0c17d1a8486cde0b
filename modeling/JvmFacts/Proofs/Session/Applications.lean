import JvmFacts.Proofs.Session.Hierarchy

/-!
Declaring the application classes of a run: which classes fail, what is reported of them and what
becomes of the hierarchy. One class that fails neither stops nor moves the others.
-/

set_option autoImplicit false

namespace JvmFacts

/-- A reader that fails only by saying that a class is missing or malformed. -/
def ClassReader.Plain (reader : ClassReader) : Prop :=
  ∀ c fault, reader c = .error fault →
    (∃ name, fault = .missingClass name) ∨ ∃ why, fault = .malformed why

namespace Session

/-- Why a class cannot be read, whatever is in the registry. -/
def readFault? (reader : ClassReader) (c : ClassDescriptor) : Option Fault :=
  match reader c with
  | .error fault => some fault
  | .ok parsed => parsed.fault? c

/-- Why the analysis of a class fails, if it does. -/
def analysisFault? (reader : ClassReader) (s : Session) (c : ClassDescriptor) : Option Fault :=
  Work.faultOf ((classRecord reader c).run.run s).1

/-- What a collecting reporter keeps of a class whose analysis failed. -/
def failureEvent (c : ClassDescriptor) (fault : Fault) : Event :=
  if fault.isMissingClass then .missingClass c.name
  else .failureOf s!"Unable to get class info for {c.dottedName}" fault.message

/-! ## Analyses that fail -/

section

variable {s : Session} {reader : ClassReader} {c : ClassDescriptor}

theorem interning_failsWith {α : Type} {work : Interning α} {fault : Option Fault}
    (fails : Work.FailsWith work fault) : Work.FailsWith (interning work) fault :=
  fun s => fails s.registry

theorem readClass_failsWith (reader : ClassReader) (c : ClassDescriptor) :
    Work.FailsWith (readClass reader c) (readFault? reader c) := by
  unfold readClass readFault?
  cases reader c with
  | error fault => exact Work.FailsWith.throw fault
  | ok parsed =>
    unfold resolve
    apply (interning_failsWith (parsed.prepare_failsWith c)).followed
    intro p
    exact Work.FailsWith.modifyGet (makeClass p)

theorem analysisFault?_eq (reader : ClassReader) (s : Session) (c : ClassDescriptor) :
    analysisFault? reader s c =
      if s.knowsClass c then none else (readFault? reader c).map (Fault.unavailable c.name) := by
  have fails := readClass_failsWith reader c s
  unfold analysisFault? knowsClass Table.contains
  cases found : s.run.classes.find? c.id with
  | some record =>
    rw [classRecord_of_known found]
    rfl
  | none =>
    rw [classRecord_of_unknown found, ← fails]
    rcases (readClass reader c).run.run s with ⟨fault | record, t⟩ <;> rfl

/-- Only the record of the class itself may be new. -/
theorem find?_classRecord (wf : s.registry.WellFormed) {id : Nat} (other : id ≠ c.id) :
    ((classRecord reader c).run.run s).2.run.classes.find? id = s.run.classes.find? id := by
  cases found : s.run.classes.find? c.id with
  | some record => rw [classRecord_of_known found]
  | none =>
    have same := classes_of_makes (yields_readClass wf reader c).steps
    rw [classRecord_of_unknown found]
    rcases ended : (readClass reader c).run.run s with ⟨fault | record, t⟩
    · rw [ended] at same
      rw [same]
    · rw [ended] at same
      refine (Table.find?_insert c.id id record t.run.classes).trans ?_
      rw [if_neg (Ne.symm other), same]

theorem knowsClass_classRecord (wf : s.registry.WellFormed) {d : ClassDescriptor}
    (other : d.id ≠ c.id) :
    ((classRecord reader c).run.run s).2.knowsClass d = s.knowsClass d := by
  unfold knowsClass Table.contains
  rw [find?_classRecord wf other]

/-- A record that is handed out was known before, or it is of the class that was asked for. -/
theorem known_or_own_of_classRecord (wf : s.registry.WellFormed) {record : ResolvedClass}
    (given : ((classRecord reader c).run.run s).1 = .ok record) :
    s.run.classes.find? c.id = some record ∨
      s.run.classes.find? c.id = none ∧ record.descriptor = c := by
  cases found : s.run.classes.find? c.id with
  | some known =>
    rw [classRecord_of_known found] at given
    obtain rfl := Except.ok.inj given
    exact Or.inl rfl
  | none =>
    have made := (yields_readClass wf reader c).post
    rw [classRecord_of_unknown found] at given
    rcases ended : (readClass reader c).run.run s with ⟨fault | fresh, t⟩
    · rw [ended] at given
      cases given
    · rw [ended] at given made
      obtain rfl := Except.ok.inj given
      exact Or.inr ⟨rfl, (made fresh rfl).1⟩

variable {free : Freedom} (tidy : Tidy free s) (own : free.foreign = false)

include tidy own

/-- With descriptors of its own only, a session never mistakes one class for another. -/
theorem descriptor_of_classRecord (held : c ∈ s.registry.classes) {record : ResolvedClass}
    (given : ((classRecord reader c).run.run s).1 = .ok record) : record.descriptor = c := by
  rcases known_or_own_of_classRecord tidy.registry given with found | ⟨-, named⟩
  · obtain ⟨id, fits⟩ := tidy.classes c.id record found
    rcases fits.named with foreign | registered
    · rw [own] at foreign
      cases foreign
    · exact tidy.registry.class_inj registered held id
  · exact named

/-- Analysing one class after the other fails for those that fail at the start. -/
theorem resolveAll_spec (reader : ClassReader) (classes : List ClassDescriptor)
    (held : ∀ c ∈ classes, c ∈ s.registry.classes) (distinct : classes.Nodup) :
    ((resolveAll reader classes).run s).1.map (fun entry => (entry.1, Work.faultOf entry.2)) =
        classes.map (fun c => (c, analysisFault? reader s c)) ∧
      ∀ c record, (c, .ok record) ∈ ((resolveAll reader classes).run s).1 →
        record.descriptor = c := by
  induction classes generalizing s with
  | nil => exact ⟨rfl, fun c record member => absurd member List.not_mem_nil⟩
  | cons c rest ih =>
    obtain ⟨new, distinct⟩ := List.nodup_cons.1 distinct
    have here := held c (List.mem_cons_self ..)
    have later : ∀ d ∈ rest, d ∈ s.registry.classes :=
      fun d member => held d (List.mem_cons_of_mem _ member)
    have first := (yields_classRecord tidy (Or.inr here) reader).steps
    have grows := grows_of_resolves first
    obtain ⟨faults, records⟩ := ih (tidy.resolves first)
      (fun d member => grows.mem_classes (later d member)) distinct
    have still : ∀ d ∈ rest, analysisFault? reader ((classRecord reader c).run.run s).2 d =
        analysisFault? reader s d := by
      intro d member
      have apart : d.id ≠ c.id := by
        intro same
        exact new (tidy.registry.class_inj (later d member) here same ▸ member)
      rw [analysisFault?_eq, analysisFault?_eq, knowsClass_classRecord tidy.registry apart]
    rw [resolveAll_cons]
    constructor
    · rw [List.map_cons, List.map_cons]
      congr 1
      refine faults.trans (List.map_congr_left ?_)
      intro d member
      rw [still d member]
    · intro d record member
      rcases List.mem_cons.1 member with head | tail
      · obtain ⟨rfl, given⟩ := Prod.mk.inj head
        exact descriptor_of_classRecord tidy own here given.symm
      · exact records d record tail

end

/-- In whatever order the classes were analysed, their outcomes stand in the order of interning. -/
theorem collect_spec {free : Freedom} {s : Session} (tidy : Tidy free s) (own : free.foreign = false)
    (reader : ClassReader) (schedule : Schedule) :
    let entries := collect s.namedClasses ((resolveKnown reader schedule).run s).1
    entries.map (fun entry => (entry.1, Work.faultOf entry.2)) =
        s.namedClasses.map (fun c => (c, analysisFault? reader s c)) ∧
      ∀ c record, (c, .ok record) ∈ entries → record.descriptor = c := by
  intro entries
  have perm := s.perm_resolutionOrder schedule
  have ahead : Resolves free s (s.internAhead reader schedule) :=
    resolves_internAhead tidy.registry reader schedule
  obtain ⟨had, records⟩ := resolveAll_spec (tidy.resolves ahead) own reader _
    (fun c => mem_classes_internAhead tidy.registry reader)
    (nodup_resolutionOrder tidy.registry schedule)
  have faults : analysisFault? reader (s.internAhead reader schedule) = analysisFault? reader s := by
    funext c
    rw [analysisFault?_eq, analysisFault?_eq, internAhead_frame]
    rfl
  rw [faults] at had
  constructor
  · exact map_collect_of_perm (fun entry => (entry.1, Work.faultOf entry.2)) (fun _ => rfl) perm had
  · exact fun c record member => records c record (mem_of_mem_collect member)

/-! ## Entering the hierarchy -/

/-- What an analysed class adds to the hierarchy, if it could be analysed. -/
def addition? (applications : List ClassDescriptor)
    (entry : ClassDescriptor × Except Fault ResolvedClass) : Option Hierarchy.Addition :=
  match entry.2 with
  | .ok record => some ⟨record, applications.contains entry.1⟩
  | .error _ => none

/-- What a collecting reporter keeps of an analysed class, if it could not be analysed. -/
def event? (entry : ClassDescriptor × Option Fault) : Option Event :=
  entry.2.map fun fault => (failureReport entry.1 fault).toEvent

section

variable {s : Session}

theorem events?_report (s : Session) (r : Report) :
    (s.report r).events? = s.events?.map (· ++ [r.toEvent]) := by
  unfold report events?
  cases collecting : s.reporter with
  | log =>
    dsimp only [addLog]
    rw [collecting]
    rfl
  | collect events => rfl

theorem events?_withHierarchy (s : Session) (grown : Hierarchy) :
    (s.withHierarchy s.runNumber grown).events? = s.events? := by
  unfold withHierarchy
  rw [modifyDatabasesOf_self]
  rfl

theorem enter_ok {applications : List ClassDescriptor} {c : ClassDescriptor}
    {record : ResolvedClass} {grown : Hierarchy}
    (ok : s.hierarchy.add record
      (Hierarchy.Addition.mk record (applications.contains c)).kind = .ok grown) :
    enter applications s (c, .ok record) = s.withHierarchy s.runNumber grown := by
  have added : s.addToHierarchy s.runNumber record _ = _ := addToHierarchy_of_ok ok
  unfold Hierarchy.Addition.kind at added
  simp only [enter, added]

/-- The classes that could be analysed are added one after the other; the others are reported. -/
theorem foldl_enter (applications : List ClassDescriptor)
    (entries : List (ClassDescriptor × Except Fault ResolvedClass)) (sound : s.hierarchy.Sound) :
    Hierarchy.addAll (entries.filterMap (addition? applications)) s.hierarchy =
        .ok (entries.foldl (enter applications) s).hierarchy ∧
      (entries.foldl (enter applications) s).events? = s.events?.map
        (· ++ (entries.map fun entry => (entry.1, Work.faultOf entry.2)).filterMap event?) := by
  induction entries generalizing s with
  | nil =>
    refine ⟨rfl, ?_⟩
    simp only [List.foldl_nil, List.map_nil, List.filterMap_nil, List.append_nil, Option.map_id']
  | cons entry rest ih =>
    obtain ⟨c, outcome⟩ := entry
    rw [List.foldl_cons, List.map_cons]
    cases outcome with
    | error fault =>
      have same : (enter applications s (c, .error fault)).hierarchy = s.hierarchy :=
        hierarchy_report s _
      obtain ⟨added, reported⟩ := ih (same.symm ▸ sound)
      have skipped : addition? applications (c, .error fault) = none := rfl
      have kept : event? (c, Work.faultOf (.error fault : Except Fault ResolvedClass)) =
          some (failureReport c fault).toEvent := rfl
      have before : (enter applications s (c, .error fault)).events? =
          s.events?.map (· ++ [(failureReport c fault).toEvent]) := events?_report s _
      rw [List.filterMap_cons_none skipped, List.filterMap_cons_some kept, reported, before,
        Option.map_map]
      refine ⟨same ▸ added, ?_⟩
      congr 1
      funext events
      exact List.append_assoc ..
    | ok record =>
      obtain ⟨grown, ok, added⟩ := sound.exists_add record
        (Hierarchy.Addition.mk record (applications.contains c)).kind
      have entered := enter_ok ok
      have hierarchy : (enter applications s (c, .ok record)).hierarchy = grown := by
        rw [entered, hierarchy_withHierarchy]
      obtain ⟨more, reported⟩ := ih (hierarchy.symm ▸ added.sound)
      have taken : addition? applications (c, .ok record) =
          some ⟨record, applications.contains c⟩ := rfl
      have silent : event? (c, Work.faultOf (.ok record : Except Fault ResolvedClass)) = none := rfl
      rw [List.filterMap_cons_some taken, List.filterMap_cons_none silent, reported, entered,
        events?_withHierarchy]
      refine ⟨?_, rfl⟩
      rw [hierarchy] at more
      simp only [Hierarchy.addAll, ok]
      rw [more, entered]

end

/-! ## Declaring applications -/

theorem missingName_unavailable {name : String} {fault : Fault}
    (plain : ∀ inner cause, fault ≠ .classUnavailable inner cause) :
    (fault.unavailable name).missingName = name := by
  cases fault with
  | classUnavailable inner cause => exact absurd rfl (plain inner cause)
  | _ => rfl

theorem plain_of_readFault? {reader : ClassReader} (plain : reader.Plain) {c : ClassDescriptor}
    {fault : Fault} (failed : readFault? reader c = some fault) (inner : String) (cause : Fault) :
    fault ≠ .classUnavailable inner cause := by
  rintro rfl
  unfold readFault? at failed
  cases read : reader c with
  | error fault =>
    rw [read] at failed
    obtain rfl := Option.some.inj failed
    rcases plain c _ read with ⟨name, impossible⟩ | ⟨why, impossible⟩ <;> cases impossible
  | ok parsed =>
    rw [read] at failed
    rcases ParsedClass.of_fault? failed with ⟨why, impossible⟩ | ⟨why, impossible⟩ <;>
      cases impossible

theorem toEvent_failureReport {reader : ClassReader} (plain : reader.Plain) {s : Session}
    {c : ClassDescriptor} {fault : Fault} (failed : analysisFault? reader s c = some fault) :
    (failureReport c fault).toEvent = failureEvent c fault := by
  rw [analysisFault?_eq] at failed
  split at failed
  · cases failed
  · obtain ⟨inner, read, rfl⟩ := Option.map_eq_some_iff.1 failed
    have named : (inner.unavailable c.name).missingName = c.name :=
      missingName_unavailable (plain_of_readFault? plain read)
    unfold failureReport failureEvent
    split
    · exact congrArg Event.missingClass named
    · rfl

theorem upgrade_kind (a : Hierarchy.Addition) (old : Option VertexKind) :
    VertexKind.upgrade a.kind (old.getD .unresolved) =
      if a.isApplication = true ∨ old = some .application then .application else .library := by
  unfold VertexKind.upgrade Hierarchy.Addition.kind
  cases a.isApplication <;> rcases old with _ | _ | _ | _ <;> rfl

/-- What is different after the application classes were declared. -/
structure Declared (reader : ClassReader) (applications : List ClassDescriptor)
    (s after : Session) : Prop where
  events : ∀ events, s.events? = some events → after.events? = some (events ++
    s.namedClasses.filterMap fun c => (analysisFault? reader s c).map (failureEvent c))
  analysed : ∀ c ∈ s.namedClasses, analysisFault? reader s c = none →
    after.hierarchy.kind? c = some
      (if c ∈ applications ∨ s.hierarchy.kind? c = some .application then .application else .library)
  others : ∀ c, ¬ (c ∈ s.namedClasses ∧ analysisFault? reader s c = none) →
    Hierarchy.Kept (s.hierarchy.kind? c) (after.hierarchy.kind? c)

section

variable {applications : List ClassDescriptor}
  {entries : List (ClassDescriptor × Except Fault ResolvedClass)}

theorem mem_additions {a : Hierarchy.Addition} :
    a ∈ entries.filterMap (addition? applications) ↔
      ∃ c record, (c, .ok record) ∈ entries ∧ a = ⟨record, applications.contains c⟩ := by
  rw [List.mem_filterMap]
  constructor
  · rintro ⟨⟨c, outcome⟩, member, taken⟩
    cases outcome with
    | error fault => cases taken
    | ok record => exact ⟨c, record, member, (Option.some.inj taken).symm⟩
  · rintro ⟨c, record, member, rfl⟩
    exact ⟨(c, .ok record), member, rfl⟩

theorem sublist_additions
    (records : ∀ c record, (c, .ok record) ∈ entries → record.descriptor = c) :
    ((entries.filterMap (addition? applications)).map (·.record.descriptor)).Sublist
      (entries.map Prod.fst) := by
  induction entries with
  | nil => exact List.Sublist.refl _
  | cons entry rest ih =>
    obtain ⟨c, outcome⟩ := entry
    have shorter := ih fun d record member => records d record (List.mem_cons_of_mem _ member)
    cases outcome with
    | error fault => exact shorter.cons c
    | ok record =>
      have named := records c record (List.mem_cons_self ..)
      have taken : addition? applications (c, .ok record) =
          some ⟨record, applications.contains c⟩ := rfl
      rw [List.filterMap_cons_some taken, List.map_cons, List.map_cons, named]
      exact shorter.cons_cons c

theorem exists_ok_iff {reader : ClassReader} {s : Session} {classes : List ClassDescriptor}
    (faults : entries.map (fun entry => (entry.1, Work.faultOf entry.2)) =
      classes.map fun c => (c, analysisFault? reader s c)) (c : ClassDescriptor) :
    (∃ record, (c, .ok record) ∈ entries) ↔ c ∈ classes ∧ analysisFault? reader s c = none := by
  have paired : (c, none) ∈ entries.map (fun entry => (entry.1, Work.faultOf entry.2)) ↔
      (c, none) ∈ classes.map fun c => (c, analysisFault? reader s c) := by
    rw [faults]
  constructor
  · rintro ⟨record, member⟩
    have there := paired.1 (List.mem_map.2 ⟨(c, .ok record), member, rfl⟩)
    obtain ⟨d, listed, same⟩ := List.mem_map.1 there
    obtain ⟨rfl, sound⟩ := Prod.mk.inj same
    exact ⟨listed, sound⟩
  · rintro ⟨listed, sound⟩
    have there := paired.2 (List.mem_map.2 ⟨c, listed, by rw [sound]⟩)
    obtain ⟨⟨d, outcome⟩, member, same⟩ := List.mem_map.1 there
    obtain ⟨rfl, given⟩ := Prod.mk.inj same
    cases outcome with
    | error fault => cases given
    | ok record => exact ⟨record, member⟩

/-- No class is added twice. -/
theorem nodup_additions {reader : ClassReader} {s : Session} {classes : List ClassDescriptor}
    (faults : entries.map (fun entry => (entry.1, Work.faultOf entry.2)) =
      classes.map fun c => (c, analysisFault? reader s c))
    (records : ∀ c record, (c, .ok record) ∈ entries → record.descriptor = c)
    (distinct : classes.Nodup) :
    ((entries.filterMap (addition? applications)).map (·.record.descriptor)).Nodup := by
  have order : entries.map Prod.fst = classes := by
    have both := congrArg (List.map Prod.fst) faults
    simp only [List.map_map, Function.comp_def, List.map_id'] at both
    exact both
  have shorter : (List.map _ (entries.filterMap (addition? applications))).Sublist _ :=
    sublist_additions records
  rw [order] at shorter
  exact shorter.nodup distinct

end

theorem filterMap_event? {reader : ClassReader} (plain : reader.Plain) (s : Session)
    (classes : List ClassDescriptor) :
    (classes.map fun c => (c, analysisFault? reader s c)).filterMap event? =
      classes.filterMap fun c => (analysisFault? reader s c).map (failureEvent c) := by
  rw [List.filterMap_map]
  apply List.filterMap_congr
  intro c _
  cases failed : analysisFault? reader s c with
  | none => simp only [Function.comp_apply, failed, event?, Option.map_none]
  | some fault =>
    simp only [Function.comp_apply, failed, event?, Option.map_some,
      toEvent_failureReport plain failed]

theorem declared_spec {free : Freedom} {s : Session} (tidy : Tidy free s)
    (own : free.foreign = false) (sound : s.hierarchy.Sound) {reader : ClassReader}
    (plain : reader.Plain) (schedule : Schedule) (applications : List ClassDescriptor) :
    Declared reader applications s (s.declared reader schedule applications) := by
  have distinct : s.namedClasses.Nodup := tidy.registry.distinct.filter _
  obtain ⟨faults, records⟩ := collect_spec tidy own reader schedule
  have beside := beside_of_resolves (resolves_resolveKnown tidy reader schedule)
  have after : s.declared reader schedule applications =
      (collect s.namedClasses ((resolveKnown reader schedule).run s).1).foldl (enter applications)
        ((resolveKnown reader schedule).run s).2.createHierarchy := rfl
  generalize ((resolveKnown reader schedule).run s).2 = t at *
  generalize collect s.namedClasses ((resolveKnown reader schedule).run s).1 = entries at *
  have hierarchy : t.createHierarchy.hierarchy = s.hierarchy :=
    (hierarchy_createHierarchy t).trans beside.hierarchy
  have events : t.createHierarchy.events? = s.events? := by
    unfold createHierarchy modifyDatabases events?
    rw [modifyDatabasesOf_self]
    exact congrArg Reporter.events? beside.reporter
  have succeeded := exists_ok_iff faults
  obtain ⟨added, reported⟩ :=
    foldl_enter applications entries (s := t.createHierarchy) (hierarchy.symm ▸ sound)
  rw [hierarchy] at added
  rw [events, faults] at reported
  rw [after]
  refine ⟨?_, ?_, ?_⟩
  · intro before collected
    rw [reported, collected, filterMap_event? plain]
    rfl
  · intro c listed fine
    obtain ⟨record, member⟩ := (succeeded c).2 ⟨listed, fine⟩
    have named := records c record member
    have kind := sound.kind?_addAll added (nodup_additions faults records distinct)
      (mem_additions.2 ⟨c, record, member, rfl⟩)
    rw [named, upgrade_kind] at kind
    rw [kind]
    simp only [List.contains_iff_mem]
  · intro c missing
    apply sound.kept_addAll added
    intro a taken same
    obtain ⟨d, record, member, rfl⟩ := mem_additions.1 taken
    have named : d = c := (records d record member).symm.trans same
    exact missing ((succeeded c).1 ⟨record, named ▸ member⟩)

theorem declareApplications_spec {h : Host} (reached : h.Reached ⟨false, true⟩)
    {reader : ClassReader} (plain : reader.Plain) (schedule : Schedule)
    (applications : List ClassDescriptor) :
    Declared reader applications h.session
      ((declareApplications reader schedule applications).run h.session).2 := by
  have declared := declared_spec reached.tidy rfl reached.sound plain schedule applications
  rcases declareApplications_run reader schedule applications h.session with same | ⟨records, logged⟩
  · rw [same]
    exact declared
  · rw [logged]
    exact ⟨declared.events, declared.analysed, declared.others⟩

/-- A class path on which there is one class. -/
def onePath : ClassPath := { classes := [("a/B", { name := "a/B" })] }

/-- A host that asked for that class and for another one. -/
def twoNames : Host :=
  ((Host.start .minimal { token := 0 } .fixed (.collect [])).after (.intern (.ofClass "a.B"))).after
    (.intern (.ofClass "a/C"))

example : ((declareApplications onePath.read .inTurn []).run twoNames.session).2.events? =
    some [.missingClass "a/C"] := by
  decide +kernel

theorem declareApplications_twoNames : twoNames.Reached ⟨false, true⟩ ∧ onePath.read.Plain ∧
    Declared onePath.read twoNames.session.namedClasses twoNames.session
      ((declareApplications onePath.read .inTurn twoNames.session.namedClasses).run
        twoNames.session).2 := by
  have reached : twoNames.Reached ⟨false, true⟩ :=
    .after (.after (.start (Registry.wellFormed_start 0)) trivial) trivial
  have plain : onePath.read.Plain := by
    intro c fault failed
    simp only [ClassPath.read, onePath, Table.find?_nil] at failed
    split at failed
    · cases failed
    · exact Or.inl ⟨c.name, (Except.error.inj failed).symm⟩
  exact ⟨reached, plain, declareApplications_spec reached plain .inTurn _⟩

end Session

end JvmFacts
