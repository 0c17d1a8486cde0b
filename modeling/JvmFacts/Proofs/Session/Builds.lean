import JvmFacts.Proofs.Method.Facts
import JvmFacts.Proofs.Method.Steps
import JvmFacts.Proofs.Session.Call
import JvmFacts.Proofs.Session.Facts

/-!
Which drafts a call builds, and that the facts of the current run are those that the drafts carried
which were built since the facts were last forgotten.
-/

set_option autoImplicit false

namespace JvmFacts

open List

namespace Session

/-! ## Which drafts are built -/

/-- Building a method builds its draft, unless it fails. -/
def draftsOfBuild (d : MethodDraft) (s : Session) : List MethodDraft :=
  match ((buildMethod d).run.run s).1 with
  | .ok _ => [d]
  | .error _ => []

/-- Resolving a class builds all its methods or, if it fails, none. -/
def draftsOfResolve (c : ClassDescriptor) (parsed : ParsedClass) (s : Session) : List MethodDraft :=
  match ((resolve c parsed).run.run s).1 with
  | .ok _ => parsed.methods
  | .error _ => []

/-- A class that is known already is not resolved again. -/
def draftsOfRecord (reader : ClassReader) (c : ClassDescriptor) (s : Session) : List MethodDraft :=
  if s.knowsClass c then []
  else
    match reader c with
    | .ok parsed => draftsOfResolve c parsed s
    | .error _ => []

def draftsOfLookup (reader : ClassReader) (name : String) (s : Session) : List MethodDraft :=
  if name.isEmpty || !Name.isClass name then []
  else
    match (interning (Registry.internClass (Name.slashed name))).run.run s with
    | (.ok c, t) => draftsOfRecord reader c t
    | (.error _, _) => []

/-- The classes of a chain one after the other, up to one whose depth is known or that fails. -/
def draftsOfDepth (reader : ClassReader) : (steps : Nat) → ClassDescriptor → Session →
    List MethodDraft
  | 0, _, _ => []
  | steps + 1, c, s =>
    if s.knowsDepth c then []
    else
      draftsOfRecord reader c s ++
        match (classRecord reader c).run.run s with
        | (.ok record, t) =>
          match record.superclass with
          | some parent => draftsOfDepth reader steps parent t
          | none => []
        | (.error _, _) => []

def draftsOfClasses (reader : ClassReader) : List ClassDescriptor → Session → List MethodDraft
  | [], _ => []
  | c :: rest, s =>
    draftsOfRecord reader c s ++
      draftsOfClasses reader rest ((classRecord reader c).run.run s).2

/-! ## What they leave behind -/

/-- Between these sessions methods were made of these drafts, in this order, and of no others. -/
structure Builds (drafts : List MethodDraft) (s t : Session) : Prop where
  grows : s.registry.GrowsSoundly t.registry
  facts : ∃ prepared, Forall₂ (·.Prepares t.registry ·) drafts prepared ∧
    t.run.facts = prepared.foldl FactTables.record s.run.facts

section

variable {s t u : Session} {drafts more : List MethodDraft}

theorem Builds.idle (grows : s.registry.GrowsSoundly t.registry) (facts : t.run.facts = s.run.facts) :
    Builds [] s t where
  grows := grows
  facts := ⟨[], .nil, facts⟩

theorem Builds.refl (s : Session) : Builds [] s s :=
  .idle (refl_of Registry.GrowsSoundly s.registry) rfl

theorem Builds.trans (first : Builds drafts s t) (second : Builds more t u) :
    Builds (drafts ++ more) s u := by
  obtain ⟨early, prepares, before⟩ := first.facts
  obtain ⟨late, others, after⟩ := second.facts
  have still : Forall₂ (·.Prepares u.registry ·) drafts early :=
    prepares.imp fun d p held => held.grows second.grows
  refine ⟨trans_of Registry.GrowsSoundly first.grows second.grows, early ++ late, ?_, ?_⟩
  · exact rel_append still others
  · rw [foldl_append, ← before, after]

/-- What comes after makes no method. -/
theorem Builds.idle_right (first : Builds drafts s t) (grows : t.registry.GrowsSoundly u.registry)
    (facts : u.run.facts = t.run.facts) : Builds drafts s u := by
  rw [← append_nil drafts]
  exact first.trans (.idle grows facts)

/-- What came before made no method. -/
theorem Builds.idle_left (grows : s.registry.GrowsSoundly t.registry) (facts : t.run.facts = s.run.facts)
    (second : Builds drafts t u) : Builds drafts s u :=
  (Builds.idle grows facts).trans second

theorem Builds.rememberDepth {work : Working Nat}
    (builds : Builds drafts s (work.run.run s).2) (change : Fault → Fault) (c : ClassDescriptor) :
    Builds drafts s ((ExceptT.adapt change work >>= fun depth =>
      modifyGet (Session.rememberDepth c depth) : Working Nat).run.run s).2 := by
  rw [Work.run_bind, Work.run_adapt]
  rcases ended : work.run.run s with ⟨fault | depth, t⟩ <;> rw [ended] at builds
  · exact builds
  · obtain ⟨depths, remembered⟩ := t.rememberDepth_frame c depth
    change Builds drafts s (t.rememberDepth c depth).2
    rw [remembered]
    exact builds.idle_right (refl_of Registry.GrowsSoundly t.registry) rfl

/-- A method that was not built keeps its entries. -/
theorem Builds.agree (builds : Builds drafts s t) (wf : s.registry.WellFormed)
    {d : MethodDescriptor} (held : d ∈ s.registry.methods) (other : buildsOf d drafts = []) :
    FactTables.Agree d.id s.run.facts t.run.facts := by
  obtain ⟨prepared, prepares, facts⟩ := builds.facts
  have wf' := builds.grows.wellFormed wf
  have held' : d ∈ t.registry.members .method := builds.grows.mem_members held
  rw [facts]
  apply FactTables.agree_foldl
  intro p member same
  obtain ⟨b, built, fits⟩ := exists_of_mem_right prepares member
  have this : b ∈ buildsOf d drafts :=
    mem_filter.2 ⟨built, decide_eq_true ((fits.key_iff wf' held').2 same)⟩
  rw [other] at this
  cases this

theorem makeAll_spec (prepared : List PreparedMethod) (s : Session) :
    (makeAll prepared s).2.registry = s.registry ∧
      (makeAll prepared s).2.run.facts = prepared.foldl FactTables.record s.run.facts := by
  induction prepared generalizing s with
  | nil => exact ⟨rfl, rfl⟩
  | cons p rest ih =>
    obtain ⟨registry, facts⟩ := ih (s.makeAndKeep p).2
    rw [registry_makeAndKeep] at registry
    rw [facts_makeAndKeep] at facts
    exact ⟨registry, facts⟩

theorem builds_buildMethod (wf : s.registry.WellFormed) (d : MethodDraft) :
    Builds (draftsOfBuild d s) s ((buildMethod d).run.run s).2 := by
  have prepared := d.yields_prepare wf
  have grows := prepared.steps
  have fits := prepared.post
  unfold draftsOfBuild buildMethod
  rw [run_interning_modifyGet]
  rcases ended : d.prepare.run.run s.registry with ⟨fault | p, r⟩ <;> rw [ended] at grows fits
  · exact .idle grows rfl
  · exact ⟨grows, [p], .cons (fits p rfl) .nil, rfl⟩

theorem builds_resolve (wf : s.registry.WellFormed) (c : ClassDescriptor) (parsed : ParsedClass) :
    Builds (draftsOfResolve c parsed s) s ((resolve c parsed).run.run s).2 := by
  have prepared := ParsedClass.yields_prepare wf c parsed
  have grows := prepared.steps
  have fits := prepared.post
  unfold draftsOfResolve resolve
  rw [run_interning_modifyGet]
  rcases ended : (parsed.prepare c).run.run s.registry with ⟨fault | p, r⟩ <;>
    rw [ended] at grows fits
  · exact .idle grows rfl
  · have methods := (fits p rfl).methods
    obtain ⟨registry, facts⟩ := makeAll_spec p.methods { s with registry := r }
    have same : (makeClass p { s with registry := r }).2.registry = r := registry
    constructor
    · rw [same]
      exact grows
    · refine ⟨p.methods, ?_, facts⟩
      rw [same]
      exact methods

theorem builds_classRecord (wf : s.registry.WellFormed) (reader : ClassReader)
    (c : ClassDescriptor) :
    Builds (draftsOfRecord reader c s) s ((classRecord reader c).run.run s).2 := by
  unfold draftsOfRecord knowsClass Table.contains
  cases found : s.run.classes.find? c.id with
  | some known =>
    rw [classRecord_of_known found]
    exact .refl s
  | none =>
    rw [classRecord_of_unknown found]
    unfold readClass
    cases reader c with
    | error fault => exact .refl s
    | ok parsed =>
      have resolved := builds_resolve wf c parsed
      change Builds (draftsOfResolve c parsed s) s _
      generalize draftsOfResolve c parsed s = drafts at resolved
      rcases ended : (resolve c parsed).run.run s with ⟨fault | record, t⟩ <;> rw [ended] at resolved
      · exact resolved
      · exact resolved.idle_right (refl_of Registry.GrowsSoundly t.registry) rfl

end

section

variable {free : Freedom} {s : Session} (tidy : Tidy free s) (reader : ClassReader)

include tidy

theorem builds_lookup (name : String) :
    Builds (draftsOfLookup reader name s) s ((lookup reader name).run.run s).2 := by
  unfold draftsOfLookup
  rcases lookup_cases reader name with ⟨invalid, fault, turned⟩ | ⟨valid, wrap, sought⟩
  · have refused : (name.isEmpty || !Name.isClass name) = true := by
      rw [invalid, Bool.not_false, Bool.or_true]
    rw [if_pos refused, turned]
    exact .refl s
  · have fine : ¬ (name.isEmpty || !Name.isClass name) = true := by
      rw [valid, Bool.not_true, Bool.or_false]
      exact mt String.isEmpty_iff.1 (Name.ne_empty_of_isClass valid)
    rw [if_neg fine, sought]
    have grows : s.registry.GrowsSoundly
        ((interning (Registry.internClass (Name.slashed name))).run.run s).2.registry :=
      (Registry.yields_internClass s.registry (Name.slashed name)).steps
    have facts := s.facts_interning (Registry.internClass (Name.slashed name))
    rw [Work.run_adapt, Work.run_bind]
    rcases ended : (interning (Registry.internClass (Name.slashed name))).run.run s
      with ⟨fault | c, t⟩ <;> rw [ended] at grows facts
    · exact .idle grows facts
    · have wf := grows.wellFormed tidy.registry
      exact .idle_left grows facts (builds_classRecord wf reader c)

theorem builds_depthWithin (steps : Nat) {c : ClassDescriptor} (named : free.MayName s.registry c) :
    Builds (draftsOfDepth reader steps c s) s ((depthWithin reader steps c).run.run s).2 := by
  induction steps generalizing s c with
  | zero => exact .refl s
  | succ steps ih =>
    have first := builds_classRecord tidy.registry reader c
    have resolves := (yields_classRecord tidy named reader).steps
    have superclass := (yields_classRecord tidy named reader).post
    unfold depthWithin
    rw [Work.run_get_bind]
    unfold draftsOfDepth knowsDepth Table.contains
    cases s.run.depths.find? c.id with
    | some known => exact .refl s
    | none =>
      apply Builds.rememberDepth
      rw [Work.run_bind]
      change Builds (draftsOfRecord reader c s ++ _) s _
      generalize draftsOfRecord reader c s = drafts at first
      rcases ended : (classRecord reader c).run.run s with ⟨fault | record, t⟩ <;>
        rw [ended] at first resolves superclass
      · dsimp only
        rw [append_nil]
        exact first
      · dsimp only
        cases above : record.superclass with
        | none =>
          dsimp only
          rw [append_nil]
          exact first
        | some parent =>
          have held : parent ∈ t.registry.classes := superclass record rfl parent above
          dsimp only
          rw [← map_eq_pure_bind, Work.run_map]
          exact first.trans (ih (tidy.resolves resolves) (Or.inr held))

theorem builds_resolveAll (classes : List ClassDescriptor)
    (named : ∀ c ∈ classes, free.MayName s.registry c) :
    Builds (draftsOfClasses reader classes s) s ((resolveAll reader classes).run s).2 := by
  induction classes generalizing s with
  | nil => exact .refl s
  | cons c rest ih =>
    have first := builds_classRecord tidy.registry reader c
    have resolved := (yields_classRecord tidy (named c (mem_cons_self ..)) reader).steps
    have further := ih (tidy.resolves resolved) fun d member =>
      (named d (mem_cons_of_mem _ member)).grows first.grows
    exact first.trans further

theorem builds_declareApplications (schedule : Schedule) (applications : List ClassDescriptor) :
    Builds (draftsOfClasses reader (s.resolutionOrder schedule) (s.internAhead reader schedule)) s
      ((declareApplications reader schedule applications).run s).2 := by
  have ahead : Resolves free s (s.internAhead reader schedule) :=
    resolves_internAhead tidy.registry reader schedule
  have facts : (s.internAhead reader schedule).run.facts = s.run.facts := by
    rw [internAhead_frame]
  have resolved := builds_resolveAll (tidy.resolves ahead) reader (s.resolutionOrder schedule)
    fun c member => Or.inr (mem_classes_internAhead tidy.registry reader member)
  have entered : Changes free [] ((resolveKnown reader schedule).run s).2
      ((declareApplications reader schedule applications).run s).2 :=
    changes_enterAll reader schedule applications
  have declared : (s.declared reader schedule applications).run.facts =
      ((resolveKnown reader schedule).run s).2.run.facts :=
    (facts_foldl_enter _ applications _).trans (facts_modifyDatabases _ _)
  apply (Builds.idle_left (grows_of_resolves ahead) facts resolved).idle_right (grows_of_changes entered)
  rcases declareApplications_run reader schedule applications s with same | ⟨records, logged⟩
  · rw [same, declared]
    rfl
  · rw [logged, facts_addLog, declared]
    rfl

end

end Session

/-! ## Histories -/

namespace Call

/-- The drafts that the call builds, in this order. -/
def drafts : Call → Session → List MethodDraft
  | lookup reader name, s => Session.draftsOfLookup reader name s
  | analyze reader c, s => Session.draftsOfRecord reader c s
  | resolve c parsed, s => Session.draftsOfResolve c parsed s
  | depth reader steps c, s => Session.draftsOfDepth reader steps c s
  | build draft, s => Session.draftsOfBuild draft s
  | declareApplications reader schedule _, s =>
    Session.draftsOfClasses reader (s.resolutionOrder schedule) (s.internAhead reader schedule)
  | _, _ => []

/-- The call drops all facts of the run. -/
def forgets : Call → Bool
  | clearFacts | reset => true
  | _ => false

/-- What was built since the facts were last forgotten. -/
def history (call : Call) (s : Session) (built : List MethodDraft) : List MethodDraft :=
  if call.forgets then [] else built ++ call.drafts s

theorem facts_of_forgets {call : Call} (forgets : call.forgets = true) (s : Session) :
    (call.effect s).run.facts = .empty := by
  cases call with
  | clearFacts => rfl
  | reset => rfl
  | _ => cases forgets

/-- Every other call leaves the facts that the methods it makes bring. -/
theorem builds {free : Freedom} {h : Host} {call : Call} (tidy : Session.Tidy free h.session)
    (allowed : call.Allowed free h) (keeps : call.forgets = false) :
    Session.Builds (call.drafts h.session) h.session (call.effect h.session) := by
  have grows : h.session.registry.GrowsSoundly (call.effect h.session).registry :=
    Session.grows_of_changes (Call.changes tidy allowed)
  cases call with
  | lookup reader name => exact Session.builds_lookup tidy reader name
  | analyze reader c => exact Session.builds_classRecord tidy.registry reader c
  | resolve c parsed => exact Session.builds_resolve tidy.registry c parsed
  | depth reader steps c => exact Session.builds_depthWithin tidy reader steps allowed
  | build draft => exact Session.builds_buildMethod tidy.registry draft
  | declareApplications reader schedule applications =>
    exact Session.builds_declareApplications tidy reader schedule applications
  | clearFacts => cases keeps
  | reset => cases keeps
  | intern request => exact .idle grows rfl
  | canonical text => exact .idle grows rfl
  | register m => exact .idle grows (h.session.facts_keepMethod m)
  | annotate m slot a => exact .idle grows (h.session.facts_annotate m slot a)
  | notify m => exact .idle grows (h.session.facts_notify m)
  | addRecorder => exact .idle grows rfl
  | dropRecorder index => exact .idle grows rfl
  | addLog records => exact .idle grows rfl
  | report r => exact .idle grows (h.session.facts_report r)
  | purgeClasses => exact .idle grows rfl
  | clearClassCache => exact .idle grows h.session.facts_clearClassCache
  | addEntry entry => exact .idle grows (h.session.facts_addEntry entry)
  | setBridge source target => exact .idle grows rfl
  | clearBridges => exact .idle grows rfl
  | updateDatabases pass => exact .idle grows (h.session.facts_updateDatabases pass)
  | createHierarchy => exact .idle grows (h.session.facts_modifyDatabases _)
  | addClass run record kind => exact .idle grows (h.session.facts_addToHierarchy run record kind)
  | createCheckReturn => exact .idle grows (h.session.facts_modifyDatabases _)
  | setCheckReturn change =>
    exact .idle grows ((Session.facts_modifyDatabases _ _).trans (h.session.facts_modifyDatabases _))
  | loadCheckReturn =>
    exact .idle grows ((Session.facts_loadCheckReturn _).trans (h.session.facts_modifyDatabases _))
  | createNullness source => exact .idle grows (h.session.facts_createNullness source)
  | setDeclared run m slot value => exact .idle grows (h.session.facts_modifyDatabasesOf run _)
  | loadNullness source run =>
    exact .idle grows ((Session.facts_loadNullness _ source run).trans (h.session.facts_ready source run))
  | askNullness source run m slot =>
    exact .idle grows
      ((Session.facts_nullnessOf _ source run m slot).trans (h.session.facts_ready source run))
  | createRetention => exact .idle grows (h.session.facts_modifyDatabases _)
  | setRetention change =>
    exact .idle grows ((Session.facts_modifyDatabases _ _).trans (h.session.facts_modifyDatabases _))
  | takeCensus => exact .idle grows h.session.facts_takeCensus

end Call

namespace Host

/-- What a host can reach, with the drafts that were built since the facts were last forgotten. -/
inductive Built (free : Freedom) : Host → List MethodDraft → Prop
  | start {config : Config} {registry : Registry} {paths : Paths} {reporter : Reporter}
    (wf : registry.WellFormed) : Built free (start config registry paths reporter) []
  | after {h : Host} {built : List MethodDraft} {call : Call} (before : Built free h built)
    (allowed : call.Allowed free h) : Built free (h.after call) (call.history h.session built)

theorem Built.reached {free : Freedom} {h : Host} {built : List MethodDraft}
    (run : h.Built free built) : h.Reached free := by
  induction run with
  | start wf => exact .start wf
  | after _ allowed ih => exact .after ih allowed

/-- Every state that a host can reach has such a history. -/
theorem Reached.exists_built {free : Freedom} {h : Host} (reached : h.Reached free) :
    ∃ built, h.Built free built := by
  induction reached with
  | start wf => exact ⟨[], .start wf⟩
  | after _ allowed ih =>
    obtain ⟨built, run⟩ := ih
    exact ⟨_, .after run allowed⟩

theorem Built.exists_prepared {free : Freedom} {h : Host} {built : List MethodDraft}
    (run : h.Built free built) : ∃ prepared,
      Forall₂ (·.Prepares h.session.registry ·) built prepared ∧
        h.session.run.facts = prepared.foldl FactTables.record .empty := by
  induction run with
  | start wf => exact ⟨[], .nil, rfl⟩
  | @after h built call before allowed ih =>
    unfold Call.history
    by_cases forgets : call.forgets = true
    · rw [if_pos forgets]
      exact ⟨[], .nil, Call.facts_of_forgets forgets h.session⟩
    · rw [if_neg forgets]
      obtain ⟨early, prepares, facts⟩ := ih
      have builds := Call.builds before.reached.tidy allowed (Bool.eq_false_iff.2 forgets)
      obtain ⟨late, others, more⟩ := builds.facts
      have still : Forall₂ (·.Prepares (call.effect h.session).registry ·) built early :=
        prepares.imp fun d p held => held.grows builds.grows
      refine ⟨early ++ late, rel_append still others, ?_⟩
      rw [foldl_append, ← facts]
      exact more

/-- In every state the facts of a method are those that the drafts of it carried that were built; a
call that builds no draft of it leaves them alone; and a draft carries what its steps brought. -/
theorem Built.facts_spec {free : Freedom} {h : Host} {built : List MethodDraft}
    (run : h.Built free built) :
    (∀ d ∈ h.session.registry.methods,
      Recorded h.session.registry built h.session.run.facts d) ∧
    (∀ call : Call, call.Allowed free h → call.forgets = false →
      ∀ d ∈ h.session.registry.methods, buildsOf d (call.drafts h.session) = [] →
        FactTables.Agree d.id h.session.run.facts (call.effect h.session).run.facts) ∧
    ∀ className name signature flags steps,
      (MethodDraft.applyAll { className, name, signature, flags } steps).Carries steps := by
  have tidy := run.reached.tidy
  refine ⟨?_, ?_, MethodDraft.carries_applyAll⟩
  · intro d held
    obtain ⟨prepared, prepares, facts⟩ := run.exists_prepared
    rw [facts]
    exact recorded_of_prepares tidy.registry held prepares
  · intro call allowed keeps d held other
    exact (Call.builds tidy allowed keeps).agree tidy.registry held other

/-- A method that throws, and, once the facts are dropped, one that forwards to it; a third one has no
valid name. -/
def threeBuilds : Host :=
  let draft (name : String) (steps : List DraftStep) : MethodDraft :=
    MethodDraft.applyAll
      { className := "a/B", name, signature := "()V", flags := .ofList [] } steps
  ((((Host.start .minimal { token := 0 } .fixed (.collect [])).after
    (.build (draft "fail" [.alwaysThrows]))).after .clearFacts).after
    (.build (draft "pass" [.identity, .forwardsTo ⟨"a/B", "fail", "()V", false⟩]))).after
    (.build (draft "bad.name" [.unsupported]))

theorem facts_threeBuilds : ∃ built, threeBuilds.Built ⟨false, true⟩ built ∧
    built.map (·.name) = ["pass"] ∧
    threeBuilds.session.run.facts =
      { identities := [3], forwards := [(3, ⟨2, ⟨0, 1, "a/B"⟩, "fail", "()V", false⟩)] } ∧
    ∀ d ∈ threeBuilds.session.registry.methods,
      Recorded threeBuilds.session.registry built threeBuilds.session.run.facts d := by
  have run : threeBuilds.Built ⟨false, true⟩ _ :=
    .after (.after (.after (.after (.start (Registry.wellFormed_start 0)) trivial) trivial) trivial)
      trivial
  exact ⟨_, run, by decide +kernel, by decide +kernel, run.facts_spec.1⟩

end Host

end JvmFacts
