import JvmFacts.Proofs.Session.Isolation
import JvmFacts.Proofs.Session.TwinSteps

/-!
Running a script again after a reset. Nothing of the first run has a part in the second one but the
registry, which keeps what the first run interned. It counts only for declarations of application
classes: they look at all classes that are known. The schedule on which they resolve these counts where
that interns something, and nowhere else.
-/

set_option autoImplicit false

namespace JvmFacts

namespace RunStep

open Session

variable {last : Registry} {s : Session}

/-! ## Steps over a registry that has grown -/

theorem repeats_methodNamed (wf : s.registry.WellFormed) (m : MemberReference) :
    Repeats last s (methodNamed m).run.run := by
  unfold methodNamed
  apply (repeats_interning (m.repeats_intern wf .method)).bind
  intro descriptor t _ _
  exact .of_onto fun _ _ => rfl

theorem repeats_onHierarchy {α : Type} {classes : Interning α}
    (repeats : Registry.Repeats last s.registry classes) (ask : Hierarchy → α → RunAnswer) :
    Repeats last s (onHierarchy classes ask).run.run := by
  unfold onHierarchy
  apply (repeats_interning repeats).bind
  intro named t _ _
  have created : Redoes last t createHierarchy :=
    .of_onto fun r paths => t.modifyDatabases_onto r paths _
  apply created.modify.bind
  intro _ u _ _
  exact .of_onto fun _ _ => rfl

theorem repeats_bothClasses {r : Registry} (wf : r.WellFormed) (one two : String) :
    Registry.Repeats last r (bothClasses one two) := by
  unfold bothClasses
  apply (Registry.repeats_internClass wf one).bind
  intro first t grows _
  apply (Registry.repeats_internClass (grows.wellFormed wf) two).bind
  intro second u _ _
  exact .pure (first, second)

theorem repeats_nullnessNow (m : Method) (slot : Slot) : Repeats last s (nullnessNow m slot) := by
  have created : Redoes last s (createNullness · s.config.nullnessSource) :=
    .of_onto fun r paths => s.createNullness_onto r paths _
  have asked : Repeats last (s.createNullness s.config.nullnessSource) fun t =>
      t.nullnessOf s.config.nullnessSource s.runNumber m slot :=
    .of_onto fun r paths => nullnessOf_onto _ r paths _ _ m slot
  have both := Repeats.andThen created
    (fun _ t => t.nullnessOf s.config.nullnessSource s.runNumber m slot) asked
  exact both.congr rfl fun _ => rfl

/-- A declaration finds just these classes. -/
def Finds (known : List ClassDescriptor) (s : Session) : RunStep → Prop
  | declare names => ∀ declared t,
    (interning (names.mapM Registry.internClass)).run.run s = (.ok declared, t) →
      t.namedClasses = known
  | _ => True

theorem repeats_work (wf : s.registry.WellFormed) (reader : ClassReader) (schedule : Schedule)
    {step : RunStep} {paths : Paths} (finds : step.Finds (s.onto last paths).namedClasses s) :
    Repeats last s (step.work reader schedule).run.run := by
  cases step with
  | classDescriptor name =>
    exact (repeats_interning (Registry.repeats_internClass wf name)).bind fun c _ _ _ => .pure _
  | lookup name => exact (repeats_lookup wf reader name).bind fun c _ _ _ => .pure _
  | declare names =>
    have each : ∀ name r, s.registry.Extends r →
        Registry.Repeats last r (Registry.internClass name) :=
      fun name r grows => Registry.repeats_internClass (grows.wellFormed wf) name
    apply (repeats_interning (Registry.Repeats.mapM names each)).bind
    intro declared t grows interned
    have known := finds declared t interned
    have declares : Redoes last t fun t =>
        ((declareApplications reader schedule declared).run t).2 :=
      redoes_declareApplications (grows.wellFormed wf) reader schedule declared fun _ => known.symm
    apply declares.modify.bind
    intro _ u _ _
    exact .pure _
  | update pass =>
    apply (redoes_updateDatabases wf pass).modify.bind
    intro _ t _ _
    exact .pure _
  | bridge source target =>
    apply (repeats_methodNamed wf source).bind
    intro one t grows _
    apply (repeats_methodNamed (grows.wellFormed wf) target).bind
    intro two u _ _
    cases one with
    | none => exact .pure _
    | some one =>
      cases two with
      | none => exact .pure _
      | some two => exact .of_onto fun _ _ => rfl
  | kind name =>
    unfold work
    exact repeats_onHierarchy (Registry.repeats_internClass wf name) _
  | isSubtype lower upper =>
    unfold work
    exact repeats_onHierarchy (repeats_bothClasses wf lower upper) _
  | relatives name =>
    unfold work
    exact repeats_onHierarchy (Registry.repeats_internClass wf name) _
  | applications =>
    unfold work
    exact repeats_onHierarchy (.pure ()) _
  | facts m =>
    apply (repeats_interning (m.repeats_intern wf .method)).bind
    intro descriptor t _ _
    exact .of_onto fun _ _ => rfl
  | nullness m slot =>
    apply (repeats_methodNamed wf m).bind
    intro found t _ _
    cases found with
    | none => exact .pure _
    | some found =>
      exact (Repeats.modifyGet (repeats_nullnessNow found slot)).bind fun answer _ _ _ => .pure _

end RunStep

/-! ## Scripts -/

/-- What a host learns from a step: the answer, and the events of the run so far. -/
structure Told where
  answer : Except Fault RunAnswer
  events : Option (List Event)

namespace Session

def eventCount (s : Session) : Nat :=
  (s.events?.getD []).length

/-- The schedules that are left after the first one. -/
def further (schedules : Nat → Schedule) : Nat → Schedule :=
  fun n => schedules (n + 1)

/-- What a host is told step by step, where events count from this number on. There is a schedule for
each step. A step that fails does not stop the script. -/
def told (reader : ClassReader) (since : Nat) :
    (schedules : Nat → Schedule) → List RunStep → Session → List Told
  | _, [], _ => []
  | schedules, step :: rest, s =>
    let (answer, t) := (step.work reader (schedules 0)).run.run s
    ⟨answer, t.events?.map (·.drop since)⟩ :: told reader since (further schedules) rest t

/-- What a host is told of a script, with the events since it began. -/
def tells (s : Session) (reader : ClassReader) (schedules : Nat → Schedule)
    (script : List RunStep) : List Told :=
  told reader s.eventCount schedules script s

def afterScript (reader : ClassReader) :
    (schedules : Nat → Schedule) → List RunStep → Session → Session
  | _, [], s => s
  | schedules, step :: rest, s =>
    afterScript reader (further schedules) rest ((step.work reader (schedules 0)).run.run s).2

/-- Every declaration of the script finds just these classes. -/
def Settled (reader : ClassReader) (known : List ClassDescriptor) :
    (schedules : Nat → Schedule) → List RunStep → Session → Prop
  | _, [], _ => True
  | schedules, step :: rest, s =>
    step.Finds known s ∧
      Settled reader known (further schedules) rest ((step.work reader (schedules 0)).run.run s).2

section

variable {last : Registry} {s t : Session}

theorem told_cons (reader : ClassReader) (since : Nat) (schedules : Nat → Schedule) (step : RunStep)
    (rest : List RunStep) (s : Session) : told reader since schedules (step :: rest) s =
      ⟨((step.work reader (schedules 0)).run.run s).1,
        ((step.work reader (schedules 0)).run.run s).2.events?.map (·.drop since)⟩ ::
          told reader since (further schedules) rest
            ((step.work reader (schedules 0)).run.run s).2 :=
  rfl

theorem extends_afterScript (wf : s.registry.WellFormed) (reader : ClassReader) (paths : Paths)
    {schedules : Nat → Schedule} {script : List RunStep}
    (settled : Settled reader (s.onto last paths).namedClasses schedules script s) :
    s.registry.Extends (afterScript reader schedules script s).registry := by
  induction script generalizing s schedules with
  | nil => exact refl_of Registry.Extends _
  | cons step rest ih =>
    obtain ⟨finds, later⟩ := settled
    have first := (RunStep.repeats_work wf reader (schedules 0) finds).grows
    exact trans_of Registry.Extends first (ih (first.wellFormed wf) later)

/-- A settled script is told the same over a registry that holds all that it interns, even where the
classes are resolved in other orders. -/
theorem told_of_twins (wf : s.registry.WellFormed) (reader : ClassReader) (since : Nat)
    {schedules : Nat → Schedule} (others : Nat → Schedule) {script : List RunStep} {paths : Paths}
    (settled : Settled reader (s.onto last paths).namedClasses schedules script s)
    (within : (afterScript reader schedules script s).registry.Extends last)
    (twins : Twins (s.onto last paths) t) :
    told reader since others script t = told reader since schedules script s := by
  induction script generalizing s t schedules others with
  | nil => rfl
  | cons step rest ih =>
    obtain ⟨finds, later⟩ := settled
    have first := RunStep.repeats_work wf reader (schedules 0) finds
    have wfToo := first.grows.wellFormed wf
    have again := first.again
      (trans_of Registry.Extends (extends_afterScript wfToo reader paths later) within) paths
    have concurs := RunStep.concurs_work twins reader (schedules 0) (others 0) step
      (congrArg (fun outcome => outcome.2.registry) again)
    have answer := eq_of_corresponds concurs.outcome
    have still := concurs.twins
    rw [again] at answer still
    have events : ((step.work reader (others 0)).run.run t).2.events? =
        ((step.work reader (schedules 0)).run.run s).2.events? :=
      congrArg Reporter.events? still.reporter
    rw [told_cons, told_cons, ih wfToo (further others) later within still, answer, events]

/-- A session with a past is told what one without is told. -/
theorem told_of_before {p : Past} {free : Freedom} (stray : free.stray = true) (tidy : Tidy free s)
    (genuine : Genuine [] s) (before : p.Before s t) (tidyLater : Tidy free t)
    (collects : t.events?.isSome = true) (reader : ClassReader) (schedules : Nat → Schedule)
    (script : List RunStep) :
    told reader p.events schedules script t = told reader 0 schedules script s := by
  induction script generalizing s t schedules with
  | nil => rfl
  | cons step rest ih =>
    obtain ⟨answer, still⟩ := RunStep.matches_work tidy genuine before reader (schedules 0) step
    have changes : Changes free [] s ((step.work reader (schedules 0)).run.run s).2 :=
      (RunStep.yields_work tidy reader (schedules 0) stray step).steps
    have changesLater : Changes free [] t ((step.work reader (schedules 0)).run.run t).2 :=
      (RunStep.yields_work tidyLater reader (schedules 0) stray step).steps
    have keeps := (settings_of_changes changesLater).2.trans collects
    have others := ih (tidy.changes changes) (genuine_of_changes genuine changes) still
      (tidyLater.changes changesLater) keeps (further schedules)
    obtain ⟨all, given⟩ := Option.isSome_iff_exists.1 keeps
    have events : ((step.work reader (schedules 0)).run.run t).2.events?.map (·.drop p.events) =
        ((step.work reader (schedules 0)).run.run s).2.events?.map (·.drop 0) := by
      have kept : ((step.work reader (schedules 0)).run.run s).2.events? =
          some (all.drop p.events) := (still.reporter all given).2
      rw [given, kept]
      rfl
    have same : ((step.work reader (schedules 0)).run.run t).1 =
        ((step.work reader (schedules 0)).run.run s).1 :=
      answer.trans (congrFun Except.map_id _)
    rw [told_cons, told_cons, others, events, same]

theorem changes_afterScript {free : Freedom} (stray : free.stray = true) (tidy : Tidy free s)
    (reader : ClassReader) (schedules : Nat → Schedule) (script : List RunStep) :
    Changes free [] s (afterScript reader schedules script s) := by
  induction script generalizing s schedules with
  | nil => exact .refl
  | cons step rest ih =>
    have changes : Changes free [] s ((step.work reader (schedules 0)).run.run s).2 :=
      (RunStep.yields_work tidy reader (schedules 0) stray step).steps
    exact changes.trans (ih (tidy.changes changes) (further schedules))

end

/-- After a reset a script is told what it is told in a new session over the registry that there is, if
the classes are resolved on the same schedules. If every declaration of the first run found the classes
that were known in the end, that is what the first run was told, and the schedules do not count. -/
theorem tells_reset (config : Config) {registry : Registry} (wf : registry.WellFormed)
    (paths : Paths) (reader : ClassReader) (schedules : Nat → Schedule) (script : List RunStep) :
    let start := Session.start config registry paths (.collect [])
    let ended := afterScript reader schedules script start
    (∀ others, ended.reset.tells reader others script =
        (Session.start config ended.registry ended.paths (.collect [])).tells reader others script) ∧
      (Settled reader ended.namedClasses schedules script start →
        ∀ others, ended.reset.tells reader others script = start.tells reader schedules script) := by
  intro start ended
  have started : (⟨start, []⟩ : Host).Reached ⟨true, true⟩ := .start wf
  have changes : Changes ⟨true, true⟩ [] start ended :=
    changes_afterScript rfl started.tidy reader schedules script
  obtain ⟨switches, collects⟩ := settings_of_changes changes
  have tidy := started.tidy.changes changes
  have forgotten : Changes ⟨true, true⟩ [] ended ended.reset := .single .reset
  let anew := Session.start config ended.registry ended.paths (.collect [])
  have fresh : (⟨anew, []⟩ : Host).Reached ⟨true, true⟩ := .start tidy.registry
  have before : (Host.past ⟨ended, []⟩).Before anew ended.reset :=
    (Host.Akin.clients (h := ⟨anew, []⟩) (k := ⟨ended, []⟩) ⟨switches.symm, rfl, rfl⟩).before
  have again : ∀ others, ended.reset.tells reader others script =
      anew.tells reader others script := fun others =>
    told_of_before rfl fresh.tidy fresh.genuine before (tidy.changes forgotten) collects reader
      others script
  refine ⟨again, ?_⟩
  intro settled others
  rw [again]
  have found : Settled reader (start.onto ended.registry ended.paths).namedClasses schedules script
      start := settled
  have twins : Twins (start.onto ended.registry ended.paths) anew :=
    .refl (kempt_start config tidy.registry ended.paths (.collect []))
  exact told_of_twins wf reader 0 others found (refl_of Registry.Extends _) twins

/-- Two classes whose superclasses are missing, and two declarations that find them. -/
def declaredTwice : List RunStep :=
  [.classDescriptor "a/A", .classDescriptor "b/B", .declare [], .declare []]

/-- The second declaration reports the superclasses in the order in which the first one interned them, so
there the schedules count. -/
theorem tells_declaredTwice :
    let start := Session.start .usual { token := 0 } .fixed (.collect [])
    let last schedule := ((start.tells Host.orphans.read (fun _ => schedule) declaredTwice).map
      Told.events).getLast?
    last .inTurn = some (some [.missingClass "x/P", .missingClass "y/Q"]) ∧
      last .backwards = some (some [.missingClass "y/Q", .missingClass "x/P"]) := by
  decide +kernel

/-- A class path with one class, whose superclass is not on it. -/
def mainOnly : ClassPath :=
  ClassPath.add {} { name := "app/Main" }

/-- The first run interns the superclass when it resolves the class, too late to look for it; the
second run knows it from the beginning and misses it. -/
theorem tells_mainOnly :
    let start := Session.start .minimal { token := 0 } .fixed (.collect [])
    let inTurn : Nat → Schedule := fun _ => .inTurn
    let ended := afterScript mainOnly.read inTurn [.declare ["app/Main"]] start
    (start.tells mainOnly.read inTurn [.declare ["app/Main"]]).map Told.events = [some []] ∧
      (ended.reset.tells mainOnly.read inTurn [.declare ["app/Main"]]).map Told.events =
        [some [.missingClass "java/lang/Object"]] ∧
      ended.reset.tells mainOnly.read inTurn [.declare ["app/Main"]] ≠
        start.tells mainOnly.read inTurn [.declare ["app/Main"]] := by
  intro start inTurn ended
  have first : (start.tells mainOnly.read inTurn [.declare ["app/Main"]]).map Told.events =
      [some []] := by
    decide +kernel
  have second : (ended.reset.tells mainOnly.read inTurn [.declare ["app/Main"]]).map Told.events =
      [some [.missingClass "java/lang/Object"]] := by
    decide +kernel
  refine ⟨first, second, ?_⟩
  intro same
  rw [same, first] at second
  cases second

/-- The class path with the superclass on it. -/
def withObject : ClassPath :=
  mainOnly.add { name := "java/lang/Object", superclass := none }

/-- A script that names both classes before it declares one of them an application. -/
def namedFirst : List RunStep :=
  [.classDescriptor "java.lang.Object", .declare ["app.Main"], .kind "java.lang.Object",
    .isSubtype "app.Main" "java.lang.Object"]

theorem settled_namedFirst :
    let start := Session.start .usual { token := 0 } .fixed (.collect [])
    let inTurn : Nat → Schedule := fun _ => .inTurn
    Settled withObject.read (afterScript withObject.read inTurn namedFirst start).namedClasses inTurn
      namedFirst start := by
  intro start inTurn
  refine ⟨trivial, ?_, trivial, trivial, trivial⟩
  intro declared t interned
  have found : t = _ := (congrArg Prod.snd interned).symm
  rw [found]
  decide +kernel

/-- The second run resolves the classes in another order. -/
theorem tells_namedFirst :
    let start := Session.start .usual { token := 0 } .fixed (.collect [])
    let inTurn : Nat → Schedule := fun _ => .inTurn
    let ended := afterScript withObject.read inTurn namedFirst start
    Registry.WellFormed { token := 0 } ∧
      Settled withObject.read ended.namedClasses inTurn namedFirst start ∧
      ended.reset.tells withObject.read (fun _ => .backwards) namedFirst =
        start.tells withObject.read inTurn namedFirst := by
  have wf := Registry.wellFormed_start 0
  have spec := tells_reset .usual wf .fixed withObject.read (fun _ => .inTurn) namedFirst
  exact ⟨wf, settled_namedFirst, spec.2 settled_namedFirst _⟩

end Session

end JvmFacts
