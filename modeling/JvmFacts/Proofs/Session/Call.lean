import JvmFacts.Proofs.Registry.Requests
import JvmFacts.Proofs.Session.Operations

/-!
What a host can call for, and the states that it can get a session into. Methods are handles: a host
passes only methods that the session gave it.
-/

set_option autoImplicit false

namespace JvmFacts

open Relation

namespace Session

/-- The database of the current run is there as soon as someone holds it. -/
def ready (source : NullnessSource) (run : Nat) (s : Session) : Session :=
  if run = s.runNumber then s.createNullness source else s

end Session

inductive Call where
  | intern (request : Registry.Request)
  | canonical (text : String)
  | lookup (reader : ClassReader) (name : String)
  | analyze (reader : ClassReader) (c : ClassDescriptor)
  | resolve (c : ClassDescriptor) (parsed : ParsedClass)
  | depth (reader : ClassReader) (steps : Nat) (c : ClassDescriptor)
  | build (draft : MethodDraft)
  | register (m : Method)
  | annotate (m : Method) (slot : Slot) (a : Annotation)
  | notify (m : Method)
  | addRecorder
  | dropRecorder (index : Nat)
  | addLog (records : List LogRecord)
  | report (r : Report)
  | clearFacts
  | purgeClasses
  | clearClassCache
  | reset
  | addEntry (entry : String)
  | setBridge (source target : Method)
  | clearBridges
  | declareApplications (reader : ClassReader) (schedule : Session.Schedule)
    (applications : List ClassDescriptor)
  | updateDatabases (pass : Nat)
  | createHierarchy
  | addClass (run : Nat) (record : ResolvedClass) (kind : VertexKind)
  | createCheckReturn
  | setCheckReturn (change : CheckReturnTable → CheckReturnTable)
  | loadCheckReturn
  | createNullness (source : NullnessSource)
  | setDeclared (run : Nat) (m : MethodDescriptor) (slot : Slot) (value : Nullness)
  | loadNullness (source : NullnessSource) (run : Nat)
  | askNullness (source : NullnessSource) (run : Nat) (m : Method) (slot : Slot)
  | createRetention
  | setRetention (change : RetentionTable → RetentionTable)
  | takeCensus

namespace Call

/-- The session after the call, be it granted or turned down. -/
def effect : Call → Session → Session
  | intern request, s => ((Session.interning request.work).run.run s).2
  | canonical text, s => ((Session.interning (Registry.canonical text)).run.run s).2
  | lookup reader name, s => ((Session.lookup reader name).run.run s).2
  | analyze reader c, s => ((Session.classRecord reader c).run.run s).2
  | resolve c parsed, s => ((Session.resolve c parsed).run.run s).2
  | depth reader steps c, s => ((Session.depthWithin reader steps c).run.run s).2
  | build draft, s => ((Session.buildMethod draft).run.run s).2
  | register m, s => (s.keepMethod m).2
  | annotate m slot a, s => s.annotate m slot a
  | notify m, s => s.notify m
  | addRecorder, s => s.addRecorder.2
  | dropRecorder index, s => s.dropRecorder index
  | addLog records, s => s.addLog records
  | report r, s => s.report r
  | clearFacts, s => s.clearFacts
  | purgeClasses, s => s.purgeClasses
  | clearClassCache, s => (Session.clearClassCache.run.run s).2
  | reset, s => s.reset
  | addEntry entry, s => ((Session.addEntry entry).run.run s).2
  | setBridge source target, s => s.setBridge source target
  | clearBridges, s => s.clearBridges
  | declareApplications reader schedule applications, s =>
    ((Session.declareApplications reader schedule applications).run s).2
  | updateDatabases pass, s => s.updateDatabases pass
  | createHierarchy, s => s.createHierarchy
  | addClass run record kind, s => (s.addToHierarchy run record kind).2
  | createCheckReturn, s => s.createCheckReturn
  | setCheckReturn change, s => s.createCheckReturn.setCheckReturn change
  | loadCheckReturn, s => s.createCheckReturn.loadCheckReturn
  | createNullness source, s => s.createNullness source
  | setDeclared run m slot value, s =>
    s.setDeclared run ((s.declaredOf run).set m slot value)
  | loadNullness source run, s => (s.ready source run).loadNullness source run
  | askNullness source run m slot, s => ((s.ready source run).nullnessOf source run m slot).2
  | createRetention, s => s.createRetention
  | setRetention change, s => s.createRetention.setRetention change
  | takeCensus, s => s.takeCensus.2

/-- The methods that the call hands out and that need not be in the table. -/
def made : Call → Session → List Method
  | build draft, s => ((Session.buildMethod draft).run.run s).1.toOption.toList
  | _, _ => []

end Call

/-- A session with the methods that its host got hold of so far. -/
structure Host where
  session : Session
  methods : List Method

namespace Host

def start (config : Config) (registry : Registry) (paths : Paths) (reporter : Reporter) : Host :=
  ⟨Session.start config registry paths reporter, []⟩

/-- The host may take any method out of the table. -/
def after (h : Host) (call : Call) : Host :=
  ⟨call.effect h.session,
    h.methods ++ call.made h.session ++ (call.effect h.session).run.methods.values⟩

end Host

/-- A host passes methods that it got, and class descriptors and questions as it is free to. -/
def Call.Allowed (free : Freedom) (h : Host) : Call → Prop
  | .analyze _ c => free.MayName h.session.registry c
  | .depth _ _ c => free.MayName h.session.registry c
  | .register m => m ∈ h.methods
  | .annotate m _ _ => m ∈ h.methods
  | .askNullness .qualified run m _ => free.MayAsk h.session run m
  | _ => True

theorem Session.changes_ready {free : Freedom} {known : List Method} {s : Session}
    (source : NullnessSource) (run : Nat) : Changes free known s (s.ready source run) := by
  unfold ready
  split
  · exact changes_createNullness source
  · exact .refl

theorem Session.runNumber_ready (s : Session) (source : NullnessSource) (run : Nat) :
    (s.ready source run).runNumber = s.runNumber := by
  unfold ready
  split
  · exact s.runNumber_createNullness source
  · rfl

theorem Session.ready_isSome {s : Session} {source : NullnessSource} {run : Nat}
    (qualified : source = .qualified) (current : run = (s.ready source run).runNumber) :
    (s.ready source run).run.databases.qualified.isSome := by
  unfold ready at current ⊢
  split at current
  · rename_i now
    rw [if_pos now]
    exact createNullness_isSome qualified
  · rename_i past
    exact absurd current past

theorem Session.mayAsk_ready {free : Freedom} {s : Session} {run : Nat} {m : Method}
    (may : free.MayAsk s run m) : free.MayAsk (s.ready .qualified run) run m := by
  unfold ready
  split
  · rcases may with stray | held
    · exact Or.inl stray
    · right
      obtain ⟨listeners, qualified, created⟩ := s.createQualified_frame
      unfold createNullness
      rw [created]
      exact held
  · exact may

/-- A call is made of steps. -/
theorem Call.changes {free : Freedom} {h : Host} {call : Call} (tidy : Session.Tidy free h.session)
    (allowed : call.Allowed free h) :
    Session.Changes free h.methods h.session (call.effect h.session) := by
  cases call with
  | intern request =>
    have work := Registry.Request.yields_work tidy.registry request
    exact Session.changes_of_makes (Session.yields_interning work).steps
  | canonical text =>
    have work := Registry.yields_canonical h.session.registry text
    exact Session.changes_of_makes (Session.yields_interning work).steps
  | lookup reader name =>
    exact Session.changes_of_resolves (Session.yields_lookup tidy reader name).steps
  | analyze reader c =>
    exact Session.changes_of_resolves (Session.yields_classRecord tidy allowed reader).steps
  | resolve c parsed =>
    exact Session.changes_of_makes (Session.yields_resolve tidy.registry c parsed).steps
  | depth reader steps c => exact (Session.yields_depthWithin reader steps tidy allowed).steps
  | build draft => exact (Session.yields_buildMethod tidy.registry draft).steps
  | register m => exact .single (.keepMethod allowed)
  | annotate m slot a => exact .single (.annotate (Or.inl allowed))
  | notify m => exact .single .notify
  | addRecorder => exact .single .addRecorder
  | dropRecorder index => exact .single .dropRecorder
  | addLog records => exact .single .addLog
  | report r => exact .single .report
  | clearFacts => exact .single .clearFacts
  | purgeClasses => exact .single .purgeClasses
  | clearClassCache => exact Session.yields_clearClassCache.steps
  | reset => exact .single .reset
  | addEntry entry => exact (Session.yields_addEntry entry).steps
  | setBridge source target => exact .single .setBridges
  | clearBridges => exact .single .setBridges
  | declareApplications reader schedule applications =>
    exact Session.changes_declareApplications tidy reader schedule applications
  | updateDatabases pass => exact Session.changes_updateDatabases tidy pass
  | createHierarchy => exact .single .createHierarchy
  | addClass run record kind => exact .single .addToHierarchy
  | createCheckReturn => exact Session.changes_createCheckReturn
  | setCheckReturn change =>
    exact Session.changes_createCheckReturn.trans (Session.changes_setCheckReturn change)
  | loadCheckReturn =>
    have created : Session.Changes free h.methods h.session h.session.createCheckReturn :=
      Session.changes_createCheckReturn
    exact created.trans (Session.changes_loadCheckReturn (tidy.changes created).registry)
  | createNullness source => exact Session.changes_createNullness source
  | setDeclared run m slot value => exact Session.changes_setDeclared run _
  | loadNullness source run =>
    have made : Session.Changes free h.methods h.session (h.session.ready source run) :=
      Session.changes_ready source run
    apply made.trans
    exact Session.changes_loadNullness (tidy.changes made).registry source run Session.ready_isSome
  | askNullness source run m slot =>
    have made : Session.Changes free h.methods h.session (h.session.ready source run) :=
      Session.changes_ready source run
    cases source with
    | declared => exact made
    | qualified =>
      exact made.tail (.askQualified (Session.mayAsk_ready allowed) (Session.ready_isSome rfl))
  | createRetention => exact Session.changes_createRetention
  | setRetention change =>
    exact Session.changes_createRetention.trans (Session.changes_setRetention change)
  | takeCensus => exact Session.changes_takeCensus

/-- What a host can reach from a fresh session over any registry. -/
inductive Host.Reached (free : Freedom) : Host → Prop
  | start {config : Config} {registry : Registry} {paths : Paths} {reporter : Reporter}
    (wf : registry.WellFormed) : Reached free (start config registry paths reporter)
  | after {h : Host} {call : Call} (reached : Reached free h) (allowed : call.Allowed free h) :
    Reached free (h.after call)

theorem Host.Reached.tidy {free : Freedom} {h : Host} (reached : Reached free h) :
    Session.Tidy free h.session := by
  induction reached with
  | start wf => exact ⟨wf, fun id record found => by cases found⟩
  | after _ allowed ih => exact ih.changes (Call.changes ih allowed)

end JvmFacts
