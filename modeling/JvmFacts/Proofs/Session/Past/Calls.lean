import JvmFacts.Proofs.Session.Past.Databases

/-!
What calls answer, and that a session with a past answers a call as a session without it does, up to
the numbers that count over the whole life of a session.
-/

set_option autoImplicit false

namespace JvmFacts

inductive Reply where
  | done
  | text (text : String)
  | descriptor (outcome : Except Fault Descriptor)
  | method (outcome : Except Fault Method)
  | record (outcome : Except Fault ResolvedClass)
  | depth (outcome : Except Fault Nat)
  | granted (outcome : Except Fault Unit)
  | recorder (index : Nat)
  | nullness (answer : Option Nullness)
  | census (census : Census)

/-- The class that a reply hands out. -/
def Reply.records : Reply → List ResolvedClass
  | record outcome => outcome.toOption.toList
  | _ => []

namespace Call

/-- What a call answers in a session. -/
def reply : Call → Session → Reply
  | intern request, s => .descriptor ((Session.interning request.work).run.run s).1
  | canonical text, _ => .text text
  | lookup reader name, s => .record ((Session.lookup reader name).run.run s).1
  | analyze reader c, s => .record ((Session.classRecord reader c).run.run s).1
  | resolve c parsed, s => .record ((Session.resolve c parsed).run.run s).1
  | depth reader steps c, s => .depth ((Session.depthWithin reader steps c).run.run s).1
  | build draft, s => .method ((Session.buildMethod draft).run.run s).1
  | register m, s => .method (.ok (s.keepMethod m).1)
  | addRecorder, s => .recorder s.addRecorder.1
  | clearClassCache, s => .granted (Session.clearClassCache.run.run s).1
  | addEntry entry, s => .granted ((Session.addEntry entry).run.run s).1
  | addClass run record kind, s => .granted (s.addToHierarchy run record kind).1
  | askNullness source run m slot, s =>
    .nullness ((s.ready source run).nullnessOf source run m slot).1
  | takeCensus, s => .census s.takeCensus.1
  | _, _ => .done

/-- The call passes only methods that the host has, and databases of runs that there were. -/
def OfHost (h : Host) : Call → Prop
  | register m => m ∈ h.methods
  | annotate m _ _ => m ∈ h.methods
  | notify m => m ∈ h.methods
  | setBridge source target => source ∈ h.methods ∧ target ∈ h.methods
  | addClass run _ _ => run ≤ h.session.runNumber
  | setDeclared run _ _ _ => run ≤ h.session.runNumber
  | loadNullness _ run => run ≤ h.session.runNumber
  | askNullness _ run m _ => m ∈ h.methods ∧ run ≤ h.session.runNumber
  | _ => True

theorem OfHost.allowed {h : Host} {call : Call} (own : call.OfHost h) :
    call.Allowed ⟨true, true⟩ h := by
  cases call with
  | analyze => exact Or.inl rfl
  | depth => exact Or.inl rfl
  | register => exact own
  | annotate => exact own
  | askNullness source =>
    cases source with
    | declared => trivial
    | qualified => exact Or.inl rfl
  | _ => trivial

end Call

namespace Past

variable (p : Past)

/-- The same call to the session with the past. -/
def call : Call → Call
  | .register m => .register (p.method m)
  | .annotate m slot a => .annotate (p.method m) slot a
  | .notify m => .notify (p.method m)
  | .dropRecorder index => .dropRecorder (index + p.recorders)
  | .setBridge source target => .setBridge (p.method source) (p.method target)
  | .addClass run record kind => .addClass (run + p.runs) (p.record record) kind
  | .setDeclared run m slot value => .setDeclared (run + p.runs) m slot value
  | .loadNullness source run => .loadNullness source (run + p.runs)
  | .askNullness source run m slot => .askNullness source (run + p.runs) (p.method m) slot
  | call => call

def reply : Reply → Reply
  | .method outcome => .method (outcome.map p.method)
  | .record outcome => .record (outcome.map p.record)
  | .recorder index => .recorder (index + p.recorders)
  | reply => reply

variable {p}

/-- Work that does the same in both sessions, as a call that answers with its outcome. -/
theorem Agrees.call {α β : Type} {f : α → β} {work : Working α} {later : Working β}
    (agrees : p.Agrees f work later) (answer : Except Fault α → Reply)
    (answerLater : Except Fault β → Reply)
    (fits : ∀ outcome, answerLater (outcome.map f) = p.reply (answer outcome)) {s t : Session}
    (before : p.Before s t) :
    p.Matches p.reply (answer (work.run.run s).1, (work.run.run s).2)
      (answerLater (later.run.run t).1, (later.run.run t).2) := by
  obtain ⟨same, still⟩ := agrees s t before
  refine ⟨?_, still⟩
  dsimp only
  rw [same, fits]

theorem map_id_outcome {α : Type} (outcome : Except Fault α) : outcome.map id = outcome :=
  congrFun Except.map_id outcome

/-- A host without past and one with it: their calls end alike. -/
theorem Before.call {h : Host} {t : Session} (before : p.Before h.session t)
    (reached : h.Reached ⟨true, true⟩) {call : Call} (own : call.OfHost h) :
    p.Matches p.reply (call.reply h.session, call.effect h.session)
      ((p.call call).reply t, (p.call call).effect t) := by
  have genuine := reached.genuine
  have older : ∀ m ∈ h.methods, m.serial < h.session.methodsMade :=
    fun m member => genuine.older m (Or.inl member)
  cases call with
  | intern request =>
    exact (agrees_interning request.work).call .descriptor .descriptor
      (fun outcome => congrArg _ (map_id_outcome outcome)) before
  | canonical text => exact ⟨rfl, (agrees_interning (Registry.canonical text) _ _ before).2⟩
  | lookup reader name =>
    exact (agrees_lookup reader name).call .record .record (fun _ => rfl) before
  | analyze reader c =>
    exact (agrees_classRecord reader c).call .record .record (fun _ => rfl) before
  | resolve c parsed => exact (agrees_resolve c parsed).call .record .record (fun _ => rfl) before
  | depth reader steps c =>
    exact (agrees_depthWithin reader steps c).call .depth .depth
      (fun outcome => congrArg _ (map_id_outcome outcome)) before
  | build draft => exact (agrees_buildMethod draft).call .method .method (fun _ => rfl) before
  | register m =>
    obtain ⟨held, still⟩ := before.keepMethod m
    exact ⟨congrArg (fun m => Reply.method (.ok m)) held, still⟩
  | annotate m slot a => exact ⟨rfl, before.annotate (older m own) slot a⟩
  | notify m => exact ⟨rfl, before.notify m⟩
  | addRecorder =>
    obtain ⟨index, still⟩ := before.addRecorder
    exact ⟨congrArg Reply.recorder index, still⟩
  | dropRecorder index => exact ⟨rfl, before.dropRecorder index⟩
  | addLog records => exact ⟨rfl, before.addLog _ _⟩
  | report r => exact ⟨rfl, before.report r⟩
  | clearFacts => exact ⟨rfl, before.clearFacts⟩
  | purgeClasses => exact ⟨rfl, before.purgeClasses⟩
  | clearClassCache =>
    exact agrees_clearClassCache.call .granted .granted
      (fun outcome => congrArg _ (map_id_outcome outcome)) before
  | reset => exact ⟨rfl, before.reset⟩
  | addEntry entry =>
    exact (agrees_addEntry entry).call .granted .granted
      (fun outcome => congrArg _ (map_id_outcome outcome)) before
  | setBridge source target => exact ⟨rfl, before.setBridge source target⟩
  | clearBridges => exact ⟨rfl, before.clearBridges⟩
  | declareApplications reader schedule applications =>
    exact ⟨rfl, before.declareApplications reader schedule applications⟩
  | updateDatabases pass => exact ⟨rfl, before.updateDatabases reached.tidy genuine pass⟩
  | createHierarchy => exact ⟨rfl, before.createHierarchy⟩
  | addClass run record kind =>
    obtain ⟨outcome, still⟩ := before.addToHierarchy own record kind
    exact ⟨congrArg Reply.granted outcome, still⟩
  | createCheckReturn => exact ⟨rfl, before.createCheckReturn⟩
  | setCheckReturn change => exact ⟨rfl, before.createCheckReturn.setCheckReturn change⟩
  | loadCheckReturn => exact ⟨rfl, before.createCheckReturn.loadCheckReturn⟩
  | createNullness source => exact ⟨rfl, before.createNullness source⟩
  | setDeclared run m slot value =>
    refine ⟨rfl, ?_⟩
    have same := before.declaredOf own
    change p.Before (h.session.setDeclared run ((h.session.declaredOf run).set m slot value))
      (t.setDeclared (run + p.runs) ((t.declaredOf (run + p.runs)).set m slot value))
    rw [same]
    exact before.setDeclared own _
  | loadNullness source run =>
    have made : Session.Changes ⟨true, true⟩ h.methods h.session (h.session.ready source run) :=
      Session.changes_ready source run
    have present : run ≤ (h.session.ready source run).runNumber := by
      rw [Session.runNumber_ready]
      exact own
    exact ⟨rfl, (before.ready source run).loadNullness (Session.genuine_of_changes genuine made)
      source present⟩
  | askNullness source run m slot =>
    have made : Session.Changes ⟨true, true⟩ h.methods h.session (h.session.ready source run) :=
      Session.changes_ready source run
    have present : run ≤ (h.session.ready source run).runNumber := by
      rw [Session.runNumber_ready]
      exact own.2
    have still := (Session.genuine_of_changes genuine made).older m (Or.inl own.1)
    obtain ⟨answer, after⟩ := (before.ready source run).nullnessOf present source still slot
    exact ⟨congrArg Reply.nullness answer, after⟩
  | createRetention => exact ⟨rfl, before.createRetention⟩
  | setRetention change => exact ⟨rfl, before.createRetention.setRetention change⟩
  | takeCensus =>
    obtain ⟨census, still⟩ := before.takeCensus
    exact ⟨congrArg Reply.census census, still⟩

/-- The methods that the call hands out. -/
theorem Before.made {s t : Session} (before : p.Before s t) (call : Call) :
    (p.call call).made t = (call.made s).map p.method := by
  cases call with
  | build draft =>
    have same := (agrees_buildMethod draft s t before).1
    change ((Session.buildMethod draft).run.run t).1.toOption.toList =
      (((Session.buildMethod draft).run.run s).1.toOption.toList).map p.method
    rw [same]
    cases ((Session.buildMethod draft).run.run s).1 <;> rfl
  | _ => rfl

end Past

end JvmFacts
