import JvmFacts.Proofs.Session.Past.Calls

/-!
Scripts of a client that begins when a run begins. A script names its handles in the order in which
the client got them, so one script can be run in any session; what the client sees is numbered from
its beginning on. It never sees what was before.
-/

set_option autoImplicit false

namespace JvmFacts

/-! ## What is counted from the past on -/

namespace Past

variable (p : Past)

def methodSince (m : Method) : Method :=
  { m with serial := m.serial - p.methods }

def recordSince (c : ResolvedClass) : ResolvedClass :=
  { c with serial := c.serial - p.classes, methods := c.methods.map p.methodSince }

def listenerSince : Listener → Listener
  | .qualifiedNullness => .qualifiedNullness
  | .recorder index => .recorder (index - p.recorders)

def runSince (r : Run) : Run :=
  { r with
    listeners := r.listeners.map p.listenerSince
    classes := r.classes.mapValues p.recordSince
    methods := r.methods.mapValues p.methodSince
    bridges := ⟨r.bridges.targets.mapValues p.methodSince, r.bridges.sources.mapValues p.methodSince⟩ }

def replySince : Reply → Reply
  | .method outcome => .method (outcome.map p.methodSince)
  | .record outcome => .record (outcome.map p.recordSince)
  | .recorder index => .recorder (index - p.recorders)
  | reply => reply

theorem methodSince_method (m : Method) : p.methodSince (p.method m) = m := by
  unfold methodSince method
  simp only [Nat.add_sub_cancel]

theorem recordSince_record (c : ResolvedClass) : p.recordSince (p.record c) = c := by
  have methods : (c.methods.map p.method).map p.methodSince = c.methods := by
    rw [List.map_map]
    exact List.map_id'' p.methodSince_method c.methods
  unfold recordSince record
  simp only [Nat.add_sub_cancel, methods]

theorem listenerSince_listener (l : Listener) : p.listenerSince (p.listener l) = l := by
  cases l with
  | qualifiedNullness => rfl
  | recorder index => exact congrArg Listener.recorder (Nat.add_sub_cancel ..)

theorem mapValues_since {κ α : Type} {f g : α → α} (inverse : ∀ a, g (f a) = a) (t : Table κ α) :
    Table.mapValues g (Table.mapValues f t) = t := by
  unfold Table.mapValues
  rw [List.map_map]
  apply List.map_id''
  intro entry
  exact Prod.ext rfl (inverse entry.2)

theorem runSince_run (r : Run) : p.runSince (p.run r) = r := by
  have listeners : (r.listeners.map p.listener).map p.listenerSince = r.listeners := by
    rw [List.map_map]
    exact List.map_id'' p.listenerSince_listener r.listeners
  unfold runSince run bridges
  simp only [listeners, mapValues_since p.recordSince_record, mapValues_since p.methodSince_method]

theorem replySince_reply (r : Reply) : p.replySince (p.reply r) = r := by
  cases r with
  | method outcome =>
    cases outcome with
    | error fault => rfl
    | ok m => exact congrArg (fun m => Reply.method (.ok m)) (p.methodSince_method m)
  | record outcome =>
    cases outcome with
    | error fault => rfl
    | ok c => exact congrArg (fun c => Reply.record (.ok c)) (p.recordSince_record c)
  | recorder index => exact congrArg Reply.recorder (Nat.add_sub_cancel ..)
  | _ => rfl

end Past

/-! ## Clients -/

/-- A host, with the class records that it got. -/
structure Client where
  host : Host
  records : List ResolvedClass := []

/-- All that a client can look at: what the run gathered, the databases of the runs since, and what
there is behind each handle. -/
structure View where
  registry : Registry
  run : Run
  databases : List Databases
  methods : List (Method × MethodAnnotations)
  records : List ResolvedClass
  recorders : List Recorder

/-- One command of a script. Methods, records and recorders are named by the order in which the
client got them, runs by how many there were since. -/
inductive Command where
  | plain (call : Call)
  | register (method : Nat)
  | annotate (method : Nat) (slot : Slot) (a : Annotation)
  | notify (method : Nat)
  | dropRecorder (recorder : Nat)
  | setBridge (source target : Nat)
  | addClass (run record : Nat) (kind : VertexKind)
  | setDeclared (run : Nat) (m : MethodDescriptor) (slot : Slot) (value : Nullness)
  | loadNullness (source : NullnessSource) (run : Nat)
  | askNullness (source : NullnessSource) (run method : Nat) (slot : Slot)

/-- The call passes no handle. -/
def Call.isPlain : Call → Bool
  | register _ | annotate .. | notify _ | dropRecorder _ | setBridge .. | addClass ..
  | setDeclared .. | loadNullness .. | askNullness .. => false
  | _ => true

namespace Client

def session (c : Client) : Session :=
  c.host.session

def method? (c : Client) (index : Nat) : Option Method :=
  c.host.methods[index]?

/-- The number of a run, if there was one so many runs after the past. -/
def run? (p : Past) (c : Client) (run : Nat) : Option Nat :=
  if run + p.runs ≤ c.session.runNumber then some (run + p.runs) else none

/-- The call that a command stands for, if all its handles are there. -/
def call? (p : Past) (c : Client) : Command → Option Call
  | .plain call => if call.isPlain then some call else none
  | .register method => (c.method? method).map .register
  | .annotate method slot a => (c.method? method).map (.annotate · slot a)
  | .notify method => (c.method? method).map .notify
  | .dropRecorder recorder => some (.dropRecorder (recorder + p.recorders))
  | .setBridge source target =>
    (c.method? source).bind fun source => (c.method? target).map (.setBridge source)
  | .addClass run record kind =>
    (c.run? p run).bind fun run => c.records[record]?.map (.addClass run · kind)
  | .setDeclared run m slot value => (c.run? p run).map (.setDeclared · m slot value)
  | .loadNullness source run => (c.run? p run).map (.loadNullness source)
  | .askNullness source run method slot =>
    (c.run? p run).bind fun run => (c.method? method).map (.askNullness source run · slot)

/-- A command without its handles is passed over. -/
def after (p : Past) (c : Client) (command : Command) : Client :=
  match c.call? p command with
  | some call => ⟨c.host.after call, c.records ++ (call.reply c.session).records⟩
  | none => c

def view (p : Past) (c : Client) : View where
  registry := c.session.registry
  run := p.runSince c.session.run
  databases := (List.range (c.session.runNumber + 1 - p.runs)).map fun run =>
    c.session.databasesOf (run + p.runs)
  methods := c.host.methods.map fun m => (p.methodSince m, c.session.annotationsOf m)
  records := c.records.map p.recordSince
  recorders := c.session.recorders.drop p.recorders

/-- What the client learns from a command: the reply, if the call could be made, and what it can look
at afterwards. -/
@[ext] structure Answer where
  reply : Option Reply
  view : View

def answer (p : Past) (c : Client) (command : Command) : Answer where
  reply := (c.call? p command).map fun call => p.replySince (call.reply c.session)
  view := (c.after p command).view p

def answers (p : Past) : Client → List Command → List Answer
  | _, [] => []
  | c, command :: rest => c.answer p command :: answers p (c.after p command) rest

/-- The events that were kept since, where events are kept at all. -/
def events? (p : Past) (c : Client) : Option (List Event) :=
  c.session.events?.map (·.drop p.events)

theorem ofHost_of_call? {c : Client} {command : Command} {call : Call}
    (made : c.call? {} command = some call) : call.OfHost c.host := by
  have handed : ∀ {index : Nat} {m : Method}, c.method? index = some m → m ∈ c.host.methods :=
    fun found => List.mem_of_getElem? found
  have known : ∀ {run n : Nat}, c.run? {} run = some n → n ≤ c.host.session.runNumber := by
    intro run n found
    unfold run? at found
    split at found
    · rename_i below
      obtain rfl := Option.some.inj found
      exact below
    · cases found
  cases command with
  | plain plain =>
    simp only [call?] at made
    split at made
    · rename_i bare
      obtain rfl := Option.some.inj made
      cases plain <;> trivial
    · cases made
  | register method =>
    obtain ⟨m, found, rfl⟩ := Option.map_eq_some_iff.1 made
    exact handed found
  | annotate method slot a =>
    obtain ⟨m, found, rfl⟩ := Option.map_eq_some_iff.1 made
    exact handed found
  | notify method =>
    obtain ⟨m, found, rfl⟩ := Option.map_eq_some_iff.1 made
    exact handed found
  | dropRecorder recorder =>
    obtain rfl := Option.some.inj made
    trivial
  | setBridge source target =>
    obtain ⟨m, found, further⟩ := Option.bind_eq_some_iff.1 made
    obtain ⟨n, also, rfl⟩ := Option.map_eq_some_iff.1 further
    exact ⟨handed found, handed also⟩
  | addClass run record kind =>
    obtain ⟨n, found, further⟩ := Option.bind_eq_some_iff.1 made
    obtain ⟨x, -, rfl⟩ := Option.map_eq_some_iff.1 further
    exact known found
  | setDeclared run m slot value =>
    obtain ⟨n, found, rfl⟩ := Option.map_eq_some_iff.1 made
    exact known found
  | loadNullness source run =>
    obtain ⟨n, found, rfl⟩ := Option.map_eq_some_iff.1 made
    exact known found
  | askNullness source run method slot =>
    obtain ⟨n, found, further⟩ := Option.bind_eq_some_iff.1 made
    obtain ⟨m, also, rfl⟩ := Option.map_eq_some_iff.1 further
    exact ⟨handed also, known found⟩

end Client

/-! ## Two clients -/

namespace Past

variable {p : Past} {c d : Client}

/-- The second client is in a session with the past; apart from this it stands where the first one
does. -/
structure Clients (p : Past) (c d : Client) : Prop where
  before : p.Before c.session d.session
  methods : d.host.methods = c.host.methods.map p.method
  records : d.records = c.records.map p.record

namespace Clients

variable (clients : p.Clients c d)

include clients

theorem method? (index : Nat) : d.method? index = (c.method? index).map p.method := by
  unfold Client.method?
  rw [clients.methods, List.getElem?_map]

theorem run? (run : Nat) : d.run? p run = (c.run? {} run).map (· + p.runs) := by
  have runNumber := clients.before.runNumber
  have early : c.run? {} run = if run ≤ c.session.runNumber then some run else none := rfl
  rw [early]
  unfold Client.run?
  by_cases known : run ≤ c.session.runNumber
  · rw [if_pos known, if_pos (by omega)]
    rfl
  · rw [if_neg known, if_neg (by omega)]
    rfl

/-- A command stands for the same call in both sessions. -/
theorem call? (command : Command) : d.call? p command = (c.call? {} command).map p.call := by
  cases command with
  | plain call =>
    simp only [Client.call?]
    cases bare : call.isPlain with
    | false => rfl
    | true =>
      have same : p.call call = call := by
        cases call <;> first | rfl | cases bare
      exact congrArg some same.symm
  | register method =>
    simp only [Client.call?]
    rw [clients.method?, Option.map_map, Option.map_map]
    rfl
  | annotate method slot a =>
    simp only [Client.call?]
    rw [clients.method?, Option.map_map, Option.map_map]
    rfl
  | notify method =>
    simp only [Client.call?]
    rw [clients.method?, Option.map_map, Option.map_map]
    rfl
  | dropRecorder recorder => rfl
  | setBridge source target =>
    simp only [Client.call?]
    rw [clients.method?, clients.method?]
    cases c.method? source with
    | none => rfl
    | some m => cases c.method? target <;> rfl
  | addClass run record kind =>
    simp only [Client.call?]
    rw [clients.run?, clients.records, List.getElem?_map]
    cases c.run? {} run with
    | none => rfl
    | some n => cases c.records[record]? <;> rfl
  | setDeclared run m slot value =>
    simp only [Client.call?]
    rw [clients.run?, Option.map_map, Option.map_map]
    rfl
  | loadNullness source run =>
    simp only [Client.call?]
    rw [clients.run?, Option.map_map, Option.map_map]
    rfl
  | askNullness source run method slot =>
    simp only [Client.call?]
    rw [clients.run?, clients.method?]
    cases c.run? {} run with
    | none => rfl
    | some n => cases c.method? method <;> rfl

theorem after (reached : c.host.Reached ⟨true, true⟩) (command : Command) :
    p.Clients (c.after {} command) (d.after p command) := by
  have same := clients.call? command
  unfold Client.after
  rw [same]
  cases made : c.call? {} command with
  | none => exact clients
  | some call =>
    obtain ⟨reply, still⟩ := clients.before.call reached (Client.ofHost_of_call? made)
    refine ⟨still, ?_, ?_⟩
    · change d.host.methods ++ (p.call call).made d.session ++
          ((p.call call).effect d.session).run.methods.values =
        (c.host.methods ++ call.made c.session ++
          (call.effect c.session).run.methods.values).map p.method
      rw [clients.methods, clients.before.made, still.methods, Table.values_mapValues,
        List.map_append, List.map_append]
      rfl
    · have records : ((p.call call).reply d.session).records =
          (call.reply c.session).records.map p.record := by
        have shown : ∀ r : Reply, (p.reply r).records = r.records.map p.record := by
          intro r
          cases r with
          | record outcome => cases outcome <;> rfl
          | _ => rfl
        exact (congrArg Reply.records reply).trans (shown _)
      change d.records ++ ((p.call call).reply d.session).records =
        (c.records ++ (call.reply c.session).records).map p.record
      rw [clients.records, records, List.map_append]

/-- A client with a past sees what one without past sees. -/
theorem view (reached : c.host.Reached ⟨true, true⟩) : d.view p =
    { registry := c.session.registry
      run := c.session.run
      databases := (List.range (c.session.runNumber + 1)).map c.session.databasesOf
      methods := c.host.methods.map fun m => (m, c.session.annotationsOf m)
      records := c.records
      recorders := c.session.recorders } := by
  have before := clients.before
  have runs : d.session.runNumber + 1 - p.runs = c.session.runNumber + 1 := by
    have runNumber := before.runNumber
    omega
  have databases : (List.range (c.session.runNumber + 1)).map (fun run =>
      d.session.databasesOf (run + p.runs)) =
        (List.range (c.session.runNumber + 1)).map c.session.databasesOf := by
    apply List.map_congr_left
    intro run member
    have below := List.mem_range.1 member
    exact before.databasesOf (by omega)
  have methods : d.host.methods.map (fun m => (p.methodSince m, d.session.annotationsOf m)) =
      c.host.methods.map fun m => (m, c.session.annotationsOf m) := by
    rw [clients.methods, List.map_map]
    apply List.map_congr_left
    intro m member
    have older := reached.genuine.older m (Or.inl member)
    exact Prod.ext (p.methodSince_method m) (before.annotationsOf older)
  have records : d.records.map p.recordSince = c.records := by
    rw [clients.records, List.map_map]
    exact List.map_id'' p.recordSince_record c.records
  have recorders : d.session.recorders.drop p.recorders = c.session.recorders := by
    apply List.ext_getElem?
    intro index
    rw [List.getElem?_drop, Nat.add_comm]
    exact before.recorders index
  unfold Client.view
  rw [before.registry, before.run, p.runSince_run, runs, databases, methods, records, recorders]

theorem reply (reached : c.host.Reached ⟨true, true⟩) (command : Command) :
    (d.answer p command).reply = (c.call? {} command).map fun call => call.reply c.session := by
  change (d.call? p command).map (fun call => p.replySince (call.reply d.session)) = _
  rw [clients.call?, Option.map_map]
  cases made : c.call? {} command with
  | none => rfl
  | some call =>
    have fits := (clients.before.call reached (Client.ofHost_of_call? made)).1
    exact congrArg some ((congrArg p.replySince fits).trans (p.replySince_reply _))

theorem events {kept : List Event} (held : d.events? p = some kept) :
    c.session.events? = some kept := by
  obtain ⟨all, given, rfl⟩ := Option.map_eq_some_iff.1 held
  exact (clients.before.reporter all given).2

end Clients

end Past

end JvmFacts
