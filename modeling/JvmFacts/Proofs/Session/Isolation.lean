import JvmFacts.Proofs.Session.Bridges
import JvmFacts.Proofs.Session.Builds
import JvmFacts.Proofs.Session.Past.Script

/-!
What a reset forgets: everything. A client that begins after it cannot tell what was before, and of a
method that someone kept nothing is known any more until it is built or bridged again.

How the resolutions of a declaration run into each other is settled by nothing that a session holds, so
each call comes with its schedule. Whatever a script may be answered after one history, it may be
answered after the other.
-/

set_option autoImplicit false

namespace JvmFacts

namespace Session

end Session

namespace Host

/-- What a client that begins with a reset has behind it. -/
def past (h : Host) : Past where
  methods := h.session.methodsMade
  classes := h.session.classesMade
  recorders := h.session.recorders.length
  runs := h.session.runNumber + 1
  events := (h.session.events?.getD []).length

/-- A client that begins with a reset. Of the handles that the host had it has none. -/
def afresh (h : Host) : Client where
  host := ⟨(h.after .reset).session, []⟩

/-- The registries and the switches are the same, and so is whether class path entries are kept. -/
structure Akin (h k : Host) : Prop where
  config : h.session.config = k.session.config
  registry : h.session.registry = k.session.registry
  paths : h.session.paths.keepsEntries = k.session.paths.keepsEntries

theorem Akin.refl (h : Host) : h.Akin h :=
  ⟨rfl, rfl, rfl⟩

/-- The client that begins without a past, over the registry of the host. -/
def anew (h : Host) : Client where
  host := start h.session.config h.session.registry h.session.paths (.collect [])

/-- After a reset a session is a new one with a past. -/
theorem Akin.clients {h k : Host} (akin : h.Akin k) : k.past.Clients h.anew k.afresh where
  before :=
    { config := akin.config.symm
      registry := akin.registry.symm
      paths := akin.paths.symm
      reporter := by
        intro all given
        have held : k.session.events? = some all := given
        have events : k.past.events = all.length := congrArg (fun e => (e.getD []).length) held
        rw [events]
        exact ⟨Nat.le_refl _, congrArg some List.drop_length.symm⟩
      run := rfl
      runNumber := (Nat.zero_add _).symm
      retired := fun n below => absurd below (Nat.not_lt_zero n)
      annotations := fun n below => absurd below (Nat.not_lt_zero n)
      methodsMade := (Nat.zero_add _).symm
      classesMade := (Nat.zero_add _).symm
      recorderCount := (Nat.zero_add _).symm
      recorders := fun index => List.getElem?_eq_none (Nat.le_add_left _ index) }
  methods := rfl
  records := rfl

/-- Where the host can get after a reset, by calls that are quiet in this sense. -/
inductive Later (free : Freedom) (quiet : Host → Call → Prop) (h : Host) : Host → Prop
  | reset : Later free quiet h (h.after .reset)
  | after {later : Host} {call : Call} (before : Later free quiet h later)
    (allowed : call.Allowed free later) (silent : quiet later call) :
    Later free quiet h (later.after call)

/-- The call builds no draft of the method. -/
def BuildsNone (d : MethodDescriptor) (h : Host) (call : Call) : Prop :=
  buildsOf d (call.drafts h.session) = []

/-- A bridge that the call sets is one between methods of the host and does not come from this one. -/
def BridgesNoneFrom (d : MethodDescriptor) (h : Host) : Call → Prop
  | .setBridge source _ => source ∈ h.methods ∧ source.descriptor ≠ d
  | _ => True

/-- A bridge that the call sets is one between methods of the host and does not lead to this one. -/
def BridgesNoneTo (d : MethodDescriptor) (h : Host) : Call → Prop
  | .setBridge _ target => target ∈ h.methods ∧ target.descriptor ≠ d
  | _ => True

section

variable {free : Freedom} {quiet : Host → Call → Prop} {h later : Host}

theorem Later.reached (reached : h.Reached free) (run : h.Later free quiet later) :
    later.Reached free := by
  induction run with
  | reset => exact .after reached trivial
  | after _ allowed _ ih => exact .after ih allowed

theorem mem_methods_after {m : Method} (member : m ∈ h.methods) (call : Call) :
    m ∈ (h.after call).methods :=
  List.mem_append_left _ (List.mem_append_left _ member)

theorem Later.mem_methods {m : Method} (member : m ∈ h.methods) (run : h.Later free quiet later) :
    m ∈ later.methods := by
  induction run with
  | reset => exact mem_methods_after member .reset
  | after _ _ _ ih => exact mem_methods_after ih _

/-- Two methods that a host has have the same descriptor if they have the same id. -/
theorem Reached.descriptor_eq (reached : h.Reached free) {m n : Method} (one : m ∈ h.methods)
    (two : n ∈ h.methods) (same : m.descriptor.id = n.descriptor.id) :
    m.descriptor = n.descriptor :=
  reached.tidy.registry.method_inj (reached.genuine.registered m (Or.inl one))
    (reached.genuine.registered n (Or.inl two)) same

variable {m : Method} (reached : h.Reached free) (member : m ∈ h.methods)

include reached member

theorem Later.agree (run : h.Later free (BuildsNone m.descriptor) later) :
    FactTables.Agree m.descriptor.id .empty later.session.run.facts := by
  induction run with
  | reset => exact .refl _ _
  | @after later call before allowed silent ih =>
    have known := before.reached reached
    cases forgets : call.forgets with
    | true =>
      have facts : (later.after call).session.run.facts = .empty :=
        Call.facts_of_forgets forgets later.session
      rw [facts]
      exact .refl _ _
    | false =>
      have held := known.genuine.registered m (Or.inl (before.mem_methods member))
      have built := Call.builds known.tidy allowed forgets
      exact ih.trans (built.agree known.tidy.registry held silent)

theorem Later.target (run : h.Later free (BridgesNoneFrom m.descriptor) later) :
    later.session.run.bridges.target? m.descriptor = none := by
  induction run with
  | reset => rfl
  | @after later call before allowed silent ih =>
    rcases call.bridges_cases later.session with same | empty | ⟨source, target, rfl, linked⟩
    · exact (congrArg (·.target? m.descriptor) same).trans ih
    · exact congrArg (·.target? m.descriptor) empty
    · have apart : source.descriptor.id ≠ m.descriptor.id := by
        intro same
        have known := before.reached reached
        exact silent.2 (known.descriptor_eq silent.1 (before.mem_methods member) same)
      have inserted := Table.find?_insert source.descriptor.id m.descriptor.id target
        later.session.run.bridges.targets
      rw [if_neg apart] at inserted
      exact (congrArg (·.target? m.descriptor) linked).trans (inserted.trans ih)

theorem Later.source (run : h.Later free (BridgesNoneTo m.descriptor) later) :
    later.session.run.bridges.source? m.descriptor = none := by
  induction run with
  | reset => rfl
  | @after later call before allowed silent ih =>
    rcases call.bridges_cases later.session with same | empty | ⟨source, target, rfl, linked⟩
    · exact (congrArg (·.source? m.descriptor) same).trans ih
    · exact congrArg (·.source? m.descriptor) empty
    · have apart : target.descriptor.id ≠ m.descriptor.id := by
        intro same
        have known := before.reached reached
        exact silent.2 (known.descriptor_eq silent.1 (before.mem_methods member) same)
      have inserted := Table.find?_insert target.descriptor.id m.descriptor.id source
        later.session.run.bridges.sources
      rw [if_neg apart] at inserted
      exact (congrArg (·.source? m.descriptor) linked).trans (inserted.trans ih)

end

def failDraft : MethodDraft where
  className := "a/B"
  name := "fail"
  signature := "()V"
  flags := .ofList []
  alwaysThrows := true

/-- The first method of a session, made from that draft. -/
def fail : Method where
  descriptor := ⟨2, ⟨0, 1, "a/B"⟩, "fail", "()V", false⟩
  flags := .ofList []
  sourceSignature := none
  exceptions := []
  syntheticParameters := 0
  callCount := 0
  usesConcurrency := false
  hasBackBranch := false
  isStub := false
  serial := 0

/-- A host that built the method, bridged it to itself and asked about it. -/
def busy : Host :=
  (((start .usual { token := 0 } .fixed (.collect [])).after (.build failDraft)).after
    (.setBridge fail fail)).after (.askNullness .qualified 0 fail none)

/-- A host that interned the same method and did nothing else. -/
def idle : Host :=
  (start .usual { token := 0 } .fixed (.collect [])).after
    (.intern (.ofMember .method "a/B" "fail" "()V" false))

/-- Builds the method, keeps it in the table and asks about its result. -/
def rebuild : List Command :=
  [.plain (.build failDraft), .register 0, .askNullness .qualified 0 0 none]

end Host

end JvmFacts
