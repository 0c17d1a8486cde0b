import JvmFacts.Proofs.Method.Retelling
import JvmFacts.Proofs.Session.Chronicle

/-!
Resolving a class again after the records were dropped. All that the class mentions is interned, its
methods are in the table and their facts are recorded, so a new record of the same contents is all
that comes of it.
-/

set_option autoImplicit false

namespace JvmFacts

open List

/-! ## What was built -/

namespace Deed

def stand (built : List MethodDraft) : Deed → List MethodDraft
  | cleared => []
  | deed => built ++ deed.drafts

/-- The drafts that were built since the facts were last dropped. -/
def standing (deeds : List Deed) : List MethodDraft :=
  deeds.foldl stand []

/-- The deeds build these drafts and drop no facts. -/
structure Amount (deeds : List Deed) (drafts : List MethodDraft) : Prop where
  kept : cleared ∉ deeds
  built : deeds.flatMap Deed.drafts = drafts

theorem Amount.nil : Amount [] [] :=
  ⟨not_mem_nil, rfl⟩

theorem Amount.single {deed : Deed} (builds : deed ≠ cleared) : Amount [deed] deed.drafts :=
  ⟨fun member => builds (mem_singleton.1 member).symm, append_nil deed.drafts⟩

theorem Amount.append {early late : List Deed} {drafts more : List MethodDraft}
    (one : Amount early drafts) (two : Amount late more) :
    Amount (early ++ late) (drafts ++ more) where
  kept := fun member => (mem_append.1 member).elim one.kept two.kept
  built := by
    rw [flatMap_append, one.built, two.built]

theorem standing_append {early late : List Deed} {drafts : List MethodDraft}
    (amount : Amount late drafts) : standing (early ++ late) = standing early ++ drafts := by
  rw [← amount.built]
  have kept := amount.kept
  unfold standing
  rw [foldl_append]
  generalize foldl _ [] early = built
  clear amount
  induction late generalizing built with
  | nil => exact (append_nil built).symm
  | cons deed rest ih =>
    have others : cleared ∉ rest := fun member => kept (mem_cons_of_mem deed member)
    have first : stand built deed = built ++ deed.drafts := by
      cases deed with
      | cleared => exact absurd (mem_cons_self ..) kept
      | _ => rfl
    rw [foldl_cons, first, ih others, flatMap_cons, append_assoc]

end Deed

namespace Session

section

variable {s : Session}

theorem amount_deedsOfBuild (d : MethodDraft) :
    Deed.Amount (deedsOfBuild d s) (draftsOfBuild d s) := by
  unfold deedsOfBuild draftsOfBuild
  cases ((buildMethod d).run.run s).1 with
  | error fault => exact .nil
  | ok m => exact .single Deed.noConfusion

theorem amount_deedsOfResolve (c : ClassDescriptor) (parsed : ParsedClass) :
    Deed.Amount (deedsOfResolve c parsed s) (draftsOfResolve c parsed s) := by
  unfold deedsOfResolve draftsOfResolve
  cases ((resolve c parsed).run.run s).1 with
  | error fault => exact .nil
  | ok record => exact .single Deed.noConfusion

theorem amount_deedsOfRecord (reader : ClassReader) (c : ClassDescriptor) :
    Deed.Amount (deedsOfRecord reader c s) (draftsOfRecord reader c s) := by
  unfold deedsOfRecord draftsOfRecord
  split
  · exact .nil
  · cases reader c with
    | error fault => exact .nil
    | ok parsed => exact amount_deedsOfResolve c parsed

theorem amount_deedsOfLookup (reader : ClassReader) (name : String) :
    Deed.Amount (deedsOfLookup reader name s) (draftsOfLookup reader name s) := by
  unfold deedsOfLookup draftsOfLookup
  split
  · exact .nil
  · rcases (interning (Registry.internClass (Name.slashed name))).run.run s with ⟨fault | c, t⟩
    · exact .nil
    · exact amount_deedsOfRecord reader c

theorem amount_deedsOfDepth (reader : ClassReader) (steps : Nat) (c : ClassDescriptor) :
    Deed.Amount (deedsOfDepth reader steps c s) (draftsOfDepth reader steps c s) := by
  induction steps generalizing s c with
  | zero => exact .nil
  | succ steps ih =>
    unfold deedsOfDepth draftsOfDepth
    split
    · exact .nil
    · apply (amount_deedsOfRecord reader c).append
      rcases (classRecord reader c).run.run s with ⟨fault | record, t⟩
      · exact .nil
      · dsimp only
        cases record.superclass with
        | none => exact .nil
        | some parent => exact ih parent

theorem amount_deedsOfClasses (reader : ClassReader) (classes : List ClassDescriptor) :
    Deed.Amount (deedsOfClasses reader classes s) (draftsOfClasses reader classes s) := by
  induction classes generalizing s with
  | nil => exact .nil
  | cons c rest ih => exact (amount_deedsOfRecord reader c).append ih

end

end Session

theorem Call.amount_deeds {call : Call} (keeps : call.forgets = false) (s : Session) :
    Deed.Amount (call.deeds s) (call.drafts s) := by
  cases call with
  | lookup reader name => exact Session.amount_deedsOfLookup reader name
  | analyze reader c => exact Session.amount_deedsOfRecord reader c
  | resolve c parsed => exact Session.amount_deedsOfResolve c parsed
  | depth reader steps c => exact Session.amount_deedsOfDepth reader steps c
  | build draft => exact Session.amount_deedsOfBuild draft
  | declareApplications reader schedule =>
    exact Session.amount_deedsOfClasses reader (s.resolutionOrder schedule)
  | clearFacts => cases keeps
  | reset => cases keeps
  | _ => exact .nil

theorem Call.standing_chronicle (call : Call) (s : Session) (deeds : List Deed) :
    Deed.standing (call.chronicle s deeds) = call.history s (Deed.standing deeds) := by
  unfold history
  by_cases forgets : call.forgets = true
  · rw [if_pos forgets]
    cases call with
    | clearFacts =>
      change Deed.standing (deeds ++ [.cleared]) = []
      unfold Deed.standing
      rw [foldl_append]
      rfl
    | reset => rfl
    | _ => cases forgets
  · rw [if_neg forgets]
    have keeps := Bool.eq_false_iff.2 forgets
    have stays : call ≠ .reset := by
      rintro rfl
      cases keeps
    rw [call.chronicle_of_ne stays]
    exact Deed.standing_append (Call.amount_deeds keeps s)

theorem Host.Chronicle.built {free : Freedom} {h : Host} {deeds : List Deed}
    (run : h.Chronicle free deeds) : h.Built free (Deed.standing deeds) := by
  induction run with
  | start wf => exact .start wf
  | @after h deeds call before allowed own ih =>
    rw [call.standing_chronicle]
    exact ih.after allowed

/-- After the class was resolved only it was, as far as its methods are concerned, and the facts were
kept. -/
structure Deed.Alone (parsed : ParsedClass) (later : List Deed) : Prop where
  kept : cleared ∉ later
  sole : ∀ deed ∈ later, (∃ record, deed = resolved parsed record) ∨
    ∀ b ∈ deed.drafts, ∀ d ∈ parsed.methods, b.key ≠ d.key

theorem Deed.Alone.upheld {parsed : ParsedClass} {earlier later : List Deed} {record : ResolvedClass}
    (alone : Alone parsed later) :
    Upheld parsed.methods (standing (earlier ++ resolved parsed record :: later)) := by
  have first : Amount [resolved parsed record] parsed.methods := .single Deed.noConfusion
  have start : Upheld parsed.methods (standing (earlier ++ [resolved parsed record])) := by
    rw [standing_append first]
    exact .of_append _ _
  rw [append_cons]
  generalize earlier ++ [resolved parsed record] = before at start
  obtain ⟨kept, sole⟩ := alone
  induction later generalizing before with
  | nil =>
    rw [append_nil]
    exact start
  | cons deed rest ih =>
    obtain ⟨here, further⟩ := forall_mem_cons.1 sole
    have amount : Amount [deed] deed.drafts := by
      apply Amount.single
      rintro rfl
      exact kept (mem_cons_self ..)
    rw [append_cons]
    apply ih _ _ (fun member => kept (mem_cons_of_mem deed member)) further
    rw [standing_append amount]
    rcases here with ⟨other, rfl⟩ | others
    · exact .of_append _ _
    · exact start.append others

/-! ## Making again what is there -/

namespace Session

section

variable {s : Session}

theorem keepMethod_of_held {m held : Method} (found : s.method? m.descriptor = some held) :
    s.keepMethod m = (held, s) := by
  unfold method? at found
  unfold keepMethod
  rw [found]

/-- Methods that the table has are made and let go; their annotations and facts are all that is
written. -/
theorem makeAll_of_held {prepared : List PreparedMethod} {methods : List Method}
    (held : Forall₂ (fun q m => s.method? q.body.descriptor = some m) prepared methods) :
    ∃ annotations, makeAll prepared s =
        (methods,
          { s with
            methodsMade := s.methodsMade + prepared.length
            annotations
            run := { s.run with facts := prepared.foldl FactTables.record s.run.facts } }) ∧
      ∀ serial < s.methodsMade, annotations.find? serial = s.annotations.find? serial := by
  induction prepared generalizing s methods with
  | nil =>
    cases held
    exact ⟨s.annotations, rfl, fun _ _ => rfl⟩
  | cons q rest ih =>
    obtain ⟨m, others, here, further, rfl⟩ := forall₂_cons_left_iff.1 held
    have first : s.makeAndKeep q = (m, (s.makeMethod q).2) := keepMethod_of_held here
    obtain ⟨annotations, made, older⟩ := ih (s := (s.makeMethod q).2) further
    refine ⟨annotations, ?_, ?_⟩
    · rw [makeAll_cons, first, made]
      simp only [makeMethod, length_cons, foldl_cons, Nat.add_assoc, Nat.add_comm 1]
    · intro serial before
      have apart : s.methodsMade ≠ serial := by
        omega
      rw [older serial (Nat.lt_succ_of_lt before)]
      exact (Table.find?_insert ..).trans (if_neg apart)

/-- Of all that a session knows only the record of this class is new, and only records and depths were
dropped. Methods were made, but nobody got any of them: those of the record are in the table, and what
is annotated at a method that someone has is what was annotated. -/
structure Renewed (known : List Method) (s : Session) (record : ResolvedClass) (t : Session) :
    Prop where
  rest : t =
    { s with
      annotations := t.annotations
      methodsMade := t.methodsMade
      classesMade := s.classesMade + 1
      run := { s.run with
        classes := [(record.descriptor.id, { record with serial := s.classesMade })]
        depths := [] } }
  methods : ∀ m ∈ record.methods, m ∈ s.run.methods.values
  annotations : ∀ m, Handed known s m → t.annotationsOf m = s.annotationsOf m

variable {parsed : ParsedClass} {record : ResolvedClass} {p : PreparedClass} {reader : ClassReader}

/-- A class whose methods bring no new facts can be resolved again, to a record of the same contents
and with the same methods. -/
theorem Recurs.resolve_again (recurs : Recurs parsed record p s)
    (known : p.methods.foldl FactTables.record s.run.facts = s.run.facts) :
    ∃ annotations, (resolve record.descriptor parsed).run.run s =
        (.ok { record with serial := s.classesMade },
          { s with
            annotations
            methodsMade := s.methodsMade + p.methods.length
            classesMade := s.classesMade + 1 }) ∧
      ∀ serial < s.methodsMade, annotations.find? serial = s.annotations.find? serial := by
  obtain ⟨annotations, made, older⟩ := makeAll_of_held recurs.methods
  have contents : { record with serial := s.classesMade } =
      p.withMethods s.classesMade record.methods :=
    congrArg (fun r : ResolvedClass => { r with serial := s.classesMade }) recurs.contents
  refine ⟨annotations, ?_, older⟩
  rw [known] at made
  unfold resolve
  rw [run_interning_modifyGet, recurs.again s.registry (refl_of Registry.Extends s.registry)]
  dsimp only
  unfold makeClass
  rw [made, contents]
  rfl

theorem Recurs.renewed (recurs : Recurs parsed record p s) {known : List Method}
    (genuine : Genuine known s)
    (facts : p.methods.foldl FactTables.record s.run.facts = s.run.facts)
    (delivers : reader record.descriptor = .ok parsed) :
    ∃ t, (classRecord reader record.descriptor).run.run s.purgeClasses =
        (.ok { record with serial := s.classesMade }, t) ∧ Renewed known s record t := by
  have still : Recurs parsed record p s.purgeClasses :=
    recurs.later (refl_of Registry.Extends s.registry) fun _ _ held => held
  obtain ⟨annotations, resolved, older⟩ := still.resolve_again facts
  have read : (readClass reader record.descriptor).run.run s.purgeClasses =
      (resolve record.descriptor parsed).run.run s.purgeClasses := by
    unfold readClass
    rw [delivers]
  rw [classRecord_of_unknown rfl, read, resolved]
  refine ⟨_, rfl, rfl, ?_, ?_⟩
  · intro m member
    obtain ⟨q, -, held⟩ := exists_of_mem_right recurs.methods member
    exact Table.mem_values_of_find? held
  · intro m handed
    exact congrArg (Option.getD · .empty) (older m.serial (genuine.older m handed))

end

end Session

namespace Host

/-- A class that was resolved, and whose methods no other deed built since, is resolved again once the
records are dropped, as long as it is delivered as it was. -/
theorem Chronicle.rebuild {free : Freedom} {h : Host} {deeds earlier later : List Deed}
    {parsed : ParsedClass} {record : ResolvedClass} (run : h.Chronicle free deeds)
    (told : deeds = earlier ++ .resolved parsed record :: later) (alone : Deed.Alone parsed later)
    {reader : ClassReader} (delivers : reader record.descriptor = .ok parsed) :
    (∃ t, (Session.classRecord reader record.descriptor).run.run h.session.purgeClasses =
        (.ok { record with serial := h.session.classesMade }, t) ∧
      Session.Renewed h.methods h.session record t) ∧
    ∀ names, h.session.paths = .entries names →
      Session.clearClassCache.run.run h.session = (.ok (), h.session.purgeClasses) := by
  have wf := run.reached.tidy.registry
  constructor
  · have resolved : Deed.resolved parsed record ∈ deeds :=
      told ▸ mem_append_right earlier (mem_cons_self ..)
    obtain ⟨-, p, recurs⟩ := run.chronicled.resolved parsed record resolved
    have upheld : Upheld parsed.methods (Deed.standing deeds) := told ▸ alone.upheld
    obtain ⟨prepared, prepares, facts⟩ := run.built.exists_prepared
    have again := (recurs.prepares wf).1.methods
    exact recurs.renewed run.reached.genuine
      (upheld.foldl_record_eq_self wf prepares again facts) delivers
  · intro names own
    unfold Session.clearClassCache
    rw [Work.run_get_bind, own]
    rfl

/-- An access method that comes twice, with different targets. -/
def gateClass : ParsedClass where
  name := "a/Gate"
  methods :=
    [{ className := "a/Gate", name := "open", signature := "()V", flags := .ofList [],
       forwardsTo := some ⟨"a/Wall", "low", "()V", false⟩ },
      { className := "a/Gate", name := "open", signature := "()V", flags := .ofList [],
        forwardsTo := some ⟨"a/Wall", "high", "()V", false⟩ }]

def gateReader : ClassReader :=
  fun c => if c.name = gateClass.name then .ok gateClass else .error (.missingClass c.name)

def wallDraft : MethodDraft where
  className := "a/Wall"
  name := "low"
  signature := "()V"
  flags := .ofList []
  alwaysThrows := true

def opening : Method where
  descriptor := ⟨3, ⟨0, 1, "a/Gate"⟩, "open", "()V", false⟩
  flags := .ofList []
  sourceSignature := none
  exceptions := []
  syntheticParameters := 0
  callCount := 0
  usesConcurrency := false
  hasBackBranch := false
  isStub := false
  serial := 0

def gateBefore : Host :=
  (start .minimal { token := 0 } (.entries ["gate.jar"]) (.collect [])).after
    (.intern (.ofClass "a/Gate"))

/-- A host that resolved the class, built a method of another one and annotated the access method. -/
def gateAfter : Host :=
  ((gateBefore.after (.resolve ⟨0, 1, "a/Gate"⟩ gateClass)).after (.build wallDraft)).after
    (.annotate opening none ⟨⟨0, 1, "a/Gate"⟩, []⟩)

theorem rebuild_gate : ∃ deeds record t, gateAfter.Chronicle ⟨false, false⟩ deeds ∧
    record.methods = [opening, opening] ∧
    (Session.classRecord gateReader record.descriptor).run.run gateAfter.session.purgeClasses =
      (.ok { record with serial := gateAfter.session.classesMade }, t) ∧
    Session.Renewed gateAfter.methods gateAfter.session record t ∧
    Session.clearClassCache.run.run gateAfter.session = (.ok (), gateAfter.session.purgeClasses) := by
  have own : (⟨0, 1, "a/Gate"⟩ : ClassDescriptor) ∈ gateBefore.session.registry.classes := by
    decide +kernel
  have contents : ((Session.resolve ⟨0, 1, "a/Gate"⟩ gateClass).run.run
      gateBefore.session).1.toOption.map (fun record => (record.descriptor, record.methods)) =
        some (⟨0, 1, "a/Gate"⟩, [opening, opening]) := by
    decide +kernel
  obtain ⟨record, given, parts⟩ := Option.map_eq_some_iff.1 contents
  obtain ⟨about, methods⟩ := Prod.mk.inj parts
  have started : (start .minimal { token := 0 } (.entries ["gate.jar"]) (.collect [])).Chronicle
      ⟨false, false⟩ [] := .start (Registry.wellFormed_start 0)
  have interned : gateBefore.Chronicle ⟨false, false⟩ [] := .after started trivial trivial
  have resolved : (gateBefore.after (.resolve ⟨0, 1, "a/Gate"⟩ gateClass)).Chronicle ⟨false, false⟩
      (Session.deedsOfResolve ⟨0, 1, "a/Gate"⟩ gateClass gateBefore.session) :=
    .after interned trivial (Or.inr own)
  rw [Session.deedsOfResolve_of_ok (Work.eq_ok_of_toOption given)] at resolved
  generalize before : gateBefore.after (.resolve ⟨0, 1, "a/Gate"⟩ gateClass) = h at resolved
  have builds : ((Session.buildMethod wallDraft).run.run h.session).1.toOption.isSome = true := by
    subst before
    decide +kernel
  obtain ⟨wall, made⟩ := Option.isSome_iff_exists.1 builds
  have held : opening ∈ (h.after (.build wallDraft)).methods := by
    subst before
    decide +kernel
  have built : (h.after (.build wallDraft)).Chronicle ⟨false, false⟩
      ([.resolved gateClass record] ++ Session.deedsOfBuild wallDraft h.session) :=
    .after resolved trivial trivial
  rw [Session.deedsOfBuild_of_ok (Work.eq_ok_of_toOption made)] at built
  have alone : Deed.Alone gateClass [.built wallDraft] := by
    constructor
    · intro member
      cases mem_singleton.1 member
    · intro deed member
      rw [mem_singleton.1 member]
      exact Or.inr (by decide)
  have run : gateAfter.Chronicle ⟨false, false⟩ [.resolved gateClass record, .built wallDraft] := by
    subst before
    exact .after built held trivial
  have delivers : gateReader record.descriptor = .ok gateClass := by
    rw [about]
    rfl
  have told : [.resolved gateClass record, .built wallDraft] =
      [] ++ Deed.resolved gateClass record :: [.built wallDraft] := rfl
  obtain ⟨⟨t, again, renewed⟩, cleared⟩ := run.rebuild told alone delivers
  have paths : gateAfter.session.paths = .entries ["gate.jar"] := by
    decide +kernel
  exact ⟨_, record, t, run, methods, again, renewed, cleared _ paths⟩

end Host

end JvmFacts
