import JvmFacts.Proofs.Session.CallDeeds
import JvmFacts.Proofs.Session.Filing
import JvmFacts.Proofs.Session.Lookup
import JvmFacts.Proofs.Session.Past.Calls
import JvmFacts.Proofs.Session.ResolutionOrder

/-!
The chronicle of a run: all that was done in it, in order. Every class that a host got hold of in the
run is told there, and its methods are those of the table, for as long as the run lasts.
-/

set_option autoImplicit false

namespace JvmFacts

open List

namespace Session

/-- Each class that was resolved could be resolved again, and each record that is remembered is that
of one of them. -/
structure Chronicled (free : Freedom) (deeds : List Deed) (s : Session) : Prop where
  resolved : ∀ parsed record, Deed.resolved parsed record ∈ deeds →
    free.MayName s.registry record.descriptor ∧ ∃ p, Recurs parsed record p s
  classes : ∀ id record, s.run.classes.find? id = some record →
    ∃ parsed, Deed.resolved parsed record ∈ deeds

theorem Chronicled.does {free : Freedom} {recording : Prop} {deeds more : List Deed} {s t : Session}
    (chronicled : Chronicled free deeds s) (does : Does free recording more s t) :
    Chronicled free (deeds ++ more) t where
  resolved := by
    intro parsed record member
    rcases mem_append.1 member with early | late
    · obtain ⟨named, p, recurs⟩ := chronicled.resolved parsed record early
      exact ⟨named.grows does.registry.toGrowsSoundly, p, recurs.later does.registry does.methods⟩
    · exact does.resolved parsed record late
  classes := by
    intro id record found
    rcases does.classes id record found with before | ⟨parsed, late⟩
    · obtain ⟨parsed, early⟩ := chronicled.classes id record before
      exact ⟨parsed, mem_append_left _ early⟩
    · exact ⟨parsed, mem_append_right _ late⟩

/-- The record of a class that was delivered like this: it has one method for each draft, in order,
and each is the one that the table has for its descriptor. -/
structure Holds (s : Session) (parsed : ParsedClass) (record : ResolvedClass) : Prop where
  methods : Forall₂ (fun d m => (Descriptor.ofMethod m.descriptor).key = d.key ∧
    s.method? m.descriptor = some m ∧ m.owner = record.descriptor) parsed.methods record.methods
  shared : ∀ m ∈ record.methods, ∀ n ∈ record.methods, m.descriptor = n.descriptor → m = n
  annotated : ∀ m ∈ record.methods, ∀ held, s.method? m.descriptor = some held → ∀ slot a,
    (s.annotate held slot a).annotationsOf m = (s.annotationsOf m).add slot a ∧
      (s.annotate m slot a).annotationsOf held = (s.annotationsOf held).add slot a

section

variable {s : Session} {parsed : ParsedClass} {record : ResolvedClass} {p : PreparedClass}

theorem Recurs.prepares (recurs : Recurs parsed record p s) (wf : s.registry.WellFormed) :
    parsed.Prepares record.descriptor s.registry p ∧ parsed.fault? record.descriptor = none := by
  have again := recurs.again s.registry (refl_of Registry.Extends s.registry)
  constructor
  · have made := (ParsedClass.yields_prepare wf record.descriptor parsed).post
    rw [again] at made
    exact made p rfl
  · have fails := parsed.prepare_failsWith record.descriptor s.registry
    rw [again] at fails
    exact fails.symm

/-- A class of the registry declares each of its methods. -/
theorem Recurs.owner_eq (recurs : Recurs parsed record p s) (wf : s.registry.WellFormed)
    (own : record.descriptor ∈ s.registry.classes) {d : MethodDraft} {q : PreparedMethod}
    (member : d ∈ parsed.methods) (prepares : d.Prepares s.registry q) :
    q.body.owner = record.descriptor := by
  obtain ⟨-, sound⟩ := recurs.prepares wf
  have slashed := ParsedClass.own_of_fault? sound d member
  have key := prepares.key
  have named : q.body.owner.name = record.descriptor.name := by
    obtain ⟨-, owner, -⟩ := DescriptorKey.ofMember.inj key
    exact owner.trans slashed
  have held : q.body.owner ∈ s.registry.classes :=
    wf.owners (.ofMethod q.body.descriptor) prepares.registered
  exact wf.class_eq_of_name held own named

theorem Recurs.holds (recurs : Recurs parsed record p s) (wf : s.registry.WellFormed)
    (filed : Filed s) (own : record.descriptor ∈ s.registry.classes) : Holds s parsed record := by
  obtain ⟨prepares, -⟩ := recurs.prepares wf
  have methods : Forall₂ (fun d m => (Descriptor.ofMethod m.descriptor).key = d.key ∧
      s.method? m.descriptor = some m ∧ m.owner = record.descriptor) parsed.methods record.methods := by
    apply paired_comp prepares.methods recurs.methods
    intro d member q m fits held
    have named : m.descriptor = q.body.descriptor := filed.keyed q.body.descriptor m held
    have owner := recurs.owner_eq wf own member fits
    rw [MethodBody.owner, ← named] at owner
    rw [named]
    exact ⟨fits.key, held, owner⟩
  have inTable : ∀ m ∈ record.methods, s.method? m.descriptor = some m := by
    intro m member
    obtain ⟨d, -, -, held, -⟩ := exists_of_mem_right methods member
    exact held
  refine ⟨methods, ?_, ?_⟩
  · intro m here n there same
    have one := inTable m here
    rw [same, inTable n there] at one
    exact (Option.some.inj one).symm
  · intro m member held found slot a
    rw [inTable m member] at found
    obtain rfl := Option.some.inj found
    exact ⟨s.annotationsOf_annotate m slot a, s.annotationsOf_annotate m slot a⟩

end

end Session

/-! ## Hosts -/

theorem Call.chronicle_of_ne {call : Call} (stays : call ≠ .reset) (s : Session)
    (deeds : List Deed) : call.chronicle s deeds = deeds ++ call.deeds s := by
  cases call with
  | reset => exact absurd rfl stays
  | _ => rfl

namespace Host

/-- What a host can reach, with all that was done in its run. -/
inductive Chronicle (free : Freedom) : Host → List Deed → Prop
  | start {config : Config} {registry : Registry} {paths : Paths} {reporter : Reporter}
    (wf : registry.WellFormed) : Chronicle free (start config registry paths reporter) []
  | after {h : Host} {deeds : List Deed} {call : Call} (before : Chronicle free h deeds)
    (allowed : call.Allowed free h) (own : call.ResolvesOwn free h) :
    Chronicle free (h.after call) (call.chronicle h.session deeds)

section

variable {free : Freedom} {h : Host} {deeds : List Deed}

theorem Chronicle.reached (run : h.Chronicle free deeds) : h.Reached free := by
  induction run with
  | start wf => exact .start wf
  | after _ allowed _ ih => exact .after ih allowed

theorem Chronicle.chronicled (run : h.Chronicle free deeds) :
    Session.Chronicled free deeds h.session := by
  induction run with
  | start wf =>
    constructor
    · exact fun _ _ none => absurd none not_mem_nil
    · intro id record found
      cases found
  | @after h deeds call before allowed own ih =>
    by_cases ends : call = .reset
    · subst ends
      constructor
      · exact fun _ _ none => absurd none not_mem_nil
      · intro id record found
        cases found
    · rw [Call.chronicle_of_ne ends]
      exact ih.does (Call.does before.reached.tidy allowed own ends)

/-- Every state that a host can reach has a chronicle. -/
theorem Reached.exists_chronicle (reached : h.Reached free) :
    ∃ deeds, h.Chronicle ⟨true, true⟩ deeds := by
  induction reached with
  | start wf => exact ⟨[], .start wf⟩
  | @after h call _ allowed ih =>
    obtain ⟨deeds, run⟩ := ih
    exact ⟨_, .after run (Call.allowed_freely allowed) (call.resolvesOwn_freely h)⟩

/-- Each class that a call hands out is told of in the chronicle. -/
theorem Chronicle.exists_resolved (run : h.Chronicle free deeds) {call : Call}
    (allowed : call.Allowed free h) (own : call.ResolvesOwn free h) {record : ResolvedClass}
    (given : record ∈ (call.reply h.session).records) :
    ∃ parsed, Deed.resolved parsed record ∈ call.chronicle h.session deeds := by
  have after := (run.after allowed own).chronicled
  have outcome : ∀ {outcome : Except Fault ResolvedClass}, record ∈ outcome.toOption.toList →
      outcome = .ok record := fun member => Work.eq_ok_of_toOption (Option.mem_toList.1 member)
  cases call with
  | lookup reader name =>
    have found := outcome given
    rcases Session.lookup_cases reader name with ⟨-, fault, turned⟩ | ⟨valid, -, -⟩
    · rw [turned] at found
      cases found
    · have looked := Session.lookup_run_of_valid h.session reader valid
      have ended : (h.after (.lookup reader name)).session = _ := congrArg Prod.snd looked
      rw [looked] at found
      rw [ended] at after
      dsimp only at after found
      generalize h.session.registry.addClass (Name.slashed name) = added at after found
      apply after.classes added.1.id record
      apply Session.find?_of_classRecord
      generalize ((Session.classRecord reader added.1).run.run _).1 = told at found ⊢
      cases told with
      | error fault => cases found
      | ok fresh => exact found
  | analyze reader c =>
    exact after.classes c.id record (Session.find?_of_classRecord (outcome given))
  | resolve c parsed =>
    have told : Call.deeds (.resolve c parsed) h.session = [.resolved parsed record] :=
      Session.deedsOfResolve_of_ok (outcome given)
    refine ⟨parsed, mem_append_right deeds ?_⟩
    rw [told]
    exact mem_singleton_self _
  | _ => cases given

/-- Whatever class a host got hold of since the last reset, it has one method for each one that was
delivered, and each of them is the one that the table has for its descriptor. -/
theorem Chronicle.methods_shared (run : h.Chronicle free deeds) (own : free.foreign = false) :
    (∀ parsed record, Deed.resolved parsed record ∈ deeds → h.session.Holds parsed record) ∧
    ∀ call : Call, call.Allowed free h → call.ResolvesOwn free h →
      ∀ record ∈ (call.reply h.session).records,
        ∃ parsed, Deed.resolved parsed record ∈ call.chronicle h.session deeds := by
  constructor
  · intro parsed record member
    obtain ⟨named, p, recurs⟩ := run.chronicled.resolved parsed record member
    have held : record.descriptor ∈ h.session.registry.classes :=
      named.resolve_left (Bool.eq_false_iff.1 own)
    exact recurs.holds run.reached.tidy.registry run.reached.filed held
  · exact fun call allowed resolvesOwn record given => run.exists_resolved allowed resolvesOwn given

end

/-- A class that comes with the same method twice. -/
def doubledClass : ParsedClass where
  name := "a/Twin"
  methods :=
    [{ className := "a/Twin", name := "run", signature := "()V", flags := .ofList [.accPublic] },
      { className := "a/Twin", name := "stop", signature := "()V", flags := .ofList [] },
      { className := "a.Twin", name := "run", signature := "()V", flags := .ofList [] }]

def doubledReader : ClassReader :=
  fun c => if c.name = doubledClass.name then .ok doubledClass else .error (.missingClass c.name)

def ownRun : Method where
  descriptor := ⟨2, ⟨0, 1, "a/Twin"⟩, "run", "()V", false⟩
  flags := .ofList []
  sourceSignature := none
  exceptions := []
  syntheticParameters := 0
  callCount := 0
  usesConcurrency := false
  hasBackBranch := false
  isStub := false
  serial := 0

def runBuilt : Host :=
  (start .minimal { token := 0 } .fixed (.collect [])).after
    (.build { className := "a/Twin", name := "run", signature := "()V", flags := .ofList [] })

/-- A host that put a method of its own into the table before it looked the class up, and that forgot
the class since. -/
def doubled : Host :=
  ((runBuilt.after (.register ownRun)).after (.lookup doubledReader "a.Twin")).after .purgeClasses

/-- Once the class is resolved again seven methods were made, of which two are in use. -/
theorem methods_shared_doubled : ∃ deeds record,
    (doubled.after (.resolve ⟨0, 1, "a/Twin"⟩ doubledClass)).Chronicle ⟨false, false⟩ deeds ∧
    Deed.resolved doubledClass record ∈ deeds ∧
    record.methods.map (·.serial) = [0, 2, 0] ∧
    (doubled.after (.resolve ⟨0, 1, "a/Twin"⟩ doubledClass)).session.Holds doubledClass record := by
  have made : ownRun ∈ runBuilt.methods := by
    decide +kernel
  have own : (⟨0, 1, "a/Twin"⟩ : ClassDescriptor) ∈ doubled.session.registry.classes := by
    decide +kernel
  have serials : ((Session.resolve ⟨0, 1, "a/Twin"⟩ doubledClass).run.run
      doubled.session).1.toOption.map (fun record => record.methods.map (·.serial)) =
        some [0, 2, 0] := by
    decide +kernel
  obtain ⟨deeds, before⟩ : ∃ deeds, doubled.Chronicle ⟨false, false⟩ deeds :=
    ⟨_, .after (.after (.after (.after (.start (Registry.wellFormed_start 0)) trivial trivial) made
      trivial) trivial trivial) trivial trivial⟩
  have run : (doubled.after (.resolve ⟨0, 1, "a/Twin"⟩ doubledClass)).Chronicle ⟨false, false⟩ _ :=
    .after before trivial (Or.inr own)
  obtain ⟨record, given, numbered⟩ := Option.map_eq_some_iff.1 serials
  have told : Deed.resolved doubledClass record ∈
      deeds ++ Session.deedsOfResolve ⟨0, 1, "a/Twin"⟩ doubledClass doubled.session := by
    rw [Session.deedsOfResolve_of_ok (Work.eq_ok_of_toOption given)]
    exact mem_append_right deeds (mem_singleton_self _)
  exact ⟨_, record, run, told, numbered, (run.methods_shared rfl).1 _ _ told⟩

end Host

end JvmFacts
