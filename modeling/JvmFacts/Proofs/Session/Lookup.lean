import JvmFacts.Proofs.Registry.Verdicts
import JvmFacts.Proofs.Session.Applications

/-!
Looking classes up by name: which names are turned down, and what becomes of the others. The registry
never turns down a name that passed, so all that can go wrong with one is the analysis of its class.
Only the name that a failure quotes tells the spelling that was asked for.
-/

set_option autoImplicit false

namespace JvmFacts

/-- The same fault, quoting this name. -/
def LookupFault.quoting (name : String) : LookupFault → LookupFault
  | invalidName _ => invalidName name
  | unresolved _ => unresolved name
  | reported text => reported text

/-- The same fault; if it is that of looking a class up, it quotes this name. -/
def Fault.quoting (name : String) : Fault → Fault
  | classNotFound why cause => classNotFound (why.quoting name) cause
  | fault => fault

theorem Fault.exists_unavailable (name : String) (fault : Fault) :
    ∃ inner cause, fault.unavailable name = .classUnavailable inner cause := by
  cases fault <;> exact ⟨_, _, rfl⟩

namespace Session

section

variable (s : Session) (reader : ClassReader) {name : String}

/-- The slashed form of a valid name is valid too, so its class is there afterwards. -/
theorem lookup_run_of_valid (valid : Name.isClass name = true) :
    (lookup reader name).run.run s =
      let added := s.registry.addClass (Name.slashed name)
      let told := (classRecord reader added.1).run.run { s with registry := added.2 }
      (told.1.mapError fun fault => .classNotFound (.unresolved name) (some fault), told.2) := by
  -- the registry checks the slashed form once more, and that cannot fail now
  have accepted := Registry.checkClass_eq_ok_iff.2 (Name.isClass_iff_slashed.1 valid).1
  rw [lookup_of_valid valid, Work.run_adapt, Work.run_bind, interning_run,
    Registry.internClass_run_of_ok accepted, Name.slashed_slashed]

/-- A name is looked up as its slashed form is, whatever becomes of it. -/
theorem lookup_run_slashed (unmixed : ¬ Name.IsMixed name) :
    (lookup reader name).run.run s =
      (((lookup reader (Name.slashed name)).run.run s).1.mapError (Fault.quoting name),
        ((lookup reader (Name.slashed name)).run.run s).2) := by
  have agree : Name.isClass name = true ↔ Name.isClass (Name.slashed name) = true :=
    Name.isClass_iff_slashed.trans (and_iff_left unmixed)
  cases valid : Name.isClass name with
  | true =>
    rw [lookup_run_of_valid s reader valid, lookup_run_of_valid s reader (agree.1 valid),
      Name.slashed_slashed]
    dsimp only
    generalize (classRecord reader _).run.run _ = told
    rcases told with ⟨fault | record, t⟩ <;> rfl
  | false =>
    have invalid : Name.isClass (Name.slashed name) = false :=
      Bool.eq_false_iff.2 fun passes => Bool.eq_false_iff.1 valid (agree.2 passes)
    by_cases empty : name = ""
    · rw [empty]
      rfl
    · rw [lookup_of_invalid empty valid,
        lookup_of_invalid (mt Name.slashed_eq_empty_iff.1 empty) invalid]
      rfl

end

/-- What becomes of a class that was asked for by a valid name: it is told of, or it fails as its
reader does. The failure says that the class is unavailable, and is missing if what the reader said
means that. -/
inductive Answered (reader : ClassReader) (known : Bool) (name : String) (c : ClassDescriptor) :
    Except Fault ResolvedClass → Prop
  | told {record : ResolvedClass} (about : record.descriptor = c)
    (had : known = true ∨ readFault? reader c = none) : Answered reader known name c (.ok record)
  | failed {fault cause outer : Fault} {inner : String} (new : known = false)
    (read : readFault? reader c = some fault)
    (wrapped : fault.unavailable c.name = .classUnavailable inner cause)
    (found : outer = .classNotFound (.unresolved name) (some (.classUnavailable inner cause)))
    (missing : outer.isMissingClass = fault.isMissingClass) :
    Answered reader known name c (.error outer)

/-- What looking a name up gives and where it ends. -/
structure LookedUp (reader : ClassReader) (s : Session) (name : String)
    (outcome : Except Fault ResolvedClass) (after : Session) : Prop where
  empty : ∀ why, outcome = .error (.invalidDescriptor why) ↔ name = "" ∧ why = .emptyLookup
  invalid : ∀ why, outcome = .error (.classNotFound why none) ↔
    name ≠ "" ∧ Name.isClass name = false ∧ why = .invalidName name
  unchanged : name = "" ∨ Name.isClass name = false → after = s
  answered : Name.isClass name = true → ∃ c ∈ after.registry.classes,
    c.name = Name.slashed name ∧ Answered reader (s.knowsClass c) name c outcome

section

variable {reader : ClassReader} {s after : Session} {name : String}

theorem LookedUp.of_empty :
    LookedUp reader s "" (.error (.invalidDescriptor .emptyLookup)) s where
  empty := by simp [eq_comm]
  invalid := by simp
  unchanged := fun _ => rfl
  answered := fun valid => absurd rfl (Name.ne_empty_of_isClass valid)

theorem LookedUp.of_invalid (written : name ≠ "") (invalid : Name.isClass name = false) :
    LookedUp reader s name (.error (.classNotFound (.invalidName name) none)) s where
  empty := by simp [written]
  invalid := by simp [written, invalid, eq_comm]
  unchanged := fun _ => rfl
  answered := by simp [invalid]

theorem LookedUp.of_answered {outcome : Except Fault ResolvedClass} {c : ClassDescriptor}
    (valid : Name.isClass name = true) (held : c ∈ after.registry.classes)
    (named : c.name = Name.slashed name)
    (answered : Answered reader (s.knowsClass c) name c outcome) :
    LookedUp reader s name outcome after where
  empty := by
    have written := Name.ne_empty_of_isClass valid
    cases answered with
    | told about had => simp [written]
    | failed new read wrapped found missing => simp [written, found]
  invalid := by
    cases answered with
    | told about had => simp [valid]
    | failed new read wrapped found missing => simp [valid, found]
  unchanged := by simp [valid, Name.ne_empty_of_isClass valid]
  answered := fun _ => ⟨c, held, named, answered⟩

end

section

variable {free : Freedom} {s : Session} (tidy : Tidy free s) (own : free.foreign = false)
  (reader : ClassReader)

include tidy own

theorem answered_classRecord {c : ClassDescriptor} (held : c ∈ s.registry.classes) (name : String) :
    Answered reader (s.knowsClass c) name c (((classRecord reader c).run.run s).1.mapError
      fun fault => .classNotFound (.unresolved name) (some fault)) := by
  have failure := analysisFault?_eq reader s c
  unfold analysisFault? at failure
  cases outcome : ((classRecord reader c).run.run s).1 with
  | ok record =>
    refine .told (descriptor_of_classRecord tidy own held outcome) ?_
    rw [outcome] at failure
    cases known : s.knowsClass c with
    | true => exact Or.inl rfl
    | false =>
      rw [known, if_neg Bool.false_ne_true] at failure
      exact Or.inr (Option.map_eq_none_iff.1 failure.symm)
  | error fault =>
    rw [outcome] at failure
    cases known : s.knowsClass c with
    | true =>
      rw [known, if_pos rfl] at failure
      cases failure
    | false =>
      rw [known, if_neg Bool.false_ne_true] at failure
      obtain ⟨first, read, rfl⟩ := Option.map_eq_some_iff.1 failure.symm
      obtain ⟨inner, cause, wrapped⟩ := Fault.exists_unavailable c.name first
      refine .failed rfl read wrapped (congrArg _ (congrArg some wrapped)) ?_
      exact Fault.isMissingClass_unavailable c.name first

theorem lookedUp (name : String) : LookedUp reader s name ((lookup reader name).run.run s).1
    ((lookup reader name).run.run s).2 := by
  by_cases empty : name = ""
  · rw [empty, lookup_of_empty]
    exact .of_empty
  cases valid : Name.isClass name with
  | false =>
    rw [lookup_of_invalid empty valid]
    exact .of_invalid empty valid
  | true =>
    obtain ⟨held, named⟩ := s.registry.mem_addClass (Name.slashed name)
    have grown := s.registry.grows_addClass (Name.slashed name)
    have added : Resolves free s _ := .single (.making (.intern grown))
    have still := tidy.resolves added
    have further := (yields_classRecord still (Or.inr held) reader).steps
    rw [lookup_run_of_valid s reader valid]
    exact .of_answered valid ((grows_of_resolves further).mem_classes held) named
      (answered_classRecord still own reader held name)

end

end Session

namespace Host

/-- A name is turned down as it is written, before anything happens; any other one leads to its class
or to the failure to analyse it. Dotted or slashed makes no difference; a name that is both is among
those that are turned down. -/
theorem Reached.lookup_spec {free : Freedom} {h : Host} (reached : h.Reached free)
    (own : free.foreign = false) (reader : ClassReader) (name : String) :
    ∃ outcome after, (Session.lookup reader name).run.run h.session = (outcome, after) ∧
      Session.LookedUp reader h.session name outcome after ∧
      (¬ Name.IsMixed name → ∃ same,
        (Session.lookup reader (Name.slashed name)).run.run h.session = (same, after) ∧
        outcome = same.mapError (Fault.quoting name)) := by
  have looked := Session.lookedUp reached.tidy own reader name
  rcases ran : (Session.lookup reader name).run.run h.session with ⟨outcome, after⟩
  rw [ran] at looked
  refine ⟨outcome, after, rfl, looked, ?_⟩
  intro unmixed
  have spelled := Session.lookup_run_slashed h.session reader unmixed
  rw [ran] at spelled
  obtain ⟨told, ended⟩ := Prod.mk.inj spelled
  rw [told, ended]
  exact ⟨_, rfl, rfl⟩

/-- A reader that says of every class, and what it says is wrapped, that it is missing. -/
def noClasses : ClassReader :=
  fun c => .error (.classNotFound (.reported "gone") (some (.missingClass c.name)))

theorem lookup_noClasses : Session.twoNames.Reached ⟨false, true⟩ ∧
    ∃ fault after, (Session.lookup noClasses "a.B").run.run Session.twoNames.session =
        (.error fault, after) ∧ fault.isMissingClass = true ∧
      Session.LookedUp noClasses Session.twoNames.session "a.B" (.error fault) after ∧
      ∃ same, (Session.lookup noClasses "a/B").run.run Session.twoNames.session = (same, after) ∧
        .error fault = same.mapError (Fault.quoting "a.B") := by
  have reached : Session.twoNames.Reached ⟨false, true⟩ :=
    .after (.after (.start (Registry.wellFormed_start 0)) trivial) trivial
  have missing : ((Work.faultOf ((Session.lookup noClasses "a.B").run.run
      Session.twoNames.session).1).map Fault.isMissingClass) = some true := by
    decide +kernel
  obtain ⟨outcome, after, ran, looked, spelled⟩ := reached.lookup_spec rfl noClasses "a.B"
  obtain ⟨same, slashed, equal⟩ := spelled (by decide)
  rw [ran] at missing
  cases outcome with
  | ok record => cases missing
  | error fault =>
    exact ⟨reached, fault, after, ran, Option.some.inj missing, looked, same, slashed, equal⟩

end Host

end JvmFacts
