import JvmFacts.Proofs.Session.AnyOrder

/-!
The steps of a script in twin sessions. Each declaration may resolve its classes in an order of its own:
as long as that interns nothing, the host is told the same and the sessions stay twins.
-/

set_option autoImplicit false

namespace JvmFacts

namespace Session

/-! ## Work in twin sessions -/

/-- Both fail with one fault, or what the two give fits. -/
def Corresponds {α β : Type} (fits : α → β → Prop) : Except Fault α → Except Fault β → Prop
  | .ok a, .ok b => fits a b
  | .error one, .error two => two = one
  | _, _ => False

theorem eq_of_corresponds {α : Type} {one two : Except Fault α}
    (same : Corresponds (fun a b => b = a) one two) : two = one := by
  cases one <;> cases two <;> first | exact congrArg _ same | cases same

/-- What the two give fits, and the sessions still are twins. -/
structure Concurs {α β : Type} (fits : Session → Session → α → β → Prop) (s t : Session)
    (work : Working α) (other : Working β) : Prop where
  outcome : Corresponds (fits (work.run.run s).2 (other.run.run t).2) (work.run.run s).1
    (other.run.run t).1
  twins : Twins (work.run.run s).2 (other.run.run t).2

section

variable {α β γ δ : Type} {s t : Session} {fits : Session → Session → α → β → Prop}
  {also : Session → Session → γ → δ → Prop}

theorem Concurs.pure (twins : Twins s t) {a : α} {b : β} (fit : fits s t a b) :
    Concurs fits s t (pure a) (pure b) :=
  ⟨fit, twins⟩

theorem Concurs.throw (twins : Twins s t) (fault : Fault) :
    Concurs fits s t (throw fault) (throw fault) :=
  ⟨rfl, twins⟩

theorem Concurs.modify {change other : Session → Session} (twins : Twins (change s) (other t)) :
    Concurs (fun _ _ _ _ => True) s t (modify change) (modify other) :=
  ⟨trivial, twins⟩

theorem Concurs.bind {first : Working α} {other : Working β} {next : α → Working γ}
    {nextOther : β → Working δ} (one : Concurs fits s t first other)
    (two : ∀ u v a b, first.run.run s = (.ok a, u) → Twins u v → fits u v a b →
      Concurs also u v (next a) (nextOther b)) :
    Concurs also s t (first >>= next) (other >>= nextOther) := by
  obtain ⟨outcome, twins⟩ := one
  have run := Work.run_bind first next s
  have runOther := Work.run_bind other nextOther t
  rcases ended : first.run.run s with ⟨fault | a, u⟩ <;>
    rcases endedOther : other.run.run t with ⟨faultOther | b, v⟩ <;>
    rw [ended, endedOther] at outcome twins <;> rw [ended] at run <;> rw [endedOther] at runOther
  · constructor
    · rw [run, runOther]
      exact outcome
    · rw [run, runOther]
      exact twins
  · cases outcome
  · cases outcome
  · obtain ⟨outcome, twins⟩ := two u v a b ended twins outcome
    constructor
    · rw [run, runOther]
      exact outcome
    · rw [run, runOther]
      exact twins

theorem Concurs.adapt (change : Fault → Fault) {work : Working α} {other : Working β}
    (concurs : Concurs fits s t work other) :
    Concurs fits s t (ExceptT.adapt change work) (ExceptT.adapt change other) := by
  obtain ⟨outcome, twins⟩ := concurs
  refine ⟨?_, twins⟩
  rw [Work.run_adapt, Work.run_adapt]
  dsimp only
  revert outcome
  cases (work.run.run s).1 <;> cases (other.run.run t).1 <;> intro outcome
  · exact congrArg change outcome
  · exact outcome
  · exact outcome
  · exact outcome

theorem Concurs.map (change : α → γ) (changeOther : β → δ) {work : Working α} {other : Working β}
    (concurs : Concurs fits s t work other)
    (fit : ∀ u v a b, fits u v a b → also u v (change a) (changeOther b)) :
    Concurs also s t (change <$> work) (changeOther <$> other) := by
  rw [map_eq_pure_bind, map_eq_pure_bind]
  exact concurs.bind fun u v a b _ twins given => .pure twins (fit u v a b given)

theorem Twins.concurs_interning (twins : Twins s t) {work : Interning α}
    {post : Registry → α → Prop}
    (yields : Work.Yields Registry.GrowsSoundly s.registry work post) :
    Concurs (fun u _ a b => b = a ∧ post u.registry a) s t (interning work) (interning work) := by
  have twinsToo := twins.intern yields.steps
  have fits := yields.post
  constructor
  · rw [interning_run, interning_run, twins.registry]
    dsimp only
    revert fits
    cases (work.run.run s.registry).1 with
    | error fault => exact fun _ => rfl
    | ok a => exact fun fits => ⟨rfl, fits a rfl⟩
  · rw [interning_run, interning_run, twins.registry]
    exact twinsToo

/-- A class in twin sessions: if it can be had, its records are the same but for serial numbers. -/
theorem Twins.concurs_classRecord (twins : Twins s t) (reader : ClassReader) {c : ClassDescriptor}
    (held : c ∈ s.registry.classes) : Concurs (fun _ _ a b => b.unnumbered = a.unnumbered) s t
      (classRecord reader c) (classRecord reader c) := by
  have heldToo : c ∈ t.registry.classes := by
    rw [twins.registry]
    exact held
  obtain ⟨-, ledger, outcome⟩ := ledger_classRecord twins.one.orderly reader c
  obtain ⟨-, ledgerToo, outcomeToo⟩ := ledger_classRecord twins.two.orderly reader c
  rw [twins.ledger] at ledgerToo outcomeToo
  have after : Twins ((classRecord reader c).run.run s).2 ((classRecord reader c).run.run t).2 :=
    twins.resolves (yields_classRecord twins.one.tidy (Or.inr held) reader).steps
      (yields_classRecord twins.two.tidy (Or.inr heldToo) reader).steps
      (registry_classRecord twins.registry (twins.knowsClass c)) (ledgerToo.trans ledger.symm)
  refine ⟨?_, after⟩
  have same := outcomeToo.trans outcome.symm
  cases given : ((classRecord reader c).run.run s).1 with
  | error fault =>
    cases givenToo : ((classRecord reader c).run.run t).1 with
    | error faultToo =>
      rw [given, givenToo] at same
      exact Except.error.inj same
    | ok recordToo =>
      rw [given, givenToo] at same
      cases same
  | ok record =>
    cases givenToo : ((classRecord reader c).run.run t).1 with
    | error faultToo =>
      rw [given, givenToo] at same
      cases same
    | ok recordToo =>
      rw [given, givenToo] at same
      exact (after.unnumbered_eq (find?_of_classRecord given) (find?_of_classRecord givenToo)
        (Except.ok.inj same).symm).symm

theorem Twins.concurs_lookup (twins : Twins s t) (reader : ClassReader) (name : String) :
    Concurs (fun _ _ a b => b.unnumbered = a.unnumbered) s t (lookup reader name)
      (lookup reader name) := by
  rcases lookup_cases reader name with ⟨-, fault, turned⟩ | ⟨-, wrap, sought⟩
  · rw [turned]
    exact .throw twins fault
  · rw [sought]
    apply Concurs.adapt
    apply (twins.concurs_interning (Registry.yields_internClass s.registry _)).bind
    rintro u v c d - twins ⟨rfl, made⟩
    exact twins.concurs_classRecord reader made.1

end

end Session

namespace RunStep

open Session

section

variable {s t : Session} (twins : Twins s t)

include twins

/-- The method of a reference is had for one descriptor in both sessions. -/
theorem concurs_methodNamed (m : MemberReference) :
    Concurs (fun u v a b => ∃ d, a = u.method? d ∧ b = v.method? d) s t (methodNamed m)
      (methodNamed m) := by
  have yields : Work.Yields Registry.GrowsSoundly s.registry (m.intern .method) _ :=
    Registry.yields_internMember .method m.owner m.name m.signature m.isStatic
      twins.one.orderly.registry
  unfold methodNamed
  apply (twins.concurs_interning yields).bind
  rintro u v d e - twins ⟨rfl, -⟩
  exact ⟨⟨_, rfl, rfl⟩, twins⟩

theorem concurs_onHierarchy {α : Type} {classes : Interning α} {post : Registry → α → Prop}
    (yields : Work.Yields Registry.GrowsSoundly s.registry classes post)
    (ask : Hierarchy → α → RunAnswer) :
    Concurs (fun _ _ a b => b = a) s t (onHierarchy classes ask) (onHierarchy classes ask) := by
  unfold onHierarchy
  apply (twins.concurs_interning yields).bind
  rintro u v named other - twins ⟨rfl, -⟩
  have created : Twins u.createHierarchy v.createHierarchy :=
    twins.modifyDatabases fun d => { d with hierarchy := some (d.hierarchy.getD .empty) }
  apply (Concurs.modify created).bind
  intro u v _ _ _ twins _
  exact ⟨congrArg (ask · other) twins.hierarchy, twins⟩

theorem concurs_bridge (source target : MemberReference) (reader : ClassReader)
    (schedule scheduleToo : Schedule) : Concurs (fun _ _ a b => b = a) s t
      (work reader schedule (.bridge source target))
      (work reader scheduleToo (.bridge source target)) := by
  unfold work
  apply (concurs_methodNamed twins source).bind
  rintro u v one other - twins ⟨d, rfl, rfl⟩
  have first := twins.method? d
  apply (concurs_methodNamed twins target).bind
  rintro u' v' two otherToo - twins ⟨e, rfl, rfl⟩
  have second := twins.method? e
  rcases first with ⟨none, noneToo⟩ | ⟨m, n, found, foundToo, same, -⟩
  · rw [none, noneToo]
    exact .pure twins rfl
  · rcases second with ⟨none, noneToo⟩ | ⟨m', n', found', foundToo', same', -⟩
    · rw [found, foundToo, none, noneToo]
      exact .pure twins rfl
    · rw [found, foundToo, found', foundToo']
      have descriptors := congrArg (fun m : Method => m.descriptor) same
      have descriptors' := congrArg (fun m : Method => m.descriptor) same'
      exact ⟨rfl, twins.setBridge descriptors descriptors'⟩

/-- Both declare the same classes applications, each in its own order. -/
theorem concurs_declare (names : List String) (reader : ClassReader)
    (schedule scheduleToo : Schedule)
    (still : ((work reader schedule (.declare names)).run.run s).2.registry = s.registry) :
    Concurs (fun _ _ a b => b = a) s t (work reader schedule (.declare names))
      (work reader scheduleToo (.declare names)) := by
  have wf := twins.one.orderly.registry
  have yields : Work.Yields Registry.GrowsSoundly s.registry (names.mapM Registry.internClass)
      fun _ declared => ∀ c ∈ declared, True :=
    Work.Yields.mapM (fun _ _ => trivial) names fun name _ r _ =>
      (Registry.yields_internClass r name).mono fun _ _ _ _ => trivial
  have repeats : Repeats s.registry s (interning (names.mapM Registry.internClass)).run.run :=
    repeats_interning (Registry.Repeats.mapM names fun name r grows =>
      Registry.repeats_internClass (grows.wellFormed wf) name)
  unfold work at still ⊢
  rw [Work.run_bind] at still
  apply (twins.concurs_interning yields).bind
  rintro u v declared other ended twins ⟨rfl, -⟩
  rw [ended] at still
  have last : ((declareApplications reader schedule other).run u).2.registry = s.registry := still
  have interned : u.registry = s.registry := by
    have same := repeats.registry_eq
    have more := extends_declareApplications twins.one.orderly.registry reader schedule other
    rw [last] at more
    rw [ended] at same
    exact same more
  exact ⟨rfl, twins.declareApplications reader schedule scheduleToo other (last.trans interned.symm)⟩

/-- A step gives the same in twin sessions, each with its own schedule, if it interns nothing. -/
theorem concurs_work (reader : ClassReader) (schedule scheduleToo : Schedule) (step : RunStep)
    (still : ((step.work reader schedule).run.run s).2.registry = s.registry) :
    Concurs (fun _ _ a b => b = a) s t (step.work reader schedule)
      (step.work reader scheduleToo) := by
  have wf := twins.one.orderly.registry
  cases step with
  | classDescriptor name =>
    have interned := twins.concurs_interning (Registry.yields_internClass s.registry name)
    exact interned.map _ _ fun u v c d fit => congrArg RunAnswer.descriptor fit.1
  | lookup name =>
    exact (twins.concurs_lookup reader name).map _ _ fun u v c d same =>
      congrArg RunAnswer.record same
  | declare names => exact concurs_declare twins names reader schedule scheduleToo still
  | update pass => exact ⟨rfl, twins.updateDatabases pass⟩
  | bridge source target => exact concurs_bridge twins source target reader schedule scheduleToo
  | kind name =>
    unfold work
    exact concurs_onHierarchy twins (Registry.yields_internClass s.registry name) _
  | isSubtype lower upper =>
    unfold work
    exact concurs_onHierarchy twins (yields_bothClasses s.registry lower upper) _
  | relatives name =>
    unfold work
    exact concurs_onHierarchy twins (Registry.yields_internClass s.registry name) _
  | applications =>
    have nothing : Work.Yields Registry.GrowsSoundly s.registry (pure () : Interning Unit)
        fun _ _ => True :=
      Work.Yields.pure trivial
    unfold work
    exact concurs_onHierarchy twins nothing _
  | facts m =>
    have yields : Work.Yields Registry.GrowsSoundly s.registry (m.intern .method) _ :=
      Registry.yields_internMember .method m.owner m.name m.signature m.isStatic wf
    apply (twins.concurs_interning yields).bind
    rintro u v d e - twins ⟨rfl, made⟩
    exact ⟨congrArg RunAnswer.traits (twins.traitsOf made.1), twins⟩
  | nullness m slot =>
    apply (concurs_methodNamed twins m).bind
    rintro u v one other - twins ⟨d, rfl, rfl⟩
    rcases twins.method? d with ⟨none, noneToo⟩ | ⟨m, n, found, foundToo, same, notes⟩
    · rw [none, noneToo]
      exact .pure twins rfl
    · rw [found, foundToo]
      obtain ⟨answer, still⟩ := twins.nullnessNow same notes slot
      exact ⟨congrArg RunAnswer.nullness answer, still⟩

end

end RunStep

end JvmFacts
