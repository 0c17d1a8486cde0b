import JvmFacts.Proofs.Session.Call

/-!
A class that cannot be had leaves nothing behind but descriptors: all that can fail happens before the
first method is made.
-/

set_option autoImplicit false

namespace JvmFacts

namespace Session

/-- Nothing is different but that the registry may have grown. -/
structure Untouched (s t : Session) : Prop where
  rest : t = { s with registry := t.registry }
  registry : s.registry.Grows t.registry

theorem Untouched.refl (s : Session) : Untouched s s where
  rest := rfl
  registry := refl_of Registry.Grows s.registry

section

variable {s : Session} {c : ClassDescriptor} {fault : Fault}

/-- Only preparing can fail, and it touches nothing but the registry. -/
theorem untouched_resolve (wf : s.registry.WellFormed) {parsed : ParsedClass}
    (failed : ((resolve c parsed).run.run s).1 = .error fault) :
    Untouched s ((resolve c parsed).run.run s).2 := by
  have grows := (ParsedClass.yields_prepare wf c parsed).steps
  unfold resolve at failed ⊢
  rw [run_interning_modifyGet] at failed ⊢
  rcases ended : (parsed.prepare c).run.run s.registry with ⟨why | p, r⟩
  · rw [ended] at grows
    exact ⟨rfl, grows.toGrows⟩
  · rw [ended] at failed
    cases failed

theorem untouched_readClass (wf : s.registry.WellFormed) {reader : ClassReader}
    (failed : ((readClass reader c).run.run s).1 = .error fault) :
    Untouched s ((readClass reader c).run.run s).2 := by
  unfold readClass at failed ⊢
  cases read : reader c with
  | error why => exact .refl s
  | ok parsed =>
    rw [read] at failed
    exact untouched_resolve wf failed

/-- A failure is not remembered either. -/
theorem untouched_classRecord (wf : s.registry.WellFormed) {reader : ClassReader}
    (failed : ((classRecord reader c).run.run s).1 = .error fault) :
    Untouched s ((classRecord reader c).run.run s).2 := by
  cases found : s.run.classes.find? c.id with
  | some known =>
    rw [classRecord_of_known found] at failed
    cases failed
  | none =>
    rw [classRecord_of_unknown found] at failed ⊢
    rcases ended : (readClass reader c).run.run s with ⟨why | record, t⟩
    · have untouched := untouched_readClass wf (congrArg Prod.fst ended)
      rw [ended] at untouched
      exact untouched
    · rw [ended] at failed
      cases failed

end

end Session

namespace Host

/-- Wherever a class fails, be it at its last method, the session is as it was. -/
theorem Reached.untouched_of_error {free : Freedom} {h : Host} (reached : h.Reached free)
    (c : ClassDescriptor) :
    (∀ parsed fault, ((Session.resolve c parsed).run.run h.session).1 = .error fault →
      h.session.Untouched ((Session.resolve c parsed).run.run h.session).2) ∧
    ∀ reader fault, ((Session.classRecord reader c).run.run h.session).1 = .error fault →
      h.session.Untouched ((Session.classRecord reader c).run.run h.session).2 := by
  have wf := reached.tidy.registry
  constructor
  · intro parsed fault failed
    exact Session.untouched_resolve wf failed
  · intro reader fault failed
    exact Session.untouched_classRecord wf failed

/-- A class whose first method brings a fact and whose second one has no valid name. -/
def halfSound : ParsedClass :=
  { name := "a/B"
    methods :=
      [{ className := "a/B", name := "fail", signature := "()V", flags := .ofList [],
         alwaysThrows := true },
       { className := "a/B", name := "bad.name", signature := "()V", flags := .ofList [] }] }

/-- A host that knows a fact about another class and looks at this one. -/
def oneFact : Host :=
  ((Host.start .minimal { token := 0 } .fixed (.collect [])).after (.intern (.ofClass "a/B"))).after
    (.build { className := "a/C", name := "fail", signature := "()V", flags := .ofList [],
              alwaysThrows := true })

theorem untouched_halfSound :
    oneFact.Reached ⟨false, true⟩ ∧ oneFact.session.run.facts.throwers = [3] ∧
    ∃ fault, ((Session.resolve ⟨0, 1, "a/B"⟩ halfSound).run.run oneFact.session).1 = .error fault ∧
      oneFact.session.Untouched
        ((Session.resolve ⟨0, 1, "a/B"⟩ halfSound).run.run oneFact.session).2 := by
  have reached : oneFact.Reached ⟨false, true⟩ :=
    .after (.after (.start (Registry.wellFormed_start 0)) trivial) trivial
  have known : oneFact.session.run.facts.throwers = [3] := by decide +kernel
  have turned : ((Session.resolve ⟨0, 1, "a/B"⟩ halfSound).run.run oneFact.session).1.toBool =
      false := by decide +kernel
  cases failed : ((Session.resolve ⟨0, 1, "a/B"⟩ halfSound).run.run oneFact.session).1 with
  | ok record =>
    rw [failed] at turned
    cases turned
  | error fault =>
    exact ⟨reached, known, fault, rfl, (reached.untouched_of_error _).1 halfSound fault failed⟩

end Host

end JvmFacts
