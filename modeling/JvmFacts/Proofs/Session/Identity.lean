import JvmFacts.Proofs.Session.Applications

/-!
Which class an analysis tells of. Records are remembered by the bare id of a class, and registries
count their ids apart from each other, so a class of another registry can be taken for one that was
analysed before.
-/

set_option autoImplicit false

namespace JvmFacts

namespace Session

variable {free : Freedom} {s : Session} (tidy : Tidy free s) {reader : ClassReader}
  {c : ClassDescriptor} {record : ResolvedClass}
  (given : ((classRecord reader c).run.run s).1 = .ok record)

include tidy given

/-- An answer is the record that was there, or, if there was none, one of the class asked for. -/
theorem classRecord_cases :
    s.run.classes.find? c.id = some record ∨
      s.run.classes.find? c.id = none ∧ record.descriptor = c := by
  cases found : s.run.classes.find? c.id with
  | some known =>
    rw [classRecord_of_known found] at given
    exact Or.inl (congrArg some (Except.ok.inj given))
  | none =>
    have made := (yields_readClass tidy.registry reader c).post
    rw [classRecord_of_unknown found] at given
    rcases ended : (readClass reader c).run.run s with ⟨fault | fresh, t⟩
    · rw [ended] at given
      cases given
    · rw [ended] at given made
      obtain rfl := Except.ok.inj given
      exact Or.inr ⟨rfl, (made fresh rfl).1⟩

theorem classRecord_id : record.descriptor.id = c.id := by
  rcases classRecord_cases tidy given with held | ⟨-, same⟩
  · exact (tidy.classes c.id record held).1
  · rw [same]

/-- It tells of the class asked for unless another one is remembered under its id. -/
theorem classRecord_descriptor_iff : record.descriptor = c ↔
    ∀ known, s.run.classes.find? c.id = some known → known.descriptor = c := by
  rcases classRecord_cases tidy given with held | ⟨absent, same⟩
  · constructor
    · intro right known found
      rw [held] at found
      obtain rfl := Option.some.inj found
      exact right
    · exact fun right => right record held
  · refine ⟨fun _ known found => ?_, fun _ => same⟩
    rw [absent] at found
    cases found

end Session

namespace Host

/-- An answer has the id asked for; it tells of the class asked for exactly when no record of another
class is remembered under that id, which a host with descriptors of the registry only never meets. -/
theorem Reached.classRecord_spec {free : Freedom} {h : Host} (reached : h.Reached free)
    {reader : ClassReader} {c : ClassDescriptor} {record : ResolvedClass}
    (given : ((Session.classRecord reader c).run.run h.session).1 = .ok record) :
    record.descriptor.id = c.id ∧
    (record.descriptor = c ↔
      ∀ known, h.session.run.classes.find? c.id = some known → known.descriptor = c) ∧
    (free.foreign = false → c ∈ h.session.registry.classes → record.descriptor = c) := by
  have tidy := reached.tidy
  refine ⟨Session.classRecord_id tidy given, Session.classRecord_descriptor_iff tidy given, ?_⟩
  exact fun own held => Session.descriptor_of_classRecord tidy own held given

/-- A class path with one class of the registry and one that only another registry names. -/
def twoClasses : ClassPath :=
  (ClassPath.add {} { name := "a/B" }).add { name := "x/Y" }

/-- A host that analysed the class of its registry. -/
def analysed : Host :=
  ((start .usual { token := 0 } .fixed (.collect [])).after (.intern (.ofClass "a/B"))).after
    (.analyze twoClasses.read ⟨0, 1, "a/B"⟩)

/-- What the host is told of a class. -/
def analysedAs (c : ClassDescriptor) : Except Fault ResolvedClass :=
  ((Session.classRecord twoClasses.read c).run.run analysed.session).1

theorem reached_analysed : analysed.Reached ⟨true, true⟩ :=
  .after (.after (.start (Registry.wellFormed_start 0)) trivial) (Or.inl rfl)

/-- Asked for a class of another registry with the same id, it is told of its own. -/
theorem analysedAs_foreign : analysed.Reached ⟨true, true⟩ ∧
    ∃ record, analysedAs ⟨1, 1, "x/Y"⟩ = .ok record ∧ record.descriptor = ⟨0, 1, "a/B"⟩ := by
  have told : (analysedAs ⟨1, 1, "x/Y"⟩).toOption.map (·.descriptor) = some ⟨0, 1, "a/B"⟩ := by
    decide +kernel
  refine ⟨reached_analysed, ?_⟩
  cases given : analysedAs ⟨1, 1, "x/Y"⟩ with
  | error fault =>
    rw [given] at told
    cases told
  | ok record =>
    rw [given] at told
    exact ⟨record, rfl, Option.some.inj told⟩

theorem classRecord_own : analysed.Reached ⟨true, true⟩ ∧
    ∃ record, analysedAs ⟨0, 1, "a/B"⟩ = .ok record ∧ record.descriptor.id = 1 ∧
      (record.descriptor = ⟨0, 1, "a/B"⟩ ↔ ∀ known,
        analysed.session.run.classes.find? 1 = some known → known.descriptor = ⟨0, 1, "a/B"⟩) := by
  have told : (analysedAs ⟨0, 1, "a/B"⟩).toOption.isSome = true := by
    decide +kernel
  refine ⟨reached_analysed, ?_⟩
  cases given : analysedAs ⟨0, 1, "a/B"⟩ with
  | error fault =>
    rw [given] at told
    cases told
  | ok record =>
    have spec := reached_analysed.classRecord_spec given
    exact ⟨record, rfl, spec.1, spec.2.1⟩

end Host

end JvmFacts
