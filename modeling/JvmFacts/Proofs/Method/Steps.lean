import Mathlib.Data.List.Induction
import JvmFacts.Method.Draft
import JvmFacts.Proofs.Lists
import JvmFacts.Proofs.Table

/-!
What a draft carries once a scanner has gone through its steps.
-/

set_option autoImplicit false

namespace JvmFacts

namespace DraftStep

def forwardsTo? : DraftStep → Option MemberReference
  | .forwardsTo method => some method
  | _ => none

def accesses? : DraftStep → Option MemberReference
  | .accesses field => some field
  | _ => none

end DraftStep

namespace MethodDraft

/-- The method was taken for an identity before its first parameter carried an annotation. -/
def TakenForIdentity (steps : List DraftStep) : Prop :=
  ∃ before after, steps = before ++ .identity :: after ∧ ∀ a, .annotateParameter 0 a ∉ before

/-- The facts that a draft carries are those that its steps brought: a mark once is enough, of the
targets the last one counts. -/
structure Carries (d : MethodDraft) (steps : List DraftStep) : Prop where
  alwaysThrows : d.alwaysThrows = true ↔ .alwaysThrows ∈ steps
  isUnsupported : d.isUnsupported = true ↔ .unsupported ∈ steps
  annotated : d.parameterAnnotations.contains 0 = true ↔ ∃ a, .annotateParameter 0 a ∈ steps
  isIdentity : d.isIdentity = true ↔ TakenForIdentity steps
  forwardsTo : d.forwardsTo = (steps.filterMap DraftStep.forwardsTo?).getLast?
  accesses : d.accesses = (steps.filterMap DraftStep.accesses?).getLast?

/-! ## One step -/

section

variable (d : MethodDraft) (step : DraftStep)

theorem alwaysThrows_apply :
    (d.apply step).alwaysThrows = true ↔ d.alwaysThrows = true ∨ step = .alwaysThrows := by
  cases step <;> simp [apply]

theorem isUnsupported_apply :
    (d.apply step).isUnsupported = true ↔ d.isUnsupported = true ∨ step = .unsupported := by
  cases step <;> simp [apply]

theorem annotated_apply : (d.apply step).parameterAnnotations.contains 0 = true ↔
    d.parameterAnnotations.contains 0 = true ∨ ∃ a, step = .annotateParameter 0 a := by
  cases step with
  | annotateParameter parameter a =>
    simp only [apply, ParameterTable.add, Table.contains, Table.find?_insert]
    by_cases first : parameter = 0 <;> simp [first]
  | _ => simp [apply]

theorem isIdentity_apply : (d.apply step).isIdentity = true ↔
    d.isIdentity = true ∨ (step = .identity ∧ ¬ d.parameterAnnotations.contains 0 = true) := by
  cases step <;> simp [apply]

theorem forwardsTo_apply :
    (d.apply step).forwardsTo = (DraftStep.forwardsTo? step).or d.forwardsTo := by
  cases step <;> rfl

theorem accesses_apply : (d.apply step).accesses = (DraftStep.accesses? step).or d.accesses := by
  cases step <;> rfl

theorem takenForIdentity_concat (steps : List DraftStep) :
    TakenForIdentity (steps ++ [step]) ↔
      TakenForIdentity steps ∨ (step = .identity ∧ ∀ a, .annotateParameter 0 a ∉ steps) := by
  constructor
  · rintro ⟨before, after, shape, bare⟩
    rcases List.eq_nil_or_concat after with rfl | ⟨inner, last, rfl⟩
    · obtain ⟨rfl, same⟩ := List.append_inj' shape rfl
      exact Or.inr ⟨(List.cons.inj same).1, bare⟩
    · rw [List.concat_eq_append, ← List.cons_append, ← List.append_assoc] at shape
      exact Or.inl ⟨before, inner, (List.append_inj' shape rfl).1, bare⟩
  · rintro (⟨before, after, rfl, bare⟩ | ⟨rfl, bare⟩)
    · exact ⟨before, after ++ [step], List.append_assoc .., bare⟩
    · exact ⟨steps, [], rfl, bare⟩

end

theorem Carries.apply {d : MethodDraft} {steps : List DraftStep} (carries : d.Carries steps)
    (step : DraftStep) : (d.apply step).Carries (steps ++ [step]) where
  alwaysThrows := by
    rw [alwaysThrows_apply, carries.alwaysThrows, List.mem_append, List.mem_singleton, eq_comm]
  isUnsupported := by
    rw [isUnsupported_apply, carries.isUnsupported, List.mem_append, List.mem_singleton, eq_comm]
  annotated := by
    rw [annotated_apply, carries.annotated]
    simp only [List.mem_append, List.mem_singleton, exists_or, eq_comm (b := step)]
  isIdentity := by
    rw [isIdentity_apply, carries.isIdentity, carries.annotated, takenForIdentity_concat,
      not_exists]
  forwardsTo := by
    rw [forwardsTo_apply, carries.forwardsTo, getLast?_filterMap_concat]
  accesses := by
    rw [accesses_apply, carries.accesses, getLast?_filterMap_concat]

theorem carries_applyAll (className name signature : String) (flags : MethodFlags)
    (steps : List DraftStep) :
    Carries (applyAll { className, name, signature, flags } steps) steps := by
  induction steps using List.reverseRecOn with
  | nil =>
    have nothing : ∀ step : DraftStep, step ∉ [] := fun _ => List.not_mem_nil
    have never : ¬ TakenForIdentity [] := by
      rintro ⟨before, after, shape, -⟩
      cases before <;> cases shape
    constructor
    · simp [nothing]
    · simp [nothing]
    · simp [nothing, Table.contains]
    · simp [never]
    · rfl
    · rfl
  | append_singleton steps step ih =>
    rw [applyAll_append]
    exact ih.apply step

end MethodDraft

end JvmFacts
