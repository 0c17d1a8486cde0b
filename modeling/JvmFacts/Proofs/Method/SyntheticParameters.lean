import JvmFacts.Proofs.Method.Tables
import JvmFacts.Proofs.Session.Resolution

/-!
Which parameters of a method are synthetic. Those said to be are, and once a parameter that can carry
a mark has a name, so are all of these without one. Marks are bits of a word, and no bit is asked for
beyond its width: a parameter that far out carries no mark and brings none.
-/

set_option autoImplicit false

namespace JvmFacts

namespace ParameterMask

/-! ## Bits that are there -/

/-- The bit of a parameter. Beyond the width of the word there is none. -/
def bit? (parameter : Nat) : Option ParameterMask :=
  if parameter < 64 then some (1#64 <<< parameter) else none

/-- Marks a parameter by its bit. -/
def mark? (m : ParameterMask) (parameter : Nat) : Option ParameterMask :=
  if isTracked parameter then (bit? parameter).map fun bit => m ||| bit else some m

/-- Tests a mark by its bit. -/
def holds? (m : ParameterMask) (parameter : Nat) : Option Bool :=
  if isTracked parameter then (bit? parameter).map fun bit => m &&& bit != 0 else some false

theorem isTracked_iff (parameter : Nat) : isTracked parameter = true ↔ parameter < 64 :=
  decide_eq_true_iff

theorem bit?_of_tracked {parameter : Nat} (tracked : isTracked parameter = true) :
    bit? parameter = some (BitVec.twoPow 64 parameter) :=
  if_pos ((isTracked_iff parameter).1 tracked)

theorem mark?_eq (m : ParameterMask) (parameter : Nat) :
    m.mark? parameter = some (m.mark parameter) := by
  unfold mark? mark
  split
  · rename_i tracked
    rw [bit?_of_tracked tracked]
    rfl
  · rfl

theorem and_twoPow_bne (m : ParameterMask) {parameter : Nat} (inside : parameter < 64) :
    (m &&& BitVec.twoPow 64 parameter != 0) = m.getLsbD parameter := by
  have there : BitVec.twoPow 64 parameter ≠ 0#64 := by
    intro empty
    have bits := congrArg (BitVec.getLsbD · parameter) empty
    simp [inside] at bits
  rw [BitVec.and_twoPow]
  cases m.getLsbD parameter <;> simp [there]

theorem holds?_eq (m : ParameterMask) (parameter : Nat) :
    m.holds? parameter = some (m.holds parameter) := by
  unfold holds? holds
  cases tracked : isTracked parameter with
  | false => rfl
  | true =>
    have bit := m.and_twoPow_bne ((isTracked_iff parameter).1 tracked)
    rw [if_pos rfl, bit?_of_tracked tracked, Option.map_some, Bool.true_and, bit]

/-! ## Which bits a mask holds -/

section

variable (m : ParameterMask) (parameter : Nat)

theorem mark_of_untracked {parameter : Nat} (beyond : isTracked parameter = false) :
    m.mark parameter = m := by
  unfold mark
  rw [beyond]
  rfl

theorem holds_mark_iff (other : Nat) : (m.mark parameter).holds other = true ↔
    m.holds other = true ∨ (other < 64 ∧ parameter = other) := by
  rw [holds_mark, Bool.or_eq_true, Bool.and_eq_true, isTracked_iff, decide_eq_true_eq]
  constructor
  · rintro (before | ⟨tracked, rfl⟩)
    · exact Or.inl before
    · exact Or.inr ⟨tracked, rfl⟩
  · rintro (before | ⟨tracked, rfl⟩)
    · exact Or.inl before
    · exact Or.inr ⟨tracked, rfl⟩

theorem holds_zero : holds 0 parameter = false := by
  unfold holds
  rw [BitVec.ofNat_eq_ofNat, BitVec.getLsbD_zero, Bool.and_false]

theorem ne_zero_iff : m ≠ 0 ↔ ∃ other, m.holds other = true := by
  constructor
  · intro marked
    by_contra none
    apply marked
    apply BitVec.eq_of_getLsbD_eq
    intro i inside
    have missing : ¬ m.holds i = true := fun held => none ⟨i, held⟩
    unfold holds at missing
    rw [(isTracked_iff i).2 inside, Bool.true_and, Bool.not_eq_true] at missing
    rw [missing, BitVec.ofNat_eq_ofNat, BitVec.getLsbD_zero]
  · rintro ⟨other, held⟩ rfl
    rw [holds_zero] at held
    cases held

theorem tracked_of_holds {m : ParameterMask} {parameter : Nat} (held : m.holds parameter = true) :
    parameter < 64 :=
  (isTracked_iff parameter).1 (Bool.and_eq_true_iff.1 held).1

/-- The complement is taken only when there is a name, so its bits need no looking after otherwise. -/
theorem holds_synthetic_iff (named explicit : ParameterMask) :
    (synthetic named explicit).holds parameter = true ↔
      parameter < 64 ∧ (explicit.holds parameter = true ∨
        ((∃ other, named.holds other = true) ∧ ¬ named.holds parameter = true)) := by
  by_cases inside : parameter < 64
  · have tracked := (isTracked_iff parameter).2 inside
    rw [← ne_zero_iff]
    unfold synthetic
    by_cases nameless : named = 0
    · simp [nameless, inside]
    · rw [if_neg nameless]
      unfold holds
      rw [tracked, BitVec.getLsbD_or, BitVec.getLsbD_not]
      simp only [Bool.true_and, Bool.or_eq_true, Bool.and_eq_true, decide_eq_true_eq,
        Bool.not_eq_true', Bool.not_eq_true, inside, true_and, ne_eq, nameless, not_false_eq_true]
  · constructor
    · intro held
      exact absurd (tracked_of_holds held) inside
    · rintro ⟨tracked, -⟩
      exact absurd tracked inside

end

end ParameterMask

namespace DraftStep

/-- The step marks a parameter that can carry a mark, or none at all. -/
def isTracked : DraftStep → Bool
  | .named parameter => ParameterMask.isTracked parameter
  | .synthetic parameter => ParameterMask.isTracked parameter
  | _ => true

end DraftStep

namespace MethodDraft

/-- One step, where a mark is set by its bit. -/
def applyBits? (d : MethodDraft) : DraftStep → Option MethodDraft
  | .named parameter => (d.named.mark? parameter).map fun named => { d with named }
  | .synthetic parameter =>
    (d.explicitlySynthetic.mark? parameter).map fun explicitlySynthetic =>
      { d with explicitlySynthetic }
  | step => some (d.apply step)

def applyAllBits? (d : MethodDraft) (steps : List DraftStep) : Option MethodDraft :=
  steps.foldlM applyBits? d

theorem applyBits?_eq (d : MethodDraft) (step : DraftStep) :
    d.applyBits? step = some (d.apply step) := by
  cases step with
  | named parameter => rw [applyBits?, ParameterMask.mark?_eq]; rfl
  | synthetic parameter => rw [applyBits?, ParameterMask.mark?_eq]; rfl
  | _ => rfl

theorem applyAllBits?_eq (d : MethodDraft) (steps : List DraftStep) :
    d.applyAllBits? steps = some (d.applyAll steps) := by
  induction steps generalizing d with
  | nil => rfl
  | cons step rest ih =>
    unfold applyAllBits? at ih ⊢
    rw [List.foldlM_cons, applyBits?_eq]
    exact ih (d.apply step)

/-! ## The marks that steps leave -/

theorem apply_of_untracked (d : MethodDraft) {step : DraftStep} (beyond : step.isTracked = false) :
    d.apply step = d := by
  cases step with
  | named parameter => rw [apply, ParameterMask.mark_of_untracked _ beyond]
  | synthetic parameter => rw [apply, ParameterMask.mark_of_untracked _ beyond]
  | _ => cases beyond

/-- Marks on parameters too far out might as well not have been made. -/
theorem applyAll_filter_tracked (d : MethodDraft) (steps : List DraftStep) :
    d.applyAll (steps.filter DraftStep.isTracked) = d.applyAll steps := by
  induction steps generalizing d with
  | nil => rfl
  | cons step rest ih =>
    cases tracked : step.isTracked with
    | true => rw [List.filter_cons_of_pos tracked, applyAll_cons, applyAll_cons, ih]
    | false =>
      rw [List.filter_cons_of_neg (by rw [tracked]; exact Bool.false_ne_true), ih, applyAll_cons,
        apply_of_untracked d tracked]

theorem named_apply (d : MethodDraft) (step : DraftStep) (i : Nat) :
    (d.apply step).named.holds i = true ↔
      d.named.holds i = true ∨ (i < 64 ∧ .named i = step) := by
  cases step with
  | named parameter =>
    rw [apply, ParameterMask.holds_mark_iff, DraftStep.named.injEq, eq_comm (a := i)]
  | _ => simp [apply]

theorem explicitlySynthetic_apply (d : MethodDraft) (step : DraftStep) (i : Nat) :
    (d.apply step).explicitlySynthetic.holds i = true ↔
      d.explicitlySynthetic.holds i = true ∨ (i < 64 ∧ .synthetic i = step) := by
  cases step with
  | synthetic parameter =>
    rw [apply, ParameterMask.holds_mark_iff, DraftStep.synthetic.injEq, eq_comm (a := i)]
  | _ => simp [apply]

theorem named_applyAll (d : MethodDraft) (steps : List DraftStep) (i : Nat) :
    (d.applyAll steps).named.holds i = true ↔
      d.named.holds i = true ∨ (i < 64 ∧ .named i ∈ steps) := by
  induction steps generalizing d with
  | nil => simp only [applyAll_nil, List.not_mem_nil, and_false, or_false]
  | cons step rest ih =>
    rw [applyAll_cons, ih, named_apply, List.mem_cons, or_assoc, ← and_or_left]

theorem explicitlySynthetic_applyAll (d : MethodDraft) (steps : List DraftStep) (i : Nat) :
    (d.applyAll steps).explicitlySynthetic.holds i = true ↔
      d.explicitlySynthetic.holds i = true ∨ (i < 64 ∧ .synthetic i ∈ steps) := by
  induction steps generalizing d with
  | nil => simp only [applyAll_nil, List.not_mem_nil, and_false, or_false]
  | cons step rest ih =>
    rw [applyAll_cons, ih, explicitlySynthetic_apply, List.mem_cons, or_assoc, ← and_or_left]

theorem syntheticMask_applyAll (className name signature : String) (flags : MethodFlags)
    (steps : List DraftStep) (i : Nat) :
    (applyAll { className, name, signature, flags } steps).syntheticMask.holds i = true ↔
      i < 64 ∧ (.synthetic i ∈ steps ∨
        ((∃ j < 64, .named j ∈ steps) ∧ .named i ∉ steps)) := by
  unfold syntheticMask
  rw [ParameterMask.holds_synthetic_iff]
  apply and_congr_right
  intro inside
  simp only [named_applyAll, explicitlySynthetic_applyAll, ParameterMask.holds_zero,
    Bool.false_eq_true, false_or, inside, true_and]

/-! ## The method that is made -/

theorem syntheticParameters_of_buildMethod {d : MethodDraft} {s t : Session} {m : Method}
    (built : (Session.buildMethod d).run.run s = (.ok m, t)) :
    m.syntheticParameters = d.syntheticMask := by
  have gives := (d.gives_prepare s.registry).mono fun _ p _ handedOn => handedOn.1
  exact Session.body_of_buildMethod
    (fun body => body.syntheticParameters = d.syntheticMask) gives built

/-- Of the method that comes of some steps, in whatever order they were taken, a parameter is synthetic
if it can carry a mark and was said to be, or has no name while another one has. Steps that mark
parameters further out leave the draft as it is, and no bit is asked for that is not there. -/
theorem isSyntheticParameter_built {className name signature : String} {flags : MethodFlags}
    {steps : List DraftStep} {s t : Session} {m : Method}
    (built : (Session.buildMethod (applyAll { className, name, signature, flags } steps)).run.run s =
      (.ok m, t)) :
    (∀ i, m.isSyntheticParameter i = true ↔
      i < 64 ∧ (.synthetic i ∈ steps ∨ ((∃ j < 64, .named j ∈ steps) ∧ .named i ∉ steps))) ∧
    applyAll { className, name, signature, flags } (steps.filter DraftStep.isTracked) =
      applyAll { className, name, signature, flags } steps ∧
    applyAllBits? { className, name, signature, flags } steps =
      some (applyAll { className, name, signature, flags } steps) ∧
    ∀ i, m.syntheticParameters.holds? i = some (m.isSyntheticParameter i) := by
  refine ⟨fun i => ?_, applyAll_filter_tracked _ steps, applyAllBits?_eq _ steps,
    fun i => ParameterMask.holds?_eq m.syntheticParameters i⟩
  unfold MethodBody.isSyntheticParameter
  rw [syntheticParameters_of_buildMethod built]
  exact syntheticMask_applyAll className name signature flags steps i

/-- A method whose last parameter that can carry a mark is synthetic. -/
def wide : Method where
  descriptor := ⟨2, ⟨0, 1, "a/Repo"⟩, "put", "(I)V", false⟩
  flags := .ofList []
  sourceSignature := none
  exceptions := []
  syntheticParameters := BitVec.twoPow 64 63
  callCount := 0
  usesConcurrency := false
  hasBackBranch := false
  isStub := false
  serial := 0

/-- A name that comes one parameter too late does not make the parameters without one synthetic. -/
theorem isSyntheticParameter_lateName :
    let steps : List DraftStep := [.named 64, .synthetic 63, .synthetic 200, .named 1000]
    let d := applyAll
      { className := "a/Repo", name := "put", signature := "(I)V", flags := .ofList [] } steps
    let s := Session.start .usual { token := 0 } .fixed (.collect [])
    (Session.buildMethod d).run.run s = (.ok wide, ((Session.buildMethod d).run.run s).2) ∧
    wide.isSyntheticParameter 63 = true ∧ ¬ wide.isSyntheticParameter 62 = true ∧
    ¬ wide.isSyntheticParameter 64 = true ∧ ¬ wide.isSyntheticParameter 200 = true := by
  intro steps d s
  have given : ((Session.buildMethod d).run.run s).1 = .ok wide :=
    Work.eq_ok_of_toOption (by decide +kernel)
  have built : (Session.buildMethod d).run.run s =
      (.ok wide, ((Session.buildMethod d).run.run s).2) := Prod.ext given rfl
  have spec := (isSyntheticParameter_built built).1
  have late : ¬ ∃ j < 64, DraftStep.named j ∈ steps := by
    rintro ⟨j, inside, named⟩
    simp only [steps, List.mem_cons, DraftStep.named.injEq, reduceCtorEq, List.not_mem_nil,
      or_false, false_or] at named
    omega
  refine ⟨built, (spec 63).2 ⟨by decide, Or.inl (by simp [steps])⟩, ?_, ?_, ?_⟩
  · intro held
    rcases ((spec 62).1 held).2 with said | ⟨other, -⟩
    · simp [steps] at said
    · exact late other
  · intro held
    exact absurd ((spec 64).1 held).1 (by decide)
  · intro held
    exact absurd ((spec 200).1 held).1 (by decide)

end MethodDraft

end JvmFacts
