import Mathlib.Algebra.BigOperators.Group.List.Basic
import Mathlib.Data.UInt
import JvmFacts.Stats.Counts

/-!
Sums of numbers with 32 bits, in builds that let them wrap around and in builds that check them. A sum
that wraps around is one of such numbers, a sum that passes the check is one of natural numbers; what
follows from either reading alone is proved of both at once.
-/

set_option autoImplicit false

namespace JvmFacts

theorem fits_iff {a b : UInt32} : fits a b = true ↔ a.toNat + b.toNat < 2 ^ 32 :=
  decide_eq_true_iff

theorem toNat_add_of_fits {a b : UInt32} (fit : fits a b = true) :
    (a + b).toNat = a.toNat + b.toNat := by
  rw [UInt32.toNat_add, Nat.mod_eq_of_lt (fits_iff.1 fit)]

/-- Smaller numbers fit where larger ones do. -/
theorem fits_of_le {a b c : UInt32} (less : a.toNat ≤ c.toNat) (fit : fits c b = true) :
    fits a b = true := by
  rw [fits_iff] at fit ⊢
  omega

@[simp] theorem fits_zero (a : UInt32) : fits a 0 = true :=
  fits_iff.2 a.toNat_lt

/-- It is the whole sum that has to fit, as it is the largest one. -/
theorem sumFits_iff {start : UInt32} {ns : List UInt32} :
    sumFits start ns = true ↔ start.toNat + (ns.map UInt32.toNat).sum < 2 ^ 32 := by
  induction ns generalizing start with
  | nil => exact iff_of_true rfl start.toNat_lt
  | cons n rest ih =>
    rw [sumFits, Bool.and_eq_true, ih, List.map_cons, List.sum_cons, ← Nat.add_assoc]
    constructor
    · rintro ⟨first, others⟩
      rwa [toNat_add_of_fits first] at others
    · intro fit
      have first : fits start n = true := fits_iff.2 (by omega)
      rw [toNat_add_of_fits first]
      exact ⟨first, fit⟩

theorem sumFits_of_zeros {ns : List UInt32} (zeros : ∀ n ∈ ns, n = 0) : sumFits 0 ns = true := by
  induction ns with
  | nil => rfl
  | cons n rest ih =>
    obtain ⟨rfl, others⟩ := List.forall_mem_cons.1 zeros
    rw [sumFits, fits_zero, Bool.true_and, UInt32.add_zero]
    exact ih others

/-- The sum is the sum of natural numbers but for what went around. -/
theorem toNat_sum (ns : List UInt32) : ns.sum.toNat = (ns.map UInt32.toNat).sum % 2 ^ 32 := by
  induction ns with
  | nil => rfl
  | cons n rest ih =>
    rw [List.sum_cons, UInt32.toNat_add, ih, List.map_cons, List.sum_cons, Nat.add_mod_mod]

/-! ## Readings -/

/-- Read like this, sums are sums; where the build checks them, those that fit are. -/
structure Reads {M : Type} [AddCommMonoid M] (checks : Bool) (read : UInt32 → M) : Prop where
  zero : read 0 = 0
  add : ∀ a b, (checks = true → fits a b = true) → read (a + b) = read a + read b

theorem reads_wrapping : Reads false (id : UInt32 → UInt32) where
  zero := rfl
  add := fun _ _ _ => rfl

theorem reads_checked : Reads true UInt32.toNat where
  zero := rfl
  add := fun _ _ fit => toNat_add_of_fits (fit rfl)

namespace BugCounts

/-- The counts of one finding. -/
def single (p : Priority) : BugCounts :=
  zero.count p

/-- Read like this, what is added to the one is what the other holds. -/
def Splits {M : Type} [AddCommMonoid M] (read : UInt32 → M) (a b : BugCounts) : Prop :=
  ∀ n, read (a.slot n + b.slot n) = read (a.slot n) + read (b.slot n)

/-- There are no findings beyond the priorities. -/
theorem slot_of_le {n : Nat} (beyond : slotCount ≤ n) (b : BugCounts) : b.slot n = 0 := by
  have none : Priority.ofNumber? n = none := by
    unfold Priority.ofNumber?
    split <;> first | rfl | exact absurd beyond (by decide)
  have further : n ≠ 0 := by
    rintro rfl
    exact absurd beyond (by decide)
  rw [slot, if_neg further, none, Option.elim_none]

theorem slot_foldl_add (counts : List BugCounts) (b : BugCounts) (n : Nat) :
    (counts.foldl add b).slot n = b.slot n + (counts.map fun c => c.slot n).sum := by
  induction counts generalizing b with
  | nil => exact (add_zero _).symm
  | cons c rest ih =>
    rw [List.foldl_cons, List.map_cons, List.sum_cons, ih, slot_add, add_assoc]

/-- Where the slots are smaller, one more finding fits as well. -/
theorem countFits_of_le {a b : BugCounts} (less : ∀ n, (a.slot n).toNat ≤ (b.slot n).toNat)
    {p : Priority} (fit : b.countFits p = true) : a.countFits p = true := by
  obtain ⟨total, counted⟩ := Bool.and_eq_true_iff.1 fit
  refine Bool.and_eq_true_iff.2 ⟨fits_of_le (less 0) total, ?_⟩
  cases p with
  | one => exact fits_of_le (less 1) counted
  | two => exact fits_of_le (less 2) counted
  | three => exact fits_of_le (less 3) counted
  | four => exact fits_of_le (less 4) counted

/-- One more finding adds to each slot a number that fits. -/
theorem fits_slot_single {b : BugCounts} {p : Priority} (fit : b.countFits p = true) (n : Nat) :
    fits (b.slot n) ((single p).slot n) = true := by
  obtain ⟨total, counted⟩ := Bool.and_eq_true_iff.1 fit
  unfold slot
  split
  · cases p <;> exact total
  · cases Priority.ofNumber? n with
    | none => rfl
    | some q =>
      by_cases same : p = q
      · subst same
        cases p <;> exact counted
      · have nothing : (single p).of q = 0 := by
          cases p <;> cases q <;> first | rfl | exact absurd rfl same
        exact nothing ▸ fits_zero (b.of q)

end BugCounts

section

variable {M : Type} [AddCommMonoid M] {checks : Bool} {read : UInt32 → M} (reads : Reads checks read)

include reads

theorem Reads.sum {start : UInt32} {ns : List UInt32}
    (fit : checks = true → sumFits start ns = true) :
    read (start + ns.sum) = read start + (ns.map read).sum := by
  induction ns generalizing start with
  | nil => rw [List.sum_nil, List.map_nil, List.sum_nil, add_zero, add_zero]
  | cons n rest ih =>
    have first : checks = true → fits start n = true :=
      fun checked => (Bool.and_eq_true_iff.1 (fit checked)).1
    have others : checks = true → sumFits (start + n) rest = true :=
      fun checked => (Bool.and_eq_true_iff.1 (fit checked)).2
    rw [List.sum_cons, ← add_assoc, ih others, reads.add start n first, List.map_cons, List.sum_cons,
      add_assoc]

theorem Reads.splits_zero (b : BugCounts) : b.Splits read .zero := by
  intro n
  apply reads.add
  intro _
  rw [BugCounts.slot_zero, fits_zero]

theorem Reads.splits_single {b : BugCounts} {p : Priority}
    (fit : checks = true → b.countFits p = true) : b.Splits read (.single p) :=
  fun n => reads.add _ _ fun checked => BugCounts.fits_slot_single (fit checked) n

end

/-! ## Builds that check their sums -/

/-- Step by step, in a build that stops at a step that does not fit. -/
def runChecked {σ τ : Type} (fit : σ → τ → Bool) (apply : σ → τ → σ) (s : σ) : List τ → Option σ
  | [] => some s
  | t :: rest => if fit s t then runChecked fit apply (apply s t) rest else none

section

variable {σ τ : Type} {fit : σ → τ → Bool} {apply : σ → τ → σ} {s u : σ} {t : τ} {ts : List τ}

theorem runChecked_cons : runChecked fit apply s (t :: ts) = some u ↔
    fit s t = true ∧ runChecked fit apply (apply s t) ts = some u := by
  rw [runChecked, Option.ite_none_right_eq_some]

/-- Such a build ends as any other one, if it does not stop. -/
theorem eq_of_runChecked (ended : runChecked fit apply s ts = some u) : u = ts.foldl apply s := by
  induction ts generalizing s with
  | nil => exact (Option.some.inj ended).symm
  | cons t rest ih => exact ih (runChecked_cons.1 ended).2

/-- What each step keeps that fits, such a build keeps. -/
theorem of_runChecked {invariant : σ → Prop} (ended : runChecked fit apply s ts = some u)
    (start : invariant s)
    (step : ∀ s, ∀ t ∈ ts, invariant s → fit s t = true → invariant (apply s t)) :
    invariant u := by
  induction ts generalizing s with
  | nil =>
    obtain rfl := Option.some.inj ended
    exact start
  | cons t rest ih =>
    obtain ⟨first, others⟩ := runChecked_cons.1 ended
    exact ih others (step s t List.mem_cons_self start first)
      fun s t later => step s t (List.mem_cons_of_mem _ later)

end

end JvmFacts
