import Mathlib.Algebra.BigOperators.Group.List.Basic
import JvmFacts.Proofs.Stats.Additions

/-!
What a package counts is what its entries count together, whatever it is told and however often it
is cleared or recomputed in between.
-/

set_option autoImplicit false

namespace JvmFacts

namespace PackageStats

/-- What happens to a package that neither overrides its class count nor takes entries as they are
or away. -/
inductive Step where
  | add (a : Addition)
  | setSize (size : UInt32)
  | clearBugs
  | recompute

def apply (p : PackageStats) : Step → PackageStats
  | .add a => p.add a
  | .setSize size => p.setSize size
  | .clearBugs => p.clearBugs
  | .recompute => p.recompute

def applyAll (p : PackageStats) (steps : List Step) : PackageStats :=
  steps.foldl apply p

/-- Nothing wraps around when this happens. -/
def stepFits (p : PackageStats) : Step → Bool
  | .add a => p.addFits a
  | .recompute => p.recomputeFits
  | .setSize _ => true
  | .clearBugs => true

/-- The check goes over the slots that there are; in others there is nothing to add up. -/
theorem sumFits_of_recomputeFits {p : PackageStats} (fit : p.recomputeFits = true) (n : Nat) :
    sumFits 0 (p.members.values.map fun c => c.bugs.slot n) = true := by
  obtain ⟨slots, -⟩ := Bool.and_eq_true_iff.1 fit
  by_cases counted : n < BugCounts.slotCount
  · exact List.all_eq_true.1 slots n (List.mem_range.2 counted)
  · apply sumFits_of_zeros
    intro m member
    obtain ⟨c, -, rfl⟩ := List.mem_map.1 member
    exact c.bugs.slot_of_le (Nat.le_of_not_lt counted)

section

variable {M : Type} [AddCancelCommMonoid M] (read : UInt32 → M)

/-- A slot summed over all entries. -/
def slotSum (p : PackageStats) (n : Nat) : M :=
  (p.members.values.map fun c => read (c.bugs.slot n)).sum

/-- The counts are the sums over the entries, and so is the class count if there is an entry. -/
structure RolledUp (p : PackageStats) : Prop extends Keyed p where
  slots : ∀ n, read (p.bugs.slot n) = p.slotSum read n
  counted : p.Counted

variable {read} {checks : Bool} (reads : Reads checks read) {p : PackageStats}

include reads

theorem rolledUp_preset (name : String) (classCount : Nat) (size : UInt32) :
    (preset name classCount size).RolledUp read where
  toKeyed := keyed_preset name classCount size
  slots := by
    intro n
    have nothing : (preset name classCount size).bugs.slot n = 0 := BugCounts.slot_zero n
    rw [nothing, reads.zero]
    rfl
  counted := fun filled => absurd rfl filled

/-- An addition brings the same to the counts of an entry as to those of the package. -/
theorem Keyed.slotSum_add (keyed : p.Keyed) {a : Addition}
    (splits : (p.memberOr a.className a.sourceFile).bugs.Splits read a.bugs) (n : Nat) :
    (p.add a).slotSum read n = p.slotSum read n + read (a.bugs.slot n) := by
  unfold slotSum
  rw [keyed.members_add]
  cases changes : a.change? with
  | none =>
    rw [Addition.bugs_of_unchanged changes, BugCounts.slot_zero, reads.zero, add_zero]
  | some change =>
    have sums := NameTable.sum_insert (fun c : ClassStats => read (c.bugs.slot n)) keyed.ordered
      a.className (change (p.memberOr a.className a.sourceFile))
    have brought := (Addition.of_change? changes (p.memberOr a.className a.sourceFile)).2.2
    have before : (NameTable.find? a.className p.members).elim 0 (fun c => read (c.bugs.slot n)) =
        read ((p.memberOr a.className a.sourceFile).bugs.slot n) := by
      rw [slot_memberOr]
      unfold member?
      cases NameTable.find? a.className p.members with
      | none => exact reads.zero.symm
      | some c => rfl
    rw [brought, BugCounts.slot_add, splits n, before, add_comm (read _), ← add_assoc] at sums
    exact add_right_cancel sums

theorem RolledUp.add (rolledUp : p.RolledUp read) {a : Addition}
    (fit : checks = true → p.addFits a = true) : (p.add a).RolledUp read where
  toKeyed := rolledUp.toKeyed.add a
  slots := by
    intro n
    obtain ⟨total, entry⟩ := splits_of_addFits reads fit
    rw [bugs_add, BugCounts.slot_add, total n, rolledUp.slots, rolledUp.slotSum_add reads entry]
  counted := rolledUp.counted.add rolledUp.toKeyed a

omit reads in
theorem Keyed.clearBugs (keyed : p.Keyed) : p.clearBugs.Keyed where
  ordered := keyed.ordered.mapValues ClassStats.clearBugs
  named := by
    intro name c held
    have found := (NameTable.find?_mapValues ClassStats.clearBugs name p.members).symm.trans held
    obtain ⟨old, before, rfl⟩ := Option.map_eq_some_iff.1 found
    exact keyed.named name old before

theorem RolledUp.clearBugs (rolledUp : p.RolledUp read) : p.clearBugs.RolledUp read where
  toKeyed := rolledUp.toKeyed.clearBugs
  slots := by
    intro n
    have cleared : p.clearBugs.members.values = p.members.values.map ClassStats.clearBugs := by
      unfold PackageStats.clearBugs NameTable.values
      rw [List.map_map, List.map_map]
      rfl
    have nothing : ((fun c : ClassStats => read (c.bugs.slot n)) ∘ ClassStats.clearBugs) =
        fun _ => 0 := by
      funext c
      exact (congrArg read (BugCounts.slot_zero n)).trans reads.zero
    have none : p.clearBugs.bugs.slot n = 0 := BugCounts.slot_zero n
    unfold slotSum
    rw [cleared, List.map_map, nothing, List.map_const', List.sum_replicate, nsmul_zero, none,
      reads.zero]
  counted := by
    intro filled
    have length : p.clearBugs.members.length = p.members.length := List.length_map _
    rw [length]
    apply rolledUp.counted
    intro empty
    rw [empty] at length
    exact filled (List.length_eq_zero_iff.1 length)

/-- Whatever was counted before, recomputing goes by the entries. -/
theorem Keyed.recompute (keyed : p.Keyed) (fit : checks = true → p.recomputeFits = true) :
    p.recompute.RolledUp read where
  ordered := keyed.ordered
  named := keyed.named
  slots := by
    intro n
    have folded := BugCounts.slot_foldl_add (p.members.values.map ClassStats.bugs) .zero n
    have sum := reads.sum fun checked => sumFits_of_recomputeFits (fit checked) n
    rw [BugCounts.slot_zero, List.map_map] at folded
    rw [reads.zero, zero_add (M := M), List.map_map] at sum
    exact (congrArg read folded).trans sum
  counted := fun _ => List.length_map _

theorem RolledUp.apply (rolledUp : p.RolledUp read) {step : Step}
    (fit : checks = true → p.stepFits step = true) : (p.apply step).RolledUp read := by
  cases step with
  | add a => exact rolledUp.add reads fit
  | setSize size => exact ⟨⟨rolledUp.ordered, rolledUp.named⟩, rolledUp.slots, rolledUp.counted⟩
  | clearBugs => exact rolledUp.clearBugs reads
  | recompute => exact rolledUp.toKeyed.recompute reads fit

end

end PackageStats

end JvmFacts
