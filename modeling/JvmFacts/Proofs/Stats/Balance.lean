import Mathlib.Tactic.Abel
import JvmFacts.Proofs.Stats.Operations

/-!
The total that stands beside the counts of the four priorities is their sum, in a package and in each
of its entries. Entries come in from outside as well, so what is asked of these is that they came
about by what can be done to the statistics of a class.
-/

set_option autoImplicit false

namespace JvmFacts

namespace BugCounts

section

variable {M : Type} [AddCommMonoid M] (read : UInt32 → M)

/-- Nothing is counted but the four priorities. -/
def Balanced (b : BugCounts) : Prop :=
  read (b.slot 0) = read (b.slot 1) + read (b.slot 2) + read (b.slot 3) + read (b.slot 4)

variable {read} {checks : Bool} (reads : Reads checks read)

theorem Balanced.add {a b : BugCounts} (first : a.Balanced read) (second : b.Balanced read)
    (splits : a.Splits read b) : (a.add b).Balanced read := by
  unfold Balanced at *
  simp only [slot_add]
  rw [splits 0, splits 1, splits 2, splits 3, splits 4, first, second]
  abel

include reads

theorem balanced_zero : zero.Balanced read := by
  simp only [Balanced, slot_zero, reads.zero, add_zero]

theorem Balanced.count {b : BugCounts} (balanced : b.Balanced read) {p : Priority}
    (fit : checks = true → b.countFits p = true) : (b.count p).Balanced read := by
  have one : (single p).Balanced read := by
    cases p <;> simp [Balanced, slot, single, BugCounts.count, zero, Priority.ofNumber?, of, reads.zero]
  rw [count_eq_add]
  exact balanced.add one (reads.splits_single fit)

/-- Counts that are added up slot by slot. -/
theorem balanced_foldl_add {counts : List BugCounts} (each : ∀ b ∈ counts, b.Balanced read)
    (fit : checks = true → ∀ n, sumFits 0 (counts.map fun b => b.slot n) = true) :
    (counts.foldl BugCounts.add zero).Balanced read := by
  have sums : ∀ n, read ((counts.foldl BugCounts.add zero).slot n) =
      (counts.map fun b => read (b.slot n)).sum := by
    intro n
    have sum := reads.sum fun checked => fit checked n
    rw [reads.zero, zero_add (M := M), List.map_map] at sum
    rw [slot_foldl_add, slot_zero]
    exact sum
  unfold Balanced
  rw [sums, sums, sums, sums, sums, ← List.sum_map_add, ← List.sum_map_add, ← List.sum_map_add]
  exact congrArg List.sum (List.map_congr_left each)

end

end BugCounts

namespace ClassStats

/-- What can be done to the statistics of a class. -/
inductive Step where
  | setInterface (isInterface : Bool)
  | setSize (size : UInt32)
  | addFinding (f : Finding)
  | clearBugs

def apply (c : ClassStats) : Step → ClassStats
  | .setInterface isInterface => { c with isInterface }
  | .setSize size => { c with size }
  | .addFinding f => c.addFinding f
  | .clearBugs => c.clearBugs

/-- Nothing wraps around when this is done. -/
def stepFits (c : ClassStats) : Step → Bool
  | .addFinding f => f.priority?.all c.bugs.countFits
  | .setInterface _ => true
  | .setSize _ => true
  | .clearBugs => true

/-- Statistics of a class that can come about, in a build that checks its sums or in one that does
not. -/
inductive Made (checks : Bool) : ClassStats → Prop
  | start {name : String} {sourceFile : Option String} : Made checks { name, sourceFile }
  | apply {c : ClassStats} {step : Step} (made : Made checks c)
    (fit : checks = true → c.stepFits step = true) : Made checks (c.apply step)

section

variable {M : Type} [AddCommMonoid M] {checks : Bool} {read : UInt32 → M} {c : ClassStats}

/-- The class that a finding names does not matter here. -/
theorem Made.count (made : c.Made checks) {p : Priority}
    (fit : checks = true → c.bugs.countFits p = true) : (c.count p).Made checks := by
  have priority : Finding.priority? ⟨p.number, c.name, none⟩ = some p := Priority.ofNumber?_number p
  have counted : c.apply (.addFinding ⟨p.number, c.name, none⟩) = c.count p := by
    simp only [ClassStats.apply, addFinding, priority]
  rw [← counted]
  apply made.apply
  intro checked
  simp only [stepFits, priority, Option.all_some]
  exact fit checked

theorem Made.balanced (reads : Reads checks read) (made : c.Made checks) :
    c.bugs.Balanced read := by
  induction made with
  | start => exact BugCounts.balanced_zero reads
  | @apply c step made fit ih =>
    cases step with
    | setInterface isInterface => exact ih
    | setSize size => exact ih
    | clearBugs => exact BugCounts.balanced_zero reads
    | addFinding f =>
      unfold ClassStats.apply addFinding
      unfold stepFits at fit
      dsimp only at fit ⊢
      cases counted : f.priority? with
      | none => exact ih
      | some p =>
        rw [counted] at fit
        exact ih.count reads fit

end

end ClassStats

namespace PackageStats

section

variable {M : Type} [AddCommMonoid M] (checks : Bool) (read : UInt32 → M)

/-- The counts add up, and each entry is as the statistics of a class come about, so that it can be
taken out and brought into another package. -/
structure Balanced (p : PackageStats) : Prop where
  bugs : p.bugs.Balanced read
  entries : ∀ c ∈ p.members.values, c.Made checks

variable {checks read} (reads : Reads checks read) {p : PackageStats}

include reads

theorem balanced_preset (name : String) (classCount : Nat) (size : UInt32) :
    (preset name classCount size).Balanced checks read where
  bugs := BugCounts.balanced_zero reads
  entries := by
    intro c held
    cases held

variable (balanced : p.Balanced checks read)

include balanced

omit reads in
theorem Balanced.memberOr (name : String) (sourceFile : Option String) :
    (p.memberOr name sourceFile).Made checks := by
  unfold PackageStats.memberOr
  cases held : p.member? name with
  | none => exact .start
  | some c => exact balanced.entries c (List.mem_map_of_mem (NameTable.mem_of_find? held))

omit reads in
theorem Balanced.put {c : ClassStats} (made : c.Made checks) : (p.put c).Balanced checks read where
  bugs := balanced.bugs
  entries := by
    intro d held
    obtain ⟨entry, member, rfl⟩ := List.mem_map.1 held
    rcases NameTable.mem_insert member with rfl | earlier
    · exact made
    · exact balanced.entries _ (List.mem_map_of_mem earlier)

omit reads in
theorem Balanced.addStats {c : ClassStats} (made : c.Made checks) (growsPackage : Bool) :
    (p.addStats c growsPackage).Balanced checks read := by
  obtain ⟨size, classCount, dropped⟩ := p.dropPreset_frame
  have emptied : p.dropPreset.Balanced checks read := by
    rw [dropped]
    exact ⟨balanced.bugs, balanced.entries⟩
  have added := emptied.put made
  unfold PackageStats.addStats
  split
  · exact ⟨added.bugs, added.entries⟩
  · exact added

theorem Balanced.add {a : Addition} (fit : checks = true → p.addFits a = true) :
    (p.add a).Balanced checks read := by
  cases a with
  | finding f =>
    change checks = true → p.findingFits f = true at fit
    unfold findingFits at fit
    simp only [PackageStats.add, addFinding]
    cases counted : f.priority? with
    | none => exact balanced
    | some priority =>
      rw [counted, Option.all_some] at fit
      have both := fun checked => Bool.and_eq_true_iff.1 (fit checked)
      have first : Balanced checks read { p with bugs := p.bugs.count priority } :=
        ⟨balanced.bugs.count reads fun checked => (both checked).1, balanced.entries⟩
      exact first.put ((balanced.memberOr f.className f.sourceFile).count
        fun checked => (both checked).2)
  | ofClass name sourceFile isInterface size growsPackage =>
    have described : ClassStats.Made checks
        ((p.memberOr name sourceFile).apply (.setInterface isInterface)) :=
      (balanced.memberOr name sourceFile).apply fun _ => rfl
    have sized : ClassStats.Made checks
        (((p.memberOr name sourceFile).apply (.setInterface isInterface)).apply (.setSize size)) :=
      described.apply fun _ => rfl
    exact balanced.addStats sized growsPackage

theorem Balanced.apply {step : Step} (fit : checks = true → p.stepFits step = true) :
    (p.apply step).Balanced checks read := by
  cases step with
  | add a => exact balanced.add reads fit
  | setSize size => exact ⟨balanced.bugs, balanced.entries⟩
  | clearBugs =>
    constructor
    · exact BugCounts.balanced_zero reads
    · intro c held
      obtain ⟨entry, member, rfl⟩ := List.mem_map.1 held
      obtain ⟨⟨name, before⟩, earlier, rfl⟩ := List.mem_map.1 member
      have cleared : ClassStats.Made checks (before.apply .clearBugs) :=
        (balanced.entries before (List.mem_map_of_mem earlier)).apply fun _ => rfl
      exact cleared
  | recompute =>
    constructor
    · apply BugCounts.balanced_foldl_add reads
      · intro counts held
        obtain ⟨c, entry, rfl⟩ := List.mem_map.1 held
        exact (balanced.entries c entry).balanced reads
      · intro checked n
        rw [List.map_map]
        exact sumFits_of_recomputeFits (fit checked) n
    · exact balanced.entries

theorem Balanced.operate {operation : Operation}
    (made : ∀ c growsPackage, operation = .addStats c growsPackage → c.Made checks)
    (fit : checks = true → p.operationFits operation = true) :
    (p.operate operation).Balanced checks read := by
  cases operation with
  | step s => exact balanced.apply reads fit
  | addStats c growsPackage => exact balanced.addStats (made c growsPackage rfl) growsPackage
  | setClassCount classCount => exact ⟨balanced.bugs, balanced.entries⟩
  | retain wanted =>
    constructor
    · exact balanced.bugs
    · intro c held
      obtain ⟨entry, kept, rfl⟩ := List.mem_map.1 held
      exact balanced.entries _ (List.mem_map_of_mem (List.mem_of_mem_filter kept))

end

/-- Whatever is done to a package, as long as the statistics that are brought in came about like those
of its own entries: the total is the sum of the priorities one to four, for the package and for each
entry. Where the build checks its sums, it is the sum of natural numbers. -/
theorem operateAll_balanced (name : String) (classCount : Nat) (size : UInt32)
    (operations : List Operation) :
    ((∀ c growsPackage, .addStats c growsPackage ∈ operations → c.Made false) →
      let p := (preset name classCount size).operateAll operations
      p.bugs.total = p.bugs.slot 1 + p.bugs.slot 2 + p.bugs.slot 3 + p.bugs.slot 4 ∧
        ∀ c ∈ p.members.values, c.Made false ∧
          c.bugs.total = c.bugs.slot 1 + c.bugs.slot 2 + c.bugs.slot 3 + c.bugs.slot 4) ∧
    ((∀ c growsPackage, .addStats c growsPackage ∈ operations → c.Made true) →
      ∀ p, (preset name classCount size).operateAll? operations = some p →
        p = (preset name classCount size).operateAll operations ∧
        p.bugs.total.toNat = (p.bugs.slot 1).toNat + (p.bugs.slot 2).toNat +
          (p.bugs.slot 3).toNat + (p.bugs.slot 4).toNat ∧
        ∀ c ∈ p.members.values, c.Made true ∧
          c.bugs.total.toNat = (c.bugs.slot 1).toNat + (c.bugs.slot 2).toNat +
            (c.bugs.slot 3).toNat + (c.bugs.slot 4).toNat) := by
  constructor
  · intro made p
    have balanced : p.Balanced false id := by
      apply List.foldlRecOn
      · exact balanced_preset reads_wrapping name classCount size
      · rintro q balanced operation member
        apply balanced.operate reads_wrapping _ nofun
        rintro c growsPackage rfl
        exact made c growsPackage member
    refine ⟨balanced.bugs, ?_⟩
    intro c held
    have made := balanced.entries c held
    exact ⟨made, made.balanced reads_wrapping⟩
  · intro made p ended
    have balanced : p.Balanced true UInt32.toNat := by
      apply of_runChecked ended (balanced_preset reads_checked name classCount size)
      rintro q operation member balanced fit
      apply balanced.operate reads_checked _ fun _ => fit
      rintro c growsPackage rfl
      exact made c growsPackage member
    refine ⟨eq_of_runChecked ended, balanced.bugs, ?_⟩
    intro c held
    have made := balanced.entries c held
    exact ⟨made, made.balanced reads_checked⟩

/-- Statistics of a class with a finding of their own. -/
def brought : ClassStats :=
  (({ name := "p.A", sourceFile := none } : ClassStats).apply (.addFinding ⟨4, "p.A", none⟩)).apply
    (.setSize 10)

theorem made_brought (checks : Bool) : brought.Made checks :=
  (ClassStats.Made.start.apply fun _ => by decide).apply fun _ => rfl

/-- They replace the entry of their class, after which the package itself counts more than its entries
do. -/
def replacing : List Operation :=
  [.step (.add (.finding ⟨1, "p.A", none⟩)), .step (.add (.finding ⟨2, "p.B", none⟩)),
    .addStats brought true, .retain (· = "p.A")]

theorem operateAll_balanced_replacing :
    let p := (preset "p" 3 40).operateAll replacing
    p.bugs.total = 2 ∧ p.members.values = [brought] ∧ brought.bugs.total = 1 ∧
    (preset "p" 3 40).operateAll? replacing = some p ∧
    p.bugs.total = p.bugs.slot 1 + p.bugs.slot 2 + p.bugs.slot 3 + p.bugs.slot 4 ∧
    p.bugs.total.toNat = (p.bugs.slot 1).toNat + (p.bugs.slot 2).toNat +
      (p.bugs.slot 3).toNat + (p.bugs.slot 4).toNat := by
  intro p
  have made : ∀ checks c growsPackage, .addStats c growsPackage ∈ replacing → c.Made checks := by
    intro checks c growsPackage member
    simp only [replacing, List.mem_cons, reduceCtorEq, Operation.addStats.injEq, List.not_mem_nil,
      false_or, or_false] at member
    rw [member.1]
    exact made_brought checks
  have ended : (preset "p" 3 40).operateAll? replacing = some p := by decide
  have wrapping := (operateAll_balanced "p" 3 40 replacing).1 (made false)
  have checked := (operateAll_balanced "p" 3 40 replacing).2 (made true) p ended
  exact ⟨by decide, by decide, by decide, ended, wrapping.1, checked.2.1⟩

end PackageStats

end JvmFacts
