import JvmFacts.Proofs.NameTable
import JvmFacts.Proofs.Stats.Sums
import JvmFacts.Stats.Package

/-!
Findings and classes as a package is told of them. Each either changes nothing or changes the entry of
one class, and what it brings to the counts of that entry it brings to the counts of the package.
-/

set_option autoImplicit false

namespace JvmFacts

namespace BugCounts

@[simp] theorem add_nothing (b : BugCounts) : b.add zero = b := by
  simp only [add, zero, UInt32.add_zero]

theorem count_eq_add (b : BugCounts) (p : Priority) : b.count p = b.add (single p) := by
  cases p <;> simp [count, add, single, zero]

theorem add_right_comm (a b c : BugCounts) : (a.add b).add c = (a.add c).add b := by
  simp only [add, mk.injEq]
  refine ⟨?_, ?_, ?_, ?_, ?_⟩ <;> ac_rfl

end BugCounts

namespace PackageStats

/-- What a package is told of: a finding, or a class. -/
inductive Addition where
  | finding (f : Finding)
  | ofClass (name : String) (sourceFile : Option String) (isInterface : Bool) (size : UInt32)
      (growsPackage : Bool)

namespace Addition

def className : Addition → String
  | finding f => f.className
  | ofClass name _ _ _ _ => name

def sourceFile : Addition → Option String
  | finding f => f.sourceFile
  | ofClass _ sourceFile _ _ _ => sourceFile

/-- What becomes of the entry of the class, unless it is a finding that is not counted. -/
def change? : Addition → Option (ClassStats → ClassStats)
  | finding f => f.priority?.map fun p c => c.count p
  | ofClass _ _ isInterface size _ => some fun c => { c with isInterface, size }

def bugs : Addition → BugCounts
  | finding f => f.priority?.elim .zero .single
  | ofClass _ _ _ _ _ => .zero

/-- By how much the package is meant to grow. -/
def growth : Addition → UInt32
  | ofClass _ _ _ size true => size
  | _ => 0

/-- The entry of a class afterwards. A source file is only taken with a new entry. -/
def onEntry (name : String) (a : Addition) (entry : Option ClassStats) : Option ClassStats :=
  match a.change? with
  | some change =>
    if a.className = name then some (change (entry.getD { name, sourceFile := a.sourceFile }))
    else entry
  | none => entry

section

variable {a : Addition} {change : ClassStats → ClassStats}

/-- A change to an entry adds to its counts and leaves its name and its source file. -/
theorem of_change? (changes : a.change? = some change) (c : ClassStats) :
    (change c).name = c.name ∧ (change c).sourceFile = c.sourceFile ∧
      (change c).bugs = c.bugs.add a.bugs := by
  cases a with
  | finding f =>
    obtain ⟨p, counted, rfl⟩ := Option.map_eq_some_iff.1 changes
    have brought : (finding f).bugs = .single p := congrArg (Option.elim · _ _) counted
    rw [brought]
    exact ⟨rfl, rfl, c.bugs.count_eq_add p⟩
  | ofClass name sourceFile isInterface size growsPackage =>
    obtain rfl := Option.some.inj changes
    exact ⟨rfl, rfl, c.bugs.add_nothing.symm⟩

theorem bugs_of_unchanged (unchanged : a.change? = none) : a.bugs = .zero := by
  cases a with
  | finding f => exact congrArg (Option.elim · _ _) (Option.map_eq_none_iff.1 unchanged)
  | ofClass name sourceFile isInterface size growsPackage => cases unchanged

end

end Addition

def add (p : PackageStats) : Addition → PackageStats
  | .finding f => p.addFinding f
  | .ofClass name sourceFile isInterface size growsPackage =>
    p.addClass name sourceFile isInterface size growsPackage

def addAll (p : PackageStats) (additions : List Addition) : PackageStats :=
  additions.foldl add p

/-- Nothing wraps around when this comes in. -/
def addFits (p : PackageStats) : Addition → Bool
  | .finding f => p.findingFits f
  | .ofClass name sourceFile isInterface size growsPackage =>
    p.statsFit { p.memberOr name sourceFile with isInterface, size } growsPackage

/-- In a build that checks its sums. -/
def addAll? (p : PackageStats) (additions : List Addition) : Option PackageStats :=
  runChecked addFits add p additions

/-- In a build that checks its sums. -/
def recompute? (p : PackageStats) : Option PackageStats :=
  if p.recomputeFits then some p.recompute else none

theorem addAll_concat (p : PackageStats) (additions : List Addition) (a : Addition) :
    p.addAll (additions ++ [a]) = (p.addAll additions).add a :=
  List.foldl_append ..

/-- The entries stand in ascending order, each under the name of its class. -/
structure Keyed (p : PackageStats) : Prop where
  ordered : p.members.Ascending
  named : ∀ name c, p.member? name = some c → c.name = name

theorem keyed_preset (name : String) (classCount : Nat) (size : UInt32) :
    (preset name classCount size).Keyed where
  ordered := List.Pairwise.nil
  named := by
    intro other c held
    cases held

theorem dropPreset_frame (p : PackageStats) : ∃ size classCount,
    p.dropPreset = { p with size, classCount } := by
  unfold dropPreset
  split
  · exact ⟨0, 0, rfl⟩
  · exact ⟨p.size, p.classCount, rfl⟩

/-- A class is written like any entry; but for the size, only what is preset may go before that. -/
theorem addClass_frame (p : PackageStats) (name : String) (sourceFile : Option String)
    (isInterface : Bool) (size : UInt32) (growsPackage : Bool) : ∃ grown,
    p.addClass name sourceFile isInterface size growsPackage =
      { p.dropPreset.put { p.memberOr name sourceFile with isInterface, size } with size := grown } := by
  unfold addClass addStats
  split
  · exact ⟨_, rfl⟩
  · exact ⟨(p.dropPreset.put { p.memberOr name sourceFile with isInterface, size }).size, rfl⟩

/-- The counts of an entry that is not there are zero. -/
theorem slot_memberOr (p : PackageStats) (name : String) (sourceFile : Option String) (n : Nat) :
    (p.memberOr name sourceFile).bugs.slot n =
      (p.member? name).elim 0 fun c => c.bugs.slot n := by
  unfold memberOr
  cases p.member? name with
  | none => exact BugCounts.slot_zero n
  | some c => rfl

section

variable {p : PackageStats} (keyed : p.Keyed)

include keyed

theorem Keyed.name_memberOr (name : String) (sourceFile : Option String) :
    (p.memberOr name sourceFile).name = name := by
  unfold memberOr
  cases held : p.member? name with
  | none => rfl
  | some c => exact keyed.named name c held

/-- What comes in is written under the name of its class. -/
theorem Keyed.members_add (a : Addition) : (p.add a).members =
    match a.change? with
    | some change => NameTable.insert a.className
        (change (p.memberOr a.className a.sourceFile)) p.members
    | none => p.members := by
  cases a with
  | finding f =>
    simp only [add, addFinding, Addition.change?]
    cases counted : f.priority? with
    | none => rfl
    | some priority =>
      have name := keyed.name_memberOr f.className f.sourceFile
      change NameTable.insert (p.memberOr f.className f.sourceFile).name _ _ = _
      rw [name]
      rfl
  | ofClass name sourceFile isInterface size growsPackage =>
    obtain ⟨grown, added⟩ := p.addClass_frame name sourceFile isInterface size growsPackage
    obtain ⟨before, classCount, dropped⟩ := p.dropPreset_frame
    have named := keyed.name_memberOr name sourceFile
    rw [add, added, dropped]
    change NameTable.insert (p.memberOr name sourceFile).name _ _ = _
    rw [named]
    rfl

theorem Keyed.member?_add (a : Addition) (name : String) :
    (p.add a).member? name = a.onEntry name (p.member? name) := by
  unfold member? Addition.onEntry
  rw [keyed.members_add]
  cases a.change? with
  | none => rfl
  | some change =>
    dsimp only
    rw [NameTable.find?_insert]
    by_cases same : a.className = name
    · rw [if_pos same, if_pos same, ← same]
      rfl
    · rw [if_neg same, if_neg same]

theorem Keyed.add (a : Addition) : (p.add a).Keyed where
  ordered := by
    rw [keyed.members_add]
    cases a.change? with
    | none => exact keyed.ordered
    | some change => exact keyed.ordered.insert _ _
  named := by
    intro name c held
    rw [keyed.member?_add, Addition.onEntry] at held
    cases changes : a.change? with
    | none =>
      rw [changes] at held
      exact keyed.named name c held
    | some change =>
      rw [changes] at held
      dsimp only at held
      split at held
      · obtain rfl := Option.some.inj held
        rw [(Addition.of_change? changes _).1]
        cases before : p.member? name with
        | none => rfl
        | some old => exact keyed.named name old before
      · exact keyed.named name c held

/-- The entry of a class goes by what came in about this class, in the order in which it came. -/
theorem Keyed.member?_addAll (additions : List Addition) (name : String) :
    (p.addAll additions).member? name =
      additions.foldl (fun entry a => a.onEntry name entry) (p.member? name) := by
  induction additions generalizing p with
  | nil => rfl
  | cons a rest ih =>
    rw [List.foldl_cons, ← keyed.member?_add]
    exact ih (keyed.add a)

end

/-- What comes in splits off the counts of the package, and of the entry. -/
theorem splits_of_addFits {M : Type} [AddCommMonoid M] {checks : Bool} {read : UInt32 → M}
    (reads : Reads checks read) {p : PackageStats} {a : Addition}
    (fit : checks = true → p.addFits a = true) :
    p.bugs.Splits read a.bugs ∧ (p.memberOr a.className a.sourceFile).bugs.Splits read a.bugs := by
  cases a with
  | finding f =>
    cases counted : f.priority? with
    | none =>
      have unchanged : (Addition.finding f).change? = none := Option.map_eq_none_iff.2 counted
      rw [Addition.bugs_of_unchanged unchanged]
      exact ⟨reads.splits_zero _, reads.splits_zero _⟩
    | some priority =>
      have brought : (Addition.finding f).bugs = .single priority :=
        congrArg (Option.elim · _ _) counted
      have both : checks = true → p.bugs.countFits priority = true ∧
          (p.memberOr f.className f.sourceFile).bugs.countFits priority = true := by
        intro checked
        have fits : p.findingFits f = true := fit checked
        unfold findingFits at fits
        rw [counted, Option.all_some, Bool.and_eq_true] at fits
        exact fits
      rw [brought]
      exact ⟨reads.splits_single fun checked => (both checked).1,
        reads.splits_single fun checked => (both checked).2⟩
  | ofClass name sourceFile isInterface size growsPackage =>
    have nothing : (Addition.ofClass name sourceFile isInterface size growsPackage).bugs = .zero := rfl
    rw [nothing]
    exact ⟨reads.splits_zero _, reads.splits_zero _⟩

/-! ## What is kept of the package itself -/

section

variable (p : PackageStats) (a : Addition)

theorem name_add : (p.add a).name = p.name := by
  cases a with
  | finding f =>
    simp only [add, addFinding]
    cases f.priority? <;> rfl
  | ofClass name sourceFile isInterface size growsPackage =>
    obtain ⟨grown, added⟩ := p.addClass_frame name sourceFile isInterface size growsPackage
    obtain ⟨before, classCount, dropped⟩ := p.dropPreset_frame
    rw [add, added, dropped]
    rfl

theorem bugs_add : (p.add a).bugs = p.bugs.add a.bugs := by
  cases a with
  | finding f =>
    simp only [add, addFinding, Addition.bugs]
    cases f.priority? with
    | none => exact p.bugs.add_nothing.symm
    | some priority => exact p.bugs.count_eq_add priority
  | ofClass name sourceFile isInterface size growsPackage =>
    obtain ⟨grown, added⟩ := p.addClass_frame name sourceFile isInterface size growsPackage
    obtain ⟨before, classCount, dropped⟩ := p.dropPreset_frame
    rw [add, added, dropped]
    exact p.bugs.add_nothing.symm

theorem name_addAll (additions : List Addition) : (p.addAll additions).name = p.name := by
  induction additions generalizing p with
  | nil => rfl
  | cons a rest ih => exact (ih (p.add a)).trans (p.name_add a)

theorem bugs_addAll (additions : List Addition) : (p.addAll additions).bugs =
    additions.foldl (fun bugs a => bugs.add a.bugs) p.bugs := by
  induction additions generalizing p with
  | nil => rfl
  | cons a rest ih =>
    rw [List.foldl_cons, ← p.bugs_add a]
    exact ih (p.add a)

end

/-- The class count is the number of entries as soon as there is one. -/
def Counted (p : PackageStats) : Prop :=
  p.members ≠ [] → p.classCount = p.members.length

theorem Counted.put {p : PackageStats} (keyed : p.Keyed) (counted : p.Counted) (c : ClassStats) :
    (p.put c).Counted := by
  intro _
  have lengths := NameTable.length_insert keyed.ordered c.name c
  have more : (p.put c).members.length = (NameTable.insert c.name c p.members).length := rfl
  have count : (p.put c).classCount =
      if p.members.contains c.name then p.classCount else (p.put c).members.length := rfl
  rw [count]
  split
  · rename_i known
    rw [if_pos known] at lengths
    have filled : p.members ≠ [] := by
      intro empty
      rw [empty] at known
      cases known
    have before := counted filled
    omega
  · rfl

theorem Counted.add {p : PackageStats} (keyed : p.Keyed) (counted : p.Counted) (a : Addition) :
    (p.add a).Counted := by
  cases a with
  | finding f =>
    simp only [PackageStats.add, addFinding]
    cases f.priority? with
    | none => exact counted
    | some priority =>
      exact Counted.put (p := { p with bugs := p.bugs.count priority })
        ⟨keyed.ordered, keyed.named⟩ counted _
  | ofClass name sourceFile isInterface size growsPackage =>
    obtain ⟨grown, added⟩ := p.addClass_frame name sourceFile isInterface size growsPackage
    have dropped : p.dropPreset.Keyed ∧ p.dropPreset.Counted := by
      unfold dropPreset
      split
      · rename_i empty
        exact ⟨⟨keyed.ordered, keyed.named⟩,
          fun filled => absurd (List.isEmpty_iff.1 empty) filled⟩
      · exact ⟨keyed, counted⟩
    have put := dropped.2.put dropped.1 { p.memberOr name sourceFile with isInterface, size }
    rw [PackageStats.add, added]
    exact put

end PackageStats

end JvmFacts
