import JvmFacts.Proofs.Stats.Order

/-!
What is left of preset numbers once a package has an entry. A class that makes the first entry wipes
them out; a finding that makes it wipes out the class count, while the size stays and everything that
comes after is added on top of it.
-/

set_option autoImplicit false

namespace JvmFacts.PackageStats

/-- What survives of a preset size: all of it where a finding makes the first entry. -/
def leftover (size : UInt32) (additions : List Addition) : UInt32 :=
  match additions.find? fun a => a.change?.isSome with
  | some (.finding _) => size
  | _ => 0

/-- The package with so much added to its size. -/
def enlarged (p : PackageStats) (extra : UInt32) : PackageStats :=
  { p with size := p.size + extra }

@[simp] theorem enlarged_zero (p : PackageStats) : p.enlarged 0 = p := by
  unfold enlarged
  rw [add_zero]

section

variable {p : PackageStats}

theorem put_enlarged (p : PackageStats) (extra : UInt32) (c : ClassStats) :
    (p.enlarged extra).put c = (p.put c).enlarged extra :=
  rfl

theorem dropPreset_of_filled (filled : p.members ≠ []) : p.dropPreset = p := by
  unfold dropPreset
  rw [if_neg]
  exact fun empty => filled (List.isEmpty_iff.1 empty)

/-- With an entry there, additions do not look at the size. -/
theorem add_enlarged (filled : p.members ≠ []) (extra : UInt32) (a : Addition) :
    (p.enlarged extra).add a = (p.add a).enlarged extra := by
  cases a with
  | finding f =>
    simp only [add, addFinding]
    cases f.priority? <;> rfl
  | ofClass name sourceFile isInterface size growsPackage =>
    have more : (p.enlarged extra).members ≠ [] := filled
    simp only [add, addClass, addStats, dropPreset_of_filled filled, dropPreset_of_filled more,
      put_enlarged]
    cases growsPackage with
    | false => rfl
    | true =>
      have sums := add_right_comm p.size extra size
      exact congrArg (fun grown => { p.put { p.memberOr name sourceFile with isInterface, size } with
        size := grown }) sums

theorem Keyed.filled_of_filled (keyed : p.Keyed) (filled : p.members ≠ []) (a : Addition) :
    (p.add a).members ≠ [] := by
  cases changes : a.change? with
  | none =>
    rw [add_of_unchanged changes]
    exact filled
  | some change => exact keyed.filled_add changes

theorem Keyed.addAll_enlarged (keyed : p.Keyed) (filled : p.members ≠ []) (extra : UInt32)
    (additions : List Addition) :
    (p.enlarged extra).addAll additions = (p.addAll additions).enlarged extra := by
  induction additions generalizing p with
  | nil => rfl
  | cons a rest ih =>
    change ((p.enlarged extra).add a).addAll rest = ((p.add a).addAll rest).enlarged extra
    rw [add_enlarged filled]
    exact ih (keyed.add a) (keyed.filled_of_filled filled a)

end

/-! ## The first entry -/

variable (name : String) (classCount : Nat) (size : UInt32)

/-- A finding that comes first leaves the preset size. -/
theorem addFinding_preset {f : Finding} {priority : Priority}
    (counted : f.priority? = some priority) :
    (preset name classCount size).addFinding f = ((new name).addFinding f).enlarged size := by
  simp only [addFinding, counted, enlarged, new, preset, put, memberOr, member?,
    NameTable.contains, NameTable.find?_nil, Option.isSome_none, Bool.false_eq_true, ↓reduceIte,
    zero_add]

/-- Once there is an entry, a package with preset numbers is the one without, but for the size, which
is larger by what is left of the preset one. -/
theorem addAll_preset_eq {additions : List Addition}
    (filled : ((new name).addAll additions).members ≠ []) :
    (preset name classCount size).addAll additions =
      ((new name).addAll additions).enlarged (leftover size additions) := by
  induction additions with
  | nil => exact absurd rfl filled
  | cons a rest ih =>
    cases changes : a.change? with
    | none =>
      have skipped : leftover size (a :: rest) = leftover size rest := by
        unfold leftover
        rw [List.find?_cons_of_neg (by rw [changes]; exact Bool.false_ne_true)]
      have same : ∀ p : PackageStats, p.addAll (a :: rest) = p.addAll rest :=
        fun p => congrArg (addAll · rest) (add_of_unchanged changes)
      rw [same] at filled ⊢
      rw [same, skipped]
      exact ih filled
    | some change =>
      have first : (a :: rest).find? (fun a => a.change?.isSome) = some a :=
        List.find?_cons_of_pos (by rw [changes]; rfl)
      have keyed := (keyed_preset name 0 0).add a
      have entered := (keyed_preset name 0 0).filled_add changes
      unfold leftover
      rw [first]
      cases a with
      | finding f =>
        obtain ⟨priority, counted, -⟩ := Option.map_eq_some_iff.1 changes
        change ((preset name classCount size).addFinding f).addAll rest = _
        rw [addFinding_preset name classCount size counted]
        exact keyed.addAll_enlarged entered size rest
      | ofClass other sourceFile isInterface extent growsPackage =>
        -- A class that comes first leaves nothing of what was preset.
        exact (enlarged_zero _).symm

/-- The two packages are one exactly where nothing of the preset size is left, so nearly never when a
finding makes the first entry. -/
theorem addAll_preset_iff {additions : List Addition}
    (filled : ((new name).addAll additions).members ≠ []) :
    (preset name classCount size).addAll additions =
        ((new name).addAll additions).enlarged (leftover size additions) ∧
      ((preset name classCount size).addAll additions = (new name).addAll additions ↔
        leftover size additions = 0) := by
  have outcome := addAll_preset_eq name classCount size filled
  refine ⟨outcome, ?_⟩
  rw [outcome]
  constructor
  · intro same
    have sizes : ((new name).addAll additions).size + leftover size additions =
        ((new name).addAll additions).size := congrArg PackageStats.size same
    exact add_eq_left.1 sizes
  · intro nothing
    rw [nothing, enlarged_zero]

/-- A finding and then the class that it is about. -/
def findingThenClass : List Addition :=
  [.finding ⟨1, "p.A", none⟩, .ofClass "p.A" none false 7 true]

/-- The preset size is still there when the class has come, while the class count is not. -/
theorem addAll_findingThenClass :
    ((preset "p" 12 400).addAll findingThenClass).members ≠ [] ∧
    (preset "p" 12 400).addAll findingThenClass ≠ (new "p").addAll findingThenClass ∧
    ((preset "p" 12 400).addAll findingThenClass).size = 407 ∧
    ((preset "p" 12 400).addAll findingThenClass).classCount = 1 := by
  decide

theorem addAll_classThenFinding :
    ((new "p").addAll findingThenClass.reverse).members ≠ [] ∧
    (preset "p" 12 400).addAll findingThenClass.reverse =
      (new "p").addAll findingThenClass.reverse := by
  have filled : ((new "p").addAll findingThenClass.reverse).members ≠ [] := by
    decide
  exact ⟨filled, (addAll_preset_iff "p" 12 400 filled).2.2 rfl⟩

end JvmFacts.PackageStats
