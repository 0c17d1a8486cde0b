import Mathlib.Data.List.Basic
import JvmFacts.Proofs.Stats.Order

/-!
Entries that are dropped. What was told of other classes leaves no trace in an entry, so to keep
some entries and recompute is to have been told of these classes alone. In a build that checks its
sums, the package that was told of fewer classes does not stop before the other one.
-/

set_option autoImplicit false

namespace JvmFacts.PackageStats

/-- An addition leaves the entries of other classes. -/
theorem Addition.onEntry_of_ne {a : Addition} {name : String} (apart : a.className ≠ name)
    (entry : Option ClassStats) : a.onEntry name entry = entry := by
  unfold onEntry
  cases a.change? with
  | none => rfl
  | some change => exact if_neg apart

theorem member?_retain (p : PackageStats) (wanted : String → Bool) (name : String) :
    (p.retain wanted).member? name = if wanted name then p.member? name else none :=
  NameTable.find?_filter wanted name p.members

/-- Nothing but the name and the entries is looked at. -/
theorem recompute_congr {p q : PackageStats} (name : p.name = q.name)
    (members : p.members = q.members) : p.recompute = q.recompute := by
  unfold recompute
  rw [members, name]

theorem recompute?_congr {p q : PackageStats} (name : p.name = q.name)
    (members : p.members = q.members) : p.recompute? = q.recompute? := by
  unfold recompute? recomputeFits
  rw [recompute_congr name members, members]

section

variable {p : PackageStats} (keyed : p.Keyed) (wanted : String → Bool)

include keyed

theorem Keyed.retain : (p.retain wanted).Keyed where
  ordered := keyed.ordered.filter _
  named := by
    intro name c held
    rw [member?_retain] at held
    split at held
    · exact keyed.named name c held
    · cases held

theorem Keyed.addAll (additions : List Addition) : (p.addAll additions).Keyed := by
  induction additions generalizing p with
  | nil => exact keyed
  | cons a rest ih => exact ih (keyed.add a)

theorem Keyed.members_retain_addAll (additions : List Addition) :
    ((p.addAll additions).retain wanted).members =
      ((p.retain wanted).addAll (additions.filter fun a => wanted a.className)).members := by
  have kept := (keyed.addAll additions).retain wanted
  have told := (keyed.retain wanted).addAll (additions.filter fun a => wanted a.className)
  apply kept.ordered.ext told.ordered
  intro name
  change ((p.addAll additions).retain wanted).member? name =
    ((p.retain wanted).addAll (additions.filter fun a => wanted a.className)).member? name
  rw [member?_retain, keyed.member?_addAll, (keyed.retain wanted).member?_addAll, member?_retain,
    List.foldl_filter]
  by_cases here : wanted name
  · have same : (fun (entry : Option ClassStats) (a : Addition) =>
        if wanted a.className = true then a.onEntry name entry else entry) =
        fun entry a => a.onEntry name entry := by
      funext entry a
      split
      · rfl
      · rename_i unwanted
        refine (Addition.onEntry_of_ne ?_ entry).symm
        rintro rfl
        exact unwanted here
    rw [if_pos here, if_pos here, same]
  · have nothing : (fun (entry : Option ClassStats) (a : Addition) =>
        if wanted a.className = true then a.onEntry name entry else entry) =
        fun entry _ => entry := by
      funext entry a
      split
      · rename_i wants
        refine Addition.onEntry_of_ne ?_ entry
        rintro rfl
        exact here wants
      · rfl
    rw [if_neg here, if_neg here, nothing, List.foldl_fixed]

end

/-! ## Fewer additions fit where all of them do -/

/-- A package that was told of the wanted classes alone, beside one that was told of all: their entries
are those of the other, and it counts no more. -/
structure Trails (wanted : String → Bool) (p q : PackageStats) : Prop where
  ahead : p.Settled
  behind : q.Settled
  entries : ∀ name, wanted name = true → q.member? name = p.member? name
  slots : ∀ n, (q.bugs.slot n).toNat ≤ (p.bugs.slot n).toNat
  size : q.size.toNat ≤ p.size.toNat

theorem toNat_slot_add {p : PackageStats} {a : Addition} (fit : p.addFits a = true) (n : Nat) :
    ((p.add a).bugs.slot n).toNat = (p.bugs.slot n).toNat + (a.bugs.slot n).toNat := by
  rw [bugs_add, BugCounts.slot_add]
  exact (splits_of_addFits reads_checked fun _ => fit).1 n

section

variable {wanted : String → Bool} {p q : PackageStats} (trails : Trails wanted p q) {a : Addition}
  (fit : p.addFits a = true)

include trails fit

theorem Trails.fits (wants : wanted a.className = true) : q.addFits a = true := by
  cases a with
  | finding f =>
    have entry : q.memberOr f.className f.sourceFile = p.memberOr f.className f.sourceFile := by
      unfold memberOr
      rw [trails.entries f.className wants]
    change q.findingFits f = true
    change p.findingFits f = true at fit
    unfold findingFits at fit ⊢
    cases counted : f.priority? with
    | none => rfl
    | some priority =>
      rw [counted, Option.all_some, Bool.and_eq_true] at fit
      rw [Option.all_some, Bool.and_eq_true, entry]
      exact ⟨BugCounts.countFits_of_le trails.slots fit.1, fit.2⟩
  | ofClass name sourceFile isInterface size growsPackage =>
    cases growsPackage with
    | false => rfl
    | true =>
      have behind : JvmFacts.fits q.size size = true :=
        fits_of_le trails.size (trails.ahead.fits_growth fit)
      rw [← trails.behind.size_dropPreset] at behind
      exact behind

/-- Both are told of a class that is wanted. -/
theorem Trails.add (wants : wanted a.className = true) : Trails wanted (p.add a) (q.add a) where
  ahead := trails.ahead.add a
  behind := trails.behind.add a
  entries := by
    intro name wants
    rw [trails.ahead.member?_add, trails.behind.member?_add, trails.entries name wants]
  slots := by
    intro n
    rw [toNat_slot_add fit, toNat_slot_add (trails.fits fit wants)]
    exact Nat.add_le_add_right (trails.slots n) _
  size := by
    rw [trails.ahead.toNat_size_add fit, trails.behind.toNat_size_add (trails.fits fit wants)]
    exact Nat.add_le_add_right trails.size _

/-- Only the one is told of another class. -/
theorem Trails.pass (unwanted : ¬ wanted a.className = true) : Trails wanted (p.add a) q where
  ahead := trails.ahead.add a
  behind := trails.behind
  entries := by
    intro name wants
    have other : a.className ≠ name := by
      rintro rfl
      exact unwanted wants
    rw [trails.ahead.member?_add, Addition.onEntry_of_ne other, trails.entries name wants]
  slots := by
    intro n
    rw [toNat_slot_add fit]
    exact Nat.le_add_right_of_le (trails.slots n)
  size := by
    rw [trails.ahead.toNat_size_add fit]
    exact Nat.le_add_right_of_le trails.size

end

theorem Trails.addAll? {wanted : String → Bool} {p q last : PackageStats} {additions : List Addition}
    (trails : Trails wanted p q) (ended : p.addAll? additions = some last) :
    ∃ kept, q.addAll? (additions.filter fun a => wanted a.className) = some kept := by
  induction additions generalizing p q with
  | nil => exact ⟨q, rfl⟩
  | cons a rest ih =>
    obtain ⟨fit, others⟩ := runChecked_cons.1 ended
    by_cases wants : wanted a.className = true
    · obtain ⟨kept, further⟩ := ih (trails.add fit wants) others
      rw [List.filter_cons, if_pos wants]
      exact ⟨kept, runChecked_cons.2 ⟨trails.fits fit wants, further⟩⟩
    · rw [List.filter_cons, if_neg wants]
      exact ih (trails.pass fit wants) others

theorem trails_new (name : String) (wanted : String → Bool) : Trails wanted (new name) (new name) where
  ahead := settled_new name
  behind := settled_new name
  entries := fun _ _ => rfl
  slots := fun _ => Nat.le_refl _
  size := Nat.le_refl _

/-- Dropping the other classes afterwards comes to the same as never having been told of them. In a
build that checks its sums, this is so of every package that was told of all classes without a stop;
the one that was told of some does not stop either, and recomputing stops for both or for none. -/
theorem retain_addAll (name : String) (additions : List Addition) (wanted : String → Bool) :
    (((new name).addAll additions).retain wanted).recompute =
      ((new name).addAll (additions.filter fun a => wanted a.className)).recompute ∧
    ∀ p, (new name).addAll? additions = some p →
      ∃ q, (new name).addAll? (additions.filter fun a => wanted a.className) = some q ∧
        (p.retain wanted).recompute? = q.recompute? := by
  have keyed := keyed_preset name 0 0
  have names : ((new name).addAll additions).name =
      ((new name).addAll (additions.filter fun a => wanted a.className)).name := by
    rw [name_addAll, name_addAll]
  have members := keyed.members_retain_addAll wanted additions
  refine ⟨recompute_congr names members, ?_⟩
  intro p ended
  obtain ⟨q, kept⟩ := (trails_new name wanted).addAll? ended
  obtain rfl : p = (new name).addAll additions := eq_of_runChecked ended
  obtain rfl : q = (new name).addAll (additions.filter fun a => wanted a.className) :=
    eq_of_runChecked kept
  exact ⟨_, kept, recompute?_congr names members⟩

/-- Together the two classes are too large, while each of them fits. -/
def tooLarge : List Addition :=
  [.ofClass "p.A" none false 4294967295 true, .ofClass "q.B" none false 1 true]

example : (new "p").addAll? tooLarge = none ∧
    ((new "p").addAll? (tooLarge.filter fun a => a.className = "q.B")).isSome = true := by
  decide

/-- A finding and two classes, of which one is wanted. -/
def told : List Addition :=
  [.ofClass "p.A" none false 10 true, .finding ⟨2, "q.B", none⟩, .finding ⟨1, "p.A", none⟩,
    .ofClass "q.B" none true 5 true]

theorem retain_addAll_told : ∃ p q, (new "p").addAll? told = some p ∧
    (new "p").addAll? (told.filter fun a => a.className = "p.A") = some q ∧
    (p.retain (· = "p.A")).recompute? = q.recompute? ∧ p.size = 15 ∧ q.size = 10 := by
  have ended : (new "p").addAll? told = some ((new "p").addAll told) := by decide
  obtain ⟨q, kept, same⟩ := (retain_addAll "p" told (· = "p.A")).2 _ ended
  obtain rfl := eq_of_runChecked kept
  exact ⟨_, _, ended, kept, same, by decide, by decide⟩

end JvmFacts.PackageStats
