import Mathlib.Data.List.Pairwise
import JvmFacts.Proofs.Stats.Additions
import JvmFacts.Stats.Report

/-!
Additions in any order. If each class is added once and always comes with one source file, a package
that starts empty ends the same, and so does the report on it.
-/

set_option autoImplicit false

namespace JvmFacts.PackageStats

namespace Addition

/-- The class that is added, unless it is a finding that comes in. -/
def declared? : Addition → Option String
  | finding _ => none
  | ofClass name _ _ _ _ => some name

/-- Not both add the same class. -/
def Apart (a b : Addition) : Prop :=
  ∀ name, a.declared? = some name → b.declared? ≠ some name

instance : Std.Symm Apart where
  symm := fun _ _ apart name second first => apart name first second

section

variable {a b : Addition} (apart : Apart a b)
  (files : a.className = b.className → a.sourceFile = b.sourceFile)

include apart

/-- Of two changes to one entry at most one sets what a class says of itself. -/
theorem change_comm (same : a.className = b.className) {one two : ClassStats → ClassStats}
    (first : a.change? = some one) (second : b.change? = some two) (c : ClassStats) :
    two (one c) = one (two c) := by
  cases a with
  | finding f =>
    obtain ⟨p, -, rfl⟩ := Option.map_eq_some_iff.1 first
    cases b with
    | finding g =>
      obtain ⟨q, -, rfl⟩ := Option.map_eq_some_iff.1 second
      have bugs : (c.bugs.count p).count q = (c.bugs.count q).count p := by
        simp only [BugCounts.count_eq_add]
        exact BugCounts.add_right_comm ..
      exact congrArg (fun bugs => { c with bugs }) bugs
    | ofClass name sourceFile isInterface size growsPackage =>
      obtain rfl := Option.some.inj second
      rfl
  | ofClass name sourceFile isInterface size growsPackage =>
    obtain rfl := Option.some.inj first
    cases b with
    | finding g =>
      obtain ⟨q, -, rfl⟩ := Option.map_eq_some_iff.1 second
      rfl
    | ofClass other file interface extent grows =>
      obtain rfl : name = other := same
      exact absurd rfl (apart name rfl)

include files

theorem onEntry_comm (name : String) (entry : Option ClassStats) :
    b.onEntry name (a.onEntry name entry) = a.onEntry name (b.onEntry name entry) := by
  unfold onEntry
  cases first : a.change? with
  | none => rfl
  | some one =>
    cases second : b.change? with
    | none => rfl
    | some two =>
      dsimp only
      by_cases here : a.className = name
      · by_cases there : b.className = name
        · have same : a.className = b.className := here.trans there.symm
          rw [if_pos here, if_pos there, if_pos there, if_pos here, files same]
          exact congrArg some (change_comm apart same first second _)
        · rw [if_pos here, if_neg there, if_neg there, if_pos here]
      · rw [if_neg here, if_neg here]

end

end Addition

/-! ## The package itself -/

/-- A package without entries holds no numbers, as long as nothing is preset. -/
structure Settled (p : PackageStats) : Prop extends Keyed p where
  counted : p.Counted
  unset : p.members = [] → p.size = 0 ∧ p.classCount = 0

theorem settled_new (name : String) : (new name).Settled where
  toKeyed := keyed_preset name 0 0
  counted := fun filled => absurd rfl filled
  unset := fun _ => ⟨rfl, rfl⟩

section

variable {p : PackageStats}

theorem add_of_unchanged {a : Addition} (unchanged : a.change? = none) : p.add a = p := by
  cases a with
  | finding f =>
    have uncounted : f.priority? = none := Option.map_eq_none_iff.1 unchanged
    simp only [add, addFinding, uncounted]
  | ofClass name sourceFile isInterface size growsPackage => cases unchanged

theorem Keyed.filled_add (keyed : p.Keyed) {a : Addition} {change : ClassStats → ClassStats}
    (changes : a.change? = some change) : (p.add a).members ≠ [] := by
  rw [keyed.members_add, changes]
  exact NameTable.insert_ne_nil _ _ _

theorem Settled.add (settled : p.Settled) (a : Addition) : (p.add a).Settled where
  toKeyed := settled.toKeyed.add a
  counted := settled.counted.add settled.toKeyed a
  unset := by
    intro empty
    cases changes : a.change? with
    | none =>
      rw [add_of_unchanged changes] at empty ⊢
      exact settled.unset empty
    | some change => exact absurd empty (settled.toKeyed.filled_add changes)

theorem size_addClass (p : PackageStats) (name : String) (sourceFile : Option String)
    (isInterface : Bool) (size : UInt32) (growsPackage : Bool) :
    (p.addClass name sourceFile isInterface size growsPackage).size =
      p.dropPreset.size + (Addition.ofClass name sourceFile isInterface size growsPackage).growth := by
  cases growsPackage with
  | true => rfl
  | false => exact (add_zero p.dropPreset.size).symm

theorem size_addFinding (p : PackageStats) (f : Finding) : (p.addFinding f).size = p.size := by
  unfold addFinding
  cases f.priority? <;> rfl

theorem Settled.size_dropPreset (settled : p.Settled) : p.dropPreset.size = p.size := by
  unfold dropPreset
  split
  · rename_i empty
    exact (settled.unset (List.isEmpty_iff.1 empty)).1.symm
  · rfl

theorem Settled.size_add (settled : p.Settled) (a : Addition) :
    (p.add a).size = p.size + a.growth := by
  cases a with
  | finding f => exact (p.size_addFinding f).trans (add_zero p.size).symm
  | ofClass name sourceFile isInterface size growsPackage =>
    rw [← settled.size_dropPreset]
    exact p.size_addClass ..

/-- What fits is what the package is to grow by. -/
theorem Settled.fits_growth (settled : p.Settled) {a : Addition} (fit : p.addFits a = true) :
    fits p.size a.growth = true := by
  cases a with
  | finding f => exact fits_zero p.size
  | ofClass name sourceFile isInterface size growsPackage =>
    cases growsPackage with
    | false => exact fits_zero p.size
    | true =>
      rw [← settled.size_dropPreset]
      exact fit

theorem Settled.toNat_size_add (settled : p.Settled) {a : Addition} (fit : p.addFits a = true) :
    (p.add a).size.toNat = p.size.toNat + a.growth.toNat := by
  rw [settled.size_add, toNat_add_of_fits (settled.fits_growth fit)]

theorem Settled.addAll (settled : p.Settled) (additions : List Addition) :
    (p.addAll additions).Settled ∧
      (p.addAll additions).size = p.size + (additions.map Addition.growth).sum := by
  induction additions generalizing p with
  | nil => exact ⟨settled, (add_zero p.size).symm⟩
  | cons a rest ih =>
    obtain ⟨further, size⟩ := ih (settled.add a)
    rw [settled.size_add] at size
    rw [List.map_cons, List.sum_cons, ← add_assoc]
    exact ⟨further, size⟩

theorem Settled.classCount_eq (settled : p.Settled) : p.classCount = p.members.length := by
  by_cases empty : p.members = []
  · rw [(settled.unset empty).2, empty]
    rfl
  · exact settled.counted empty

/-- Nothing else is in such a package than its name, its counts, its size and its entries. -/
theorem Settled.ext {q : PackageStats} (one : p.Settled) (two : q.Settled) (name : p.name = q.name)
    (bugs : p.bugs = q.bugs) (size : p.size = q.size)
    (members : ∀ name, p.member? name = q.member? name) : p = q := by
  have same : p.members = q.members := one.ordered.ext two.ordered members
  have count : p.classCount = q.classCount := by
    rw [one.classCount_eq, two.classCount_eq, same]
  cases p
  cases q
  simp only [mk.injEq]
  exact ⟨name, bugs, size, count, same⟩

end

/-- Two additions of one list come in either order to the same. -/
theorem onEntry_comm_of_mem {additions : List Addition}
    (once : (additions.filterMap Addition.declared?).Nodup)
    (files : ∀ a ∈ additions, ∀ b ∈ additions, a.className = b.className →
      a.sourceFile = b.sourceFile) (name : String) :
    ∀ a ∈ additions, ∀ b ∈ additions, ∀ entry : Option ClassStats,
      b.onEntry name (a.onEntry name entry) = a.onEntry name (b.onEntry name entry) := by
  intro a here b there entry
  by_cases same : a = b
  · rw [same]
  · have declared : additions.Pairwise Addition.Apart := by
      apply (List.pairwise_filterMap.1 once).imp
      intro a b differ name one two
      exact differ name one name two rfl
    exact Addition.onEntry_comm (declared.forall here there same) (files a here b there) name entry

theorem addAll_eq_of_perm (name : String) {one two : List Addition} (perm : one.Perm two)
    (once : (one.filterMap Addition.declared?).Nodup)
    (files : ∀ a ∈ one, ∀ b ∈ one, a.className = b.className → a.sourceFile = b.sourceFile) :
    (new name).addAll one = (new name).addAll two ∧
      ((new name).addAll one).xml = ((new name).addAll two).xml := by
  obtain ⟨first, sizeOne⟩ := (settled_new name).addAll one
  obtain ⟨second, sizeTwo⟩ := (settled_new name).addAll two
  have bugs : ((new name).addAll one).bugs = ((new name).addAll two).bugs := by
    rw [bugs_addAll, bugs_addAll]
    exact perm.foldl_eq' (fun a _ b _ bugs => BugCounts.add_right_comm bugs a.bugs b.bugs) _
  have size : ((new name).addAll one).size = ((new name).addAll two).size := by
    rw [sizeOne, sizeTwo, (perm.map Addition.growth).sum_eq]
  have members : ∀ other, ((new name).addAll one).member? other =
      ((new name).addAll two).member? other := by
    intro other
    rw [(settled_new name).member?_addAll, (settled_new name).member?_addAll]
    exact perm.foldl_eq' (onEntry_comm_of_mem once files other) _
  have names : ((new name).addAll one).name = ((new name).addAll two).name := by
    rw [name_addAll, name_addAll]
  have equal := first.ext second names bugs size members
  exact ⟨equal, congrArg xml equal⟩

/-- A finding on a class before the class itself, and one on another class that is never added. -/
def findingFirst : List Addition :=
  [.finding ⟨2, "p.A", some "A.java"⟩, .finding ⟨1, "p.B", none⟩,
    .ofClass "p.A" (some "A.java") false 10 true]

theorem addAll_findingFirst : findingFirst.Perm findingFirst.reverse ∧
    (new "p").addAll findingFirst = (new "p").addAll findingFirst.reverse ∧
    ((new "p").addAll findingFirst).member? "p.A" =
      some ⟨"p.A", some "A.java", false, .single .two, 10⟩ := by
  have perm : findingFirst.Perm findingFirst.reverse := (List.reverse_perm findingFirst).symm
  refine ⟨perm, (addAll_eq_of_perm "p" perm (by decide) ?_).1, by decide⟩
  unfold findingFirst
  simp only [List.forall_mem_cons, List.not_mem_nil, false_imp_iff, implies_true, and_true]
  decide

end JvmFacts.PackageStats
