import Mathlib.Data.List.Induction
import JvmFacts.Proofs.Stats.Order
import JvmFacts.Proofs.Stats.Totals

/-!
The size of a package against the sizes of its entries. A class that comes again replaces its entry,
but the size that the entry had stays in the size of the package, so the package is larger than its
entries by all sizes that were replaced. The package wraps around at 32 bits, while what came with
the classes is counted here in natural numbers.
-/

set_option autoImplicit false

namespace JvmFacts.PackageStats

namespace Addition

/-- The size that is given with a class. -/
def extent : Addition → Nat
  | finding _ => 0
  | ofClass _ _ _ size _ => size.toNat

/-- A class is to make the package grow. -/
def Merged : Addition → Prop
  | finding _ => True
  | ofClass _ _ _ _ growsPackage => growsPackage = true

theorem Merged.growth_eq {a : Addition} (merged : a.Merged) : a.growth.toNat = a.extent := by
  cases a with
  | finding f => rfl
  | ofClass name sourceFile isInterface size growsPackage =>
    obtain rfl : growsPackage = true := merged
    rfl

/-- The size that comes last with a class; zero where the class does not come at all. -/
def lastExtent (declared : Option String) : List Addition → Nat
  | [] => 0
  | a :: rest =>
    if declared ∈ rest.map declared? then lastExtent declared rest
    else if a.declared? = declared then a.extent else 0

/-- The sizes that come with classes which come again later. -/
def superseded : List Addition → Nat
  | [] => 0
  | a :: rest => (if a.declared? ∈ rest.map declared? then a.extent else 0) + superseded rest

theorem mem_map_concat {declared : Option String} {additions : List Addition} {a : Addition} :
    declared ∈ (additions ++ [a]).map declared? ↔
      declared ∈ additions.map declared? ∨ a.declared? = declared := by
  simp only [List.map_append, List.map_cons, List.map_nil, List.mem_append, List.mem_singleton,
    eq_comm]

theorem lastExtent_of_not_mem {declared : Option String} {additions : List Addition}
    (absent : declared ∉ additions.map declared?) : lastExtent declared additions = 0 := by
  cases additions with
  | nil => rfl
  | cons a rest =>
    rw [List.map_cons, List.mem_cons, not_or] at absent
    rw [lastExtent, if_neg absent.2, if_neg (Ne.symm absent.1)]

/-- Findings come with no size. -/
theorem lastExtent_none (additions : List Addition) : lastExtent none additions = 0 := by
  induction additions with
  | nil => rfl
  | cons a rest ih =>
    rw [lastExtent, ih]
    cases a <;> simp [declared?, extent]

theorem lastExtent_concat (declared : Option String) (additions : List Addition) (a : Addition) :
    lastExtent declared (additions ++ [a]) =
      if a.declared? = declared then a.extent else lastExtent declared additions := by
  induction additions with
  | nil => rfl
  | cons b rest ih =>
    rw [List.cons_append, lastExtent, lastExtent, ih]
    simp only [mem_map_concat]
    by_cases same : a.declared? = declared
    · simp only [same, or_true, ↓reduceIte]
    · simp only [same, or_false, ↓reduceIte]

/-- What comes last supersedes what its class came with before. -/
theorem superseded_concat (additions : List Addition) (a : Addition) :
    superseded (additions ++ [a]) = superseded additions + lastExtent a.declared? additions := by
  induction additions with
  | nil => rfl
  | cons b rest ih =>
    rw [List.cons_append, superseded, superseded, lastExtent, ih]
    simp only [mem_map_concat]
    by_cases same : a.declared? = b.declared?
    · by_cases again : b.declared? ∈ rest.map declared?
      · simp only [same, again, or_true, ↓reduceIte]
        omega
      · simp only [same, again, or_true, ↓reduceIte, lastExtent_of_not_mem again]
        omega
    · have other : b.declared? ≠ a.declared? := Ne.symm same
      by_cases again : a.declared? ∈ rest.map declared?
      · simp only [same, again, or_false, ↓reduceIte]
        omega
      · simp only [same, other, again, or_false, ↓reduceIte, lastExtent_of_not_mem again]
        omega

end Addition

/-! ## What the entries add up to -/

def entrySize (p : PackageStats) : Nat :=
  (p.members.values.map fun c => c.size.toNat).sum

/-- The size of the entry of a class; zero where there is none. -/
def sizeAt (p : PackageStats) (name : String) : Nat :=
  (p.member? name).elim 0 fun c => c.size.toNat

theorem size_recompute (p : PackageStats) :
    p.recompute.size = (p.members.values.map ClassStats.size).sum := rfl

theorem toNat_size_recompute (p : PackageStats) :
    p.recompute.size.toNat = p.entrySize % 2 ^ 32 := by
  rw [size_recompute, toNat_sum, List.map_map]
  rfl

section

variable {p : PackageStats} (keyed : p.Keyed)

include keyed

theorem Keyed.sizeAt_add (a : Addition) (name : String) :
    (p.add a).sizeAt name = if a.declared? = some name then a.extent else p.sizeAt name := by
  have entry : (p.add a).sizeAt name = (a.onEntry name (p.member? name)).elim 0 fun c => c.size.toNat :=
    congrArg (fun entry : Option ClassStats => entry.elim 0 fun c => c.size.toNat)
      (keyed.member?_add a name)
  rw [entry]
  unfold sizeAt Addition.onEntry
  cases a with
  | finding f =>
    cases counted : f.priority? with
    | none => simp [Addition.change?, Addition.declared?, counted]
    | some priority =>
      by_cases same : f.className = name
      · cases held : p.member? name <;>
          simp [Addition.change?, Addition.declared?, Addition.className, counted, same,
            ClassStats.count]
      · simp [Addition.change?, Addition.declared?, Addition.className, counted, same]
  | ofClass other sourceFile isInterface size growsPackage =>
    by_cases same : other = name
    · simp [Addition.change?, Addition.declared?, Addition.className, Addition.extent, same]
    · simp [Addition.change?, Addition.declared?, Addition.className, same]

/-- An addition takes off what the entry of its class had and adds what comes with it. -/
theorem Keyed.entrySize_add (a : Addition) :
    (p.add a).entrySize + (a.declared?).elim 0 p.sizeAt = p.entrySize + a.extent := by
  unfold entrySize
  rw [keyed.members_add]
  cases changes : a.change? with
  | none =>
    cases a with
    | finding f => rfl
    | ofClass name sourceFile isInterface size growsPackage => cases changes
  | some change =>
    have sums := NameTable.sum_insert (fun c => c.size.toNat) keyed.ordered a.className
      (change (p.memberOr a.className a.sourceFile))
    dsimp only
    cases a with
    | finding f =>
      obtain ⟨priority, -, rfl⟩ := Option.map_eq_some_iff.1 changes
      have size : ((p.memberOr f.className f.sourceFile).count priority).size.toNat =
          (NameTable.find? f.className p.members).elim 0 fun c => c.size.toNat := by
        unfold memberOr member?
        cases NameTable.find? f.className p.members <;> rfl
      dsimp only [Addition.className, Addition.sourceFile] at sums ⊢
      rw [size] at sums
      simp only [Addition.declared?, Addition.extent, Option.elim_none]
      omega
    | ofClass name sourceFile isInterface size growsPackage =>
      obtain rfl := Option.some.inj changes
      exact sums

end

variable (name : String)

theorem sizeAt_addAll (additions : List Addition) (other : String) :
    ((new name).addAll additions).sizeAt other =
      Addition.lastExtent (some other) additions := by
  induction additions using List.reverseRecOn with
  | nil => rfl
  | append_singleton additions a ih =>
    have keyed := ((settled_new name).addAll additions).1.toKeyed
    rw [addAll_concat, keyed.sizeAt_add, ih, Addition.lastExtent_concat]

/-- All sizes that came are those of the entries and those that were superseded. -/
theorem extent_addAll (additions : List Addition) :
    (additions.map Addition.extent).sum =
      ((new name).addAll additions).entrySize + Addition.superseded additions := by
  induction additions using List.reverseRecOn with
  | nil => rfl
  | append_singleton additions a ih =>
    have keyed := ((settled_new name).addAll additions).1.toKeyed
    have step := keyed.entrySize_add a
    have before : (a.declared?).elim 0 ((new name).addAll additions).sizeAt =
        Addition.lastExtent a.declared? additions := by
      cases declared : a.declared? with
      | none => exact (Addition.lastExtent_none additions).symm
      | some other => exact sizeAt_addAll name additions other
    rw [before] at step
    rw [List.map_append, List.sum_append_nat, ih, addAll_concat,
      Addition.superseded_concat]
    simp only [List.map_cons, List.map_nil, List.sum_cons, List.sum_nil]
    omega

/-! ## What the package itself adds up -/

section

variable {p q : PackageStats}

theorem Settled.size_addAll? (settled : p.Settled) {additions : List Addition}
    (ended : p.addAll? additions = some q) :
    q.size.toNat = p.size.toNat + (additions.map fun a => a.growth.toNat).sum := by
  induction additions generalizing p with
  | nil =>
    obtain rfl := Option.some.inj ended
    rfl
  | cons a rest ih =>
    obtain ⟨fit, others⟩ := runChecked_cons.1 ended
    rw [ih (settled.add a) others, settled.toNat_size_add fit, List.map_cons, List.sum_cons,
      Nat.add_assoc]

theorem RolledUp.of_addAll? {name : String} {additions : List Addition}
    (ended : (new name).addAll? additions = some q) : q.RolledUp UInt32.toNat := by
  apply of_runChecked ended (rolledUp_preset reads_checked name 0 0)
  exact fun p a _ rolledUp fit => rolledUp.add reads_checked fun _ => fit

/-- The counts of the entries fit as those of the package do. -/
theorem RolledUp.recomputeFits (rolledUp : p.RolledUp UInt32.toNat) (sizes : p.entrySize < 2 ^ 32) :
    p.recomputeFits = true := by
  unfold PackageStats.recomputeFits
  rw [Bool.and_eq_true, List.all_eq_true]
  constructor
  · intro n _
    have slot := (rolledUp.slots n).symm.trans_lt (p.bugs.slot n).toNat_lt
    rw [sumFits_iff, List.map_map]
    exact (Nat.zero_add _).trans_lt slot
  · rw [sumFits_iff, List.map_map]
    exact (Nat.zero_add _).trans_lt sizes

end

theorem toNat_size_addAll {additions : List Addition} (merged : ∀ a ∈ additions, a.Merged) :
    ((new name).addAll additions).size.toNat =
      (((new name).addAll additions).entrySize + Addition.superseded additions) % 2 ^ 32 := by
  have growths : additions.map (fun a => a.growth.toNat) = additions.map Addition.extent :=
    List.map_congr_left fun a member => (merged a member).growth_eq
  have grown : ((new name).addAll additions).size = (additions.map Addition.growth).sum :=
    ((settled_new name).addAll additions).2.trans (zero_add (M := UInt32) _)
  rw [grown, toNat_sum, List.map_map, ← extent_addAll, ← growths]
  rfl

/-- If each class that comes makes the package grow, the size of the package is that of its entries and
what was superseded, but for what went around. So it is that of its entries, and recomputing leaves it,
exactly where what was superseded is a multiple of the whole range. A build that checks its sums does
not go around; in a package that it ends with, recomputing does not stop either, and leaves the size
exactly where no class comes again that came with a size before. -/
theorem addAll_size_iff {additions : List Addition} (merged : ∀ a ∈ additions, a.Merged) :
    let p := (new name).addAll additions
    p.size.toNat = ((p.members.values.map fun c => c.size.toNat).sum +
        Addition.superseded additions) % 2 ^ 32 ∧
      (p.size = (p.members.values.map ClassStats.size).sum ↔
        Addition.superseded additions % 2 ^ 32 = 0) ∧
      (p.recompute.size = p.size ↔ Addition.superseded additions % 2 ^ 32 = 0) ∧
      ∀ q, (new name).addAll? additions = some q → q = p ∧
        q.size.toNat = (q.members.values.map fun c => c.size.toNat).sum +
          Addition.superseded additions ∧
        q.recompute? = some q.recompute ∧
        (q.size.toNat = (q.members.values.map fun c => c.size.toNat).sum ↔
          Addition.superseded additions = 0) ∧
        (q.recompute.size = q.size ↔ Addition.superseded additions = 0) := by
  intro p
  have total : p.size.toNat = (p.entrySize + Addition.superseded additions) % 2 ^ 32 :=
    toNat_size_addAll name merged
  have recomputed : p.recompute.size = p.size ↔ Addition.superseded additions % 2 ^ 32 = 0 := by
    rw [← UInt32.toNat_inj, toNat_size_recompute, total]
    omega
  refine ⟨total, ?_, recomputed, ?_⟩
  · rw [← size_recompute, eq_comm]
    exact recomputed
  · intro q ended
    obtain rfl : q = p := eq_of_runChecked ended
    have growths : additions.map (fun a => a.growth.toNat) = additions.map Addition.extent :=
      List.map_congr_left fun a member => (merged a member).growth_eq
    have whole : p.size.toNat = p.entrySize + Addition.superseded additions := by
      have size := (settled_new name).size_addAll? ended
      rw [growths, extent_addAll name] at size
      exact size.trans (Nat.zero_add _)
    have small := p.size.toNat_lt
    have fit := (RolledUp.of_addAll? ended).recomputeFits (by omega)
    refine ⟨rfl, whole, if_pos fit, ?_, ?_⟩
    · change _ = p.entrySize ↔ _
      omega
    · rw [recomputed]
      omega

/-- A finding makes the entry, and then the class comes with its size. -/
def foundThenSized : List Addition :=
  [.finding ⟨1, "p.A", none⟩, .ofClass "p.A" none false 7 true, .ofClass "p.B" none true 5 true]

theorem addAll_foundThenSized : (∀ a ∈ foundThenSized, a.Merged) ∧
    (new "p").addAll? foundThenSized = some ((new "p").addAll foundThenSized) ∧
    ((new "p").addAll foundThenSized).recompute.size =
      ((new "p").addAll foundThenSized).size := by
  have merged : ∀ a ∈ foundThenSized, a.Merged := by
    simp [foundThenSized, Addition.Merged]
  have ended : (new "p").addAll? foundThenSized = some ((new "p").addAll foundThenSized) := by
    decide
  exact ⟨merged, ended, ((addAll_size_iff "p" merged).2.2.2 _ ended).2.2.2.2.2 (by decide)⟩

/-- One class, with another size the second time. -/
def sizedTwice : List Addition :=
  [.ofClass "p.A" none false 10 true, .ofClass "p.A" none false 20 true]

theorem addAll_sizedTwice : (∀ a ∈ sizedTwice, a.Merged) ∧
    ((new "p").addAll sizedTwice).size ≠
      (((new "p").addAll sizedTwice).members.values.map ClassStats.size).sum ∧
    ((new "p").addAll sizedTwice).size = 30 ∧
    ((new "p").addAll sizedTwice).recompute.size = 20 := by
  refine ⟨?_, by decide, by decide, by decide⟩
  simp [sizedTwice, Addition.Merged]

end JvmFacts.PackageStats
