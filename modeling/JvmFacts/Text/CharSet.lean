/-!
Sets of characters as ranges of code points.

The ranges of a set ascend and leave a gap between any two of them, so a set is written in one way
only. Main statements: union, complement and what is made of them hold the characters that they
should (`contains_union`, `contains_compl`, `contains_inter`, `contains_diff`, `contains_symmDiff`).
-/

set_option autoImplicit false

namespace JvmFacts.Text

/-- Ranges from a code point on, in ascending order, with a gap between any two. -/
def Apart : Nat → List (Nat × Nat) → Prop
  | _, [] => True
  | least, (low, high) :: rest => least ≤ low ∧ low ≤ high ∧ Apart (high + 2) rest

instance decidableApart : (least : Nat) → (ranges : List (Nat × Nat)) →
    Decidable (Apart least ranges)
  | _, [] => isTrue trivial
  | least, (low, high) :: rest =>
    have := decidableApart (high + 2) rest
    inferInstanceAs (Decidable (least ≤ low ∧ low ≤ high ∧ Apart (high + 2) rest))

theorem Apart.mono {least fewer : Nat} {ranges : List (Nat × Nat)} (apart : Apart least ranges)
    (below : fewer ≤ least) : Apart fewer ranges := by
  cases ranges with
  | nil => trivial
  | cons => exact ⟨Nat.le_trans below apart.1, apart.2⟩

/-- Each range holds both of its ends. -/
structure CharSet where
  ranges : List (Nat × Nat)
  apart : Apart 0 ranges
  deriving DecidableEq, Repr

namespace CharSet

/-- Looks no further than to the first range that begins above the code point. -/
def covers : List (Nat × Nat) → Nat → Bool
  | [], _ => false
  | (low, high) :: rest, n => low ≤ n && (n ≤ high || covers rest n)

theorem exists_of_covers {ranges : List (Nat × Nat)} {n : Nat} (covered : covers ranges n = true) :
    ∃ r ∈ ranges, r.1 ≤ n ∧ n ≤ r.2 := by
  induction ranges with
  | nil => cases covered
  | cons r rest ih =>
    simp only [covers, Bool.and_eq_true, Bool.or_eq_true, decide_eq_true_eq] at covered
    rcases covered.2 with inside | later
    · exact ⟨r, List.mem_cons_self, covered.1, inside⟩
    · obtain ⟨t, mem, bounds⟩ := ih later
      exact ⟨t, List.mem_cons_of_mem r mem, bounds⟩

/-- Ranges sorted by their lower ends; they may overlap. -/
def Rising (ranges : List (Nat × Nat)) : Prop :=
  (∀ r ∈ ranges, r.1 ≤ r.2) ∧ ranges.Pairwise fun r t => r.1 ≤ t.1

theorem Rising.tail {r : Nat × Nat} {rest : List (Nat × Nat)} (rising : Rising (r :: rest)) :
    Rising rest :=
  ⟨fun t mem => rising.1 t (List.mem_cons_of_mem r mem), (List.pairwise_cons.1 rising.2).2⟩

theorem covers_eq_true_iff {ranges : List (Nat × Nat)} (rising : Rising ranges) (n : Nat) :
    covers ranges n = true ↔ ∃ r ∈ ranges, r.1 ≤ n ∧ n ≤ r.2 := by
  refine ⟨exists_of_covers, ?_⟩
  induction ranges with
  | nil => rintro ⟨_, mem, _⟩; cases mem
  | cons r rest ih =>
    rintro ⟨t, mem, above, below⟩
    simp only [covers, Bool.and_eq_true, Bool.or_eq_true, decide_eq_true_eq]
    rcases List.mem_cons.1 mem with rfl | later
    · exact ⟨above, .inl below⟩
    · exact ⟨Nat.le_trans ((List.pairwise_cons.1 rising.2).1 t later) above,
        .inr (ih rising.tail ⟨t, later, above, below⟩)⟩

theorem le_of_mem_of_apart {least : Nat} {ranges : List (Nat × Nat)} (apart : Apart least ranges) :
    ∀ r ∈ ranges, least ≤ r.1 ∧ r.1 ≤ r.2 := by
  induction ranges generalizing least with
  | nil => simp
  | cons t rest ih =>
    intro r mem
    rcases List.mem_cons.1 mem with rfl | later
    · exact ⟨apart.1, apart.2.1⟩
    · have := ih apart.2.2 r later
      have := apart.1
      have := apart.2.1
      omega

theorem rising_of_apart {least : Nat} {ranges : List (Nat × Nat)} (apart : Apart least ranges) :
    Rising ranges := by
  refine ⟨fun r mem => (le_of_mem_of_apart apart r mem).2, ?_⟩
  induction ranges generalizing least with
  | nil => exact List.Pairwise.nil
  | cons r rest ih =>
    refine List.pairwise_cons.2 ⟨fun t mem => ?_, ih apart.2.2⟩
    have := (le_of_mem_of_apart apart.2.2 t mem).1
    have := apart.2.1
    omega

def contains (s : CharSet) (c : Char) : Bool :=
  covers s.ranges c.toNat

theorem contains_eq_true_iff {s : CharSet} {c : Char} :
    s.contains c = true ↔ ∃ r ∈ s.ranges, r.1 ≤ c.toNat ∧ c.toNat ≤ r.2 :=
  covers_eq_true_iff (rising_of_apart s.apart) c.toNat

def empty : CharSet :=
  ⟨[], trivial⟩

def isEmpty (s : CharSet) : Bool :=
  s.ranges.isEmpty

/-- The characters from one to another, none if the second is below the first. -/
def between (low high : Char) : CharSet :=
  if ascending : low.toNat ≤ high.toNat then
    ⟨[(low.toNat, high.toNat)], Nat.zero_le _, ascending, trivial⟩
  else empty

def single (c : Char) : CharSet :=
  between c c

/-- Grows a range over all that overlaps or touches it. -/
def fuse (low high : Nat) : List (Nat × Nat) → List (Nat × Nat)
  | [] => [(low, high)]
  | (low', high') :: rest =>
    if low' ≤ high + 1 then fuse low (max high high') rest
    else (low, high) :: fuse low' high' rest

theorem apart_fuse {least low high : Nat} {ranges : List (Nat × Nat)}
    (rising : Rising ((low, high) :: ranges)) (above : least ≤ low) :
    Apart least (fuse low high ranges) := by
  induction ranges generalizing least low high with
  | nil => exact ⟨above, rising.1 _ List.mem_cons_self, trivial⟩
  | cons r rest ih =>
    have width := rising.1 (low, high) List.mem_cons_self
    have order := List.pairwise_cons.1 rising.2
    unfold fuse
    split
    · refine ih ⟨fun t mem => ?_, List.pairwise_cons.2 ⟨fun t mem => ?_, ?_⟩⟩ above
      · rcases List.mem_cons.1 mem with rfl | later
        · exact Nat.le_trans width (Nat.le_max_left ..)
        · exact rising.1 t (List.mem_cons_of_mem _ (List.mem_cons_of_mem r later))
      · exact order.1 t (List.mem_cons_of_mem r mem)
      · exact (List.pairwise_cons.1 order.2).2
    · exact ⟨above, width, ih rising.tail (by omega)⟩

theorem covers_fuse {low high : Nat} {ranges : List (Nat × Nat)}
    (rising : Rising ((low, high) :: ranges)) (n : Nat) :
    covers (fuse low high ranges) n = covers ((low, high) :: ranges) n := by
  induction ranges generalizing low high with
  | nil => rfl
  | cons r rest ih =>
    have width := rising.1 (low, high) List.mem_cons_self
    have order := List.pairwise_cons.1 rising.2
    have first := order.1 r List.mem_cons_self
    unfold fuse
    split
    · have wider : Rising ((low, max high r.2) :: rest) := by
        refine ⟨fun t mem => ?_, List.pairwise_cons.2 ⟨fun t mem => ?_, ?_⟩⟩
        · rcases List.mem_cons.1 mem with rfl | later
          · exact Nat.le_trans width (Nat.le_max_left ..)
          · exact rising.1 t (List.mem_cons_of_mem _ (List.mem_cons_of_mem r later))
        · exact order.1 t (List.mem_cons_of_mem r mem)
        · exact (List.pairwise_cons.1 order.2).2
      rw [ih wider]
      have later : covers rest n = true → r.1 ≤ n := fun covered => by
        obtain ⟨t, mem, below, _⟩ := exists_of_covers covered
        exact Nat.le_trans ((List.pairwise_cons.1 order.2).1 t mem) below
      rw [Bool.eq_iff_iff]
      simp only [covers, Bool.and_eq_true, Bool.or_eq_true, decide_eq_true_eq]
      by_cases covered : covers rest n = true
      · have := later covered
        simp only [covered, or_true, and_true]
        omega
      · simp only [covered, Bool.false_eq_true, or_false]
        omega
    · simp only [covers, ih rising.tail]

/-- Makes sorted ranges apart. -/
def fuseAll : List (Nat × Nat) → List (Nat × Nat)
  | [] => []
  | (low, high) :: rest => fuse low high rest

/-- Two lists of sorted ranges as one. -/
def mergeRanges (a b : List (Nat × Nat)) : List (Nat × Nat) :=
  a.merge b fun r t => r.1 ≤ t.1

theorem rising_mergeRanges {a b : List (Nat × Nat)} (left : Rising a) (right : Rising b) :
    Rising (mergeRanges a b) := by
  refine ⟨fun r mem => ?_, ?_⟩
  · rcases List.mem_merge.1 mem with inLeft | inRight
    · exact left.1 r inLeft
    · exact right.1 r inRight
  · have sorted : (mergeRanges a b).Pairwise fun r t => decide (r.1 ≤ t.1) = true :=
      List.pairwise_merge (fun r t u h k => by simp only [decide_eq_true_eq] at *; omega)
        (fun r t => by simp only [Bool.or_eq_true, decide_eq_true_eq]; omega) a b
        (left.2.imp fun h => decide_eq_true h) (right.2.imp fun h => decide_eq_true h)
    exact sorted.imp fun h => of_decide_eq_true h

theorem covers_mergeRanges {a b : List (Nat × Nat)} (left : Rising a) (right : Rising b) (n : Nat) :
    covers (mergeRanges a b) n = (covers a n || covers b n) := by
  rw [Bool.eq_iff_iff, Bool.or_eq_true, covers_eq_true_iff (rising_mergeRanges left right),
    covers_eq_true_iff left, covers_eq_true_iff right]
  simp only [mergeRanges, List.mem_merge, or_and_right, exists_or]

def union (a b : CharSet) : CharSet where
  ranges := fuseAll (mergeRanges a.ranges b.ranges)
  apart := by
    have rising := rising_mergeRanges (rising_of_apart a.apart) (rising_of_apart b.apart)
    generalize mergeRanges a.ranges b.ranges = merged at rising
    cases merged with
    | nil => trivial
    | cons => exact apart_fuse rising (Nat.zero_le _)

@[simp] theorem contains_union (a b : CharSet) (c : Char) :
    (a.union b).contains c = (a.contains c || b.contains c) := by
  have left := rising_of_apart a.apart
  have right := rising_of_apart b.apart
  have rising := rising_mergeRanges left right
  simp only [contains, union, ← covers_mergeRanges left right]
  generalize mergeRanges a.ranges b.ranges = merged at rising
  cases merged with
  | nil => rfl
  | cons => exact covers_fuse rising c.toNat

def lastCode : Nat :=
  0x10FFFF

/-- What ranges leave out from a code point on. -/
def gaps (least : Nat) : List (Nat × Nat) → List (Nat × Nat)
  | [] => if least ≤ lastCode then [(least, lastCode)] else []
  | (low, high) :: rest =>
    if least < low then (least, low - 1) :: gaps (high + 1) rest else gaps (high + 1) rest

theorem apart_gaps {fewer least : Nat} {ranges : List (Nat × Nat)} (apart : Apart least ranges)
    (below : fewer ≤ least) : Apart fewer (gaps least ranges) := by
  induction ranges generalizing fewer least with
  | nil =>
    unfold gaps
    split
    · exact ⟨below, by assumption, trivial⟩
    · trivial
  | cons r rest ih =>
    obtain ⟨above, width, after⟩ := apart
    unfold gaps
    split
    · exact ⟨below, by omega, ih (after.mono (by omega)) (by omega)⟩
    · exact ih (after.mono (by omega)) (by omega)

theorem covers_gaps {least n : Nat} {ranges : List (Nat × Nat)} (apart : Apart least ranges)
    (inside : n ≤ lastCode) :
    covers (gaps least ranges) n = (decide (least ≤ n) && !covers ranges n) := by
  induction ranges generalizing least with
  | nil =>
    unfold gaps
    split
    · simp [covers, inside]
    · have : ¬ least ≤ n := by omega
      simp [covers, this]
  | cons r rest ih =>
    obtain ⟨above, width, after⟩ := apart
    have later : covers rest n = true → r.2 + 2 ≤ n := fun covered => by
      obtain ⟨t, mem, bound, _⟩ := exists_of_covers covered
      exact Nat.le_trans (le_of_mem_of_apart after t mem).1 bound
    have rest_gaps : covers (gaps (r.2 + 1) rest) n =
        (decide (r.2 + 1 ≤ n) && !covers rest n) := ih (after.mono (by omega))
    unfold gaps
    rw [Bool.eq_iff_iff]
    split <;>
    · simp only [covers, rest_gaps, Bool.and_eq_true, Bool.or_eq_true, Bool.not_eq_true',
        Bool.and_eq_false_iff, Bool.or_eq_false_iff, decide_eq_true_eq, decide_eq_false_iff_not]
      by_cases covered : covers rest n = true
      · have := later covered
        simp only [covered, reduceCtorEq, and_false, or_false]
        grind
      · simp only [Bool.not_eq_true] at covered
        simp only [covered, and_true]
        omega

def compl (s : CharSet) : CharSet where
  ranges := gaps 0 s.ranges
  apart := apart_gaps s.apart (Nat.le_refl 0)

@[simp] theorem contains_compl (s : CharSet) (c : Char) : s.compl.contains c = !s.contains c := by
  have inside : c.toNat ≤ lastCode := by
    have := c.valid
    simp only [UInt32.isValidChar, Nat.isValidChar] at this
    simp only [Char.toNat, lastCode]
    omega
  simp [contains, compl, covers_gaps s.apart inside]

def inter (a b : CharSet) : CharSet :=
  (a.compl.union b.compl).compl

@[simp] theorem contains_inter (a b : CharSet) (c : Char) :
    (a.inter b).contains c = (a.contains c && b.contains c) := by
  simp [inter]

def diff (a b : CharSet) : CharSet :=
  a.inter b.compl

@[simp] theorem contains_diff (a b : CharSet) (c : Char) :
    (a.diff b).contains c = (a.contains c && !b.contains c) := by
  simp [diff]

def symmDiff (a b : CharSet) : CharSet :=
  (a.union b).diff (a.inter b)

@[simp] theorem contains_symmDiff (a b : CharSet) (c : Char) :
    (a.symmDiff b).contains c = (a.contains c != b.contains c) := by
  cases left : a.contains c <;> cases right : b.contains c <;> simp [symmDiff, left, right]

end CharSet

end JvmFacts.Text
