import Mathlib.Algebra.GroupWithZero.Nat
import Mathlib.Tactic.Abel
import JvmFacts.NameTable

/-!
What tables in ascending order hold, how much of it there is, and that two of them that answer alike
are one table.
-/

set_option autoImplicit false

namespace JvmFacts.NameTable

variable {α : Type}

theorem Ascending.tail {entry : String × α} {rest : NameTable α}
    (ordered : Ascending (entry :: rest)) : rest.Ascending :=
  (List.pairwise_cons.1 ordered).2

/-- The first name is none of those that follow. -/
theorem Ascending.find?_head {name : String} {value : α} {rest : NameTable α}
    (ordered : Ascending ((name, value) :: rest)) : find? name rest = none := by
  have apart : ∀ entry ∈ rest, entry.1 ≠ name := by
    intro entry member same
    have below := (List.pairwise_cons.1 ordered).1 entry member
    simp only [same, Std.ReflOrd.compare_self, reduceCtorEq] at below
  have tail := ordered.tail
  clear ordered
  induction rest with
  | nil => rfl
  | cons entry rest ih =>
    rw [find?_cons, if_neg (apart entry (List.mem_cons_self ..))]
    exact ih (fun e member => apart e (List.mem_cons_of_mem _ member)) tail.tail

theorem find?_of_mem {t : NameTable α} (ordered : t.Ascending) {name : String} {value : α}
    (held : (name, value) ∈ t) : find? name t = some value := by
  induction t with
  | nil => cases held
  | cons entry rest ih =>
    rcases List.mem_cons.1 held with rfl | further
    · rw [find?_cons, if_pos rfl]
    · have found := ih ordered.tail further
      have apart : entry.1 ≠ name := by
        rintro rfl
        rw [ordered.find?_head] at found
        cases found
      rw [find?_cons, if_neg apart, found]

theorem mem_of_find? {t : NameTable α} {name : String} {value : α}
    (found : find? name t = some value) : (name, value) ∈ t := by
  induction t with
  | nil => cases found
  | cons entry rest ih =>
    obtain ⟨k, old⟩ := entry
    rw [find?_cons] at found
    split at found
    · rename_i same
      obtain rfl := Option.some.inj found
      rw [same]
      exact List.mem_cons_self ..
    · exact List.mem_cons_of_mem _ (ih found)

/-- Two lists in strictly ascending order with the same entries are one list. -/
theorem Ascending.ext {s t : NameTable α} (one : s.Ascending) (two : t.Ascending)
    (same : ∀ name, find? name s = find? name t) : s = t := by
  have mem : ∀ entry, entry ∈ s ↔ entry ∈ t := by
    rintro ⟨name, value⟩
    constructor
    · intro held
      exact mem_of_find? ((same name).symm.trans (find?_of_mem one held))
    · intro held
      exact mem_of_find? ((same name).trans (find?_of_mem two held))
  have distinct : ∀ {u : NameTable α}, u.Ascending → u.Nodup := by
    intro u ordered
    apply List.Pairwise.imp _ ordered
    rintro a b below rfl
    simp only [Std.ReflOrd.compare_self, reduceCtorEq] at below
  have perm := (List.perm_ext_iff_of_nodup (distinct one) (distinct two)).2 mem
  apply perm.eq_of_pairwise _ one two
  intro a b _ _ below above
  have back := Std.OrientedCmp.gt_of_lt above
  rw [below] at back
  cases back

theorem insert_ne_nil (name : String) (value : α) (t : NameTable α) : insert name value t ≠ [] := by
  intro empty
  have found := find?_insert name name value t
  rw [empty, if_pos rfl] at found
  cases found

/-! ## Sums over the entries -/

/-- Writing an entry takes off what the name stood for and adds what it stands for now. -/
theorem sum_insert {M : Type} [AddCommMonoid M] (measure : α → M) {t : NameTable α}
    (ordered : t.Ascending) (name : String) (value : α) :
    ((insert name value t).values.map measure).sum + (find? name t).elim 0 measure =
      (t.values.map measure).sum + measure value := by
  have sum_cons : ∀ (entry : String × α) (rest : NameTable α),
      ((values (entry :: rest)).map measure).sum =
        measure entry.2 + (rest.values.map measure).sum :=
    fun _ _ => List.sum_cons
  induction t with
  | nil => exact (add_zero _).trans ((sum_cons (name, value) []).trans (add_comm ..))
  | cons entry rest ih =>
    obtain ⟨k, old⟩ := entry
    have later := ih ordered.tail
    rw [insert]
    split
    · rename_i less
      -- the name is below the first one, so the table does not hold it
      have front : Ascending ((name, value) :: (k, old) :: rest) := by
        refine List.pairwise_cons.2 ⟨?_, ordered⟩
        intro entry member
        rcases List.mem_cons.1 member with rfl | further
        · exact less
        · exact Std.TransCmp.lt_trans less ((List.pairwise_cons.1 ordered).1 entry further)
      rw [front.find?_head, sum_cons (name, value), Option.elim_none, add_zero, add_comm]
    · rename_i equal
      obtain rfl : name = k := Std.LawfulEqOrd.eq_of_compare equal
      rw [find?_cons, if_pos rfl, sum_cons, sum_cons, Option.elim_some]
      abel
    · rename_i greater
      have apart : k ≠ name := by
        rintro rfl
        simp only [Std.ReflOrd.compare_self, reduceCtorEq] at greater
      rw [find?_cons, if_neg apart, sum_cons, sum_cons, add_assoc, later, add_assoc]

theorem length_insert {t : NameTable α} (ordered : t.Ascending) (name : String) (value : α) :
    (insert name value t).length + (if t.contains name then 1 else 0) = t.length + 1 := by
  have ones : ∀ u : NameTable α, (u.values.map fun _ => 1).sum = u.length := by
    intro u
    rw [List.map_const', List.sum_replicate_nat, Nat.mul_one]
    exact List.length_map _
  have sums := sum_insert (fun _ => 1) ordered name value
  rw [ones, ones] at sums
  rw [← sums]
  unfold contains
  cases find? name t <;> rfl

/-! ## Other values under the same names -/

theorem find?_mapValues {β : Type} (f : α → β) (name : String) (t : NameTable α) :
    find? name (t.map fun entry => (entry.1, f entry.2)) = (find? name t).map f := by
  induction t with
  | nil => rfl
  | cons entry rest ih =>
    rw [List.map_cons, find?_cons, find?_cons, ih]
    split <;> rfl

theorem Ascending.mapValues {β : Type} (f : α → β) {t : NameTable α} (ordered : t.Ascending) :
    Ascending (t.map fun entry => (entry.1, f entry.2)) :=
  List.pairwise_map.2 ordered

/-! ## Some of the names -/

theorem find?_filter (wanted : String → Bool) (name : String) (t : NameTable α) :
    find? name (t.filter fun entry => wanted entry.1) =
      if wanted name then find? name t else none := by
  induction t with
  | nil => simp only [List.filter_nil, find?_nil, ite_self]
  | cons entry rest ih =>
    obtain ⟨k, value⟩ := entry
    rw [List.filter_cons, find?_cons]
    by_cases same : k = name
    · subst same
      split
      · rw [find?_cons, if_pos rfl, if_pos rfl]
      · rename_i unwanted
        rw [ih, if_neg unwanted]
    · rw [if_neg same]
      split
      · rw [find?_cons, if_neg same, ih]
      · exact ih

end JvmFacts.NameTable
