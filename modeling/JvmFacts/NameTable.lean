/-!
Tables keyed by names and kept in ascending order of them, each name once.
-/

set_option autoImplicit false

namespace JvmFacts

abbrev NameTable (α : Type) := List (String × α)

namespace NameTable

variable {α : Type}

def insert (name : String) (value : α) : NameTable α → NameTable α
  | [] => [(name, value)]
  | (k, old) :: rest =>
    match compare name k with
    | .lt => (name, value) :: (k, old) :: rest
    | .eq => (name, value) :: rest
    | .gt => (k, old) :: insert name value rest

def find? (name : String) : NameTable α → Option α
  | [] => none
  | (k, value) :: rest => if k = name then some value else find? name rest

def contains (name : String) (t : NameTable α) : Bool :=
  (t.find? name).isSome

def names (t : NameTable α) : List String :=
  t.map Prod.fst

def values (t : NameTable α) : List α :=
  t.map Prod.snd

/-- The names stand in strictly ascending order. -/
def Ascending (t : NameTable α) : Prop :=
  t.Pairwise fun a b => compare a.1 b.1 = .lt

@[simp] theorem find?_nil (name : String) : find? name ([] : NameTable α) = none := rfl

@[simp] theorem find?_cons (name k : String) (value : α) (rest : NameTable α) :
    find? name ((k, value) :: rest) = if k = name then some value else find? name rest := rfl

theorem find?_insert (name other : String) (value : α) (t : NameTable α) :
    find? other (insert name value t) = if name = other then some value else find? other t := by
  induction t with
  | nil => rfl
  | cons entry rest ih =>
    obtain ⟨k, old⟩ := entry
    simp only [insert]
    split
    · simp only [find?_cons]
    · rename_i same
      have equal : name = k := Std.LawfulEqOrd.eq_of_compare same
      subst equal
      simp only [find?_cons]
      split <;> rfl
    · rename_i greater
      have apart : name ≠ k := by
        rintro rfl
        simp [Std.ReflOrd.compare_self] at greater
      simp only [find?_cons, ih]
      by_cases hit : k = other
      · subst hit
        simp only [↓reduceIte, if_neg apart]
      · simp only [if_neg hit]

theorem mem_insert {name : String} {value : α} {t : NameTable α} {entry : String × α}
    (member : entry ∈ insert name value t) : entry = (name, value) ∨ entry ∈ t := by
  induction t with
  | nil => exact Or.inl (List.mem_singleton.1 member)
  | cons head rest ih =>
    obtain ⟨k, old⟩ := head
    simp only [insert] at member
    split at member
    · exact List.mem_cons.1 member
    · rcases List.mem_cons.1 member with rfl | tail
      · exact Or.inl rfl
      · exact Or.inr (List.mem_cons_of_mem _ tail)
    · rcases List.mem_cons.1 member with rfl | tail
      · exact Or.inr (List.mem_cons_self ..)
      · rcases ih tail with new | held
        · exact Or.inl new
        · exact Or.inr (List.mem_cons_of_mem _ held)

theorem Ascending.insert {t : NameTable α} (ordered : t.Ascending) (name : String) (value : α) :
    Ascending (NameTable.insert name value t) := by
  induction t with
  | nil => exact List.pairwise_singleton ..
  | cons head rest ih =>
    obtain ⟨k, old⟩ := head
    obtain ⟨below, tail⟩ := List.pairwise_cons.1 ordered
    simp only [NameTable.insert]
    split
    · rename_i less
      refine List.pairwise_cons.2 ⟨?_, ordered⟩
      intro entry member
      rcases List.mem_cons.1 member with rfl | further
      · exact less
      · exact Std.TransCmp.lt_trans less (below entry further)
    · rename_i same
      have equal : name = k := Std.LawfulEqOrd.eq_of_compare same
      subst equal
      exact List.pairwise_cons.2 ⟨below, tail⟩
    · rename_i greater
      refine List.pairwise_cons.2 ⟨?_, ih tail⟩
      intro entry member
      rcases mem_insert member with rfl | held
      · exact Std.OrientedCmp.lt_of_gt greater
      · exact below entry held

end NameTable

end JvmFacts
