/-!
Association lists that hold each key once. Writing a key that is present keeps its place, so writing
again what a table holds changes nothing.
-/

set_option autoImplicit false

namespace JvmFacts

abbrev Table (κ α : Type) := List (κ × α)

namespace Table

variable {κ α : Type} [DecidableEq κ]

def find? (key : κ) : Table κ α → Option α
  | [] => none
  | (k, value) :: rest => if k = key then some value else find? key rest

def insert (key : κ) (value : α) : Table κ α → Table κ α
  | [] => [(key, value)]
  | (k, old) :: rest =>
    if k = key then (key, value) :: rest else (k, old) :: insert key value rest

def contains (key : κ) (t : Table κ α) : Bool :=
  (t.find? key).isSome

def erase (key : κ) (t : Table κ α) : Table κ α :=
  t.filter fun entry => entry.1 ≠ key

def keys (t : Table κ α) : List κ :=
  t.map Prod.fst

def values (t : Table κ α) : List α :=
  t.map Prod.snd

@[simp] theorem find?_nil (key : κ) : find? key ([] : Table κ α) = none := rfl

@[simp] theorem find?_cons (key k : κ) (value : α) (rest : Table κ α) :
    find? key ((k, value) :: rest) = if k = key then some value else find? key rest := rfl

theorem find?_insert (key other : κ) (value : α) (t : Table κ α) :
    find? other (insert key value t) = if key = other then some value else find? other t := by
  induction t with
  | nil => rfl
  | cons entry rest ih =>
    obtain ⟨k, old⟩ := entry
    simp only [insert]
    by_cases same : k = key
    · subst same
      simp only [↓reduceIte, find?_cons]
      by_cases hit : k = other <;> simp only [hit, ↓reduceIte]
    · simp only [same, ↓reduceIte, find?_cons, ih]
      by_cases hit : k = other
      · subst hit
        simp only [↓reduceIte, if_neg (Ne.symm same)]
      · simp only [hit, ↓reduceIte]

theorem insert_of_find? {key : κ} {value : α} {t : Table κ α}
    (held : find? key t = some value) : insert key value t = t := by
  induction t with
  | nil => cases held
  | cons entry rest ih =>
    obtain ⟨k, old⟩ := entry
    simp only [find?_cons] at held
    by_cases same : k = key
    · subst same
      simp only [↓reduceIte, Option.some.injEq] at held
      simp only [insert, ↓reduceIte, held]
    · simp only [same, ↓reduceIte] at held
      simp only [insert, same, ↓reduceIte, ih held]

theorem find?_erase (key other : κ) (t : Table κ α) :
    find? other (erase key t) = if key = other then none else find? other t := by
  induction t with
  | nil => simp [erase]
  | cons entry rest ih =>
    obtain ⟨k, old⟩ := entry
    simp only [erase] at ih
    by_cases same : k = key
    · subst same
      by_cases hit : k = other <;> simp_all [erase]
    · by_cases hit : k = other
      · subst hit
        have apart : ¬ key = k := Ne.symm same
        simp [erase, same, apart]
      · simp_all [erase]

end Table

end JvmFacts
