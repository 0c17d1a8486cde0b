import Mathlib.Data.List.Nodup
import JvmFacts.Table

/-!
What tables hold after they were written to or cut down.
-/

set_option autoImplicit false

namespace JvmFacts.Table

variable {κ α : Type} [DecidableEq κ]

/-- A filter that goes by keys drops what those keys hold and nothing else. -/
theorem find?_filter (stays : κ → Bool) (key : κ) (t : Table κ α) :
    find? key (t.filter fun entry => stays entry.1) =
      if stays key = true then find? key t else none := by
  induction t with
  | nil =>
    rw [List.filter_nil, find?_nil, ite_self]
  | cons entry rest ih =>
    obtain ⟨k, value⟩ := entry
    rw [List.filter_cons]
    cases kept : stays k with
    | true =>
      rw [if_pos rfl, find?_cons, find?_cons, ih]
      by_cases hit : k = key
      · subst hit
        rw [if_pos rfl, if_pos rfl, if_pos kept]
      · rw [if_neg hit, if_neg hit]
    | false =>
      rw [if_neg Bool.false_ne_true, ih, find?_cons]
      by_cases hit : k = key
      · subst hit
        rw [kept, if_neg Bool.false_ne_true, if_neg Bool.false_ne_true]
      · rw [if_neg hit]

theorem mem_of_find? {key : κ} {value : α} {t : Table κ α} (found : find? key t = some value) :
    (key, value) ∈ t := by
  induction t with
  | nil => cases found
  | cons entry rest ih =>
    obtain ⟨k, old⟩ := entry
    rw [find?_cons] at found
    by_cases hit : k = key
    · subst hit
      rw [if_pos rfl] at found
      obtain rfl := Option.some.inj found
      exact List.mem_cons_self ..
    · rw [if_neg hit] at found
      exact List.mem_cons_of_mem _ (ih found)

theorem mem_values_of_find? {key : κ} {value : α} {t : Table κ α}
    (found : find? key t = some value) : value ∈ values t :=
  List.mem_map.2 ⟨(key, value), mem_of_find? found, rfl⟩

theorem mem_insert {key : κ} {value : α} {entry : κ × α} {t : Table κ α}
    (member : entry ∈ insert key value t) : entry = (key, value) ∨ entry ∈ t := by
  induction t with
  | nil => exact Or.inl (List.mem_singleton.1 member)
  | cons head rest ih =>
    obtain ⟨k, old⟩ := head
    rw [insert] at member
    by_cases hit : k = key
    · rw [if_pos hit] at member
      rcases List.mem_cons.1 member with rfl | further
      · exact Or.inl rfl
      · exact Or.inr (List.mem_cons_of_mem _ further)
    · rw [if_neg hit] at member
      rcases List.mem_cons.1 member with rfl | further
      · exact Or.inr (List.mem_cons_self ..)
      · rcases ih further with new | held
        · exact Or.inl new
        · exact Or.inr (List.mem_cons_of_mem _ held)

theorem mem_values_insert {key : κ} {value other : α} {t : Table κ α}
    (member : other ∈ values (insert key value t)) : other = value ∨ other ∈ values t := by
  obtain ⟨entry, held, rfl⟩ := List.mem_map.1 member
  rcases mem_insert held with rfl | before
  · exact Or.inl rfl
  · exact Or.inr (List.mem_map_of_mem before)

/-- Writing under a new key takes nothing away. -/
theorem mem_values_insert_of_absent {key : κ} {value other : α} {t : Table κ α}
    (absent : find? key t = none) (member : other ∈ values t) :
    other ∈ values (insert key value t) := by
  induction t with
  | nil => cases member
  | cons entry rest ih =>
    obtain ⟨k, old⟩ := entry
    rw [find?_cons] at absent
    by_cases hit : k = key
    · rw [if_pos hit] at absent
      cases absent
    · rw [if_neg hit] at absent
      rw [insert, if_neg hit]
      rcases List.mem_cons.1 member with rfl | further
      · exact List.mem_cons_self ..
      · exact List.mem_cons_of_mem _ (ih absent further)

/-- Where no value gives a result, one that is written does, be it in the place of another. -/
theorem findSome?_values_insert {β : Type} {f : α → Option β} {key : κ} {value : α} {result : β}
    {t : Table κ α} (silent : (values t).findSome? f = none) (gives : f value = some result) :
    (values (insert key value t)).findSome? f = some result := by
  have first : ∀ rest, (value :: rest).findSome? f = some result := by
    intro rest
    rw [List.findSome?_cons, gives]
  induction t with
  | nil => exact first []
  | cons entry rest ih =>
    obtain ⟨k, old⟩ := entry
    have nothing := List.findSome?_eq_none_iff.1 silent
    rw [insert]
    by_cases hit : k = key
    · rw [if_pos hit]
      exact first (values rest)
    · have before : f old = none := nothing old (List.mem_cons_self ..)
      have others : (values rest).findSome? f = none :=
        List.findSome?_eq_none_iff.2 fun v member => nothing v (List.mem_cons_of_mem _ member)
      rw [if_neg hit, values, List.map_cons, List.findSome?_cons, before]
      exact ih others

/-! ## Keys -/

theorem insert_of_absent {key : κ} {t : Table κ α} (absent : find? key t = none) (value : α) :
    insert key value t = t ++ [(key, value)] := by
  induction t with
  | nil => rfl
  | cons entry rest ih =>
    obtain ⟨k, old⟩ := entry
    rw [find?_cons] at absent
    by_cases hit : k = key
    · rw [if_pos hit] at absent
      cases absent
    · rw [if_neg hit] at absent
      rw [insert, if_neg hit, ih absent, List.cons_append]

theorem mem_keys_iff {key : κ} {t : Table κ α} : key ∈ keys t ↔ ∃ value, find? key t = some value := by
  induction t with
  | nil => simp [keys]
  | cons entry rest ih =>
    obtain ⟨k, old⟩ := entry
    rw [find?_cons, keys, List.map_cons, List.mem_cons]
    by_cases hit : k = key
    · rw [if_pos hit]
      exact iff_of_true (Or.inl hit.symm) ⟨old, rfl⟩
    · rw [if_neg hit, ← ih]
      exact or_iff_right fun same => hit same.symm

theorem find?_eq_none {key : κ} {t : Table κ α} (absent : key ∉ keys t) : find? key t = none := by
  cases found : find? key t with
  | none => rfl
  | some value => exact absurd (mem_keys_iff.2 ⟨value, found⟩) absent

/-- Writing under a key that is there leaves the keys as they are. -/
theorem keys_insert_of_mem {key : κ} {t : Table κ α} (held : key ∈ keys t) (value : α) :
    keys (insert key value t) = keys t := by
  induction t with
  | nil => cases held
  | cons entry rest ih =>
    obtain ⟨k, old⟩ := entry
    rw [insert]
    by_cases hit : k = key
    · subst hit
      rw [if_pos rfl]
      rfl
    · have further : key ∈ keys rest :=
        (List.mem_cons.1 held).resolve_left (Ne.symm hit)
      rw [if_neg hit]
      exact congrArg (k :: ·) (ih further)

/-- A new key goes behind the others. -/
theorem nodup_keys_insert {key : κ} {value : α} {t : Table κ α} (distinct : (keys t).Nodup) :
    (keys (insert key value t)).Nodup := by
  by_cases held : key ∈ keys t
  · rw [keys_insert_of_mem held]
    exact distinct
  · rw [insert_of_absent (find?_eq_none held), keys, List.map_append]
    refine List.nodup_append.2 ⟨distinct, List.pairwise_singleton .., ?_⟩
    intro other present last single same
    obtain rfl := List.mem_singleton.1 single
    exact held (same ▸ present)

theorem find?_of_mem {key : κ} {value : α} {t : Table κ α} (distinct : (keys t).Nodup)
    (member : (key, value) ∈ t) : find? key t = some value := by
  induction t with
  | nil => cases member
  | cons entry rest ih =>
    obtain ⟨k, old⟩ := entry
    obtain ⟨new, others⟩ := List.nodup_cons.1 distinct
    rw [find?_cons]
    rcases List.mem_cons.1 member with first | further
    · obtain ⟨rfl, rfl⟩ := Prod.mk.inj first
      rw [if_pos rfl]
    · have held : key ∈ keys rest := List.mem_map.2 ⟨_, further, rfl⟩
      have apart : k ≠ key := by
        rintro rfl
        exact new held
      rw [if_neg apart]
      exact ih others further

/-- Tables that answer alike hold the same, in whatever order. -/
theorem perm_of_find? {t u : Table κ α} (distinct : (keys t).Nodup) (distinct' : (keys u).Nodup)
    (answers : ∀ key, find? key t = find? key u) : t.Perm u := by
  apply (List.perm_ext_iff_of_nodup (List.Nodup.of_map _ distinct) (List.Nodup.of_map _ distinct')).2
  rintro ⟨key, value⟩
  constructor
  · intro member
    exact mem_of_find? ((answers key).symm.trans (find?_of_mem distinct member))
  · intro member
    exact mem_of_find? ((answers key).trans (find?_of_mem distinct' member))

/-- Tables with the same keys in the same places are one if they answer alike. -/
theorem ext_of_keys {t u : Table κ α} (distinct : (keys t).Nodup) (same : keys u = keys t)
    (answers : ∀ key, find? key u = find? key t) : u = t := by
  induction t generalizing u with
  | nil => exact List.map_eq_nil_iff.1 same
  | cons entry rest ih =>
    obtain ⟨k, value⟩ := entry
    obtain ⟨⟨k', other⟩, tail, rfl, rfl, further⟩ := List.map_eq_cons_iff.1 same
    obtain ⟨new, others⟩ := List.nodup_cons.1 distinct
    have first := answers k'
    rw [find?_cons, find?_cons, if_pos rfl, if_pos rfl] at first
    obtain rfl := Option.some.inj first
    congr 1
    apply ih others further
    intro key
    by_cases hit : k' = key
    · have gone : k' ∉ keys tail := fun held => new (further ▸ held)
      rw [← hit, find?_eq_none gone, find?_eq_none new]
    · have later := answers key
      rw [find?_cons, find?_cons, if_neg hit, if_neg hit] at later
      exact later

/-! ## Other values under the same keys -/

section

variable {β : Type} (f : α → β)

def mapValues (t : Table κ α) : Table κ β :=
  t.map fun entry => (entry.1, f entry.2)

theorem find?_mapValues (key : κ) (t : Table κ α) :
    find? key (mapValues f t) = (find? key t).map f := by
  induction t with
  | nil => rfl
  | cons entry rest ih =>
    obtain ⟨k, value⟩ := entry
    have cons : mapValues f ((k, value) :: rest) = (k, f value) :: mapValues f rest := rfl
    rw [cons, find?_cons, find?_cons, ih]
    by_cases hit : k = key
    · rw [if_pos hit, if_pos hit, Option.map_some]
    · rw [if_neg hit, if_neg hit]

theorem insert_mapValues (key : κ) (value : α) (t : Table κ α) :
    insert key (f value) (mapValues f t) = mapValues f (insert key value t) := by
  induction t with
  | nil => rfl
  | cons entry rest ih =>
    obtain ⟨k, old⟩ := entry
    have cons : mapValues f ((k, old) :: rest) = (k, f old) :: mapValues f rest := rfl
    rw [cons, insert, insert]
    by_cases hit : k = key
    · rw [if_pos hit, if_pos hit]
      rfl
    · rw [if_neg hit, if_neg hit, ih]
      rfl

omit [DecidableEq κ] in
theorem values_mapValues (t : Table κ α) : values (mapValues f t) = (values t).map f := by
  unfold values mapValues
  rw [List.map_map, List.map_map]
  rfl

omit [DecidableEq κ] in
theorem length_mapValues (t : Table κ α) : (mapValues f t).length = t.length :=
  List.length_map _

end

end JvmFacts.Table
