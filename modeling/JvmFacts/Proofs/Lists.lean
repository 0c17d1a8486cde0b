import Mathlib.Data.List.Forall2

/-!
Lists that correspond item by item, and what some or all of the items give.
-/

set_option autoImplicit false

namespace JvmFacts

open List

section

variable {α β : Type} {R : α → β → Prop} {as : List α} {bs : List β}

theorem exists_of_mem_right (paired : Forall₂ R as bs) {b : β} (member : b ∈ bs) :
    ∃ a ∈ as, R a b := by
  induction paired with
  | nil => cases member
  | @cons a c _ _ first _ ih =>
    rcases mem_cons.1 member with rfl | further
    · exact ⟨a, mem_cons_self .., first⟩
    · obtain ⟨d, held, fits⟩ := ih further
      exact ⟨d, mem_cons_of_mem _ held, fits⟩

theorem exists_mem_iff (paired : Forall₂ R as bs) {P : α → Prop} {Q : β → Prop}
    (agree : ∀ a b, R a b → (P a ↔ Q b)) : (∃ a ∈ as, P a) ↔ ∃ b ∈ bs, Q b := by
  induction paired with
  | nil => simp only [not_mem_nil, false_and, exists_false]
  | @cons a b _ _ first _ ih => simp only [mem_cons, exists_eq_or_imp, agree a b first, ih]

theorem map_eq_of_paired {γ : Type} (paired : Forall₂ R as bs) {f : α → γ} {g : β → γ}
    (agree : ∀ a b, R a b → f a = g b) : as.map f = bs.map g := by
  induction paired with
  | nil => rfl
  | @cons a b _ _ first _ ih => rw [map_cons, map_cons, agree a b first, ih]

theorem paired_comp {γ : Type} {S : β → γ → Prop} {T : α → γ → Prop} {cs : List γ}
    (first : Forall₂ R as bs) (second : Forall₂ S bs cs)
    (both : ∀ a ∈ as, ∀ b c, R a b → S b c → T a c) : Forall₂ T as cs := by
  induction first generalizing cs with
  | nil =>
    cases second
    exact .nil
  | @cons a b _ _ here _ ih =>
    cases second with
    | cons there rest =>
      have others := ih rest fun a member => both a (mem_cons_of_mem _ member)
      exact .cons (both a (mem_cons_self ..) b _ here there) others

theorem rel_getLast? (paired : Forall₂ R as bs) : Option.Rel R as.getLast? bs.getLast? := by
  have reversed := forall₂_reverse_iff.2 paired
  rw [getLast?_eq_head?_reverse, getLast?_eq_head?_reverse]
  generalize as.reverse = front, bs.reverse = back at reversed
  cases reversed with
  | nil => exact .none
  | cons first _ => exact .some first

end

theorem getLast?_filterMap_concat {α β : Type} (f : α → Option β) (items : List α) (a : α) :
    ((items ++ [a]).filterMap f).getLast? = (f a).or (items.filterMap f).getLast? := by
  rw [filterMap_append, filterMap_cons, filterMap_nil]
  cases f a with
  | none => rw [append_nil, Option.none_or]
  | some b => rw [getLast?_concat, Option.some_or]

/-- The first item of its kind is this one, or one that is before it. -/
theorem find?_of_front {α : Type} {p : α → Bool} {front items : List α} {a : α}
    (within : front ++ [a] <+: items) (hit : p a = true) :
    items.find? p = some ((front.find? p).getD a) := by
  obtain ⟨rest, rfl⟩ := within
  rw [append_assoc, find?_append, singleton_append, find?_cons_of_pos hit]
  cases front.find? p <;> rfl

/-- Where one item at most fits, it is found wherever it is. -/
theorem find?_eq_of_unique {α : Type} {p : α → Bool} {as bs : List α}
    (same : ∀ a, a ∈ as ↔ a ∈ bs)
    (unique : ∀ a ∈ as, ∀ b ∈ as, p a = true → p b = true → a = b) : as.find? p = bs.find? p := by
  cases found : as.find? p with
  | none =>
    symm
    rw [find?_eq_none] at found ⊢
    exact fun a member => found a ((same a).2 member)
  | some a =>
    have held := mem_of_find?_eq_some found
    have fits := find?_some found
    obtain ⟨b, other⟩ := Option.isSome_iff_exists.1 (find?_isSome.2 ⟨a, (same a).1 held, fits⟩)
    have also := (same b).2 (mem_of_find?_eq_some other)
    rw [other, unique a held b also fits (find?_some other)]

theorem findSome?_eq_of_forall {α β : Type} {f g : α → Option β} {items : List α}
    (same : ∀ a ∈ items, f a = g a) : items.findSome? f = items.findSome? g := by
  induction items with
  | nil => rfl
  | cons a rest ih =>
    obtain ⟨first, others⟩ := forall_mem_cons.1 same
    rw [findSome?_cons, findSome?_cons, first, ih others]

/-- What was written item by item is read item by item. -/
theorem mapM_map_eq_some {α β : Type} {write : α → β} {read : β → Option α} {items : List α}
    (back : ∀ a ∈ items, read (write a) = some a) : (items.map write).mapM read = some items := by
  induction items with
  | nil => rfl
  | cons a rest ih =>
    obtain ⟨first, others⟩ := forall_mem_cons.1 back
    rw [map_cons, mapM_cons, first, ih others]
    rfl

/-- Where every item gives something, none is left out. -/
theorem mapM_eq_some_filterMap {α β : Type} {f : α → Option β} {items : List α}
    (there : ∀ a ∈ items, (f a).isSome) : items.mapM f = some (items.filterMap f) := by
  induction items with
  | nil => rfl
  | cons a rest ih =>
    obtain ⟨first, others⟩ := forall_mem_cons.1 there
    obtain ⟨b, held⟩ := Option.isSome_iff_exists.1 first
    rw [mapM_cons, filterMap_cons_some held, held, ih others]
    rfl

theorem paired_filterMap {α β : Type} {f : α → Option β} {items : List α}
    (there : ∀ a ∈ items, (f a).isSome) :
    Forall₂ (fun a b => f a = some b) items (items.filterMap f) := by
  induction items with
  | nil => exact .nil
  | cons a rest ih =>
    obtain ⟨first, others⟩ := forall_mem_cons.1 there
    obtain ⟨b, held⟩ := Option.isSome_iff_exists.1 first
    rw [filterMap_cons_some held]
    exact .cons held (ih others)

/-! ## Reading items in two ways -/

section

variable {α β γ δ : Type}

/-- Lists that read the same correspond item by item. -/
theorem forall₂_of_map_eq {f : α → γ} {g : β → γ} {R : α → β → Prop} {as : List α} {bs : List β}
    (same : as.map f = bs.map g) (settles : ∀ a ∈ as, ∀ b ∈ bs, f a = g b → R a b) :
    Forall₂ R as bs := by
  induction as generalizing bs with
  | nil =>
    rw [map_nil, eq_comm, map_eq_nil_iff] at same
    rw [same]
    exact .nil
  | cons a as ih =>
    cases bs with
    | nil => cases same
    | cons b bs =>
      obtain ⟨first, others⟩ := cons.inj same
      have here := settles a (mem_cons_self ..) b (mem_cons_self ..) first
      have there := ih others fun a one b two =>
        settles a (mem_cons_of_mem _ one) b (mem_cons_of_mem _ two)
      exact .cons here there

/-- What settles each item settles the list. -/
theorem map_eq_of_map_eq {f : α → γ} {g : β → γ} {f' : α → δ} {g' : β → δ} {as : List α}
    {bs : List β} (same : as.map f = bs.map g)
    (settles : ∀ a ∈ as, ∀ b ∈ bs, f a = g b → f' a = g' b) : as.map f' = bs.map g' := by
  have items : Forall₂ (fun a b => f' a = g' b) as bs := forall₂_of_map_eq same settles
  rw [← forall₂_eq_eq_eq, forall₂_map_left_iff, forall₂_map_right_iff]
  exact items

theorem eq_of_map_eq {f : α → γ} {as bs : List α} (same : as.map f = bs.map f)
    (settles : ∀ a ∈ as, ∀ b ∈ bs, f a = f b → a = b) : as = bs := by
  have items : as.map id = bs.map id := map_eq_of_map_eq same settles
  rw [map_id, map_id] at items
  exact items

theorem option_eq_of_map_eq {f : α → γ} {a b : Option α} (same : a.map f = b.map f)
    (settles : ∀ x ∈ a, ∀ y ∈ b, f x = f y → x = y) : a = b := by
  cases a with
  | none => exact (Option.map_eq_none_iff.1 same.symm).symm
  | some x =>
    obtain ⟨y, held, equal⟩ := Option.map_eq_some_iff.1 same.symm
    rw [held, settles x rfl y held equal.symm]

end

end JvmFacts
