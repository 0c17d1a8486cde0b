import JvmFacts.Name

/-!
Class names and their slashed form. A valid name stays valid when it is slashed. The other way round
only a name that mixes the separators is in the way: it may have the slashed form of a valid name and
is not valid itself.
-/

set_option autoImplicit false

namespace JvmFacts.Name

section

variable {old new : Char}

theorem toList_swap (old new : Char) (name : String) :
    (swap old new name).toList = name.toList.map fun c => if c = old then new else c := by
  unfold swap
  rw [String.toList_ofList]

theorem swap_of_not_mem {name : String} (absent : old ∉ name.toList) : swap old new name = name := by
  have same : name.toList.map (fun c => if c = old then new else c) = name.toList.map id := by
    apply List.map_congr_left
    intro c member
    have other : c ≠ old := fun hit => absent (hit ▸ member)
    exact if_neg other
  apply String.toList_inj.1
  rw [toList_swap, same, List.map_id]

theorem not_mem_swap (apart : new ≠ old) (name : String) : old ∉ (swap old new name).toList := by
  rw [toList_swap, List.mem_map]
  rintro ⟨c, -, same⟩
  split at same
  · exact apart same
  · rename_i other
    exact other same

theorem mem_swap {name : String} (member : old ∈ name.toList) :
    new ∈ (swap old new name).toList := by
  rw [toList_swap, List.mem_map]
  exact ⟨old, member, if_pos rfl⟩

theorem isArray_swap (before : old ≠ '[') (after : new ≠ '[') (name : String) :
    isArray (swap old new name) = isArray name := by
  unfold isArray
  rw [toList_swap]
  cases name.toList with
  | nil => rfl
  | cons c rest =>
    rw [List.map_cons, List.head?_cons, List.head?_cons, Bool.eq_iff_iff, beq_iff_eq, beq_iff_eq,
      Option.some.injEq, Option.some.injEq]
    by_cases same : c = old
    · rw [if_pos same, same]
      exact iff_of_false after before
    · rw [if_neg same]

end

theorem isArray_dotted (name : String) : isArray (dotted name) = isArray name :=
  isArray_swap (by decide) (by decide) name

theorem isArray_slashed (name : String) : isArray (slashed name) = isArray name := by
  unfold slashed
  split
  · rfl
  · exact isArray_swap (by decide) (by decide) name

theorem toList_slashed {name : String} (named : isArray name = false) :
    (slashed name).toList = name.toList.map fun c => if c = '.' then '/' else c := by
  unfold slashed
  rw [named, if_neg Bool.false_ne_true, toList_swap]

theorem dot_not_mem_slashed {name : String} (named : isArray name = false) :
    '.' ∉ (slashed name).toList := by
  unfold slashed
  rw [named, if_neg Bool.false_ne_true]
  exact not_mem_swap (by decide) name

/-- A name without dots is in slashed form. -/
theorem slashed_of_undotted {name : String} (undotted : '.' ∉ name.toList) :
    slashed name = name := by
  unfold slashed
  split
  · rfl
  · exact swap_of_not_mem undotted

theorem slashed_slashed (name : String) : slashed (slashed name) = slashed name := by
  cases array : isArray name with
  | true => rw [slashed_of_isArray array, slashed_of_isArray array]
  | false => exact slashed_of_undotted (dot_not_mem_slashed array)

theorem slashed_eq_empty_iff {name : String} : slashed name = "" ↔ name = "" := by
  unfold slashed
  split
  · rfl
  · rw [← String.toList_inj, ← String.toList_inj, toList_swap]
    exact List.map_eq_nil_iff

/-- The two spellings of a name have one slashed form. -/
theorem slashed_dotted {name : String} (named : isArray name = false) :
    slashed (dotted name) = slashed name := by
  have still := (isArray_dotted name).trans named
  apply String.toList_inj.1
  rw [toList_slashed still, toList_slashed named, dotted, toList_swap, List.map_map]
  apply List.map_congr_left
  intro c _
  rw [Function.comp_apply]
  by_cases slash : c = '/'
  · rw [if_pos slash, slash]
    rfl
  · rw [if_neg slash]

/-! ## Valid class names -/

/-- A name that is not that of an array and has dots as well as slashes. -/
def IsMixed (name : String) : Prop :=
  isArray name = false ∧ '.' ∈ name.toList ∧ '/' ∈ name.toList

instance (name : String) : Decidable (IsMixed name) :=
  inferInstanceAs (Decidable (_ ∧ _ ∧ _))

/-- The name of an array is valid as the type that it writes. -/
theorem isClass_of_isArray {name : String} (array : isArray name = true) :
    isClass name = isFieldType name := by
  have written : name.toList.isEmpty = false := by
    unfold isArray at array
    cases text : name.toList with
    | nil =>
      rw [text] at array
      cases array
    | cons c rest => rfl
  simp only [isClass, written, array, Bool.false_eq_true, ↓reduceIte]

/-- Between segments it makes no difference which separator stands. -/
theorem segments_slashed (text : List Char) :
    segments isSeparator (text.map fun c => if c = '.' then '/' else c) =
      segments isSeparator text := by
  induction text with
  | nil => rfl
  | cons c rest ih =>
    rw [List.map_cons, segments, segments, ih]
    by_cases dot : c = '.'
    · subst dot
      rfl
    · rw [if_neg dot]

/-- There is no need to ask for the empty name: it has one segment, and that is empty. -/
theorem isClass_iff_segments {name : String} (named : isArray name = false) :
    isClass name = true ↔
      ¬ IsMixed name ∧ ∀ segment ∈ segments isSeparator name.toList, isSegment segment = true := by
  have mixed : IsMixed name ↔ (name.toList.contains '.' && name.toList.contains '/') = true := by
    rw [Bool.and_eq_true, List.contains_iff_mem, List.contains_iff_mem]
    exact and_iff_right named
  unfold isClass
  rw [mixed, named]
  cases text : name.toList with
  | nil => simp [isSegment]
  | cons c rest =>
    simp only [List.isEmpty_cons, Bool.false_eq_true, ↓reduceIte]
    by_cases both : ((c :: rest).contains '.' && (c :: rest).contains '/') = true
    · rw [if_pos both]
      exact iff_of_false Bool.false_ne_true fun rules => rules.1 both
    · rw [if_neg both, List.all_eq_true, and_iff_right both]

theorem isClass_iff_slashed {name : String} :
    isClass name = true ↔ isClass (slashed name) = true ∧ ¬ IsMixed name := by
  cases array : isArray name with
  | true =>
    rw [slashed_of_isArray array, and_iff_left]
    rintro ⟨named, -⟩
    rw [array] at named
    cases named
  | false =>
    have plain : ¬ IsMixed (slashed name) := fun mixed =>
      dot_not_mem_slashed array mixed.2.1
    rw [isClass_iff_segments array, isClass_iff_segments ((isArray_slashed name).trans array),
      and_iff_right plain, toList_slashed array, segments_slashed]
    exact and_comm

end JvmFacts.Name
