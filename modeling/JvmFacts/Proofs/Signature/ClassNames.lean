import JvmFacts.Proofs.Names
import JvmFacts.Proofs.Signature.Grammar

/-!
The name of a class on its own and in a signature. Either way it is made of segments with single slashes
between them. They differ in what a segment may hold: a signature lets blanks and colons through, and a
name on its own has neither.
-/

set_option autoImplicit false

namespace JvmFacts.Name

/-- The characters that a class name may hold in a signature only. -/
def isStray (c : Char) : Bool :=
  Text.isBlank c || c == ':'

/-! ## Segments -/

section

variable {separates : Char → Bool} {c : Char} {text rest : List Char}

theorem segments_of_separates (between : separates c = true) :
    segments separates (c :: rest) = [] :: segments separates rest := by
  rw [segments, if_pos between]

theorem segments_of_inside (rest : List Char) (inside : separates c = false) :
    ∃ first more, segments separates rest = first :: more ∧
      segments separates (c :: rest) = (c :: first) :: more := by
  cases parts : segments separates rest with
  | nil => exact absurd parts (segments_ne_nil separates rest)
  | cons first more =>
    refine ⟨first, more, rfl, ?_⟩
    simp only [segments, inside, Bool.false_eq_true, ↓reduceIte, parts]

/-- What holds of every character of every segment holds of all characters but the separators. -/
theorem forall_mem_segments {holds : Char → Prop} :
    (∀ segment ∈ segments separates text, ∀ c ∈ segment, holds c) ↔
      ∀ c ∈ text, separates c = false → holds c := by
  induction text with
  | nil => simp
  | cons c rest ih =>
    cases place : separates c with
    | true =>
      rw [segments_of_separates place, List.forall_mem_cons, List.forall_mem_cons, ih]
      simp [place]
    | false =>
      obtain ⟨first, more, parts, whole⟩ := segments_of_inside rest place
      rw [parts, List.forall_mem_cons] at ih
      rw [whole, List.forall_mem_cons, List.forall_mem_cons, List.forall_mem_cons, and_assoc, ih]
      simp [place]

/-- The first segment is empty when the text begins with a separator, or when there is no text. -/
theorem forall_ne_nil_segments : (∀ segment ∈ segments separates text, segment ≠ []) ↔
    text ≠ [] ∧ (∀ c ∈ text.head?, separates c = false) ∧
      ∀ segment ∈ (segments separates text).tail, segment ≠ [] := by
  cases text with
  | nil => simp
  | cons c rest =>
    cases place : separates c with
    | true =>
      rw [segments_of_separates place]
      simp [place]
    | false =>
      obtain ⟨first, more, -, whole⟩ := segments_of_inside rest place
      rw [whole]
      simp [place]

end

/-! ## Single slashes -/

theorem noDoubleSlash_slash (rest : List Char) :
    noDoubleSlash ('/' :: rest) = true ↔ rest.head? ≠ some '/' ∧ noDoubleSlash rest = true := by
  cases rest with
  | nil => simp [noDoubleSlash]
  | cons c more =>
    by_cases slash : c = '/'
    · subst slash
      simp [noDoubleSlash]
    · rw [noDoubleSlash]
      · simp [slash]
      · intro after same
        exact fun tail => slash (List.cons.inj tail).1

theorem noDoubleSlash_cons {c : Char} (other : c ≠ '/') (rest : List Char) :
    noDoubleSlash (c :: rest) = noDoubleSlash rest := by
  rw [noDoubleSlash]
  intro after same
  exact absurd same other

theorem getLast?_cons_ne_slash {c : Char} {rest : List Char} :
    (c :: rest).getLast? ≠ some '/' ↔ (rest = [] → c ≠ '/') ∧ rest.getLast? ≠ some '/' := by
  cases rest with
  | nil => simp
  | cons d more => simp [List.getLast?_cons_cons]

theorem isSeparator_iff {c : Char} (undotted : c ≠ '.') : isSeparator c = true ↔ c = '/' := by
  simp [isSeparator, undotted]

theorem isSeparator_head?_iff {text : List Char} (undotted : '.' ∉ text) :
    (∀ c ∈ text.head?, isSeparator c = false) ↔ text.head? ≠ some '/' := by
  cases text with
  | nil => simp
  | cons c rest =>
    have plain : c ≠ '.' := fun same => undotted (same ▸ List.mem_cons_self ..)
    simp [← Bool.not_eq_true, isSeparator_iff plain]

/-- The segments behind the first slash. A text without dots is only separated by slashes. -/
theorem forall_ne_nil_tail_segments {text : List Char} (undotted : '.' ∉ text) :
    (∀ segment ∈ (segments isSeparator text).tail, segment ≠ []) ↔
      text.getLast? ≠ some '/' ∧ noDoubleSlash text = true := by
  induction text with
  | nil => simp [noDoubleSlash]
  | cons c rest ih =>
    obtain ⟨dot, plain⟩ := not_or.1 (mt List.mem_cons.2 undotted)
    have others := ih plain
    rw [getLast?_cons_ne_slash]
    by_cases slash : c = '/'
    · subst slash
      rw [segments_of_separates rfl, List.tail_cons, forall_ne_nil_segments,
        isSeparator_head?_iff plain, others, noDoubleSlash_slash]
      simp [and_assoc, and_left_comm]
    · have inside : isSeparator c = false := by
        rw [← Bool.not_eq_true, isSeparator_iff (Ne.symm dot)]
        exact slash
      obtain ⟨first, more, parts, whole⟩ := segments_of_inside rest inside
      rw [parts, List.tail_cons] at others
      rw [whole, List.tail_cons, others, noDoubleSlash_cons slash]
      simp [slash]

theorem forall_ne_nil_segments_iff {text : List Char} (undotted : '.' ∉ text) :
    (∀ segment ∈ segments isSeparator text, segment ≠ []) ↔
      text ≠ [] ∧ text.head? ≠ some '/' ∧ text.getLast? ≠ some '/' ∧ noDoubleSlash text = true := by
  rw [forall_ne_nil_segments, isSeparator_head?_iff undotted, forall_ne_nil_tail_segments undotted]

/-! ## The two validators -/

/-- The two lists of characters that are turned down, held against each other. -/
theorem isAllowed_iff {c : Char} (undotted : c ≠ '.') :
    (isSeparator c = false → Text.isBlank c = false ∧ isReserved c = false) ↔
      isNameBreak c = false ∧ isStray c = false := by
  by_cases slash : c = '/'
  · subst slash
    decide
  · have inside : isSeparator c = false := by
      rw [← Bool.not_eq_true, isSeparator_iff undotted]
      exact slash
    simp only [inside, forall_const, isReserved, isNameBreak, isStray, Bool.or_eq_false_iff,
      beq_eq_false_iff_ne]
    tauto

theorem isSegment_iff {segment : List Char} : isSegment segment = true ↔
    segment ≠ [] ∧ ∀ c ∈ segment, Text.isBlank c = false ∧ isReserved c = false := by
  simp [isSegment]

theorem forall_isSegment_iff {text : List Char} (undotted : '.' ∉ text) :
    (∀ segment ∈ segments isSeparator text, isSegment segment = true) ↔
      isObjectName text = true ∧ ∀ c ∈ text, isStray c = false := by
  have allowed : (∀ c ∈ text, isSeparator c = false → Text.isBlank c = false ∧ isReserved c = false) ↔
      ∀ c ∈ text, isNameBreak c = false ∧ isStray c = false :=
    forall₂_congr fun c member => isAllowed_iff fun dot => undotted (dot ▸ member)
  calc
    _ ↔ (∀ segment ∈ segments isSeparator text, segment ≠ []) ∧
        ∀ segment ∈ segments isSeparator text, ∀ c ∈ segment,
          Text.isBlank c = false ∧ isReserved c = false := by
      simp only [isSegment_iff, forall₂_and]
    _ ↔ (text ≠ [] ∧ text.head? ≠ some '/' ∧ text.getLast? ≠ some '/' ∧ noDoubleSlash text = true) ∧
        ∀ c ∈ text, isNameBreak c = false ∧ isStray c = false := by
      rw [forall_ne_nil_segments_iff undotted, forall_mem_segments, allowed]
    _ ↔ isObjectName text = true ∧ ∀ c ∈ text, isStray c = false := by
      simp only [isObjectName, forall₂_and, Bool.and_eq_true, Bool.not_eq_true', bne_iff_ne,
        List.isEmpty_eq_false_iff, List.any_eq_false, Bool.not_eq_true, and_assoc]

/-- A slashed name is valid on its own if it is valid in a signature and has no stray character. -/
theorem isClass_iff_isObjectName {name : String} (named : isArray name = false)
    (undotted : '.' ∉ name.toList) :
    isClass name = true ↔
      isObjectName name.toList = true ∧ ∀ c ∈ name.toList, isStray c = false := by
  have unmixed : ¬ IsMixed name := fun mixed => undotted mixed.2.1
  rw [isClass_iff_segments named, and_iff_right unmixed, forall_isSegment_iff undotted]

/-! ## Field types -/

theorem isFieldType_iff {text : String} : isFieldType text = true ↔ IsFieldType text.toList := by
  rw [JvmFacts.isFieldType_iff]
  unfold isFieldType FieldType.parse?
  constructor
  · intro read
    split at read
    · rename_i t found
      obtain ⟨proper, written⟩ := FieldType.of_scan found
      rw [List.append_nil] at written
      exact ⟨t, proper, written.symm⟩
    · cases read
  · rintro ⟨t, proper, written⟩
    have read := FieldType.scan_text proper []
    rw [List.append_nil, written] at read
    rw [read]
    rfl

theorem toList_object (name : String) :
    ("L" ++ name ++ ";").toList = 'L' :: (name.toList ++ [';']) := by
  rw [String.toList_append, String.toList_append]
  rfl

theorem isFieldType_object {name : String} (rules : isObjectName name.toList = true) :
    isFieldType ("L" ++ name ++ ";") = true := by
  rw [isFieldType_iff, toList_object]
  exact ⟨0, _, Nat.zero_le _, .object ((isObjectName_iff _).1 rules), rfl⟩

theorem dot_not_mem_of_isFieldType {text : String} (type : isFieldType text = true) :
    '.' ∉ text.toList :=
  (isFieldType_iff.1 type).not_mem (by decide)

/-- A type that is a reference is an array or writes the name of a class between L and semicolon. -/
theorem reference_cases {text : String} (type : isFieldType text = true)
    (reference : isReference text = true) :
    isArray text = true ∨
      ∃ name, isObjectName name.toList = true ∧ text = "L" ++ name ++ ";" := by
  obtain ⟨brackets, base, -, form, written⟩ := isFieldType_iff.1 type
  unfold isReference at reference
  unfold isArray
  rw [written] at reference ⊢
  cases brackets with
  | zero =>
    right
    cases form with
    | @primitive c letter =>
      simp only [List.mem_cons, List.not_mem_nil, or_false] at letter
      rcases letter with rfl | rfl | rfl | rfl | rfl | rfl | rfl | rfl <;> cases reference
    | @object name rules =>
      refine ⟨String.ofList name, ?_, ?_⟩
      · rw [String.toList_ofList]
        exact (isObjectName_iff name).2 rules
      · apply String.toList_inj.1
        rw [written, toList_object, String.toList_ofList]
        rfl
  | succ brackets => exact Or.inl rfl

end JvmFacts.Name
