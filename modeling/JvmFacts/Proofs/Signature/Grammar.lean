import Mathlib.Data.List.Basic
import JvmFacts.Signature.Parser

/-!
The grammar of field types and results, and the readers of both: a reader takes a text from the front
exactly when it is one that the grammar writes, whatever follows it.
-/

set_option autoImplicit false

namespace JvmFacts

/-! ## The grammar -/

/-- The name of a class between an L and a semicolon. -/
structure IsClassName (name : List Char) : Prop where
  named : name ≠ []
  start : name.head? ≠ some '/'
  stop : name.getLast? ≠ some '/'
  single : ¬ ['/', '/'] <:+: name
  plain : ∀ c ∈ name, c ∉ [';', '.', '[', '(', ')', '<', '>']

inductive IsBaseType : List Char → Prop
  | primitive {c : Char} (letter : c ∈ ['B', 'C', 'D', 'F', 'I', 'J', 'S', 'Z']) : IsBaseType [c]
  | object {name : List Char} (rules : IsClassName name) : IsBaseType ('L' :: (name ++ [';']))

/-- Up to 255 brackets before a primitive letter or a class. -/
def IsFieldType (text : List Char) : Prop :=
  ∃ brackets base, brackets ≤ 255 ∧ IsBaseType base ∧ text = List.replicate brackets '[' ++ base

def IsResultType (text : List Char) : Prop :=
  text = ['V'] ∨ IsFieldType text

/-- Characters that no type is written with. -/
def foreignSigns : List Char := ['.', '(', ')', '<', '>']

section

variable {text : List Char} {c : Char}

theorem IsBaseType.not_mem (form : IsBaseType text) (foreign : c ∈ foreignSigns) : c ∉ text := by
  cases form with
  | primitive letter =>
    have apart : ∀ sign ∈ foreignSigns, sign ∉ ['B', 'C', 'D', 'F', 'I', 'J', 'S', 'Z'] := by
      simp [foreignSigns]
    intro member
    obtain rfl := List.mem_singleton.1 member
    exact apart c foreign letter
  | @object name rules =>
    have breaks : ∀ sign ∈ foreignSigns, sign ∈ [';', '.', '[', '(', ')', '<', '>'] := by
      simp [foreignSigns]
    have ends : ∀ sign ∈ foreignSigns, sign ≠ 'L' ∧ sign ≠ ';' := by simp [foreignSigns]
    intro member
    rcases List.mem_cons.1 member with opening | behind
    · exact (ends c foreign).1 opening
    · rcases List.mem_append.1 behind with inside | closing
      · exact rules.plain c inside (breaks c foreign)
      · exact (ends c foreign).2 (List.mem_singleton.1 closing)

theorem IsFieldType.not_mem (form : IsFieldType text) (foreign : c ∈ foreignSigns) : c ∉ text := by
  obtain ⟨brackets, base, -, form, rfl⟩ := form
  have apart : ∀ sign ∈ foreignSigns, sign ≠ '[' := by simp [foreignSigns]
  intro member
  rcases List.mem_append.1 member with bracket | inside
  · exact apart c foreign (List.eq_of_mem_replicate bracket)
  · exact form.not_mem foreign inside

end

/-! ## Names -/

theorem noDoubleSlash_iff (name : List Char) :
    noDoubleSlash name = true ↔ ¬ ['/', '/'] <:+: name := by
  fun_induction noDoubleSlash name with
  | case1 rest =>
    have here : ['/', '/'] <:+: '/' :: '/' :: rest := ⟨[], rest, rfl⟩
    exact iff_of_false Bool.false_ne_true (not_not_intro here)
  | case2 c rest apart ih =>
    have first : ¬ ['/', '/'] <+: c :: rest := by
      rintro ⟨after, same⟩
      obtain ⟨rfl, rfl⟩ := List.cons.inj same
      exact apart after rfl rfl
    rw [ih, List.infix_cons_iff, or_iff_right first]
  | case3 => exact iff_of_true rfl (by simp)

theorem isNameBreak_iff (c : Char) :
    isNameBreak c = true ↔ c ∈ [';', '.', '[', '(', ')', '<', '>'] := by
  simp only [isNameBreak, Bool.or_eq_true, beq_iff_eq, List.mem_cons, List.not_mem_nil, or_false,
    or_assoc]

theorem isObjectName_iff (name : List Char) : isObjectName name = true ↔ IsClassName name := by
  simp only [isObjectName, Bool.and_eq_true, Bool.not_eq_true', List.isEmpty_eq_false_iff,
    bne_iff_ne, noDoubleSlash_iff, List.any_eq_false, isNameBreak_iff]
  constructor
  · rintro ⟨⟨⟨⟨named, start⟩, stop⟩, single⟩, plain⟩
    exact ⟨named, start, stop, single, plain⟩
  · rintro ⟨named, start, stop, single, plain⟩
    exact ⟨⟨⟨⟨named, start⟩, stop⟩, single⟩, plain⟩

theorem Primitive.exists_letter_iff (c : Char) :
    (∃ p : Primitive, p.letter = c) ↔ c ∈ ['B', 'C', 'D', 'F', 'I', 'J', 'S', 'Z'] := by
  let primitives : List Primitive := [byte, char, double, float, int, long, short, boolean]
  have complete : ∀ p, p ∈ primitives := by
    intro p
    cases p <;> decide
  have letters : ['B', 'C', 'D', 'F', 'I', 'J', 'S', 'Z'] = primitives.map letter := rfl
  rw [letters, List.mem_map]
  exact exists_congr fun p => (and_iff_right (complete p)).symm

/-! ## What the grammar writes -/

theorem isBaseType_iff (text : List Char) :
    IsBaseType text ↔ ∃ t : BaseType, t.Proper ∧ t.text = text := by
  constructor
  · rintro (letter | rules)
    · obtain ⟨p, rfl⟩ := (Primitive.exists_letter_iff _).2 letter
      exact ⟨.primitive p, trivial, rfl⟩
    · exact ⟨.object _, (isObjectName_iff _).2 rules, rfl⟩
  · rintro ⟨p | name, proper, rfl⟩
    · exact .primitive ((Primitive.exists_letter_iff _).1 ⟨p, rfl⟩)
    · exact .object ((isObjectName_iff name).1 proper)

theorem isFieldType_iff (text : List Char) :
    IsFieldType text ↔ ∃ t : FieldType, t.Proper ∧ t.text = text := by
  constructor
  · rintro ⟨brackets, base, few, form, rfl⟩
    obtain ⟨t, proper, rfl⟩ := (isBaseType_iff base).1 form
    exact ⟨⟨brackets, t⟩, ⟨few, proper⟩, rfl⟩
  · rintro ⟨⟨brackets, t⟩, ⟨few, proper⟩, rfl⟩
    exact ⟨brackets, t.text, few, (isBaseType_iff _).2 ⟨t, proper, rfl⟩, rfl⟩

theorem isResultType_iff (text : List Char) :
    IsResultType text ↔ ∃ t : ResultType, t.Proper ∧ t.text = text := by
  unfold IsResultType
  rw [isFieldType_iff]
  constructor
  · rintro (rfl | ⟨t, proper, rfl⟩)
    · exact ⟨.void, trivial, rfl⟩
    · exact ⟨.value t, proper, rfl⟩
  · rintro ⟨_ | t, proper, rfl⟩
    · exact Or.inl rfl
    · exact Or.inr ⟨t, proper, rfl⟩

/-! ## The readers -/

namespace BaseType

theorem scan_text {t : BaseType} (proper : t.Proper) (rest : List Char) :
    scan (t.text ++ rest) = some (t, rest) := by
  cases t with
  | primitive p =>
    change scan (p.letter :: rest) = _
    simp only [scan, Primitive.ofLetter?_letter]
  | object name =>
    have inside : ∀ c ∈ name, (c != ';') = true := by
      intro c member
      have plain := ((isObjectName_iff name).1 proper).plain c member
      exact bne_iff_ne.2 fun semicolon => plain (semicolon ▸ List.mem_cons_self ..)
    have shape : (object name).text ++ rest = 'L' :: (name ++ ';' :: rest) := by
      simp only [text, List.cons_append, List.append_assoc, List.nil_append]
    have before : (name ++ ';' :: rest).takeWhile (· != ';') = name := by
      rw [List.takeWhile_append_of_pos inside, List.takeWhile_cons_of_neg (by simp),
        List.append_nil]
    have after : (name ++ ';' :: rest).dropWhile (· != ';') = ';' :: rest := by
      rw [List.dropWhile_append_of_pos inside, List.dropWhile_cons_of_neg (by simp)]
    have letter : Primitive.ofLetter? 'L' = none := rfl
    rw [shape]
    simp only [scan, letter, before, after, ↓reduceIte, if_pos (show isObjectName name from proper)]

theorem of_scan {t : BaseType} {input rest : List Char} (read : scan input = some (t, rest)) :
    t.Proper ∧ input = t.text ++ rest := by
  cases input with
  | nil => cases read
  | cons c tail =>
    simp only [scan] at read
    split at read
    · rename_i p letter
      obtain ⟨rfl, rfl⟩ := Prod.mk.inj (Option.some.inj read)
      refine ⟨trivial, ?_⟩
      rw [← Primitive.letter_of_ofLetter? letter]
      rfl
    · split at read
      · rename_i opening
        split at read
        · cases read
        · rename_i stop after found
          split at read
          · rename_i name
            obtain ⟨rfl, rfl⟩ := Prod.mk.inj (Option.some.inj read)
            have semicolon : stop = ';' := by
              have last := List.head?_dropWhile_not (· != ';') tail
              rw [found] at last
              simpa using last
            refine ⟨name, ?_⟩
            have parts := List.takeWhile_append_dropWhile (p := (· != ';')) (l := tail)
            rw [found, semicolon] at parts
            rw [opening, text, List.cons_append, List.append_assoc, List.singleton_append, parts]
          · cases read
      · cases read

/-- A base type starts with a letter, which is neither a bracket nor the sign for no result. -/
theorem exists_cons_text (t : BaseType) :
    ∃ c rest, t.text = c :: rest ∧ c ∉ ['[', ')', 'V'] := by
  cases t with
  | primitive p => exact ⟨p.letter, [], rfl, by cases p <;> decide⟩
  | object name => exact ⟨'L', name ++ [';'], rfl, by decide⟩

end BaseType

namespace FieldType

theorem exists_cons_text (t : FieldType) : ∃ c rest, t.text = c :: rest ∧ c ≠ ')' ∧ c ≠ 'V' := by
  obtain ⟨brackets, base⟩ := t
  cases brackets with
  | zero =>
    obtain ⟨c, rest, same, letter⟩ := base.exists_cons_text
    simp only [List.mem_cons, List.not_mem_nil, or_false, not_or] at letter
    exact ⟨c, rest, same, letter.2⟩
  | succ brackets => exact ⟨'[', List.replicate brackets '[' ++ base.text, rfl, by decide⟩

theorem takeWhile_text (t : FieldType) (rest : List Char) :
    (t.text ++ rest).takeWhile (· == '[') = List.replicate t.dimensions '[' ∧
      (t.text ++ rest).dropWhile (· == '[') = t.base.text ++ rest := by
  obtain ⟨c, tail, same, letter⟩ := t.base.exists_cons_text
  have brackets : ∀ c ∈ List.replicate t.dimensions '[', (c == '[') = true := by
    intro c member
    exact beq_iff_eq.2 (List.eq_of_mem_replicate member)
  have boundary : (c == '[') = false := by
    rw [beq_eq_false_iff_ne]
    rintro rfl
    exact letter (List.mem_cons_self ..)
  rw [text, List.append_assoc, List.takeWhile_append_of_pos brackets,
    List.dropWhile_append_of_pos brackets, same, List.cons_append]
  simp only [List.takeWhile_cons, List.dropWhile_cons, boundary, Bool.false_eq_true, ↓reduceIte,
    List.append_nil, and_self]

theorem scan_text {t : FieldType} (proper : t.Proper) (rest : List Char) :
    scan (t.text ++ rest) = some (t, rest) := by
  obtain ⟨few, base⟩ := proper
  obtain ⟨brackets, after⟩ := t.takeWhile_text rest
  simp only [scan, brackets, after, List.length_replicate, if_neg (Nat.not_lt.2 few),
    BaseType.scan_text base, Option.map_some]

theorem of_scan {t : FieldType} {input rest : List Char} (read : scan input = some (t, rest)) :
    t.Proper ∧ input = t.text ++ rest := by
  simp only [scan] at read
  split at read
  · cases read
  · rename_i few
    obtain ⟨⟨base, after⟩, found, same⟩ := Option.map_eq_some_iff.1 read
    obtain ⟨rfl, rfl⟩ := Prod.mk.inj same
    obtain ⟨proper, tail⟩ := BaseType.of_scan found
    refine ⟨⟨Nat.not_lt.1 few, proper⟩, ?_⟩
    have brackets : input.takeWhile (· == '[') =
        List.replicate (input.takeWhile (· == '[')).length '[' := by
      apply List.eq_replicate_of_mem
      intro c member
      have all := List.all_eq_true.1 (List.all_takeWhile (p := (· == '[')) (l := input))
      exact eq_of_beq (all c member)
    have parts := List.takeWhile_append_dropWhile (p := (· == '[')) (l := input)
    rw [tail, brackets] at parts
    rw [text, List.append_assoc]
    exact parts.symm

end FieldType

namespace ResultType

theorem scan_text {t : ResultType} (proper : t.Proper) (rest : List Char) :
    scan (t.text ++ rest) = some (t, rest) := by
  cases t with
  | void => rfl
  | value t =>
    obtain ⟨c, tail, same, -, letter⟩ := t.exists_cons_text
    have shape : (value t).text ++ rest = c :: (tail ++ rest) := by
      rw [text, same, List.cons_append]
    have read : FieldType.scan (c :: (tail ++ rest)) = some (t, rest) := by
      rw [← shape]
      exact FieldType.scan_text proper rest
    rw [shape, scan, read]
    · rfl
    · exact fun other impossible => letter (List.cons.inj impossible).1

theorem of_scan {t : ResultType} {input rest : List Char} (read : scan input = some (t, rest)) :
    t.Proper ∧ input = t.text ++ rest := by
  unfold scan at read
  split at read
  · obtain ⟨rfl, rfl⟩ := Prod.mk.inj (Option.some.inj read)
    exact ⟨trivial, rfl⟩
  · obtain ⟨⟨type, after⟩, found, same⟩ := Option.map_eq_some_iff.1 read
    obtain ⟨rfl, rfl⟩ := Prod.mk.inj same
    exact FieldType.of_scan found

end ResultType

end JvmFacts
