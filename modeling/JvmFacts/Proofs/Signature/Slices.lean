import Mathlib.Data.String.Basic
import JvmFacts.Proofs.Signature.Grammar

/-!
Method signatures: which texts are read as one, and that each is read in one way only. A signature is
taken apart into the very slices of the text that its types are written in.
-/

set_option autoImplicit false

namespace JvmFacts

/-- The types of a signature as they are written in its text. -/
structure IsSignature (text : List Char) (parameters : List (List Char)) (result : List Char) :
    Prop where
  types : ∀ p ∈ parameters, IsFieldType p
  last : IsResultType result
  shape : text = '(' :: (parameters.flatten ++ ')' :: result)

/-! ## Reading -/

namespace MethodSignature

theorem scanParameters_cons (offset : Nat) {t : FieldType} (proper : t.Proper) (rest : List Char) :
    scanParameters offset (t.text ++ rest) =
      match scanParameters (offset + byteLength t.text) rest with
      | .error fault => .error fault
      | .ok (more, after) => .ok (t :: more, after) := by
  obtain ⟨c, tail, same, letter, -⟩ := t.exists_cons_text
  have shape : t.text ++ rest = c :: (tail ++ rest) := by
    rw [same, List.cons_append]
  have read : FieldType.scan (c :: (tail ++ rest)) = some (t, rest) := by
    rw [← shape]
    exact FieldType.scan_text proper rest
  rw [shape, scanParameters]
  · split
    · rename_i failed
      rw [read] at failed
      cases failed
    · rename_i other after found
      rw [read] at found
      obtain ⟨rfl, rfl⟩ := Prod.mk.inj (Option.some.inj found)
      rfl
  · exact fun impossible => letter impossible

theorem scanParameters_text (offset : Nat) {parameters : List FieldType}
    (proper : ∀ t ∈ parameters, t.Proper) (rest : List Char) :
    scanParameters offset (parameters.flatMap FieldType.text ++ ')' :: rest) =
      .ok (parameters, rest) := by
  induction parameters generalizing offset with
  | nil =>
    rw [List.flatMap_nil, List.nil_append, scanParameters]
  | cons t more ih =>
    have first := proper t (List.mem_cons_self ..)
    have others := fun s member => proper s (List.mem_cons_of_mem _ member)
    rw [List.flatMap_cons, List.append_assoc, scanParameters_cons offset first, ih _ others]

theorem of_scanParameters {offset : Nat} {input rest : List Char} {parameters : List FieldType}
    (read : scanParameters offset input = .ok (parameters, rest)) :
    (∀ t ∈ parameters, t.Proper) ∧ input = parameters.flatMap FieldType.text ++ ')' :: rest := by
  fun_induction scanParameters offset input generalizing parameters rest with
  | case1 offset => cases read
  | case2 offset after =>
    obtain ⟨rfl, rfl⟩ := Prod.mk.inj (Except.ok.inj read)
    exact ⟨fun t member => absurd member List.not_mem_nil, rfl⟩
  | case3 offset c tail _ failed => cases read
  | case4 offset c tail _ t after found fault failed ih => cases read
  | case5 offset c tail _ t after found more last found' ih =>
    obtain ⟨rfl, rfl⟩ := Prod.mk.inj (Except.ok.inj read)
    obtain ⟨first, shape⟩ := FieldType.of_scan found
    obtain ⟨others, rest⟩ := ih found'
    refine ⟨?_, ?_⟩
    · intro s member
      rcases List.mem_cons.1 member with rfl | further
      · exact first
      · exact others s further
    · rw [shape, rest, List.flatMap_cons, List.append_assoc]

theorem parse_text {s : MethodSignature} (proper : s.Proper) : parse s.text = .ok s := by
  obtain ⟨parameters, result⟩ := proper
  have read := ResultType.scan_text result []
  rw [List.append_nil] at read
  simp only [parse, text, scanParameters_text 1 parameters, read]

theorem of_parse {input : List Char} {s : MethodSignature} (read : parse input = .ok s) :
    s.Proper ∧ input = s.text := by
  unfold parse at read
  split at read
  · split at read
    · cases read
    · rename_i parameters rest first
      split at read
      · rename_i result last
        obtain rfl := Except.ok.inj read
        obtain ⟨fine, front⟩ := of_scanParameters first
        obtain ⟨good, back⟩ := ResultType.of_scan last
        refine ⟨⟨fine, good⟩, ?_⟩
        rw [front, back, List.append_nil]
        rfl
      · cases read
  · cases read

end MethodSignature

/-! ## Slices -/

/-- A part of a text between two of its byte positions, neither of them inside a character. -/
structure IsSlice (text : String) (range : Nat × Nat) (part : List Char) : Prop where
  start : (⟨range.1⟩ : String.Pos.Raw).IsValid text
  stop : (⟨range.2⟩ : String.Pos.Raw).IsValid text
  slice : String.Pos.Raw.extract text ⟨range.1⟩ ⟨range.2⟩ = String.ofList part

theorem byteLength_eq (text : List Char) : byteLength text = String.utf8Len text := by
  induction text with
  | nil => rfl
  | cons c rest ih =>
    rw [String.utf8Len_cons, ← ih, Nat.add_comm]
    rfl

theorem byteLength_append (front back : List Char) :
    byteLength (front ++ back) = byteLength front + byteLength back := by
  simp only [byteLength_eq, String.utf8Len_append]

theorem utf8ByteSize_eq (text : String) : text.utf8ByteSize = byteLength text.toList := by
  rw [byteLength_eq, ← String.utf8ByteSize_ofList, String.ofList_toList]

theorem isValid_byteLength (front back : List Char) :
    (⟨byteLength front⟩ : String.Pos.Raw).IsValid (String.ofList (front ++ back)) := by
  rw [String.Pos.Raw.isValid_iff_exists_append]
  refine ⟨String.ofList front, String.ofList back, String.ofList_append, ?_⟩
  rw [String.rawEndPos_ofList, byteLength_eq]

theorem isSlice_append {text : String} {front part back : List Char}
    (parts : text.toList = front ++ part ++ back) :
    IsSlice text (byteLength front, byteLength front + byteLength part) part := by
  have whole : text = String.ofList (front ++ part ++ back) := by
    rw [← parts, String.ofList_toList]
  subst whole
  refine ⟨?_, ?_, ?_⟩
  · rw [List.append_assoc]
    exact isValid_byteLength front (part ++ back)
  · rw [← byteLength_append]
    exact isValid_byteLength (front ++ part) back
  · simp only [byteLength_eq]
    exact String.extract_of_valid front part back

/-- The byte ranges of texts that follow one another from an offset on. -/
def ranges (offset : Nat) : List (List Char) → List (Nat × Nat)
  | [] => []
  | part :: rest => (offset, offset + byteLength part) :: ranges (offset + byteLength part) rest

theorem forall_isSlice {text : String} (parts : List (List Char)) {front back : List Char}
    (shape : text.toList = front ++ parts.flatten ++ back) :
    List.Forall₂ (IsSlice text) (ranges (byteLength front) parts) parts := by
  induction parts generalizing front with
  | nil => exact .nil
  | cons part rest ih =>
    rw [List.flatten_cons] at shape
    have first : text.toList = front ++ part ++ (rest.flatten ++ back) := by
      simp only [shape, List.append_assoc]
    have others : text.toList = (front ++ part) ++ rest.flatten ++ back := by
      simp only [shape, List.append_assoc]
    have tail := ih others
    rw [byteLength_append] at tail
    exact .cons (isSlice_append first) tail

namespace MethodSignature

/-- The parameters as they are written. -/
def parameterTexts (s : MethodSignature) : List (List Char) :=
  s.parameters.map FieldType.text

theorem text_eq (s : MethodSignature) :
    s.text = '(' :: (s.parameterTexts.flatten ++ ')' :: s.result.text) := by
  rw [text, parameterTexts, List.flatMap_def]

theorem exists_parameters {written : List (List Char)} (types : ∀ p ∈ written, IsFieldType p) :
    ∃ parameters : List FieldType,
      (∀ t ∈ parameters, t.Proper) ∧ parameters.map FieldType.text = written := by
  induction written with
  | nil => exact ⟨[], fun t member => absurd member List.not_mem_nil, rfl⟩
  | cons p rest ih =>
    obtain ⟨t, first, rfl⟩ := (isFieldType_iff p).1 (types p (List.mem_cons_self ..))
    obtain ⟨more, others, rfl⟩ := ih fun q member => types q (List.mem_cons_of_mem _ member)
    exact ⟨t :: more, List.forall_mem_cons.2 ⟨first, others⟩, rfl⟩

theorem isSignature_text {s : MethodSignature} (proper : s.Proper) :
    IsSignature s.text s.parameterTexts s.result.text where
  types := by
    intro p member
    obtain ⟨t, held, rfl⟩ := List.mem_map.1 member
    exact (isFieldType_iff _).2 ⟨t, proper.1 t held, rfl⟩
  last := (isResultType_iff _).2 ⟨s.result, proper.2, rfl⟩
  shape := s.text_eq

theorem exists_of_isSignature {text : List Char} {parameters : List (List Char)}
    {result : List Char} (written : IsSignature text parameters result) :
    ∃ s : MethodSignature, s.Proper ∧ text = s.text ∧
      s.parameterTexts = parameters ∧ s.result.text = result := by
  obtain ⟨types, last, rfl⟩ := written
  obtain ⟨read, proper, rfl⟩ := exists_parameters types
  obtain ⟨t, good, rfl⟩ := (isResultType_iff result).1 last
  exact ⟨⟨read, t⟩, ⟨proper, good⟩, (text_eq ⟨read, t⟩).symm, rfl, rfl⟩

/-- A text is read as a signature exactly when it is one, and then it is taken apart in the one way in
which it is one, into slices of the text. -/
theorem parse_iff_isSignature (signature : String) :
    (∀ parameters result,
      (∃ s, parse signature.toList = .ok s ∧ s.parameterTexts = parameters ∧
        s.result.text = result) ↔ IsSignature signature.toList parameters result) ∧
    ∀ s, parse signature.toList = .ok s →
      List.Forall₂ (IsSlice signature) (ranges 1 s.parameterTexts) s.parameterTexts ∧
      IsSlice signature (1 + byteLength s.parameterTexts.flatten + 1, signature.utf8ByteSize)
        s.result.text := by
  constructor
  · intro parameters result
    constructor
    · rintro ⟨s, read, rfl, rfl⟩
      obtain ⟨proper, text⟩ := of_parse read
      rw [text]
      exact isSignature_text proper
    · intro written
      obtain ⟨s, proper, text, parameters, result⟩ := exists_of_isSignature written
      rw [text]
      exact ⟨s, parse_text proper, parameters, result⟩
  · intro s read
    have text := (of_parse read).2
    rw [text_eq] at text
    have parameters : signature.toList =
        ['('] ++ s.parameterTexts.flatten ++ (')' :: s.result.text) := by
      rw [text, List.append_assoc]
      rfl
    have result : signature.toList =
        ('(' :: s.parameterTexts.flatten ++ [')']) ++ s.result.text ++ [] := by
      simp only [text, List.cons_append, List.append_assoc, List.nil_append, List.append_nil]
    have start : byteLength ('(' :: s.parameterTexts.flatten ++ [')']) =
        1 + byteLength s.parameterTexts.flatten + 1 := by
      rw [byteLength_append, ← List.singleton_append, byteLength_append]
      rfl
    have stop : 1 + byteLength s.parameterTexts.flatten + 1 + byteLength s.result.text =
        signature.utf8ByteSize := by
      rw [← start, ← byteLength_append, utf8ByteSize_eq, result, List.append_nil]
    have slice := isSlice_append result
    rw [start, stop] at slice
    exact ⟨forall_isSlice s.parameterTexts parameters, slice⟩

example : (MethodSignature.parse? "(Lé;I)V".toList).map (ranges 1 ·.parameterTexts) =
    some [(1, 5), (5, 6)] := by
  decide +kernel

end MethodSignature

end JvmFacts
