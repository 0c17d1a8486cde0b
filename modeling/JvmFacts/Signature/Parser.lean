import JvmFacts.Signature.Basic

/-!
Reading type signatures. Each reader takes a signature from the front of a text and hands back what
follows it; a whole text is a signature when nothing follows.
-/

set_option autoImplicit false

namespace JvmFacts

def BaseType.scan : List Char → Option (BaseType × List Char)
  | [] => none
  | c :: rest =>
    match Primitive.ofLetter? c with
    | some p => some (.primitive p, rest)
    | none =>
      if c = 'L' then
        let name := rest.takeWhile (· != ';')
        match rest.dropWhile (· != ';') with
        | [] => none
        | _ :: after => if isObjectName name then some (.object name, after) else none
      else none

def FieldType.scan (text : List Char) : Option (FieldType × List Char) :=
  let dimensions := (text.takeWhile (· == '[')).length
  if maxDimensions < dimensions then none
  else (BaseType.scan (text.dropWhile (· == '['))).map fun (base, rest) => (⟨dimensions, base⟩, rest)

def ResultType.scan : List Char → Option (ResultType × List Char)
  | 'V' :: rest => some (.void, rest)
  | text => (FieldType.scan text).map fun (t, rest) => (.value t, rest)

/-- A text that is one field type from end to end. -/
def FieldType.parse? (text : List Char) : Option FieldType :=
  match FieldType.scan text with
  | some (t, []) => some t
  | _ => none

private theorem length_dropWhile_le (p : Char → Bool) (text : List Char) :
    (text.dropWhile p).length ≤ text.length :=
  (List.dropWhile_suffix p).length_le

theorem BaseType.scan_length {text rest : List Char} {t : BaseType}
    (read : BaseType.scan text = some (t, rest)) : rest.length < text.length := by
  cases text with
  | nil => cases read
  | cons c tail =>
    simp only [BaseType.scan] at read
    split at read
    · cases read
      simp only [List.length_cons]
      omega
    · split at read
      · have drop := length_dropWhile_le (· != ';') tail
        split at read
        · cases read
        · rename_i after found
          split at read
          · cases read
            simp only [found, List.length_cons] at drop ⊢
            omega
          · cases read
      · cases read

theorem FieldType.scan_length {text rest : List Char} {t : FieldType}
    (read : FieldType.scan text = some (t, rest)) : rest.length < text.length := by
  simp only [FieldType.scan] at read
  split at read
  · cases read
  · obtain ⟨⟨base, tail⟩, found, same⟩ := Option.map_eq_some_iff.1 read
    cases same
    exact Nat.lt_of_lt_of_le (BaseType.scan_length found) (length_dropWhile_le (· == '[') text)

/-- Why a text is no method signature. Offsets count bytes of UTF-8. -/
inductive SignatureFault where
  | noOpening
  | badParameter (offset : Nat)
  | unterminated
  | badResult
  deriving DecidableEq, Repr

def SignatureFault.message (signature : String) : SignatureFault → String
  | noOpening => s!"method signature must start with '(' - {signature}"
  | badParameter offset => s!"bad parameter type at offset {offset} - {signature}"
  | unterminated => s!"unterminated parameter list - {signature}"
  | badResult => s!"bad return type - {signature}"

def byteLength (text : List Char) : Nat :=
  (text.map Char.utf8Size).foldr (· + ·) 0

namespace MethodSignature

/-- Reads field types up to the closing parenthesis; `offset` is where the text begins. -/
def scanParameters (offset : Nat) (text : List Char) :
    Except SignatureFault (List FieldType × List Char) :=
  match text with
  | [] => .error .unterminated
  | ')' :: rest => .ok ([], rest)
  | c :: tail =>
    match _read : FieldType.scan (c :: tail) with
    | none => .error (.badParameter offset)
    | some (t, rest) =>
      match scanParameters (offset + byteLength t.text) rest with
      | .error fault => .error fault
      | .ok (more, after) => .ok (t :: more, after)
termination_by text.length
decreasing_by exact FieldType.scan_length _read

def parse : List Char → Except SignatureFault MethodSignature
  | '(' :: text =>
    match scanParameters 1 text with
    | .error fault => .error fault
    | .ok (parameters, rest) =>
      match ResultType.scan rest with
      | some (result, []) => .ok ⟨parameters, result⟩
      | _ => .error .badResult
  | _ => .error .noOpening

def parse? (text : List Char) : Option MethodSignature :=
  (parse text).toOption

end MethodSignature

end JvmFacts
