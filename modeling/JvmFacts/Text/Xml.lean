/-!
The tags of an XML document. In attribute values the five characters that have a named entity are
written by it, and everything else is copied.
-/

set_option autoImplicit false

namespace JvmFacts.Text.Xml

/-- The name of the entity for a character that must not stand in an attribute value. -/
def entity? : Char → Option (List Char)
  | '<' => some ['l', 't']
  | '>' => some ['g', 't']
  | '&' => some ['a', 'm', 'p']
  | '\'' => some ['a', 'p', 'o', 's']
  | '"' => some ['q', 'u', 'o', 't']
  | _ => none

def escapeChar (c : Char) : List Char :=
  match entity? c with
  | some name => '&' :: (name ++ [';'])
  | none => [c]

def escape (text : List Char) : List Char :=
  text.flatMap escapeChar

structure Attribute where
  name : String
  value : String
  deriving DecidableEq, Repr

def Attribute.render (a : Attribute) : List Char :=
  ' ' :: (a.name.toList ++ '=' :: '"' :: (escape a.value.toList ++ ['"']))

/-- A tag up to its last attribute. -/
def tag (name : String) (attributes : List Attribute) : List Char :=
  '<' :: (name.toList ++ attributes.flatMap Attribute.render)

def openTag (name : String) (attributes : List Attribute) : List Char :=
  tag name attributes ++ ['>']

def emptyTag (name : String) (attributes : List Attribute) : List Char :=
  tag name attributes ++ ['/', '>']

def closeTag (name : String) : List Char :=
  '<' :: '/' :: (name.toList ++ ['>'])

@[simp] theorem escape_nil : escape [] = [] := rfl

@[simp] theorem escape_cons (c : Char) (rest : List Char) :
    escape (c :: rest) = escapeChar c ++ escape rest := rfl

/-- Entities have names of letters. -/
theorem entity?_of_mem {c d : Char} {name : List Char} (found : entity? c = some name)
    (member : d ∈ name) : entity? d = none := by
  have letters : name.all fun e => (entity? e).isNone := by
    unfold entity? at found
    split at found <;> cases found <;> rfl
  exact Option.isNone_iff_eq_none.1 (List.all_eq_true.1 letters d member)

theorem not_mem_escapeChar {d : Char} (special : (entity? d).isSome) (other : d ≠ '&') (c : Char) :
    d ∉ escapeChar c := by
  intro member
  unfold escapeChar at member
  split at member
  · rename_i name found
    rcases List.mem_cons.1 member with rfl | further
    · exact other rfl
    · rcases List.mem_append.1 further with inside | last
      · rw [entity?_of_mem found inside] at special
        cases special
      · obtain rfl := List.mem_singleton.1 last
        cases special
  · rename_i plain
    obtain rfl := List.mem_singleton.1 member
    rw [plain] at special
    cases special

/-- A value holds no special character but the one that entities begin with, so that it ends where
its quote does and the tag ends where its bracket does. -/
theorem not_mem_escape {d : Char} (special : (entity? d).isSome) (other : d ≠ '&')
    (text : List Char) : d ∉ escape text := by
  intro member
  obtain ⟨c, _, inside⟩ := List.mem_flatMap.1 member
  exact not_mem_escapeChar special other c inside

end JvmFacts.Text.Xml
