import JvmFacts.Proofs.Lists
import JvmFacts.Text.Xml

/-!
Reading tags back. Elements and attributes are called by words; attribute values may hold any
characters, for once they are escaped no bracket and no quote is left in them.
-/

set_option autoImplicit false

namespace JvmFacts.Text.Xml

/-! ## Values -/

/-- Entities stand for their characters again. -/
def unescape : List Char → List Char
  | [] => []
  | '&' :: 'l' :: 't' :: ';' :: rest => '<' :: unescape rest
  | '&' :: 'g' :: 't' :: ';' :: rest => '>' :: unescape rest
  | '&' :: 'a' :: 'm' :: 'p' :: ';' :: rest => '&' :: unescape rest
  | '&' :: 'a' :: 'p' :: 'o' :: 's' :: ';' :: rest => '\'' :: unescape rest
  | '&' :: 'q' :: 'u' :: 'o' :: 't' :: ';' :: rest => '"' :: unescape rest
  | c :: rest => c :: unescape rest

theorem unescape_cons {c : Char} (plain : c ≠ '&') (rest : List Char) :
    unescape (c :: rest) = c :: unescape rest := by
  rw [unescape] <;> grind

theorem unescape_escapeChar (c : Char) (rest : List Char) :
    unescape (escapeChar c ++ rest) = c :: unescape rest := by
  unfold escapeChar
  split
  · rename_i name found
    unfold entity? at found
    split at found <;> cases found <;> simp only [List.cons_append, List.nil_append, unescape]
  · rename_i plain
    apply unescape_cons
    rintro rfl
    cases plain

theorem unescape_escape (text : List Char) : unescape (escape text) = text := by
  induction text with
  | nil => rfl
  | cons c rest ih => rw [escape_cons, unescape_escapeChar, ih]

/-! ## Words -/

/-- What elements and attributes are called. -/
def IsWord (name : String) : Prop :=
  name.toList ≠ [] ∧ name.toList.all fun c => c.isAlphanum || c == '_'

instance (name : String) : Decidable (IsWord name) :=
  inferInstanceAs (Decidable (_ ∧ _))

/-- A word holds none of the characters that tags are put together with. -/
theorem IsWord.not_mem {name : String} (word : IsWord name) {d : Char}
    (apart : ¬(d.isAlphanum || d == '_')) : d ∉ name.toList :=
  fun member => apart (List.all_eq_true.1 word.2 d member)

/-! ## Attributes -/

/-- The attributes, from what stands before, between and after the quotes. -/
def readAttributes? : List (List Char) → Option (List Attribute)
  | [[]] => some []
  | label :: value :: rest =>
    (readAttributes? rest).map fun attributes =>
      ⟨String.ofList label.tail.dropLast, String.ofList (unescape value)⟩ :: attributes
  | _ => none

/-- Each attribute gives two pieces: what stands before its value, and the value. -/
theorem splitOn_render {a : Attribute} (word : IsWord a.name) (rest : List Char) :
    (a.render ++ rest).splitOn '"' =
      (' ' :: (a.name.toList ++ ['='])) :: escape a.value.toList :: rest.splitOn '"' := by
  have rendered : a.render ++ rest = (' ' :: (a.name.toList ++ ['='])) ++
      '"' :: (escape a.value.toList ++ '"' :: rest) := by
    simp only [Attribute.render, List.cons_append, List.append_assoc, List.nil_append]
  have label : '"' ∉ ' ' :: (a.name.toList ++ ['=']) := by
    simp only [List.mem_cons, List.mem_append, List.not_mem_nil, not_or]
    exact ⟨by decide, word.not_mem (by decide), by decide, not_false⟩
  rw [rendered, List.splitOn_append_cons_self_of_not_mem label,
    List.splitOn_append_cons_self_of_not_mem (not_mem_escape (by decide) (by decide) _)]

theorem readAttributes?_splitOn {attributes : List Attribute}
    (words : ∀ a ∈ attributes, IsWord a.name) :
    readAttributes? ((attributes.flatMap Attribute.render).splitOn '"') = some attributes := by
  induction attributes with
  | nil => rw [List.flatMap_nil, List.splitOn_nil, readAttributes?]
  | cons a rest ih =>
    obtain ⟨word, others⟩ := List.forall_mem_cons.1 words
    rw [List.flatMap_cons, splitOn_render word, readAttributes?, ih others]
    simp only [Option.map_some, List.tail_cons, List.dropLast_concat, unescape_escape,
      String.ofList_toList]

theorem bracket_not_mem_render {a : Attribute} (word : IsWord a.name) : '>' ∉ a.render := by
  simp only [Attribute.render, List.mem_cons, List.mem_append, List.not_mem_nil, not_or]
  exact ⟨by decide, word.not_mem (by decide), by decide, by decide,
    not_mem_escape (by decide) (by decide) _, by decide, not_false⟩

/-- The value of the first attribute of a name. -/
def value? (attributes : List Attribute) (name : String) : Option String :=
  (attributes.find? fun a => a.name = name).map Attribute.value

@[simp] theorem value?_nil (name : String) : value? [] name = none := rfl

@[simp] theorem value?_cons (a : Attribute) (rest : List Attribute) (name : String) :
    value? (a :: rest) name = if a.name = name then some a.value else value? rest name := by
  unfold value?
  rw [List.find?_cons]
  by_cases same : a.name = name
  · simp only [same, decide_true, Option.map_some, ↓reduceIte]
  · simp only [same, decide_false, ↓reduceIte]

theorem value?_append (one two : List Attribute) (name : String) :
    value? (one ++ two) name = (value? one name).or (value? two name) := by
  unfold value?
  rw [List.find?_append, Option.map_or]

theorem value?_eq_none {attributes : List Attribute} {name : String}
    (missing : ∀ a ∈ attributes, a.name ≠ name) : value? attributes name = none := by
  rw [value?, Option.map_eq_none_iff, List.find?_eq_none]
  intro a member
  simpa only [decide_eq_true_eq] using missing a member

/-- If the attributes of a name agree, the value is the one they have. -/
theorem value?_eq_some {attributes : List Attribute} {a : Attribute} (member : a ∈ attributes)
    (agree : ∀ b ∈ attributes, b.name = a.name → b.value = a.value) :
    value? attributes a.name = some a.value := by
  cases found : attributes.find? fun b => b.name = a.name with
  | none =>
    have missing := List.find?_eq_none.1 found a member
    simp only [decide_true, not_true_eq_false] at missing
  | some b =>
    have named := List.find?_some found
    rw [decide_eq_true_eq] at named
    rw [value?, found, Option.map_some, agree b (List.mem_of_find?_eq_some found) named]

/-! ## Tags -/

/-- A tag opens an element, is one by itself, or closes one. -/
inductive Tag where
  | opening (name : String) (attributes : List Attribute)
  | empty (name : String) (attributes : List Attribute)
  | closing (name : String)
  deriving DecidableEq, Repr

namespace Tag

def render : Tag → List Char
  | opening name attributes => openTag name attributes
  | empty name attributes => emptyTag name attributes
  | closing name => closeTag name

/-- A tag up to its closing bracket. -/
def body : Tag → List Char
  | opening name attributes => tag name attributes
  | empty name attributes => tag name attributes ++ ['/']
  | closing name => '<' :: '/' :: name.toList

def name : Tag → String
  | opening name _ | empty name _ | closing name => name

def attributes : Tag → List Attribute
  | opening _ attributes | empty _ attributes => attributes
  | closing _ => []

structure WellNamed (t : Tag) : Prop where
  name : IsWord t.name
  attributes : ∀ a ∈ t.attributes, IsWord a.name

theorem render_eq_body (t : Tag) : t.render = t.body ++ ['>'] := by
  cases t with
  | opening name attributes => rfl
  | empty name attributes => exact (List.append_assoc (tag name attributes) ['/'] ['>']).symm
  | closing name => rfl

end Tag

theorem bracket_not_mem_tag {name : String} {attributes : List Attribute} (word : IsWord name)
    (words : ∀ a ∈ attributes, IsWord a.name) : '>' ∉ tag name attributes := by
  have apart : ∀ a ∈ attributes, '>' ∉ a.render :=
    fun a member => bracket_not_mem_render (words a member)
  simp only [tag, List.mem_cons, List.mem_append, List.mem_flatMap, not_or, not_exists, not_and]
  exact ⟨by decide, word.not_mem (by decide), apart⟩

theorem Tag.bracket_not_mem_body {t : Tag} (named : t.WellNamed) : '>' ∉ t.body := by
  have inTag := bracket_not_mem_tag named.name named.attributes
  cases t with
  | opening name attributes => exact inTag
  | empty name attributes =>
    rw [body, List.mem_append, not_or]
    exact ⟨inTag, by decide⟩
  | closing name =>
    simp only [body, List.mem_cons, not_or]
    exact ⟨by decide, by decide, named.name.not_mem (by decide)⟩

/-- What an element is called, and its attributes. -/
def readElement? (inside : List Char) : Option (String × List Attribute) :=
  (readAttributes? ((inside.dropWhile (· ≠ ' ')).splitOn '"')).map fun attributes =>
    (String.ofList (inside.takeWhile (· ≠ ' ')), attributes)

/-- A tag from what stands before its closing bracket. -/
def readTag? : List Char → Option Tag
  | '<' :: inside =>
    if inside.head? = some '/' then some (.closing (String.ofList inside.tail))
    else if inside.getLast? = some '/' then
      (readElement? inside.dropLast).map fun (name, attributes) => .empty name attributes
    else (readElement? inside).map fun (name, attributes) => .opening name attributes
  | _ => none

/-- The tags of a text that ends with one. -/
def readTags? (text : List Char) : Option (List Tag) :=
  (text.splitOn '>').dropLast.mapM readTag?

section

variable {name : String} {attributes : List Attribute} (word : IsWord name)

include word

theorem readElement?_of_words (words : ∀ a ∈ attributes, IsWord a.name) :
    readElement? (name.toList ++ attributes.flatMap Attribute.render) =
      some (name, attributes) := by
  have inName : ∀ c ∈ name.toList, decide (c ≠ ' ') = true := by
    intro c member
    rw [decide_eq_true_eq]
    rintro rfl
    exact word.not_mem (by decide) member
  have atBlank : (attributes.flatMap Attribute.render).takeWhile (· ≠ ' ') = [] ∧
      (attributes.flatMap Attribute.render).dropWhile (· ≠ ' ') =
        attributes.flatMap Attribute.render := by
    cases attributes with
    | nil => exact ⟨rfl, rfl⟩
    | cons a rest => exact ⟨rfl, rfl⟩
  unfold readElement?
  rw [List.takeWhile_append_of_pos inName, List.dropWhile_append_of_pos inName, atBlank.1,
    atBlank.2, readAttributes?_splitOn words, List.append_nil, String.ofList_toList]
  rfl

theorem head?_inside (rest : List Char) : (name.toList ++ rest).head? ≠ some '/' := by
  obtain ⟨c, further, spelled⟩ := List.exists_cons_of_ne_nil word.1
  intro slash
  rw [spelled, List.cons_append, List.head?_cons] at slash
  obtain rfl := Option.some.inj slash
  exact word.not_mem (d := '/') (by decide) (spelled ▸ List.mem_cons_self ..)

theorem getLast?_inside :
    (name.toList ++ attributes.flatMap Attribute.render).getLast? ≠ some '/' := by
  rcases attributes.eq_nil_or_concat with rfl | ⟨before, a, rfl⟩
  · rw [List.flatMap_nil, List.append_nil]
    intro last
    exact word.not_mem (by decide) (List.mem_of_getLast? last)
  · -- the last character is the quote after the last value
    have ending : a.render =
        (' ' :: (a.name.toList ++ '=' :: '"' :: escape a.value.toList)) ++ ['"'] := by
      simp only [Attribute.render, List.cons_append, List.append_assoc]
    rw [List.concat_eq_append, List.flatMap_append, List.flatMap_singleton, ending,
      ← List.append_assoc, ← List.append_assoc, List.getLast?_concat]
    decide

end

theorem readTag?_body {t : Tag} (named : t.WellNamed) : readTag? t.body = some t := by
  cases t with
  | opening name attributes =>
    have word : IsWord name := named.name
    have words : ∀ a ∈ attributes, IsWord a.name := named.attributes
    rw [Tag.body, tag, readTag?, if_neg (head?_inside word _), if_neg (getLast?_inside word),
      readElement?_of_words word words]
    rfl
  | empty name attributes =>
    have word : IsWord name := named.name
    have words : ∀ a ∈ attributes, IsWord a.name := named.attributes
    rw [Tag.body, tag, List.cons_append, readTag?, List.append_assoc, if_neg (head?_inside word _),
      ← List.append_assoc, List.getLast?_concat, if_pos rfl, List.dropLast_concat,
      readElement?_of_words word words]
    rfl
  | closing name =>
    rw [Tag.body, readTag?, List.head?_cons, if_pos rfl, List.tail_cons, String.ofList_toList]

theorem splitOn_render_tags {tags : List Tag} (named : ∀ t ∈ tags, t.WellNamed) :
    (tags.flatMap Tag.render).splitOn '>' = tags.map Tag.body ++ [[]] := by
  induction tags with
  | nil => exact List.splitOn_nil '>'
  | cons t rest ih =>
    obtain ⟨first, others⟩ := List.forall_mem_cons.1 named
    rw [List.flatMap_cons, t.render_eq_body, List.append_assoc, List.singleton_append,
      List.splitOn_append_cons_self_of_not_mem (Tag.bracket_not_mem_body first), ih others]
    rfl

/-- Whatever the attribute values hold, the text tells its tags. -/
theorem readTags?_flatMap_render {tags : List Tag} (named : ∀ t ∈ tags, t.WellNamed) :
    readTags? (tags.flatMap Tag.render) = some tags := by
  rw [readTags?, splitOn_render_tags named, List.dropLast_concat]
  exact mapM_map_eq_some fun t member => readTag?_body (named t member)

end JvmFacts.Text.Xml
