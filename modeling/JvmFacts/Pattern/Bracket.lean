import JvmFacts.Pattern.Escape

/-!
Classes: sets of characters in brackets.

A class holds characters, ranges, escapes, named classes and classes in brackets of their own. Two
contents are intersected, subtracted or compared by a doubled operator sign. A closing bracket or
dashes that come first stand for themselves.
-/

set_option autoImplicit false

namespace JvmFacts.Pattern

open Text

/-- A set of characters, with how deep the brackets and operators are nested that gave it. -/
structure Content where
  set : CharSet
  depth : Nat

inductive SetOperator where
  | inter
  | diff
  | symmDiff

def SetOperator.apply : SetOperator → CharSet → CharSet → CharSet
  | inter => .inter
  | diff => .diff
  | symmDiff => .symmDiff

/-- A class that is not closed yet: what stands left of the last operator sign, and what came since
then, with the number of its items. -/
structure OpenClass where
  negated : Bool
  left : Option (SetOperator × Content) := none
  items : Content := ⟨.empty, 0⟩
  count : Nat := 0

namespace OpenClass

def add (k : OpenClass) (item : Content) : OpenClass :=
  { k with
    items := ⟨k.items.set.union item.set, max k.items.depth item.depth⟩
    count := k.count + 1 }

/-- All that came up to here. Several items are one level deeper than each of them. -/
def content (k : OpenClass) : Content :=
  let right := if 2 ≤ k.count then { k.items with depth := k.items.depth + 1 } else k.items
  match k.left with
  | none => right
  | some (op, left) => ⟨op.apply left.set right.set, max left.depth right.depth + 1⟩

/-- Operators are applied from left to right. -/
def operate (k : OpenClass) (op : SetOperator) : OpenClass :=
  { negated := k.negated, left := some (op, k.content) }

def close (k : OpenClass) : Content :=
  let content := k.content
  ⟨if k.negated then content.set.compl else content.set, content.depth + 1⟩

end OpenClass

def asciiClass (ranges : List (Char × Char)) : CharSet :=
  ranges.foldl (fun s (low, high) => s.union (.between low high)) .empty

def namedClass? : String → Option CharSet
  | "alnum" => some (asciiClass [('0', '9'), ('A', 'Z'), ('a', 'z')])
  | "alpha" => some (asciiClass [('A', 'Z'), ('a', 'z')])
  | "ascii" => some (asciiClass [('\x00', '\x7f')])
  | "blank" => some (asciiClass [('\t', '\t'), (' ', ' ')])
  | "cntrl" => some (asciiClass [('\x00', '\x1f'), ('\x7f', '\x7f')])
  | "digit" => some (asciiClass [('0', '9')])
  | "graph" => some (asciiClass [('!', '~')])
  | "lower" => some (asciiClass [('a', 'z')])
  | "print" => some (asciiClass [(' ', '~')])
  | "punct" => some (asciiClass [('!', '/'), (':', '@'), ('[', '\x60'), ('\x7b', '~')])
  | "space" => some (asciiClass [('\t', '\r'), (' ', ' ')])
  | "upper" => some (asciiClass [('A', 'Z')])
  | "word" => some (asciiClass [('0', '9'), ('A', 'Z'), ('_', '_'), ('a', 'z')])
  | "xdigit" => some (asciiClass [('0', '9'), ('A', 'F'), ('a', 'f')])
  | _ => none

/-- A named class behind its opening bracket; it is written between colons. -/
def scanNamedClass : List Char → Option (CharSet × List Char)
  | ':' :: rest =>
    let (negated, rest) := match rest with
      | '^' :: rest => (true, rest)
      | _ => (false, rest)
    match rest.dropWhile (· != ':') with
    | ':' :: ']' :: after =>
      (namedClass? (String.ofList (rest.takeWhile (· != ':')))).map fun s =>
        (if negated then s.compl else s, after)
    | _ => none
  | _ => none

def scanSetItem : List Char → Option (Escaped × List Char)
  | [] => none
  | '\\' :: rest => scanEscape rest
  | c :: rest => some (.char c, rest)

def Escaped.toSet? : Escaped → Option CharSet
  | char c => some (.single c)
  | set s => some s
  | anchor _ => none

/-- A single item or a range. A dash before a dash or before the closing bracket makes no range,
and a range goes from a character to one that is not below it. -/
def scanRange (text : List Char) : Option (CharSet × List Char) := do
  let (first, rest) ← scanSetItem text
  match rest with
  | '-' :: c :: after =>
    if c = '-' ∨ c = ']' then (first.toSet?).map (·, rest)
    else
      match first, ← scanSetItem (c :: after) with
      | .char low, (.char high, after) => if high < low then none else some (.between low high, after)
      | _, _ => none
  | _ => (first.toSet?).map (·, rest)

/-- A class behind its opening bracket, up to where its items begin. -/
def scanOpening (text : List Char) : OpenClass × List Char :=
  let (negated, text) := match text with
    | '^' :: rest => (true, rest)
    | _ => (false, text)
  match text with
  | ']' :: rest => (OpenClass.add { negated } ⟨.single ']', 0⟩, rest)
  | _ =>
    let dashes := text.takeWhile (· == '-')
    (dashes.foldl (fun k _ => k.add ⟨.single '-', 0⟩) { negated }, text.dropWhile (· == '-'))

/-- The items of a class up to its closing bracket, with the classes around it. -/
def scanItems : (fuel : Nat) → OpenClass → List OpenClass → List Char →
    Option (Content × List Char)
  | 0, _, _, _ => none
  | _ + 1, _, _, [] => none
  | fuel + 1, k, outer, '[' :: rest =>
    match scanNamedClass rest with
    | some (s, rest) => scanItems fuel (k.add ⟨s, 0⟩) outer rest
    | none =>
      let (inner, rest) := scanOpening rest
      scanItems fuel inner (k :: outer) rest
  | _ + 1, k, [], ']' :: rest => some (k.close, rest)
  | fuel + 1, k, parent :: outer, ']' :: rest => scanItems fuel (parent.add k.close) outer rest
  | fuel + 1, k, outer, '&' :: '&' :: rest => scanItems fuel (k.operate .inter) outer rest
  | fuel + 1, k, outer, '-' :: '-' :: rest => scanItems fuel (k.operate .diff) outer rest
  | fuel + 1, k, outer, '~' :: '~' :: rest => scanItems fuel (k.operate .symmDiff) outer rest
  | fuel + 1, k, outer, text => do
    let (s, rest) ← scanRange text
    scanItems fuel (k.add ⟨s, 0⟩) outer rest

/-- A class behind its opening bracket. Every step takes a character at least. -/
def scanClass (text : List Char) : Option (Content × List Char) :=
  let (k, rest) := scanOpening text
  scanItems (rest.length + 1) k [] rest

end JvmFacts.Pattern
