import JvmFacts.Pattern.Token

/-!
Reading search patterns from the command line.

A pattern is made of alternatives between bars, alternatives of items one after the other, and items
of what matches by itself and of groups in parentheses, repeated as the tokens behind them say.
-/

set_option autoImplicit false

namespace JvmFacts.Pattern

/-- A pattern with the depth of its text. Repetitions, groups, classes, and several items one after
the other or side by side are each one level deeper than what is in them. -/
structure Nested where
  pattern : Pattern
  depth : Nat

def maxDepth : Nat :=
  250

/-- A pattern of parts that are nested in it. -/
def Nested.around (p : Pattern) (inside : List Nested) : Option Nested :=
  let depth := (inside.map Nested.depth).foldl max 0 + 1
  if maxDepth < depth then none else some ⟨p, depth⟩

/-- What was read of a group, the last part first. -/
structure Level where
  alternatives : List Nested := []
  items : List Nested := []

namespace Level

def push (l : Level) (item : Nested) : Level :=
  { l with items := item :: l.items }

/-- The items since the last bar as one pattern. -/
def current (l : Level) : Option Nested :=
  match l.items with
  | [] => some ⟨.empty, 0⟩
  | [item] => some item
  | items => Nested.around (join (items.reverse.map Nested.pattern)) items

/-- Begins the next alternative. -/
def next (l : Level) : Option Level :=
  l.current.map fun item => { alternatives := item :: l.alternatives }

/-- All alternatives as one pattern. -/
def close (l : Level) : Option Nested := do
  let last ← l.current
  match l.alternatives with
  | [] => some last
  | more =>
    let all := last :: more
    Nested.around (choice (all.reverse.map Nested.pattern)) all

/-- Repeats the last item; there has to be one. -/
def repeatLast (l : Level) (least : Nat) (most : Option Nat) : Option Level :=
  match l.items with
  | [] => none
  | item :: items => do
    let item ← Nested.around (repeated item.pattern least most) [item]
    some { l with items := item :: items }

end Level

/-- A group whose closing parenthesis is still to come, and what was read before it. -/
structure OpenGroup where
  captures : Bool
  outside : Level

def OpenGroup.close (g : OpenGroup) (inside : Nested) : Option Level := do
  let p := inside.pattern
  let item ← Nested.around (if g.captures then group p else p) [inside]
  some (g.outside.push item)

def assemble : Level → List OpenGroup → List Token → Option Nested
  | l, [], [] => l.close
  | _, _ :: _, [] => none
  | l, groups, .opening captures _ :: rest => assemble {} (⟨captures, l⟩ :: groups) rest
  | _, [], .closing :: _ => none
  | l, g :: groups, .closing :: rest => do
    assemble (← g.close (← l.close)) groups rest
  | l, groups, .bar :: rest => do
    assemble (← l.next) groups rest
  | l, groups, .repeats least most :: rest => do
    assemble (← l.repeatLast least most) groups rest
  | l, groups, .item p depth :: rest =>
    if maxDepth < depth then none else assemble (l.push ⟨p, depth⟩) groups rest

def groupNames (tokens : List Token) : List (List Char) :=
  tokens.filterMap fun
    | .opening _ name => name
    | _ => none

/-- Reads a whole pattern. No two groups have the same name. -/
def parse? (text : String) : Option Pattern := do
  let tokens ← tokens? text.toList
  if (groupNames tokens).Nodup then (assemble {} [] tokens).map Nested.pattern else none

end JvmFacts.Pattern
