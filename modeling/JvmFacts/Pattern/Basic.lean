import JvmFacts.Pattern.WordChar

/-!
Search patterns, in which a user of the command line says which classes are kept.

The library itself takes any predicate on class names, and nothing but the command line depends on what
is in these modules.

Patterns are built by `join`, `choice` and `repeated`, which keep them small: nothing is nested that
need not be, characters that exclude each other become one set, and what matches no character is
never repeated.
-/

set_option autoImplicit false

namespace JvmFacts

/-- A condition on a place between two characters, or at an end of the text. -/
inductive Anchor where
  | textStart
  | textEnd
  | wordEdge
  | noWordEdge
  | wordStart
  | wordEnd
  deriving DecidableEq, Repr

/-- The condition on a place is met, given the characters on both sides of it. -/
def Anchor.holds (before after : Option Char) (a : Anchor) : Bool :=
  let left := before.any Pattern.wordChars.contains
  let right := after.any Pattern.wordChars.contains
  match a with
  | textStart => before.isNone
  | textEnd => after.isNone
  | wordEdge => left != right
  | noWordEdge => left == right
  | wordStart => !left && right
  | wordEnd => left && !right

inductive Pattern where
  | empty
  | set (s : Text.CharSet)
  | anchor (a : Anchor)
  /-- A group whose match can be asked for; it matches what its inside does. -/
  | group (p : Pattern)
  | sequence (ps : List Pattern)
  | either (ps : List Pattern)
  /-- From `least` to `most` times, or any number of times from `least` on. -/
  | times (p : Pattern) (least : Nat) (most : Option Nat)
  deriving Repr

namespace Pattern

mutual

/-- The pattern matches no character. -/
def isHollow : Pattern → Bool
  | empty => true
  | set _ => false
  | anchor _ => true
  | group p => isHollow p
  | sequence ps => allHollow ps
  | either ps => allHollow ps
  | times p _ _ => isHollow p

def allHollow : List Pattern → Bool
  | [] => true
  | p :: ps => isHollow p && allHollow ps

end

/-- What stands one after the other in a pattern. -/
def parts : Pattern → List Pattern
  | empty => []
  | sequence ps => ps
  | p => [p]

/-- One pattern after the other. -/
def join (ps : List Pattern) : Pattern :=
  match ps.flatMap parts with
  | [] => empty
  | [p] => p
  | ps => sequence ps

/-- What stands side by side in a pattern. -/
def options : Pattern → List Pattern
  | either ps => ps
  | p => [p]

def toSet? : Pattern → Option Text.CharSet
  | set s => some s
  | _ => none

/-- Any one of some patterns; one set if all of them are sets. -/
def choice (ps : List Pattern) : Pattern :=
  match ps.flatMap options with
  | [p] => p
  | ps =>
    match ps.mapM toSet? with
    | some sets => set (sets.foldl .union .empty)
    | none => either ps

/-- Repeats a pattern. A hollow one matches nothing more the second time. -/
def repeated (p : Pattern) (least : Nat) (most : Option Nat) : Pattern :=
  let (least, most) :=
    if p.isHollow then (min least 1, some (min (most.getD 1) 1)) else (least, most)
  if most = some 0 then empty
  else if least = 1 ∧ most = some 1 then p
  else times p least most

@[simp] theorem repeated_once (p : Pattern) : p.repeated 1 (some 1) = p := by
  cases hollow : p.isHollow <;> simp [repeated, hollow]

end Pattern

end JvmFacts
