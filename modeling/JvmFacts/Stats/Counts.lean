/-!
Counts of findings: the total, and one count for each priority from one to four. Findings of other
priorities are not counted.

A count has 32 bits, and a sum that has no place in them wraps around. A build that checks its sums
stops there instead; where that is told apart, a count is said to fit.
-/

set_option autoImplicit false

namespace JvmFacts

/-- One is the most urgent. -/
inductive Priority where
  | one | two | three | four
  deriving DecidableEq, Repr

namespace Priority

def all : List Priority := [one, two, three, four]

def number : Priority → Nat
  | one => 1
  | two => 2
  | three => 3
  | four => 4

def ofNumber? : Nat → Option Priority
  | 1 => some one
  | 2 => some two
  | 3 => some three
  | 4 => some four
  | _ => none

@[simp] theorem ofNumber?_number (p : Priority) : ofNumber? p.number = some p := by
  cases p <;> rfl

end Priority

/-- The sum has a place in 32 bits. -/
def fits (a b : UInt32) : Bool :=
  decide (a.toNat + b.toNat < UInt32.size)

/-- Numbers added up one after the other, each sum with a place in 32 bits. -/
def sumFits : (start : UInt32) → List UInt32 → Bool
  | _, [] => true
  | start, n :: rest => fits start n && sumFits (start + n) rest

structure BugCounts where
  total : UInt32 := 0
  one : UInt32 := 0
  two : UInt32 := 0
  three : UInt32 := 0
  four : UInt32 := 0
  deriving DecidableEq, Repr

namespace BugCounts

def zero : BugCounts := {}

/-- How many slots there are, the total among them. -/
def slotCount : Nat := Priority.all.length + 1

def of (b : BugCounts) : Priority → UInt32
  | .one => b.one
  | .two => b.two
  | .three => b.three
  | .four => b.four

/-- Slot zero is the total, slots one to four are the priorities, and the others are empty. -/
def slot (b : BugCounts) (n : Nat) : UInt32 :=
  if n = 0 then b.total else (Priority.ofNumber? n).elim 0 b.of

/-- One more finding of a priority. -/
def count (b : BugCounts) (p : Priority) : BugCounts :=
  match p with
  | .one => { b with total := b.total + 1, one := b.one + 1 }
  | .two => { b with total := b.total + 1, two := b.two + 1 }
  | .three => { b with total := b.total + 1, three := b.three + 1 }
  | .four => { b with total := b.total + 1, four := b.four + 1 }

/-- Neither the total nor the count of the priority wraps around when there is one more. -/
def countFits (b : BugCounts) (p : Priority) : Bool :=
  fits b.total 1 && fits (b.of p) 1

/-- Slot by slot. -/
def add (a b : BugCounts) : BugCounts :=
  ⟨a.total + b.total, a.one + b.one, a.two + b.two, a.three + b.three, a.four + b.four⟩

@[simp] theorem slot_zero (n : Nat) : zero.slot n = 0 := by
  unfold slot
  split
  · rfl
  · cases Priority.ofNumber? n with
    | none => rfl
    | some p => cases p <;> rfl

theorem slot_add (a b : BugCounts) (n : Nat) : (a.add b).slot n = a.slot n + b.slot n := by
  unfold slot
  split
  · rfl
  · cases Priority.ofNumber? n with
    | none => rfl
    | some p => cases p <;> rfl

end BugCounts

end JvmFacts
