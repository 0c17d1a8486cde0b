/-!
Marks on parameters. Sixty-four parameters can carry one; a mark on a later parameter is dropped.
-/

set_option autoImplicit false

namespace JvmFacts

/-- How many parameters can be marked. -/
def trackedParameters : Nat := 64

abbrev ParameterMask := BitVec 64

namespace ParameterMask

def isTracked (parameter : Nat) : Bool :=
  parameter < trackedParameters

def mark (m : ParameterMask) (parameter : Nat) : ParameterMask :=
  if isTracked parameter then m ||| BitVec.twoPow 64 parameter else m

def holds (m : ParameterMask) (parameter : Nat) : Bool :=
  isTracked parameter && m.getLsbD parameter

/-- The synthetic parameters: those said to be, and, once any parameter has a name, all without
one. -/
def synthetic (named explicit : ParameterMask) : ParameterMask :=
  if named = 0 then explicit else explicit ||| ~~~named

theorem holds_mark (m : ParameterMask) (parameter other : Nat) :
    holds (mark m parameter) other =
      (holds m other || (isTracked parameter && decide (parameter = other))) := by
  unfold holds mark isTracked trackedParameters
  by_cases tracked : parameter < 64
  · simp only [tracked, decide_true, ↓reduceIte, BitVec.getLsbD_or, BitVec.getLsbD_twoPow,
      Bool.true_and]
    by_cases same : parameter = other
    · subst same
      simp [tracked]
    · simp [same]
  · simp [tracked]

end ParameterMask

end JvmFacts
