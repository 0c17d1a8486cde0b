/-!
Sixty-four bit floating-point numbers as bit patterns, and when two of them are equal as numbers: a
NaN equals nothing, and both zeros are one number.
-/

set_option autoImplicit false

namespace JvmFacts

structure Double where
  bits : BitVec 64
  deriving DecidableEq, Repr

namespace Double

/-- All but the sign bit. -/
def magnitude (x : Double) : BitVec 64 :=
  x.bits &&& 0x7FFFFFFFFFFFFFFF#64

/-- The magnitude of infinity; a NaN lies above it. -/
def infinity : BitVec 64 := 0x7FF0000000000000#64

def isNaN (x : Double) : Bool :=
  infinity < x.magnitude

def isZero (x : Double) : Bool :=
  x.magnitude == 0

def equal (x y : Double) : Bool :=
  !x.isNaN && !y.isNaN && (x.bits == y.bits || (x.isZero && y.isZero))

theorem equal_self_iff (x : Double) : x.equal x = !x.isNaN := by
  simp [equal]

theorem equal_comm (x y : Double) : x.equal y = y.equal x := by
  simp only [equal, Bool.and_comm x.isZero, BEq.comm (a := x.bits)]
  cases x.isNaN <;> cases y.isNaN <;> rfl

end Double

end JvmFacts
