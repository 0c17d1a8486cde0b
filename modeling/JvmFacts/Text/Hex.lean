/-!
Hexadecimal numbers in lower case.
-/

set_option autoImplicit false

namespace JvmFacts.Text

def hexDigit (n : Nat) : Char :=
  Nat.digitChar n

def hexDigit? (c : Char) : Option Nat :=
  if '0' ≤ c ∧ c ≤ '9' then some (c.toNat - '0'.toNat)
  else if 'a' ≤ c ∧ c ≤ 'f' then some (c.toNat - 'a'.toNat + 10)
  else if 'A' ≤ c ∧ c ≤ 'F' then some (c.toNat - 'A'.toNat + 10)
  else none

/-- The last `width` digits, leading zeros included. -/
def hexDigits : (width : Nat) → Nat → List Char
  | 0, _ => []
  | width + 1, n => hexDigits width (n / 16) ++ [hexDigit (n % 16)]

def hex (width n : Nat) : String :=
  String.ofList (hexDigits width n)

def hexValue? (text : String) : Option Nat :=
  if text.isEmpty then none
  else text.toList.foldlM (fun value c => (hexDigit? c).map (16 * value + ·)) 0

theorem length_hexDigits (width n : Nat) : (hexDigits width n).length = width := by
  induction width generalizing n with
  | zero => rfl
  | succ width ih => simp only [hexDigits, List.length_append, ih, List.length_singleton]

end JvmFacts.Text
