import JvmFacts.Text.CharSet

/-!
White space by the Unicode property White_Space, twenty-five characters. Class names may hold none
of them.
-/

set_option autoImplicit false

namespace JvmFacts.Text

/-- The characters with the Unicode property White_Space. -/
def blanks : CharSet where
  ranges :=
    [(0x9, 0xD), (0x20, 0x20), (0x85, 0x85), (0xA0, 0xA0), (0x1680, 0x1680), (0x2000, 0x200A),
      (0x2028, 0x2029), (0x202F, 0x202F), (0x205F, 0x205F), (0x3000, 0x3000)]
  apart := by decide

def isBlank (c : Char) : Bool :=
  blanks.contains c

theorem isBlank_of_isWhitespace (c : Char) (white : c.isWhitespace = true) :
    isBlank c = true := by
  simp only [Char.isWhitespace, Bool.or_eq_true, decide_eq_true_eq] at white
  rcases white with ((rfl | rfl) | rfl) | rfl <;> decide

end JvmFacts.Text
