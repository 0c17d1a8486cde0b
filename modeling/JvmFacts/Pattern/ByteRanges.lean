import JvmFacts.Text.CharSet

/-!
UTF-8 texts of the characters of a set, as sequences of byte ranges.

A sequence stands for the texts that have one byte out of each of its ranges. The code points of one
length are cut where a byte starts over, so that every sequence stands for one run of code points.
-/

set_option autoImplicit false

namespace JvmFacts.Pattern

open Text

/-- Both ends belong to the range. -/
abbrev ByteRange := Nat × Nat

/-- Bytes that follow the first one hold six bits each. -/
def tailMark : Nat :=
  0x80

/-- The numbers from `low` to `high`, spelled with a marked first byte and `tails` more. Blocks that
the numbers fill stay together, and what is left of a block at either end is spelled apart. -/
def spell (mark : Nat) : (tails low high : Nat) → List (List ByteRange)
  | 0, low, high => [[(mark + low, mark + high)]]
  | tails + 1, low, high =>
    let block := Nat.pow 64 (tails + 1)
    let within (n low high : Nat) : List (List ByteRange) :=
      (spell tailMark tails low high).map ((mark + n, mark + n) :: ·)
    let first := low / block
    let last := high / block
    if first = last then within first (low % block) (high % block)
    else
      let before := if low % block = 0 then [] else within first (low % block) (block - 1)
      let after := if high % block = block - 1 then [] else within last 0 (high % block)
      let fullFrom := if low % block = 0 then first else first + 1
      let fullTo := if high % block = block - 1 then last + 1 else last
      let between :=
        if fullFrom < fullTo then
          [(mark + fullFrom, mark + fullTo - 1) ::
            List.replicate (tails + 1) (tailMark, tailMark + 63)]
        else []
      before ++ between ++ after

/-- Code points whose texts have the same length, with the mark of the first byte and the number of
bytes behind it. Surrogates have no text. -/
def planes : List (Nat × Nat × Nat × Nat) :=
  [(0, 0x7F, 0, 0), (0x80, 0x7FF, 0xC0, 1), (0x800, 0xD7FF, 0xE0, 2), (0xE000, 0xFFFF, 0xE0, 2),
    (0x10000, 0x10FFFF, 0xF0, 3)]

def byteSequences (s : CharSet) : List (List ByteRange) :=
  s.ranges.flatMap fun (low, high) => planes.flatMap fun (start, stop, mark, tails) =>
    if max low start ≤ min high stop then spell mark tails (max low start) (min high stop) else []

theorem length_of_mem_spell {mark tails low high : Nat} {bytes : List ByteRange}
    (mem : bytes ∈ spell mark tails low high) : bytes.length = tails + 1 := by
  induction tails generalizing mark low high bytes with
  | zero =>
    simp only [spell, List.mem_singleton] at mem
    simp [mem]
  | succ tails ih =>
    have inner {n low high : Nat} {bytes : List ByteRange}
        (mem : bytes ∈ (spell tailMark tails low high).map ((mark + n, mark + n) :: ·)) :
        bytes.length = tails + 1 + 1 := by
      obtain ⟨rest, found, rfl⟩ := List.mem_map.1 mem
      simp [ih found]
    simp only [spell] at mem
    split at mem
    · exact inner mem
    · simp only [List.mem_append] at mem
      rcases mem with (mem | mem) | mem
      · split at mem
        · cases mem
        · exact inner mem
      · generalize (if low % 64 ^ (tails + 1) = 0 then _ else _ : Nat) = fullFrom at mem
        generalize (if high % 64 ^ (tails + 1) = _ then _ else _ : Nat) = fullTo at mem
        split at mem
        · simp only [List.mem_singleton] at mem
          simp [mem]
        · cases mem
      · split at mem
        · cases mem
        · exact inner mem

end JvmFacts.Pattern
