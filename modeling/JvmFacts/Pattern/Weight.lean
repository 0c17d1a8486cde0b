import JvmFacts.Pattern.Basic
import JvmFacts.Pattern.ByteRanges

/-!
How much a pattern weighs.

The weight is the size in bytes of a machine that reads UTF-8 one byte at a time, with a copy of a
repeated part for every time it may be repeated. Two such machines count, one that reads forwards
and one that reads backwards, and a pattern is too heavy when one of them is. Weights are found
without building the machines, so that of a pattern with large counts is found at once.
-/

set_option autoImplicit false

namespace JvmFacts.Pattern

open Text

/-- A state of a machine. -/
def stateSize : Nat :=
  32

/-- One of the ranges that a state reads. -/
def rangeSize : Nat :=
  8

/-- One of the states that a branching state leads to. -/
def branchSize : Nat :=
  4

def isAscii (s : CharSet) : Bool :=
  s.ranges.all fun r => r.2 < 0x80

/-- Gathers sequences that begin with the same range; the sequences of a set have them together. -/
def gather : List (List ByteRange) → List (ByteRange × List (List ByteRange))
  | [] => []
  | [] :: rest => gather rest
  | (r :: bytes) :: rest =>
    match gather rest with
    | (r', tails) :: more =>
      if r = r' then (r, bytes :: tails) :: more else (r, [bytes]) :: (r', tails) :: more
    | [] => [(r, [bytes])]

/-- What may be left to read after no range, after one range and so on, as long as something is. -/
def remainders : (length : Nat) → List (List (List ByteRange)) → List (List (List ByteRange))
  | 0, _ => []
  | length + 1, rests =>
    let inner := (rests.flatMap fun rest => (gather rest).map Prod.snd).eraseDups
    rests ++ remainders length (inner.filter (· != [[]]))

/-- The number of different beginnings of some sequences. -/
def beginnings : (length : Nat) → List (List ByteRange) → Nat
  | 0, _ => 0
  | length + 1, sequences =>
    ((gather sequences).map fun (_, tails) => 1 + beginnings length tails).sum

/-- A character takes four bytes at most. -/
def maxBytes : Nat :=
  4

/-- The size of what reads one character of a set when reading forwards: a state for every
different rest, or one state for all of ASCII. -/
def forwardSize (s : CharSet) : Nat :=
  if isAscii s then 2 * stateSize + rangeSize * s.ranges.length
  else
    let states := (remainders maxBytes [byteSequences s]).eraseDups
    let sizes := states.map fun rest => stateSize + rangeSize * (gather rest).length
    stateSize + sizes.foldr (· + ·) 0

/-- Reading backwards, there is a state for every different beginning and a branch for every
sequence. -/
def backwardSize (s : CharSet) : Nat :=
  if isAscii s then 2 * stateSize + rangeSize * s.ranges.length
  else
    let sequences := byteSequences s
    2 * stateSize + branchSize * sequences.length + stateSize * beginnings maxBytes sequences

/-- A single character is read by one state for each of its bytes. -/
def setSize (size : CharSet → Nat) (s : CharSet) : Nat :=
  match s.ranges with
  | [(low, high)] => if low = high then stateSize * (Char.ofNat low).utf8Size else size s
  | _ => size s

mutual

/-- The pattern matches one character at least. -/
def isSolid : Pattern → Bool
  | empty => false
  | set s => !s.isEmpty
  | anchor _ => false
  | group p => isSolid p
  | sequence ps => anySolid ps
  | either ps => allSolid ps
  | times p least _ => 0 < least && isSolid p

def anySolid : List Pattern → Bool
  | [] => false
  | p :: ps => isSolid p || anySolid ps

def allSolid : List Pattern → Bool
  | [] => true
  | p :: ps => isSolid p && allSolid ps

end

/-- A repetition of something of the given size. Where it may be left out, two branches lead to it
and past it, and a last state joins them. -/
def timesSize (solid : Bool) (size least : Nat) (most : Option Nat) : Nat :=
  let loop := stateSize + 2 * branchSize
  match least, most with
  | 0, some 1 => size + loop + stateSize
  | 0, none => if solid then size + loop else size + 2 * loop + stateSize
  | least, none => least * size + loop
  | least, some most =>
    let fixed := if least = 0 then stateSize else least * size
    if most = least then fixed else fixed + stateSize + (most - least) * (size + loop)

mutual

def weight (sets : CharSet → Nat) (groups : Nat) : Pattern → Nat
  | empty => stateSize
  | set s => setSize sets s
  | anchor _ => stateSize
  | group p => groups + weight sets groups p
  | sequence ps => weightSum sets groups 0 ps
  | either ps => 2 * stateSize + weightSum sets groups branchSize ps
  | times p least most => timesSize p.isSolid (weight sets groups p) least most

def weightSum (sets : CharSet → Nat) (groups each : Nat) : List Pattern → Nat
  | [] => 0
  | p :: ps => each + weight sets groups p + weightSum sets groups each ps

end

def maxWeight : Nat :=
  10 * Nat.pow 2 20

/-- What a search needs besides the pattern itself: a loop over any bytes in front of a match, and
the end of the match. -/
def searchSize : Nat :=
  4 * stateSize + rangeSize + 2 * branchSize

/-- Reading forwards, the begin and end of every group are noted. -/
def forwardWeight (p : Pattern) : Nat :=
  searchSize + 2 * stateSize + p.weight forwardSize (2 * stateSize)

def backwardWeight (p : Pattern) : Nat :=
  searchSize + p.weight backwardSize 0

def isTooHeavy (p : Pattern) : Bool :=
  maxWeight < p.backwardWeight || maxWeight < p.forwardWeight

end JvmFacts.Pattern
