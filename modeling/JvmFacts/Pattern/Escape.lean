import JvmFacts.Pattern.Basic
import JvmFacts.Text.Blank
import JvmFacts.Text.Hex

/-!
Escapes: what follows a backslash in a pattern.

Punctuation stands for itself, letters stand for single characters, for sets of characters or for
anchors, and a character can be given by the number of its code point.
-/

set_option autoImplicit false

namespace JvmFacts.Pattern

open Text

inductive Escaped where
  | char (c : Char)
  | set (s : CharSet)
  | anchor (a : Anchor)

/-- The characters that stand for themselves behind a backslash. -/
def isPunctuation (c : Char) : Bool :=
  c.toNat < 128 && !c.isAlphanum && c != '<' && c != '>'

def escapeOf? : Char → Option Escaped
  | 'd' => some (.set digits)
  | 'D' => some (.set digits.compl)
  | 'w' => some (.set wordChars)
  | 'W' => some (.set wordChars.compl)
  | 's' => some (.set blanks)
  | 'S' => some (.set blanks.compl)
  | 'a' => some (.char '\x07')
  | 't' => some (.char '\t')
  | 'n' => some (.char '\n')
  | 'v' => some (.char '\x0b')
  | 'f' => some (.char '\x0c')
  | 'r' => some (.char '\r')
  | 'A' => some (.anchor .textStart)
  | 'z' => some (.anchor .textEnd)
  | 'b' => some (.anchor .wordEdge)
  | 'B' => some (.anchor .noWordEdge)
  | '<' => some (.anchor .wordStart)
  | '>' => some (.anchor .wordEnd)
  | c => if isPunctuation c then some (.char c) else none

/-- The number of hexadecimal digits that have to follow a letter. -/
def codeWidth? : Char → Option Nat
  | 'x' => some 2
  | 'u' => some 4
  | 'U' => some 8
  | _ => none

/-- The character with a hexadecimal number; surrogates have none. -/
def charOfHex? (digits : List Char) : Option Char := do
  let code ← hexValue? (String.ofList digits)
  if code.isValidChar then some (Char.ofNat code) else none

/-- A number in braces, or of the width that the letter before it asks for. -/
def scanCode (width : Nat) : List Char → Option (Char × List Char)
  | '\x7b' :: rest =>
    match rest.dropWhile (· != '\x7d') with
    | [] => none
    | _ :: after => (charOfHex? (rest.takeWhile (· != '\x7d'))).map (·, after)
  | text =>
    if text.length < width then none
    else (charOfHex? (text.take width)).map (·, text.drop width)

/-- An escape behind its backslash. -/
def scanEscape : List Char → Option (Escaped × List Char)
  | [] => none
  | c :: rest =>
    match codeWidth? c with
    | some width => (scanCode width rest).map fun (c, rest) => (.char c, rest)
    | none => (escapeOf? c).map (·, rest)

end JvmFacts.Pattern
