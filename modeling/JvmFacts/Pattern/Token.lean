import JvmFacts.Pattern.Bracket

/-!
Tokens of patterns: parentheses, bars, repetitions, and what matches by itself.
-/

set_option autoImplicit false

namespace JvmFacts.Pattern

inductive Token where
  /-- An opening parenthesis; the match of a group can be asked for unless it says otherwise. -/
  | opening (captures : Bool) (name : Option (List Char))
  | closing
  | bar
  | repeats (least : Nat) (most : Option Nat)
  /-- A literal, a class or an anchor, with how deep it is nested in itself. -/
  | item (p : Pattern) (depth : Nat)

/-- Counts are written in decimal digits, with white space allowed around them, and are below
`2 ^ 32`. -/
def scanCount (text : List Char) : Option (Nat × List Char) :=
  let text := text.dropWhile Text.isBlank
  let digits := text.takeWhile Char.isDigit
  let n := digits.foldl (fun n c => 10 * n + (c.toNat - '0'.toNat)) 0
  if digits.isEmpty ∨ Nat.pow 2 32 ≤ n then none
  else some (n, (text.dropWhile Char.isDigit).dropWhile Text.isBlank)

/-- The bounds of a counted repetition behind its opening brace. -/
def scanBounds (text : List Char) : Option ((Nat × Option Nat) × List Char) := do
  let (least, rest) ← scanCount text
  match rest with
  | '\x7d' :: rest => some ((least, some least), rest)
  | ',' :: '\x7d' :: rest => some ((least, none), rest)
  | ',' :: rest =>
    match ← scanCount rest with
    | (most, '\x7d' :: rest) => if most < least then none else some ((least, some most), rest)
    | _ => none
  | _ => none

/-- A question mark behind a repetition asks for few repetitions; it changes no answer. -/
def dropLazy : List Char → List Char
  | '?' :: rest => rest
  | text => text

def isNameStart (c : Char) : Bool :=
  c == '_' || (wordChars.contains c && !digits.contains c)

def isNamePart (c : Char) : Bool :=
  wordChars.contains c || c == '.' || c == '[' || c == ']'

/-- The name of a group, up to the bracket that closes it. -/
def scanName (text : List Char) : Option (List Char × List Char) :=
  match text.takeWhile (· != '>'), text.dropWhile (· != '>') with
  | first :: more, _ :: after =>
    if isNameStart first && more.all isNamePart then some (first :: more, after) else none
  | _, _ => none

/-- The kind of a group, behind its opening parenthesis. -/
def scanGroupKind : List Char → Option (Token × List Char)
  | '?' :: ':' :: rest => some (.opening false none, rest)
  | '?' :: 'P' :: '<' :: rest => named rest
  | '?' :: '<' :: rest => named rest
  | '?' :: _ => none
  | text => some (.opening true none, text)
where
  named (text : List Char) : Option (Token × List Char) :=
    (scanName text).map fun (name, rest) => (.opening true (some name), rest)

def Escaped.toPattern : Escaped → Pattern
  | char c => .set (.single c)
  | set s => .set s
  | anchor a => .anchor a

/-- The first token of a text. Closing brackets and braces stand for themselves. -/
def scanToken : List Char → Option (Token × List Char)
  | [] => none
  | '(' :: rest => scanGroupKind rest
  | ')' :: rest => some (.closing, rest)
  | '|' :: rest => some (.bar, rest)
  | '?' :: rest => some (.repeats 0 (some 1), dropLazy rest)
  | '*' :: rest => some (.repeats 0 none, dropLazy rest)
  | '+' :: rest => some (.repeats 1 none, dropLazy rest)
  | '\x7b' :: rest =>
    (scanBounds rest).map fun ((least, most), rest) => (.repeats least most, dropLazy rest)
  | '[' :: rest => (scanClass rest).map fun (k, rest) => (.item (.set k.set) k.depth, rest)
  | '\\' :: rest => (scanEscape rest).map fun (e, rest) => (.item e.toPattern 0, rest)
  | '.' :: rest => some (.item (.set (Text.CharSet.single '\n').compl) 0, rest)
  | '^' :: rest => some (.item (.anchor .textStart) 0, rest)
  | '$' :: rest => some (.item (.anchor .textEnd) 0, rest)
  | c :: rest => some (.item (.set (.single c)) 0, rest)

def scanTokens : (fuel : Nat) → (found : List Token) → List Char → Option (List Token)
  | _, found, [] => some found.reverse
  | 0, _, _ => none
  | fuel + 1, found, text => do
    let (token, rest) ← scanToken text
    scanTokens fuel (token :: found) rest

/-- The tokens of a whole text. Every token takes a character at least. -/
def tokens? (text : List Char) : Option (List Token) :=
  scanTokens text.length [] text

end JvmFacts.Pattern
