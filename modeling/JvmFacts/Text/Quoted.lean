import JvmFacts.Text.Printable

/-!
Quoted text: between double quotes, with a backslash before quotes and backslashes, and with
characters that do not print written as escapes.
-/

set_option autoImplicit false

namespace JvmFacts.Text

/-- A character that does not print and has no letter of its own is written by its code point in
hexadecimal. -/
def escape (c : Char) : List Char :=
  if c = '"' then ['\\', '"']
  else if c = '\\' then ['\\', '\\']
  else if c = '\n' then ['\\', 'n']
  else if c = '\r' then ['\\', 'r']
  else if c = '\t' then ['\\', 't']
  else if c = Char.ofNat 0 then ['\\', '0']
  else if isPrintable c then [c]
  else ['\\', 'u', Char.ofNat 0x7B] ++ Nat.toDigits 16 c.toNat ++ [Char.ofNat 0x7D]

def quote (text : String) : String :=
  String.ofList ('"' :: (text.toList.flatMap escape ++ ['"']))

end JvmFacts.Text
