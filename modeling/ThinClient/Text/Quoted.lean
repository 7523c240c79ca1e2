import ThinClient.Text.SpelledTable

/-!
# Quoted text

Messages show a text between double quotes. A quote and a backslash inside it are preceded by a
backslash, the usual control characters have their short names, and every other character without
a visible sign of its own is spelled as its number in hexadecimal between braces.
-/

namespace ThinClient.Quoted

/-- Whether quoted text spells a character as its number. -/
def isSpelled (c : Char) : Bool :=
  spelledRanges.any fun r => r.1 ≤ c.toNat && c.toNat ≤ r.2

/-- How quoted text shows one character. -/
def char (c : Char) : List Char :=
  if c = '"' then ['\\', '"']
  else if c = '\\' then ['\\', '\\']
  else if c = '\n' then ['\\', 'n']
  else if c = '\r' then ['\\', 'r']
  else if c = '\t' then ['\\', 't']
  else if c = '\x00' then ['\\', '0']
  else if isSpelled c then '\\' :: 'u' :: '\x7b' :: Nat.toDigits 16 c.toNat ++ ['\x7d']
  else [c]

/-- A text between quotes. -/
def text (s : String) : String :=
  String.ofList ('"' :: s.toList.flatMap char ++ ['"'])

end ThinClient.Quoted
