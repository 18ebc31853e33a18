import TextHistory.Unicode.Extending
import TextHistory.Unicode.Unprinted

/-!
# Quoted texts

How a text is shown inside a message: between double quotes, with an escape for every character
that would be invisible, would end the quotation, or would change its neighbours. Everything
else stands as it is, so a quotation can be read.
-/

namespace TextHistory

namespace Quoted

/-- The digits of a code point, in lower-case hexadecimal without leading zeros. -/
def hexDigits (n : Nat) : List Char := Nat.toDigits 16 n

/-- Whether a character is written by its code point: it does not print, or it would attach
itself to the character before it. -/
def needsCodePoint (c : Char) : Bool :=
  !(' ' ≤ c && c ≤ '~') &&
    (CharSet.unprinted.contains c || CharSet.attaching.contains c ||
      CharSet.defaultIgnorable.contains c)

/-- A character as it stands between the quotes. -/
def encodeChar (c : Char) : List Char :=
  if c = '"' then ['\\', '"']
  else if c = '\\' then ['\\', '\\']
  else if c = '\t' then ['\\', 't']
  else if c = '\r' then ['\\', 'r']
  else if c = '\n' then ['\\', 'n']
  else if c = '\x00' then ['\\', '0']
  else if needsCodePoint c then ['\\', 'u', '\x7b'] ++ hexDigits c.toNat ++ ['\x7d']
  else [c]

end Quoted

/-- A text in double quotes. -/
def quoted (s : String) : String :=
  String.ofList ('"' :: s.toList.flatMap Quoted.encodeChar ++ ['"'])

end TextHistory
