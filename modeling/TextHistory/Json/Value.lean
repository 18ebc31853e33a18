/-!
# JSON values and their texts

The values that the library writes as JSON, and the one text of each: compact, with the members
of an object in the order given. Numbers are natural numbers, in decimal.

A text is quoted with as few escapes as JSON allows: quotes, backslashes and characters below
U+0020, the common ones of these by a letter and the others by their code in lower-case digits.
-/

namespace TextHistory.Json

/-- A JSON value as the library writes it. -/
inductive Value
  /-- Nothing. -/
  | null
  /-- A truth value. -/
  | bool (b : Bool)
  /-- A natural number. -/
  | number (n : Nat)
  /-- A text. -/
  | string (s : String)
  /-- A list of values. -/
  | array (vs : List Value)
  /-- Named values, in the order in which they are written. -/
  | object (members : List (String × Value))

/-- The character of a hexadecimal digit. -/
def hexDigit (n : Nat) : Char := if n < 10 then Char.ofNat (48 + n) else Char.ofNat (87 + n)

/-- A character as it stands in a JSON string. -/
def escapeChar (c : Char) : List Char :=
  if c = '"' then ['\\', '"']
  else if c = '\\' then ['\\', '\\']
  else if c = '\x08' then ['\\', 'b']
  else if c = '\x0c' then ['\\', 'f']
  else if c = '\n' then ['\\', 'n']
  else if c = '\r' then ['\\', 'r']
  else if c = '\t' then ['\\', 't']
  else if c.toNat < 0x20 then
    ['\\', 'u', '0', '0', hexDigit (c.toNat / 16), hexDigit (c.toNat % 16)]
  else [c]

/-- The JSON string of a text. -/
def stringChars (cs : List Char) : List Char := '"' :: cs.flatMap escapeChar ++ ['"']

namespace Value

/-- The value of something that may be missing. -/
def ofOption {α : Type} (f : α → Value) : Option α → Value
  | none => null
  | some a => f a

mutual

/-- The text of a value. -/
def chars : Value → List Char
  | null => ['n', 'u', 'l', 'l']
  | bool true => ['t', 'r', 'u', 'e']
  | bool false => ['f', 'a', 'l', 's', 'e']
  | number n => Nat.toDigits 10 n
  | string s => stringChars s.toList
  | array [] => ['[', ']']
  | array (v :: vs) => '[' :: v.chars ++ itemChars vs
  | object [] => ['\x7b', '\x7d']
  | object ((name, v) :: ms) =>
    '\x7b' :: stringChars name.toList ++ ':' :: v.chars ++ memberChars ms

/-- The text of the remaining items of an array, up to its end. -/
def itemChars : List Value → List Char
  | [] => [']']
  | v :: vs => ',' :: v.chars ++ itemChars vs

/-- The text of the remaining members of an object, up to its end. -/
def memberChars : List (String × Value) → List Char
  | [] => ['\x7d']
  | (name, v) :: ms => ',' :: stringChars name.toList ++ ':' :: v.chars ++ memberChars ms

end

/-- The text of a value. -/
def text (v : Value) : String := String.ofList v.chars

end Value

end TextHistory.Json
