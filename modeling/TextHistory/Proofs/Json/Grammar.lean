import TextHistory.Json.Value

/-!
# The texts of JSON

What a JSON text says (`Datum`), and every text that says it (`Spells`). The writer of the library
has one text for each of its values; a text that somebody else wrote may have blanks wherever JSON
allows them, numbers with signs, fractions and exponents, and characters spelt as escapes. This is
the grammar of all such texts. It is stated without a reader, so that a reader can be held against
it.

A number is kept as it is spelt, since what it comes to is up to who reads it.

In a string a character stands for itself, or behind a backslash as a letter or as a code: one code
up to U+FFFF, and beyond that a pair of two. The code is that of the character, and no character
has the code of half a pair. So a lone half of a pair spells nothing, without a rule against it.

The items of an array come behind its bracket, and the members of an object behind its brace, each
behind a separator: only blanks before the first one, and a comma with blanks around it before each
other one.
-/

namespace TextHistory.Json

/-! ### Blanks, strings and numbers -/

/-- The four blanks, and nothing else. -/
def Blank (w : List Char) : Prop := ∀ c ∈ w, c = ' ' ∨ c = '\n' ∨ c = '\t' ∨ c = '\r'

instance (w : List Char) : Decidable (Blank w) := List.decidableBAll _ w

/-- A hexadecimal digit of either case. -/
def IsHexDigit (n : Nat) (c : Char) : Prop :=
  n < 16 ∧ (c = hexDigit n ∨ c = (hexDigit n).toUpper)

/-- A code as four hexadecimal digits. -/
inductive SpellsCode : Nat → List Char → Prop
  | digits {i j k l : Nat} {a b c d : Char} (ha : IsHexDigit i a) (hb : IsHexDigit j b)
      (hc : IsHexDigit k c) (hd : IsHexDigit l d) :
      SpellsCode (((i * 16 + j) * 16 + k) * 16 + l) [a, b, c, d]

/-- The letters that stand for a character behind a backslash, each with the character. -/
def escapeLetters : List (Char × Char) :=
  [('"', '"'), ('\\', '\\'), ('/', '/'), ('b', '\x08'), ('f', '\x0c'), ('n', '\n'), ('r', '\r'),
    ('t', '\t')]

/-- A character in a string. -/
inductive SpellsChar : Char → List Char → Prop
  /-- The character as it is. -/
  | plain {c : Char} (hquote : c ≠ '"') (hbackslash : c ≠ '\\') (hc : 0x20 ≤ c.toNat) :
      SpellsChar c [c]
  /-- The character as a letter. -/
  | letter {c d : Char} (h : (d, c) ∈ escapeLetters) : SpellsChar c ['\\', d]
  /-- The character as its code. -/
  | code {c : Char} {s : List Char} (h : SpellsCode c.toNat s) : SpellsChar c ('\\' :: 'u' :: s)
  /-- The character as a pair of codes. -/
  | pair {c : Char} {s t : List Char} (hc : 0x10000 ≤ c.toNat)
      (hs : SpellsCode (0xD800 + (c.toNat - 0x10000) / 0x400) s)
      (ht : SpellsCode (0xDC00 + (c.toNat - 0x10000) % 0x400) t) :
      SpellsChar c ('\\' :: 'u' :: (s ++ '\\' :: 'u' :: t))

/-- Characters in a string, one after the other. -/
inductive SpellsChars : List Char → List Char → Prop
  | nil : SpellsChars [] []
  | cons {c : Char} {cs s t : List Char} (hc : SpellsChar c s) (hcs : SpellsChars cs t) :
      SpellsChars (c :: cs) (s ++ t)

/-- A string between its quotes. -/
inductive SpellsString : String → List Char → Prop
  | quoted {s : String} {t : List Char} (h : SpellsChars s.toList t) :
      SpellsString s ('"' :: (t ++ ['"']))

/-- Digits, at least one. -/
def Digits (ds : List Char) : Prop := ds ≠ [] ∧ ∀ d ∈ ds, d.isDigit = true

instance (ds : List Char) : Decidable (Digits ds) :=
  have := List.decidableBAll (fun d : Char ↦ d.isDigit = true) ds
  instDecidableAnd

/-- The digits before a decimal point: a zero alone, or no zero in front. -/
inductive IsWhole : List Char → Prop
  | zero : IsWhole ['0']
  | digits {d : Char} {ds : List Char} (hd : d ≠ '0') (h : Digits (d :: ds)) : IsWhole (d :: ds)

/-- A decimal point with digits, or nothing. -/
inductive IsFraction : List Char → Prop
  | none : IsFraction []
  | some {ds : List Char} (h : Digits ds) : IsFraction ('.' :: ds)

/-- An exponent, or nothing. -/
inductive IsExponent : List Char → Prop
  | none : IsExponent []
  | some {e : Char} {sign ds : List Char} (he : e = 'e' ∨ e = 'E')
      (hsign : sign ∈ [[], ['+'], ['-']]) (h : Digits ds) : IsExponent (e :: (sign ++ ds))

/-- A number. -/
inductive IsNumber : List Char → Prop
  | parts {sign whole fraction exponent : List Char} (hsign : sign ∈ [[], ['-']])
      (hwhole : IsWhole whole) (hfraction : IsFraction fraction) (hexponent : IsExponent exponent) :
      IsNumber (sign ++ (whole ++ (fraction ++ exponent)))

/-! ### Values -/

/-- What a JSON text says. -/
inductive Datum
  /-- Nothing. -/
  | null
  /-- A truth value. -/
  | bool (b : Bool)
  /-- A number as it is spelt. -/
  | number (literal : List Char)
  /-- A text. -/
  | string (s : String)
  /-- A list. -/
  | array (items : List Datum)
  /-- Named members in their order. A name may come again. -/
  | object (members : List (String × Datum))

/-- What stands before an item or a member: blanks before the first, and a comma with blanks around
it before each other one. -/
inductive Separator : Bool → List Char → Prop
  | first {w : List Char} (hw : Blank w) : Separator true w
  | comma {w w' : List Char} (hw : Blank w) (hw' : Blank w') : Separator false (w ++ ',' :: w')

mutual

/-- The texts of a value, without blanks around them. -/
inductive Spells : Datum → List Char → Prop
  | null : Spells .null ['n', 'u', 'l', 'l']
  | truth : Spells (.bool true) ['t', 'r', 'u', 'e']
  | falsity : Spells (.bool false) ['f', 'a', 'l', 's', 'e']
  | number {cs : List Char} (h : IsNumber cs) : Spells (.number cs) cs
  | string {s : String} {t : List Char} (h : SpellsString s t) : Spells (.string s) t
  | array {vs : List Datum} {t : List Char} (h : SpellsItems true vs t) :
      Spells (.array vs) ('[' :: t)
  | object {ms : List (String × Datum)} {t : List Char} (h : SpellsMembers true ms t) :
      Spells (.object ms) ('\x7b' :: t)

/-- Items up to the end of their array, the first of which may be the first of all. -/
inductive SpellsItems : Bool → List Datum → List Char → Prop
  | nil {first : Bool} {w : List Char} (hw : Blank w) : SpellsItems first [] (w ++ [']'])
  | cons {first : Bool} {v : Datum} {vs : List Datum} {s t r : List Char}
      (hs : Separator first s) (hv : Spells v t) (hvs : SpellsItems false vs r) :
      SpellsItems first (v :: vs) (s ++ (t ++ r))

/-- Members up to the end of their object, the first of which may be the first of all. -/
inductive SpellsMembers : Bool → List (String × Datum) → List Char → Prop
  | nil {first : Bool} {w : List Char} (hw : Blank w) : SpellsMembers first [] (w ++ ['\x7d'])
  | cons {first : Bool} {name : String} {v : Datum} {ms : List (String × Datum)}
      {s n w w' t r : List Char} (hs : Separator first s) (hn : SpellsString name n) (hw : Blank w)
      (hw' : Blank w') (hv : Spells v t) (hms : SpellsMembers false ms r) :
      SpellsMembers first ((name, v) :: ms) (s ++ (n ++ (w ++ ':' :: (w' ++ (t ++ r)))))

end

/-- A whole text that says `v`: a text of it, with blanks around it. -/
inductive IsTextOf (v : Datum) : List Char → Prop
  | padded {w t w' : List Char} (hw : Blank w) (ht : Spells v t) (hw' : Blank w') :
      IsTextOf v (w ++ (t ++ w'))

/-! ### What the writer writes -/

theorem blank_nil : Blank [] := by simp [Blank]

theorem isHexDigit_hexDigit {n : Nat} (hn : n < 16) : IsHexDigit n (hexDigit n) :=
  ⟨hn, .inl rfl⟩

theorem spellsChar_escapeChar (c : Char) : SpellsChar c (escapeChar c) := by
  unfold escapeChar
  split
  next h => exact .letter (by rw [h]; decide)
  next hquote =>
  split
  next h => exact .letter (by rw [h]; decide)
  next hbackslash =>
  split
  next h => exact .letter (by rw [h]; decide)
  split
  next h => exact .letter (by rw [h]; decide)
  split
  next h => exact .letter (by rw [h]; decide)
  split
  next h => exact .letter (by rw [h]; decide)
  split
  next h => exact .letter (by rw [h]; decide)
  split
  next hc =>
    have hzero : IsHexDigit 0 '0' := ⟨by decide, .inl rfl⟩
    have hhigh : IsHexDigit (c.toNat / 16) _ := isHexDigit_hexDigit (by omega)
    have hlow : IsHexDigit (c.toNat % 16) _ := isHexDigit_hexDigit (by omega)
    have hcode := SpellsCode.digits hzero hzero hhigh hlow
    have hvalue : ((0 * 16 + 0) * 16 + c.toNat / 16) * 16 + c.toNat % 16 = c.toNat := by omega
    rw [hvalue] at hcode
    exact .code hcode
  next hc => exact .plain hquote hbackslash (Nat.le_of_not_lt hc)

theorem spellsChars_flatMap (cs : List Char) : SpellsChars cs (cs.flatMap escapeChar) := by
  induction cs with
  | nil => exact .nil
  | cons c cs ih => exact .cons (spellsChar_escapeChar c) ih

theorem spellsString_stringChars (s : String) : SpellsString s (stringChars s.toList) :=
  .quoted (spellsChars_flatMap s.toList)

theorem digits_toDigits (n : Nat) : Digits (Nat.toDigits 10 n) :=
  ⟨Nat.toDigits_ne_nil, fun _ hd ↦ Nat.isDigit_of_mem_toDigits (by decide) (by decide) hd⟩

end TextHistory.Json
