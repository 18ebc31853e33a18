import TextHistory.Unicode.Emoji
import TextHistory.Unicode.Extending
import TextHistory.Unicode.Joining
import TextHistory.Unicode.Wide

/-!
# Display width

How many columns a text takes on a terminal. Most characters take none, one or two columns by
themselves (`DisplayWidth.alone`), but some sequences are shown as one shape, and then the whole
sequence has the width of the shape: an emoji with a variation selector, a skin tone or a chain
of joiners, a flag, an Arabic lam with its alef, and a few ligatures of other scripts.

The text is read from its end. What a character adds depends only on itself and on what stands
to its right, and of that it is enough to remember a `Following`: how far the shape that begins
there has come, and whether a variation selector waits for its base. A shape counts its columns
at its right end, so the characters further left usually add nothing; where a shape turns out
narrower than was counted, they add a negative number.

The properties of characters are those of Unicode 15.1.
-/

namespace TextHistory

namespace DisplayWidth

/-- How far the shape that begins to the right of a character has come. -/
inductive Shape
  /-- No shape that could still grow to the left. -/
  | plain
  /-- A line feed, which a carriage return joins. -/
  | lineFeed
  /-- A skin tone, which a person joins. -/
  | skinTone
  /-- A regional indicator. -/
  | region
  /-- A pair of regional indicators. -/
  | flag
  /-- A whole emoji. -/
  | emoji
  /-- A joiner and an emoji. -/
  | joinedEmoji
  /-- A keycap before a joiner and an emoji. -/
  | joinedKeycap
  /-- One regional indicator before a joiner and an emoji. -/
  | joinedRegion
  /-- An even number of regional indicators before a joiner and an emoji. -/
  | joinedFlag
  /-- An odd number of them, more than one. -/
  | joinedFlagAndRegion
  /-- The end of a tag sequence before a joiner and an emoji. -/
  | tagEnd
  /-- As many tag digits at the end of a tag sequence. -/
  | tagDigits (count : Nat)
  /-- As many tag letters at the end of a tag sequence. -/
  | tagLetters (count : Nat)
  /-- An Arabic alef. -/
  | alef
  /-- A Hebrew lamed. -/
  | lamed
  /-- A joiner and a Hebrew lamed. -/
  | joinedLamed
  /-- A Buginese ya. -/
  | ya
  /-- A joiner and a Buginese ya. -/
  | joinedYa
  /-- A Buginese vowel sign before a joiner and a ya. -/
  | vowelSignYa
  /-- A Tifinagh consonant. -/
  | tifinagh
  /-- A joiner and a Tifinagh consonant. -/
  | joinedTifinagh
  /-- The Tifinagh consonant joiner and a consonant. -/
  | tifinaghJoiner
  /-- A Lisu tone letter that takes another before it. -/
  | lisuTone
  /-- An Old Turkic orkhon i. -/
  | orkhonI
  /-- A joiner and an Old Turkic orkhon i. -/
  | joinedOrkhonI
  /-- A Khmer letter that can stand below another. -/
  | khmerLetter
deriving DecidableEq

namespace Shape

/-- Whether marks between the parts of the shape leave it whole. -/
def isTransparent : Shape → Bool
  | lamed | joinedLamed | ya | joinedYa | vowelSignYa | tifinagh | joinedTifinagh
  | tifinaghJoiner | lisuTone | orkhonI | joinedOrkhonI | khmerLetter => true
  | _ => false

/-- Whether the shape is one of letters, which variation selectors do not end. -/
def isLigature (s : Shape) : Bool := s == alef || s.isTransparent

/-- Whether the shape is an emoji or a keycap behind a joiner, whose columns are counted. -/
def isJoined (s : Shape) : Bool := s == joinedEmoji || s == joinedKeycap

/-- The shape with a joiner before it. -/
def join : Shape → Shape
  | lamed => joinedLamed
  | ya => joinedYa
  | tifinagh => joinedTifinagh
  | orkhonI => joinedOrkhonI
  | s => s

end Shape

/-- What stands to the right of a character. -/
structure Following where
  /-- How far the shape there has come. -/
  shape : Shape
  /-- Whether a selector there asks for an emoji. -/
  asEmoji : Bool
  /-- Whether a selector there asks for text. -/
  asText : Bool
deriving DecidableEq

/-- A shape without a selector before it. -/
def Following.ofShape (s : Shape) : Following := ⟨s, false, false⟩

instance : Coe Shape Following := ⟨.ofShape⟩

namespace Following

variable (f : Following)

/-- What the selector for emoji leaves. -/
def selectEmoji : Following :=
  if f.shape.isLigature || f.shape.isJoined then { f with asEmoji := true }
  else ⟨.plain, true, false⟩

/-- What is left when the selector for emoji finds no base. -/
def dropEmoji : Following :=
  if f.shape.isLigature then { f with asEmoji := false } else Shape.plain

/-- What the selector for text leaves. -/
def selectText : Following :=
  if f.shape.isLigature then { f with asText := true } else ⟨.plain, false, true⟩

/-- What is left when the selector for text finds no base. -/
def dropText : Following := { f with asText := false }

end Following

/-! ### Kinds of characters -/

/-- Whether the code point of a character lies between two bounds. -/
def between (c : Char) (lo hi : Nat) : Bool := lo ≤ c.toNat && c.toNat ≤ hi

/-- Regional indicators, which pair up to flags. -/
def isRegion (c : Char) : Bool := between c 0x1F1E6 0x1F1FF

/-- The five skin tones. -/
def isSkinTone (c : Char) : Bool := between c 0x1F3FB 0x1F3FF

/-- Tifinagh consonants. -/
def isTifinagh (c : Char) : Bool := between c 0x2D31 0x2D65 || c == '\u2D6F'

/-- Khmer letters that can stand below another. -/
def isKhmerLetter (c : Char) : Bool :=
  between c 0x1780 0x1782 || between c 0x1784 0x1787 || between c 0x1789 0x178C ||
    between c 0x178E 0x1793 || between c 0x1795 0x1798 || between c 0x179B 0x179D ||
    c == '\u17A0' || c == '\u17A2' || c == '\u17A7' || between c 0x17AB 0x17AC || c == '\u17AF'

/-- Marks that leave a shape of letters whole. -/
def isTransparentMark (c : Char) : Bool :=
  c == '\u034F' || between c 0x17B4 0x17B5 || between c 0x180B 0x180D || c == '\u180F' ||
    c == '\u200D' || between c 0xFE00 0xFE0F || between c 0xE0100 0xE01EF

/-- Bases whose text form is narrower than their emoji form. -/
def hasNarrowText (c : Char) : Bool :=
  CharSet.emojiVariationBase.contains c && CharSet.emojiPresentation.contains c &&
    !between c 0x1F200 0x1F2FF

/-- Characters without columns: marks that combine, characters to be ignored, the later parts of
a Hangul syllable, and signs that a later character carries. -/
def isZeroWidth (c : Char) : Bool :=
  c != '\u115F' && c != '\u2D7F' &&
    (CharSet.graphemeExtend.contains c || CharSet.defaultIgnorable.contains c ||
      between c 0x1160 0x11FF || between c 0xD7B0 0xD7C6 || between c 0xD7CB 0xD7FB ||
      CharSet.contains ⟨#[(0x605, 0x605), (0x70F, 0x70F), (0x890, 0x891), (0x8E2, 0x8E2),
        (0xCC0, 0xCC0), (0xCC7, 0xCC8), (0xCCA, 0xCCB), (0xD4E, 0xD4E), (0x1B3B, 0x1B3B),
        (0x1B3D, 0x1B3D), (0x1B43, 0x1B43), (0xA8FA, 0xA8FA), (0x111C2, 0x111C3),
        (0x1193F, 0x1193F), (0x11941, 0x11941), (0x11A3A, 0x11A3A), (0x11A84, 0x11A89),
        (0x11D46, 0x11D46), (0x11F02, 0x11F02)]⟩ c)

/-! ### Reading from the end -/

/-- The width of a character by itself, and what it is to the character on its left. -/
def alone (c : Char) : Nat × Following :=
  if c == '\u05DC' then (1, Shape.lamed)
  else if CharSet.alefGroup.contains c then (1, Shape.alef)
  else if isKhmerLetter c then (1, Shape.khmerLetter)
  else if c == '\u17A4' then (2, Shape.plain)
  else if c == '\u17D8' then (3, Shape.plain)
  else if c == '\u1A10' then (1, Shape.ya)
  else if isTifinagh c then (1, Shape.tifinagh)
  else if between c 0xA4FC 0xA4FD then (1, Shape.lisuTone)
  else if c == '\uFE0E' then (0, ⟨.plain, false, true⟩)
  else if c == '\uFE0F' then (0, ⟨.plain, true, false⟩)
  else if c.toNat == 0x10C03 then (1, Shape.orkhonI)
  else if isRegion c then (1, Shape.region)
  else if isSkinTone c then (2, Shape.skinTone)
  else if CharSet.emojiPresentation.contains c then (2, Shape.emoji)
  else if isZeroWidth c then (0, Shape.plain)
  else if CharSet.wide.contains c then (2, Shape.plain)
  else (1, Shape.plain)

/-- What a character adds that continues a shape, and the shape then. -/
def continues (c : Char) : Shape → Option (Int × Shape)
  | .alef =>
    if CharSet.lamGroup.contains c then some (0, .plain)
    else if CharSet.joiningTransparent.contains c && (alone c).1 == 0 then some (0, .alef)
    else none
  | .joinedLamed => if c == '\u05D0' then some (0, .plain) else none
  | .khmerLetter => if c == '\u17D2' then some (-1, .plain) else none
  | .joinedYa => if c == '\u1A17' then some (0, .vowelSignYa) else none
  | .vowelSignYa => if c == '\u1A15' then some (0, .plain) else none
  | .tifinagh => if c == '\u2D7F' then some (1, .tifinaghJoiner) else none
  | .joinedTifinagh =>
    if c == '\u2D7F' then some (1, .tifinaghJoiner)
    else if isTifinagh c then some (0, .plain)
    else none
  | .tifinaghJoiner => if isTifinagh c then some (-1, .plain) else none
  | .lisuTone => if between c 0xA4F8 0xA4FB then some (0, .plain) else none
  | .joinedOrkhonI => if c.toNat == 0x10C32 then some (0, .plain) else none
  | .skinTone =>
    if CharSet.emojiModifierBase.contains c then some (0, .emoji)
    else if c == '\u200D' then some (0, .joinedEmoji)
    else none
  | .region => if isRegion c then some (1, .flag) else none
  | .flag =>
    if isRegion c then some (1, .flag)
    else if c == '\u200D' then some (0, .joinedEmoji)
    else none
  | .emoji => if c == '\u200D' then some (0, .joinedEmoji) else none
  | .joinedFlag =>
    if c == '\u200D' then some (0, .joinedEmoji)
    else if isRegion c then some (3, .joinedFlagAndRegion)
    else none
  | .joinedFlagAndRegion =>
    if c == '\u200D' then some (0, .joinedEmoji)
    else if isRegion c then some (-1, .joinedFlag)
    else none
  | .joinedRegion => if isRegion c then some (-1, .joinedFlag) else none
  | .joinedEmoji =>
    if c == '\u20E3' then some (0, .joinedKeycap)
    else if isRegion c then some (1, .joinedRegion)
    else if isSkinTone c then some (0, .skinTone)
    else if c.toNat == 0xE007F then some (0, .tagEnd)
    else if (alone c).2 == Following.ofShape .emoji then some (0, .emoji)
    else none
  | .tagEnd =>
    if between c 0xE0061 0xE007A then some (0, .tagLetters 1)
    else if between c 0xE0030 0xE0039 then some (0, .tagDigits 1)
    else none
  | .tagLetters n =>
    if n < 6 && between c 0xE0061 0xE007A then some (0, .tagLetters (n + 1))
    else if n < 5 && between c 0xE0030 0xE0039 then some (0, .tagDigits 1)
    else if 3 ≤ n && c.toNat == 0x1F3F4 then some (0, .emoji)
    else none
  | .tagDigits n =>
    if n < 3 && between c 0xE0030 0xE0039 then some (0, .tagDigits (n + 1))
    else if n == 3 && c.toNat == 0x1F3F4 then some (0, .emoji)
    else none
  | _ => none

/-- What a character above U+00A0 adds, once no selector for emoji waits to its right. -/
def addSpecial (c : Char) (f : Following) : Int × Following :=
  if c == '\uFE0F' then (0, f.selectEmoji)
  else if c == '\uFE0E' then (0, f.selectText)
  else if f.asText && hasNarrowText c then (1, Shape.plain)
  else
    let f := f.dropText
    if f.shape.isTransparent && c == '\u200D' then (0, f.shape.join)
    else if f.shape.isTransparent && isTransparentMark c then (0, f)
    else
      match continues c f.shape with
      | some (width, shape) => (width, shape)
      | none => ((alone c).1, (alone c).2)

/-- What a character adds to the width, given what stands to its right, and what stands to the
right of the character before it. -/
def add (c : Char) (f : Following) : Int × Following :=
  if f.asEmoji && CharSet.emojiVariationBase.contains c then
    (if f.shape.isJoined then 0 else 2, Shape.emoji)
  else
    let f := if f.asEmoji then f.dropEmoji else f
    if c ≤ '\u00A0' then
      if c == '\n' then (1, Shape.lineFeed)
      else if c == '\r' && f == Following.ofShape .lineFeed then (0, Shape.plain)
      else (1, Shape.plain)
    else addSpecial c f

end DisplayWidth

/-- The number of columns that a text takes. -/
def displayWidth (s : String) : Nat :=
  (s.toList.foldr
    (fun c r ↦ let (width, f) := DisplayWidth.add c r.2; (r.1 + width, f))
    ((0 : Int), DisplayWidth.Following.ofShape .plain)).1.toNat

end TextHistory
