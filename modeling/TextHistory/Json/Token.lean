import TextHistory.Json.Failure
import TextHistory.Json.Floating

/-!
# Tokens of JSON texts

Readers of the smallest parts of a JSON text: blanks, literal names, strings and numbers. Each
takes the unread text and gives what it read with the text that is left, or a failure. None gives
back more than it got, and the readers of strings and numbers always use something up
(`length_readString`, `length_readNumber`, …); readers of larger parts end because of that.
-/

namespace TextHistory.Json

/-- What a reader gives: something read and the text that is left, or a failure. -/
abbrev Result (α : Type) := Except Failure (α × List Char)

/-- A failure behind everything that was read. -/
def failHere {α : Type} (cause : Cause) (s : List Char) : Except Failure α := .error ⟨cause, s, 0⟩

/-- A failure at the next byte. -/
def failNext {α : Type} (cause : Cause) (s : List Char) : Except Failure α := .error ⟨cause, s, 1⟩

/-! ### Blanks and literal names -/

/-- Blanks between the parts of a JSON text. -/
def isSpace (c : Char) : Bool := c == ' ' || c == '\n' || c == '\t' || c == '\r'

/-- The text from the next character on that is not a blank. -/
def skipSpace (s : List Char) : List Char := s.dropWhile isSpace

theorem length_skipSpace (s : List Char) : (skipSpace s).length ≤ s.length :=
  (List.dropWhile_sublist isSpace).length_le

/-- Reads the rest of a literal name. -/
def readIdent : List Char → List Char → Except Failure (List Char)
  | [], s => .ok s
  | _ :: _, [] => failHere .endInValue []
  | e :: es, c :: s => if c = e then readIdent es s else failNext .expectedIdent (c :: s)

theorem length_readIdent {es s r : List Char} (h : readIdent es s = .ok r) :
    r.length ≤ s.length := by
  induction es generalizing s with
  | nil =>
    simp only [readIdent, Except.ok.injEq] at h
    simp [h]
  | cons e es ih =>
    rcases s with - | ⟨c, s⟩
    · simp [readIdent, failHere] at h
    · simp only [readIdent] at h
      split at h
      · exact Nat.le_succ_of_le (ih h)
      · simp [failNext] at h

/-! ### Strings -/

/-- The value of a hexadecimal digit. -/
def hexValue? (c : Char) : Option Nat :=
  if '0' ≤ c && c ≤ '9' then some (c.toNat - 48)
  else if 'a' ≤ c && c ≤ 'f' then some (c.toNat - 87)
  else if 'A' ≤ c && c ≤ 'F' then some (c.toNat - 55)
  else none

/-- The value of four hexadecimal digits. -/
def hexValue4? (a b c d : Char) : Option Nat := do
  let a ← hexValue? a
  let b ← hexValue? b
  let c ← hexValue? c
  let d ← hexValue? d
  return ((a * 16 + b) * 16 + c) * 16 + d

/-- Reads four hexadecimal digits. A text of fewer than four bytes has ended too early; in a
longer one the first four bytes are wrong. -/
def readHex4 (s : List Char) : Result Nat :=
  match s with
  | a :: b :: c :: d :: r =>
    match hexValue4? a b c d with
    | some n => .ok (n, r)
    | none => .error ⟨.invalidEscape, s, 4⟩
  | _ =>
    if byteCount s < 4 then failHere .endInString [] else .error ⟨.invalidEscape, s, 4⟩

theorem length_readHex4 {s r : List Char} {n : Nat} (h : readHex4 s = .ok (n, r)) :
    r.length < s.length := by
  unfold readHex4 at h
  split at h
  · split at h
    · simp only [Except.ok.injEq, Prod.mk.injEq] at h
      simp only [← h.2, List.length_cons]
      omega
    · simp at h
  · split at h <;> simp [failHere] at h

/-- Whether a code unit is the first of a surrogate pair. -/
def isHighSurrogate (n : Nat) : Bool := 0xD800 ≤ n && n ≤ 0xDBFF

/-- Whether a code unit is the second of a surrogate pair. -/
def isLowSurrogate (n : Nat) : Bool := 0xDC00 ≤ n && n ≤ 0xDFFF

/-- Reads the second half of a surrogate pair, given the first. -/
def readLowSurrogate (high : Nat) : List Char → Result Char
  | [] => failHere .endInString []
  | ['\\'] => failHere .endInString []
  | '\\' :: 'u' :: s =>
    match readHex4 s with
    | .error e => .error e
    | .ok (low, r) =>
      if isLowSurrogate low then
        .ok (Char.ofNat (0x10000 + (high - 0xD800) * 0x400 + (low - 0xDC00)), r)
      else failHere .loneSurrogate r
  | '\\' :: s => failNext .unexpectedEndOfEscape s
  | s => failNext .unexpectedEndOfEscape s

/-- Reads the digits of a character given by its code, and the second half of a pair. -/
def readCode (s : List Char) : Result Char :=
  match readHex4 s with
  | .error e => .error e
  | .ok (n, r) =>
    if isLowSurrogate n then failHere .loneSurrogate r
    else if isHighSurrogate n then readLowSurrogate n r
    else .ok (Char.ofNat n, r)

/-- The character that a letter after a backslash stands for. -/
def escapedBy? (c : Char) : Option Char :=
  if c = '"' then some '"'
  else if c = '\\' then some '\\'
  else if c = '/' then some '/'
  else if c = 'b' then some '\x08'
  else if c = 'f' then some '\x0c'
  else if c = 'n' then some '\n'
  else if c = 'r' then some '\r'
  else if c = 't' then some '\t'
  else none

/-- Reads what follows a backslash in a string. -/
def readEscape : List Char → Result Char
  | [] => failHere .endInString []
  | c :: s =>
    if c = 'u' then readCode s
    else
      match escapedBy? c with
      | some d => .ok (d, s)
      | none => failNext .invalidEscape (c :: s)

theorem length_readLowSurrogate {high : Nat} {s r : List Char} {c : Char}
    (h : readLowSurrogate high s = .ok (c, r)) : r.length < s.length := by
  unfold readLowSurrogate at h
  split at h
  · simp [failHere] at h
  · simp [failHere] at h
  next s =>
    split at h
    · simp at h
    next hr =>
      have hlt := length_readHex4 hr
      split at h
      · simp only [Except.ok.injEq, Prod.mk.injEq] at h
        simp only [← h.2, List.length_cons]
        omega
      · simp [failHere] at h
  · simp [failNext] at h
  · simp [failNext] at h

theorem length_readCode {s r : List Char} {c : Char} (h : readCode s = .ok (c, r)) :
    r.length < s.length := by
  rw [readCode] at h
  split at h
  · simp at h
  next hr =>
    have hlt := length_readHex4 hr
    split at h
    · simp [failHere] at h
    · split at h
      · exact Nat.lt_trans (length_readLowSurrogate h) hlt
      · simp only [Except.ok.injEq, Prod.mk.injEq] at h
        simpa only [← h.2] using hlt

theorem length_readEscape {s r : List Char} {c : Char} (h : readEscape s = .ok (c, r)) :
    r.length < s.length := by
  rcases s with - | ⟨d, s⟩
  · simp [readEscape, failHere] at h
  · rw [readEscape] at h
    split at h
    · exact Nat.lt_succ_of_lt (length_readCode h)
    · split at h
      · simp only [Except.ok.injEq, Prod.mk.injEq] at h
        simp [← h.2]
      · simp [failNext] at h

/-- Reads a string from behind its opening quote. -/
def readString : List Char → Result (List Char)
  | [] => failHere .endInString []
  | c :: s =>
    if c = '"' then .ok ([], s)
    else if c = '\\' then
      match h : readEscape s with
      | .error e => .error e
      | .ok (d, r) =>
        have := length_readEscape h
        match readString r with
        | .error e => .error e
        | .ok (ds, r') => .ok (d :: ds, r')
    else if c.toNat < 0x20 then failHere .controlCharacter s
    else
      match readString s with
      | .error e => .error e
      | .ok (ds, r) => .ok (c :: ds, r)
termination_by s => s.length
decreasing_by all_goals simp only [List.length_cons]; omega

theorem length_readString {s r : List Char} {cs : List Char} (h : readString s = .ok (cs, r)) :
    r.length < s.length := by
  fun_induction readString s generalizing cs r <;> grind [failHere, length_readEscape]

/-- Passes over what follows a backslash in a string whose content does not matter. A code need
not be one of a character then. -/
def skipEscape : List Char → Except Failure (List Char)
  | [] => failHere .endInString []
  | c :: s =>
    if c = 'u' then
      match readHex4 s with
      | .error e => .error e
      | .ok (_, r) => .ok r
    else if (escapedBy? c).isSome then .ok s
    else failNext .invalidEscape (c :: s)

theorem length_skipEscape {s r : List Char} (h : skipEscape s = .ok r) : r.length < s.length := by
  rcases s with - | ⟨c, s⟩
  · simp [skipEscape, failHere] at h
  · rw [skipEscape] at h
    split at h
    · split at h
      · simp at h
      next hr =>
        have := length_readHex4 hr
        simp only [Except.ok.injEq] at h
        simp only [← h, List.length_cons]
        omega
    · split at h
      · simp only [Except.ok.injEq] at h
        simp [← h]
      · simp [failNext] at h

/-- Passes over a string from behind its opening quote. -/
def skipString : List Char → Except Failure (List Char)
  | [] => failHere .endInString []
  | c :: s =>
    if c = '"' then .ok s
    else if c = '\\' then
      match h : skipEscape s with
      | .error e => .error e
      | .ok r =>
        have := length_skipEscape h
        skipString r
    else if c.toNat < 0x20 then failHere .controlCharacter (c :: s)
    else skipString s
termination_by s => s.length
decreasing_by all_goals simp only [List.length_cons]; omega

theorem length_skipString {s r : List Char} (h : skipString s = .ok r) : r.length < s.length := by
  fun_induction skipString s generalizing r <;> grind [failHere, length_skipEscape]

/-! ### Numbers -/

/-- Whether a character is a decimal digit. -/
def isDigit (c : Char) : Bool := '0' ≤ c && c ≤ '9'

/-- The value of a decimal digit. -/
def digitValue (c : Char) : Nat := c.toNat - 48

/-- The text behind the digits at its front. -/
def skipDigits (s : List Char) : List Char := s.dropWhile isDigit

theorem length_skipDigits (s : List Char) : (skipDigits s).length ≤ s.length :=
  (List.dropWhile_sublist isDigit).length_le

/-- The largest number that is read digit by digit. -/
def maxSignificand : Nat := 0xFFFF_FFFF_FFFF_FFFF

/-- A number in a JSON text. -/
inductive Number
  /-- A natural number in machine range. -/
  | natural (n : Nat)
  /-- A negative whole number in machine range, by its absolute value. -/
  | negative (n : Nat)
  /-- Any other number. -/
  | floating (f : Float)

/-- Collects the digits before a decimal point. The digit that would leave the machine range, and
all digits after it, only count for the exponent. Gives the digits collected, the number of those
that were not, and the text that is left. -/
def readWhole (significand : Nat) : List Char → Nat × Nat × List Char
  | [] => (significand, 0, [])
  | c :: s =>
    if isDigit c then
      if significand * 10 + digitValue c ≤ maxSignificand then
        readWhole (significand * 10 + digitValue c) s
      else
        let r := skipDigits s
        (significand, s.length + 1 - r.length, r)
    else (significand, 0, c :: s)

/-- Collects the digits behind a decimal point. The digit that would leave the machine range, and
all digits after it, are dropped. Gives the digits collected, the number of those from behind the
point, and the text that is left. -/
def readFraction (significand places : Nat) : List Char → Nat × Nat × List Char
  | [] => (significand, places, [])
  | c :: s =>
    if isDigit c then
      if significand * 10 + digitValue c ≤ maxSignificand then
        readFraction (significand * 10 + digitValue c) (places + 1) s
      else (significand, places, skipDigits s)
    else (significand, places, c :: s)

/-- The largest exponent that is read digit by digit. -/
def maxExponent : Nat := 0x7FFF_FFFF

/-- Collects the digits of an exponent. Gives nothing, and the text behind the digit at fault, if
it leaves the machine range. -/
def readExponentDigits (exponent : Nat) : List Char → Option Nat × List Char
  | [] => (some exponent, [])
  | c :: s =>
    if isDigit c then
      if exponent * 10 + digitValue c ≤ maxExponent then
        readExponentDigits (exponent * 10 + digitValue c) s
      else (none, s)
    else (some exponent, c :: s)

/-- A double with a sign. -/
def signed (isNegative : Bool) (f : Float) : Number := .floating (if isNegative then -f else f)

/-- The number `significand * 10 ^ exponent`. -/
def finishFloating (isNegative : Bool) (significand : Nat) (exponent : Int) (s : List Char) :
    Result Number :=
  match decimalValue? significand exponent with
  | some f => .ok (signed isNegative f, s)
  | none => failHere .numberOutOfRange s

/-- Reads the sign of an exponent, if it has one: whether it points down. -/
def readExponentSign : List Char → Bool × List Char
  | '+' :: s => (false, s)
  | '-' :: s => (true, s)
  | s => (false, s)

/-- Reads an exponent from behind its sign. -/
def readExponentValue (isNegative : Bool) (significand : Nat) (exponent : Int) (down : Bool) :
    List Char → Result Number
  | [] => failHere .endInValue []
  | c :: s =>
    if isDigit c then
      match readExponentDigits (digitValue c) s with
      | (some e, r) =>
        finishFloating isNegative significand (if down then exponent - e else exponent + e) r
      | (none, r) =>
        if significand ≠ 0 && !down then failHere .numberOutOfRange r
        else .ok (signed isNegative 0, skipDigits r)
    else failNext .invalidNumber (c :: s)

/-- Reads an exponent from behind its letter. -/
def readExponent (isNegative : Bool) (significand : Nat) (exponent : Int) (s : List Char) :
    Result Number :=
  let (down, r) := readExponentSign s
  readExponentValue isNegative significand exponent down r

/-- Reads what follows the digits of a number that is known not to be a whole one. -/
def readFloatingTail (isNegative : Bool) (significand : Nat) (exponent : Int) :
    List Char → Result Number
  | [] => finishFloating isNegative significand exponent []
  | c :: s =>
    if c = 'e' || c = 'E' then readExponent isNegative significand exponent s
    else finishFloating isNegative significand exponent (c :: s)

/-- Reads a fraction from behind the decimal point. -/
def readPoint (isNegative : Bool) (significand exponent : Nat) (s : List Char) : Result Number :=
  match s with
  | [] => failNext .endInValue []
  | c :: _ =>
    if isDigit c then
      let (significand, places, r) := readFraction significand 0 s
      readFloatingTail isNegative significand ((exponent : Int) - places) r
    else failNext .invalidNumber s

/-- The number of an integer literal: a word if it fits, and a double otherwise. A negative zero
is a double. -/
def integerNumber (isNegative : Bool) (n : Nat) : Number :=
  if isNegative then
    if n = 0 || 0x8000_0000_0000_0000 < n then signed true (Float.ofNat n) else .negative n
  else .natural n

/-- Reads what follows the digits before a decimal point; `excess` of them were not collected. -/
def readTail (isNegative : Bool) (significand excess : Nat) (s : List Char) : Result Number :=
  match s with
  | '.' :: r => readPoint isNegative significand excess r
  | _ =>
    match s with
    | 'e' :: r => readExponent isNegative significand excess r
    | 'E' :: r => readExponent isNegative significand excess r
    | _ =>
      if excess = 0 then .ok (integerNumber isNegative significand, s)
      else finishFloating isNegative significand excess s

/-- Reads a number from behind its sign. -/
def readNumber (isNegative : Bool) : List Char → Result Number
  | [] => failHere .endInValue []
  | c :: s =>
    if c = '0' then
      if s.head?.any isDigit then failNext .invalidNumber s else readTail isNegative 0 0 s
    else if isDigit c then
      let (significand, excess, r) := readWhole (digitValue c) s
      readTail isNegative significand excess r
    else failNext .invalidNumber (c :: s)

theorem length_readWhole (n : Nat) (s : List Char) : (readWhole n s).2.2.length ≤ s.length := by
  fun_induction readWhole n s with
  | case1 => exact Nat.le_refl _
  | case2 n c s _ _ ih => exact Nat.le_succ_of_le ih
  | case3 n c s _ _ => exact Nat.le_succ_of_le (length_skipDigits s)
  | case4 => exact Nat.le_refl _

theorem length_readFraction (n k : Nat) (s : List Char) :
    (readFraction n k s).2.2.length ≤ s.length := by
  fun_induction readFraction n k s with
  | case1 => exact Nat.le_refl _
  | case2 n k c s _ _ ih => exact Nat.le_succ_of_le ih
  | case3 n k c s _ _ => exact Nat.le_succ_of_le (length_skipDigits s)
  | case4 => exact Nat.le_refl _

theorem length_readExponentDigits (n : Nat) (s : List Char) :
    (readExponentDigits n s).2.length ≤ s.length := by
  fun_induction readExponentDigits n s with
  | case1 => exact Nat.le_refl _
  | case2 n c s _ _ ih => exact Nat.le_succ_of_le ih
  | case3 n c s _ _ => exact Nat.le_succ _
  | case4 => exact Nat.le_refl _

theorem length_finishFloating {b : Bool} {n : Nat} {e : Int} {s r : List Char} {v : Number}
    (h : finishFloating b n e s = .ok (v, r)) : r.length ≤ s.length := by
  rw [finishFloating] at h
  split at h
  · simp only [Except.ok.injEq, Prod.mk.injEq] at h
    simp [h.2]
  · simp [failHere] at h

theorem length_readExponentSign (s : List Char) : (readExponentSign s).2.length ≤ s.length := by
  unfold readExponentSign
  split <;> simp

theorem length_readExponentValue {b : Bool} {n : Nat} {e : Int} {down : Bool} {s r : List Char}
    {v : Number} (h : readExponentValue b n e down s = .ok (v, r)) : r.length ≤ s.length := by
  rcases s with - | ⟨c, s⟩
  · simp [readExponentValue, failHere] at h
  · rw [readExponentValue] at h
    split at h
    · have hd := length_readExponentDigits (digitValue c) s
      split at h
      next heq =>
        rw [heq] at hd
        exact Nat.le_succ_of_le (Nat.le_trans (length_finishFloating h) hd)
      next t heq =>
        rw [heq] at hd
        split at h
        · simp [failHere] at h
        · simp only [Except.ok.injEq, Prod.mk.injEq] at h
          rw [← h.2]
          exact Nat.le_succ_of_le (Nat.le_trans (length_skipDigits t) hd)
    · simp [failNext] at h

theorem length_readExponent {b : Bool} {n : Nat} {e : Int} {s r : List Char} {v : Number}
    (h : readExponent b n e s = .ok (v, r)) : r.length ≤ s.length :=
  Nat.le_trans (length_readExponentValue h) (length_readExponentSign s)

theorem length_readFloatingTail {b : Bool} {n : Nat} {e : Int} {s r : List Char} {v : Number}
    (h : readFloatingTail b n e s = .ok (v, r)) : r.length ≤ s.length := by
  rcases s with - | ⟨c, s⟩
  · exact length_finishFloating h
  · rw [readFloatingTail] at h
    split at h
    · exact Nat.le_succ_of_le (length_readExponent h)
    · exact length_finishFloating h

theorem length_readPoint {b : Bool} {n e : Nat} {s r : List Char} {v : Number}
    (h : readPoint b n e s = .ok (v, r)) : r.length ≤ s.length := by
  rcases s with - | ⟨c, s⟩
  · simp [readPoint, failNext] at h
  · rw [readPoint] at h
    split at h
    · exact Nat.le_trans (length_readFloatingTail h) (length_readFraction n 0 (c :: s))
    · simp [failNext] at h

theorem length_readTail {b : Bool} {n k : Nat} {s r : List Char} {v : Number}
    (h : readTail b n k s = .ok (v, r)) : r.length ≤ s.length := by
  unfold readTail at h
  split at h
  · exact Nat.le_succ_of_le (length_readPoint h)
  · split at h
    · exact Nat.le_succ_of_le (length_readExponent h)
    · exact Nat.le_succ_of_le (length_readExponent h)
    · split at h
      · simp only [Except.ok.injEq, Prod.mk.injEq] at h
        simp [h.2]
      · exact length_finishFloating h

theorem length_readNumber {b : Bool} {s r : List Char} {v : Number}
    (h : readNumber b s = .ok (v, r)) : r.length < s.length := by
  rcases s with - | ⟨c, s⟩
  · simp [readNumber, failHere] at h
  · rw [readNumber] at h
    split at h
    · split at h
      · simp [failNext] at h
      · exact Nat.lt_succ_of_le (length_readTail h)
    · split at h
      · exact Nat.lt_succ_of_le (Nat.le_trans (length_readTail h) (length_readWhole _ _))
      · simp [failNext] at h

end TextHistory.Json
