import TextHistory.Json.Token

/-!
# Passing over a value

A member of unknown name may hold any JSON value, which is passed over: it has to be spelt
correctly, but nothing is made of it, and it may be nested as deeply as it likes. The brackets
that are open are kept on a stack, so nesting costs no recursion.

The walk is in one of two states: a value is due (`skipValue`), or a value has just ended and the
innermost open bracket decides how it goes on (`skipRest`).
-/

namespace TextHistory.Json

/-! ### Numbers -/

/-- Passes over an exponent from behind its letter. -/
def skipExponent (s : List Char) : Except Failure (List Char) :=
  let (_, s) := readExponentSign s
  match s with
  | [] => failHere .invalidNumber []
  | c :: s => if isDigit c then .ok (skipDigits s) else failNext .invalidNumber (c :: s)

/-- Passes over an exponent, if one follows. -/
def skipExponent? (s : List Char) : Except Failure (List Char) :=
  match s with
  | [] => .ok []
  | c :: r => if c = 'e' || c = 'E' then skipExponent r else .ok s

/-- Passes over what follows the digits before a decimal point. -/
def skipTail (s : List Char) : Except Failure (List Char) :=
  match s with
  | [] => .ok []
  | c :: r =>
    if c = '.' then
      if r.head?.any isDigit then skipExponent? (skipDigits r) else failNext .invalidNumber r
    else skipExponent? s

/-- Passes over a number from behind its sign. -/
def skipNumber : List Char → Except Failure (List Char)
  | [] => failHere .invalidNumber []
  | c :: s =>
    if c = '0' then
      if s.head?.any isDigit then failNext .invalidNumber s else skipTail s
    else if isDigit c then skipTail (skipDigits s)
    else failNext .invalidNumber (c :: s)

theorem length_skipExponent {s r : List Char} (h : skipExponent s = .ok r) :
    r.length ≤ s.length := by
  have hs := length_readExponentSign s
  rw [skipExponent] at h
  split at h
  next down t heq =>
    rw [heq] at hs
    split at h
    · simp [failHere] at h
    next c t =>
      split at h
      · simp only [Except.ok.injEq] at h
        rw [← h]
        exact Nat.le_trans (length_skipDigits t) (Nat.le_trans (Nat.le_succ _) hs)
      · simp [failNext] at h

theorem length_skipExponent? {s r : List Char} (h : skipExponent? s = .ok r) :
    r.length ≤ s.length := by
  unfold skipExponent? at h
  split at h
  · simp only [Except.ok.injEq] at h
    simp [← h]
  · split at h
    · exact Nat.le_succ_of_le (length_skipExponent h)
    · simp only [Except.ok.injEq] at h
      simp [← h]

theorem length_skipTail {s r : List Char} (h : skipTail s = .ok r) : r.length ≤ s.length := by
  unfold skipTail at h
  split at h
  · simp only [Except.ok.injEq] at h
    simp [← h]
  next c t =>
    split at h
    · split at h
      · exact Nat.le_succ_of_le (Nat.le_trans (length_skipExponent? h) (length_skipDigits t))
      · simp [failNext] at h
    · exact length_skipExponent? h

theorem length_skipNumber {s r : List Char} (h : skipNumber s = .ok r) :
    r.length < s.length := by
  rcases s with - | ⟨c, s⟩
  · simp [skipNumber, failHere] at h
  · rw [skipNumber] at h
    split at h
    · split at h
      · simp [failNext] at h
      · exact Nat.lt_succ_of_le (length_skipTail h)
    · split at h
      · exact Nat.lt_succ_of_le (Nat.le_trans (length_skipTail h) (length_skipDigits s))
      · simp [failNext] at h

/-! ### Values -/

/-- Passes over a value that is neither an array nor an object. -/
def skipScalar (s : List Char) : Except Failure (List Char) :=
  match s with
  | [] => failNext .endInValue []
  | c :: r =>
    if c = 'n' then readIdent ['u', 'l', 'l'] r
    else if c = 't' then readIdent ['r', 'u', 'e'] r
    else if c = 'f' then readIdent ['a', 'l', 's', 'e'] r
    else if c = '-' then skipNumber r
    else if isDigit c then skipNumber s
    else if c = '"' then skipString r
    else failNext .expectedValue s

theorem length_skipScalar {s r : List Char} (h : skipScalar s = .ok r) : r.length < s.length := by
  unfold skipScalar at h
  split at h
  · simp [failNext] at h
  · split at h
    · exact Nat.lt_succ_of_le (length_readIdent h)
    · split at h
      · exact Nat.lt_succ_of_le (length_readIdent h)
      · split at h
        · exact Nat.lt_succ_of_le (length_readIdent h)
        · split at h
          · exact Nat.lt_succ_of_lt (length_skipNumber h)
          · split at h
            · exact length_skipNumber h
            · split at h
              · exact Nat.lt_succ_of_lt (length_skipString h)
              · simp [failNext] at h

/-- A bracket that is open. -/
inductive Bracket
  /-- That of an array. -/
  | list
  /-- That of an object. -/
  | object
deriving DecidableEq

namespace Bracket

/-- The character that closes the bracket. -/
def closing : Bracket → Char
  | list => ']'
  | object => '\x7d'

/-- Why a text is refused that ends inside the bracket. -/
def ended : Bracket → Cause
  | list => .endInList
  | object => .endInObject

/-- Why a text is refused that neither closes the bracket nor goes on. -/
def unclosed : Bracket → Cause
  | list => .expectedCommaOrBracket
  | object => .expectedCommaOrBrace

end Bracket

/-- Passes over a colon. -/
def skipColon (s : List Char) : Except Failure (List Char) :=
  match skipSpace s with
  | [] => failNext .endInObject []
  | c :: r => if c = ':' then .ok r else failNext .expectedColon (c :: r)

/-- Passes over the name of a member and its colon. -/
def skipName (s : List Char) : Except Failure (List Char) :=
  match skipSpace s with
  | [] => failNext .endInObject []
  | c :: r =>
    if c = '"' then
      match skipString r with
      | .error e => .error e
      | .ok r => skipColon r
    else failNext .keyMustBeString (c :: r)

/-- Passes over what comes before the next value inside a bracket. -/
def skipToValue : Bracket → List Char → Except Failure (List Char)
  | .list, s => .ok s
  | .object, s => skipName s

theorem length_skipColon {s r : List Char} (h : skipColon s = .ok r) : r.length < s.length := by
  have hs := length_skipSpace s
  rw [skipColon] at h
  split at h
  · simp [failNext] at h
  next heq =>
    rw [heq] at hs
    split at h
    · simp only [Except.ok.injEq] at h
      rw [← h]
      exact hs
    · simp [failNext] at h

theorem length_skipName {s r : List Char} (h : skipName s = .ok r) : r.length < s.length := by
  have hs := length_skipSpace s
  rw [skipName] at h
  split at h
  · simp [failNext] at h
  next heq =>
    rw [heq] at hs
    split at h
    · split at h
      · simp at h
      next hr =>
        have h₁ := length_skipString hr
        have h₂ := length_skipColon h
        simp only [List.length_cons] at hs
        omega
    · simp [failNext] at h

theorem length_skipToValue {b : Bracket} {s r : List Char} (h : skipToValue b s = .ok r) :
    r.length ≤ s.length := by
  rcases b with - | -
  · simp only [skipToValue, Except.ok.injEq] at h
    simp [h]
  · exact Nat.le_of_lt (length_skipName h)

mutual

/-- Passes over a value, and then over everything up to the end of the outermost bracket. -/
def skipValue (stack : List Bracket) (s : List Char) : Except Failure (List Char) :=
  match hs : skipSpace s with
  | [] => failNext .endInValue []
  | c :: r =>
    have hlt : r.length < s.length := by
      have := length_skipSpace s
      rw [hs] at this
      exact this
    if c = '[' then skipRest (.list :: stack) true r
    else if c = '\x7b' then skipRest (.object :: stack) true r
    else
      match h : skipScalar (c :: r) with
      | .error e => .error e
      | .ok r' =>
        have : r'.length < s.length := Nat.lt_of_lt_of_le (length_skipScalar h) hlt
        skipRest stack false r'
termination_by 2 * s.length
decreasing_by all_goals omega

/-- Passes over everything from behind a value, or from behind an opening bracket if `fresh`, up
to the end of the outermost bracket. -/
def skipRest (stack : List Bracket) (fresh : Bool) (s : List Char) : Except Failure (List Char) :=
  match stack with
  | [] => .ok s
  | b :: stack =>
    match hs : skipSpace s with
    | [] => failNext b.ended []
    | c :: r =>
      have hle : r.length + 1 ≤ s.length := by
        have := length_skipSpace s
        rw [hs] at this
        exact this
      if c = b.closing then skipRest stack false r
      else if c = ',' && !fresh then
        match h : skipToValue b r with
        | .error e => .error e
        | .ok r' =>
          have : r'.length < s.length :=
            Nat.lt_of_lt_of_le (Nat.lt_succ_of_le (length_skipToValue h)) hle
          skipValue (b :: stack) r'
      else if fresh then
        match h : skipToValue b (c :: r) with
        | .error e => .error e
        | .ok r' =>
          have : r'.length ≤ s.length := Nat.le_trans (length_skipToValue h) hle
          skipValue (b :: stack) r'
      else failNext b.unclosed (c :: r)
termination_by 2 * s.length + 1
decreasing_by all_goals omega

end

theorem length_skip (n : Nat) :
    (∀ stack s r, 2 * s.length < n → skipValue stack s = .ok r → r.length < s.length) ∧
      ∀ stack fresh s r, 2 * s.length + 1 < n → skipRest stack fresh s = .ok r →
        r.length ≤ s.length := by
  induction n with
  | zero =>
    exact ⟨fun _ _ _ h ↦ absurd h (Nat.not_lt_zero _),
      fun _ _ _ _ h ↦ absurd h (Nat.not_lt_zero _)⟩
  | succ n ih =>
    obtain ⟨ihv, ihr⟩ := ih
    refine ⟨fun stack s r hn h ↦ ?_, fun stack fresh s r hn h ↦ ?_⟩
    · have hs := length_skipSpace s
      rw [skipValue] at h
      split at h
      · simp [failNext] at h
      next c t heq =>
        rw [heq, List.length_cons] at hs
        split at h
        · have := ihr _ _ _ _ (by omega) h
          omega
        · split at h
          · have := ihr _ _ _ _ (by omega) h
            omega
          · split at h
            · simp at h
            next hsc =>
              have hlt := length_skipScalar hsc
              rw [List.length_cons] at hlt
              have := ihr _ _ _ _ (by omega) h
              omega
    · unfold skipRest at h
      split at h
      · simp only [Except.ok.injEq] at h
        simp [h]
      · have hs := length_skipSpace s
        split at h
        · simp [failNext] at h
        next c t heq =>
          rw [heq, List.length_cons] at hs
          split at h
          · have := ihr _ _ _ _ (by omega) h
            omega
          · split at h
            · split at h
              · simp at h
              next hv =>
                have hle := length_skipToValue hv
                have := ihv _ _ _ (by omega) h
                omega
            · split at h
              · split at h
                · simp at h
                next hv =>
                  have hle := length_skipToValue hv
                  rw [List.length_cons] at hle
                  have := ihv _ _ _ (by omega) h
                  omega
              · simp [failNext] at h

theorem length_skipValue {s r : List Char} (h : skipValue [] s = .ok r) : r.length < s.length :=
  (length_skip (2 * s.length + 1)).1 _ _ _ (Nat.lt_succ_self _) h

end TextHistory.Json
