import TextHistory.Json.Skip
import TextHistory.Proofs.Json.Grammar

/-!
# Written tokens are read back

Strings and numbers as the writer spells them, against the readers of tokens. A spelling is always
followed by more text, so each statement is about a spelling with an arbitrary rest behind it: the
reader gives what was spelt, and leaves the rest untouched.

A string says itself where it ends. Whatever its characters are, its text has no bare quote and no
bare backslash: a character stands for itself, or a backslash comes before a letter or a code that
the reader turns back into it (`escapeChar_cases`). So a string can be followed by anything.

A number does not say where it ends, and its reader takes whatever looks like more of it. The rest
has to begin with none of that (`EndsNumber`), as everything does that can follow a value. Digits
are read one by one, each against the bound of the machine; the digits read so far never come to
more than the number, so a number within the bound is read to its last digit
(`readNumber_toDigits`). Passing over it needs no bound.
-/

namespace TextHistory.Json

/-! ### Strings -/

theorem IsHexDigit.hexValue?_eq {n : Nat} {c : Char} (h : IsHexDigit n c) :
    hexValue? c = some n := by
  have hboth : ∀ n < 16, hexValue? (hexDigit n) = some n ∧
      hexValue? (hexDigit n).toUpper = some n := by decide
  obtain ⟨hn, rfl | rfl⟩ := h
  · exact (hboth n hn).1
  · exact (hboth n hn).2

theorem SpellsCode.readHex4_append {n : Nat} {s : List Char} (h : SpellsCode n s)
    (r : List Char) : readHex4 (s ++ r) = .ok (n, r) := by
  obtain ⟨ha, hb, hc, hd⟩ := h
  simp [readHex4, hexValue4?, ha.hexValue?_eq, hb.hexValue?_eq, hc.hexValue?_eq, hd.hexValue?_eq]

/-- A letter that stands for a character is read as it. -/
theorem escapedBy?_of_mem {c d : Char} (h : (d, c) ∈ escapeLetters) :
    d ≠ 'u' ∧ escapedBy? d = some c := by
  have hall : ∀ p ∈ escapeLetters, p.1 ≠ 'u' ∧ escapedBy? p.1 = some p.2 := by decide
  exact hall (d, c) h

theorem readString_cons {c : Char} {s ds r : List Char} (hquote : c ≠ '"') (hbackslash : c ≠ '\\')
    (hc : ¬c.toNat < 0x20) (h : readString s = .ok (ds, r)) :
    readString (c :: s) = .ok (c :: ds, r) := by
  rw [readString, if_neg hquote, if_neg hbackslash, if_neg hc, h]

theorem readString_backslash {c : Char} {s t ds r : List Char} (hc : readEscape s = .ok (c, t))
    (h : readString t = .ok (ds, r)) : readString ('\\' :: s) = .ok (c :: ds, r) := by
  rw [readString, if_neg (by decide), if_pos rfl]
  split
  next he => simp [hc] at he
  next he =>
    obtain ⟨rfl, rfl⟩ : c = _ ∧ t = _ := by simpa [hc] using he
    rw [h]

theorem skipString_cons {c : Char} {s : List Char} (hquote : c ≠ '"') (hbackslash : c ≠ '\\')
    (hc : ¬c.toNat < 0x20) : skipString (c :: s) = skipString s := by
  rw [skipString, if_neg hquote, if_neg hbackslash, if_neg hc]

theorem skipString_backslash {s t : List Char} (h : skipEscape s = .ok t) :
    skipString ('\\' :: s) = skipString t := by
  rw [skipString, if_neg (by decide), if_pos rfl]
  split
  next he => simp [h] at he
  next he =>
    obtain rfl : t = _ := by simpa [h] using he
    rfl

/-- No character has the code of half a pair. -/
theorem isSurrogate_toNat (c : Char) :
    isLowSurrogate c.toNat = false ∧ isHighSurrogate c.toNat = false := by
  have hvalid : c.toNat < 0xD800 ∨ 0xDFFF < c.toNat ∧ c.toNat < 0x110000 := c.valid
  simp only [isLowSurrogate, isHighSurrogate, Bool.and_eq_false_iff, decide_eq_false_iff_not]
  omega

/-- The two codes of a pair are told apart from all others, and give back the character. -/
theorem surrogates_of_toNat {c : Char} (hc : 0x10000 ≤ c.toNat) :
    let high := 0xD800 + (c.toNat - 0x10000) / 0x400
    let low := 0xDC00 + (c.toNat - 0x10000) % 0x400
    isLowSurrogate high = false ∧ isHighSurrogate high = true ∧ isLowSurrogate low = true ∧
      Char.ofNat (0x10000 + (high - 0xD800) * 0x400 + (low - 0xDC00)) = c := by
  intro high low
  have hvalid : c.toNat < 0xD800 ∨ 0xDFFF < c.toNat ∧ c.toNat < 0x110000 := c.valid
  have hcode : 0x10000 + (high - 0xD800) * 0x400 + (low - 0xDC00) = c.toNat := by omega
  refine ⟨?_, ?_, ?_, by rw [hcode, Char.ofNat_toNat]⟩
  · simp only [isLowSurrogate, Bool.and_eq_false_iff, decide_eq_false_iff_not]
    omega
  · simp only [isHighSurrogate, Bool.and_eq_true, decide_eq_true_eq]
    omega
  · simp only [isLowSurrogate, Bool.and_eq_true, decide_eq_true_eq]
    omega

/-- However a character is spelt, it is read. -/
theorem SpellsChar.readString_append {c : Char} {s t ds r : List Char} (h : SpellsChar c s)
    (ht : readString t = .ok (ds, r)) : readString (s ++ t) = .ok (c :: ds, r) := by
  cases h with
  | plain hquote hbackslash hc => exact readString_cons hquote hbackslash (Nat.not_lt.2 hc) ht
  | letter hd =>
    obtain ⟨hu, hd⟩ := escapedBy?_of_mem hd
    exact readString_backslash (by simp [readEscape, hu, hd]) ht
  | code hs =>
    obtain ⟨hlow, hhigh⟩ := isSurrogate_toNat c
    refine readString_backslash ?_ ht
    simp [readEscape, readCode, hs.readHex4_append, hlow, hhigh, Char.ofNat_toNat]
  | @pair s u hc hs hu =>
    obtain ⟨hfirst, hhigh, hlow, hcode⟩ := surrogates_of_toNat hc
    have hsecond := hu.readHex4_append t
    have hpair : readEscape ('u' :: (s ++ '\\' :: 'u' :: (u ++ t))) = .ok (c, t) := by
      simp only [readEscape, if_true, readCode, hs.readHex4_append, hfirst, hhigh, readLowSurrogate,
        hsecond, hlow, hcode]
      rfl
    rw [List.cons_append, List.cons_append, List.append_assoc]
    exact readString_backslash hpair ht

/-- However a character is spelt, it is passed over. Each code of a pair is passed over alone. -/
theorem SpellsChar.skipString_append {c : Char} {s : List Char} (h : SpellsChar c s)
    (t : List Char) : skipString (s ++ t) = skipString t := by
  have hcode {n : Nat} {s : List Char} (hs : SpellsCode n s) (t : List Char) :
      skipString ('\\' :: 'u' :: (s ++ t)) = skipString t :=
    skipString_backslash (by simp [skipEscape, hs.readHex4_append])
  cases h with
  | plain hquote hbackslash hc => exact skipString_cons hquote hbackslash (Nat.not_lt.2 hc)
  | letter hd =>
    obtain ⟨hu, hd⟩ := escapedBy?_of_mem hd
    exact skipString_backslash (by simp [skipEscape, hu, hd])
  | code hs => exact hcode hs t
  | pair hc hs hu =>
    rw [List.cons_append, List.cons_append, List.append_assoc]
    exact (hcode hs _).trans (hcode hu t)

/-- A string is read from behind its opening quote. -/
theorem SpellsChars.readString_append {cs s : List Char} (h : SpellsChars cs s) (r : List Char) :
    readString (s ++ '"' :: r) = .ok (cs, r) := by
  induction h with
  | nil => simp [readString]
  | cons hc _ ih =>
    rw [List.append_assoc]
    exact hc.readString_append ih

theorem SpellsChars.skipString_append {cs s : List Char} (h : SpellsChars cs s) (r : List Char) :
    skipString (s ++ '"' :: r) = .ok r := by
  induction h with
  | nil => simp [skipString]
  | cons hc _ ih => rw [List.append_assoc, hc.skipString_append, ih]

/-- A string as the library writes it is read back. -/
theorem readString_flatMap (cs r : List Char) :
    readString (cs.flatMap escapeChar ++ '"' :: r) = .ok (cs, r) :=
  (spellsChars_flatMap cs).readString_append r

theorem stringChars_append (cs r : List Char) :
    stringChars cs ++ r = '"' :: (cs.flatMap escapeChar ++ '"' :: r) := by
  simp [stringChars]

/-- No string can imitate what stands behind another one. -/
theorem stringChars_append_inj {cs ds r s : List Char} :
    stringChars cs ++ r = stringChars ds ++ s ↔ cs = ds ∧ r = s := by
  refine ⟨fun h ↦ ?_, fun ⟨hc, hr⟩ ↦ by rw [hc, hr]⟩
  rw [stringChars_append, stringChars_append, List.cons.injEq] at h
  have hread := readString_flatMap cs r
  rw [h.2, readString_flatMap ds s] at hread
  simpa [eq_comm] using hread

/-! ### Numbers -/

/-- A number ends before the text: the text goes on with nothing that could belong to one. -/
def EndsNumber (r : List Char) : Prop :=
  ∀ c ∈ r.head?, isDigit c = false ∧ c ≠ '.' ∧ c ≠ 'e' ∧ c ≠ 'E'

theorem endsNumber_nil : EndsNumber [] := by simp [EndsNumber]

theorem endsNumber_cons {c : Char} {r : List Char} :
    EndsNumber (c :: r) ↔ isDigit c = false ∧ c ≠ '.' ∧ c ≠ 'e' ∧ c ≠ 'E' := by
  simp [EndsNumber]

/-- Digits end before the text. -/
def EndsDigits (r : List Char) : Prop := ∀ c ∈ r.head?, isDigit c = false

theorem EndsNumber.endsDigits {r : List Char} (hr : EndsNumber r) : EndsDigits r :=
  fun c hc ↦ (hr c hc).1

theorem endsDigits_cons {c : Char} {r : List Char} : EndsDigits (c :: r) ↔ isDigit c = false := by
  simp [EndsDigits]

namespace EndsDigits

variable {r : List Char} (hr : EndsDigits r)

include hr

theorem skipDigits_append {ds : List Char} (hds : ∀ c ∈ ds, isDigit c = true) :
    skipDigits (ds ++ r) = r := by
  rw [skipDigits, List.dropWhile_append_of_pos hds]
  rcases r with - | ⟨c, r⟩
  · rfl
  · rw [List.dropWhile_cons, endsDigits_cons.1 hr]
    rfl

theorem any_head? : r.head?.any isDigit = false := by
  rcases r with - | ⟨c, r⟩
  · rfl
  · simpa using endsDigits_cons.1 hr

end EndsDigits

theorem digitValue_le {c : Char} (hc : isDigit c = true) : digitValue c ≤ 9 := by
  simp only [isDigit, Bool.and_eq_true, decide_eq_true_eq] at hc
  have hle : c.toNat ≤ 57 := hc.2
  simp only [digitValue]
  omega

theorem isDigit_of_mem_toDigits {n : Nat} {c : Char} (hc : c ∈ Nat.toDigits 10 n) :
    isDigit c = true :=
  Nat.isDigit_of_mem_toDigits (by decide) (by decide) hc

/-- Only the number zero is written with a zero in front. -/
theorem eq_zero_of_toDigits {n : Nat} {ds : List Char} (h : Nat.toDigits 10 n = '0' :: ds) :
    n = 0 := by
  induction n using Nat.strongRecOn generalizing ds with
  | ind n ih =>
    rcases Nat.lt_or_ge n 10 with hn | hn
    · rw [Nat.toDigits_of_lt_base hn] at h
      exact (by simpa using h : n = 0 ∧ ds = []).1
    · rw [Nat.toDigits_of_base_le (by decide) hn] at h
      rcases hd : Nat.toDigits 10 (n / 10) with - | ⟨d, t⟩
      · exact absurd hd Nat.toDigits_ne_nil
      · rw [hd, List.cons_append, List.cons.injEq] at h
        have := ih (n / 10) (by omega) (h.1 ▸ hd)
        omega

/-- A number is written as a digit and perhaps more digits. -/
theorem exists_toDigits (n : Nat) :
    ∃ d ds, Nat.toDigits 10 n = d :: ds ∧ isDigit d = true := by
  rcases h : Nat.toDigits 10 n with - | ⟨d, ds⟩
  · exact absurd h Nat.toDigits_ne_nil
  · exact ⟨d, ds, rfl, isDigit_of_mem_toDigits (h ▸ List.mem_cons_self)⟩

namespace EndsNumber

variable {r : List Char} (hr : EndsNumber r)

include hr

/-- Nothing is read behind the digits of a whole number. -/
theorem readTail_eq (n : Nat) : readTail false n 0 r = .ok (.natural n, r) := by
  rcases r with - | ⟨c, r⟩
  · rfl
  · obtain ⟨-, hpoint, hlower, hupper⟩ := endsNumber_cons.1 hr
    simp [readTail, hpoint, hlower, hupper, integerNumber]

/-- Digits that stay within the bound are all collected. -/
theorem readWhole_append {ds : List Char} (hds : ∀ c ∈ ds, isDigit c = true) {k : Nat}
    (hk : Nat.ofDigitChars 10 ds k ≤ maxSignificand) :
    readWhole k (ds ++ r) = (Nat.ofDigitChars 10 ds k, 0, r) := by
  induction ds generalizing k with
  | nil =>
    rcases r with - | ⟨c, r⟩
    · rfl
    · simp [readWhole, (endsNumber_cons.1 hr).1]
  | cons d ds ih =>
    have hd : isDigit d = true := hds d List.mem_cons_self
    have hstep : Nat.ofDigitChars 10 (d :: ds) k
        = Nat.ofDigitChars 10 ds (k * 10 + digitValue d) := by
      rw [Nat.ofDigitChars_cons, Nat.mul_comm]
      rfl
    rw [hstep] at hk ⊢
    -- what was collected so far never exceeds what all digits come to
    have hle : k * 10 + digitValue d ≤ maxSignificand := by
      refine Nat.le_trans ?_ hk
      rw [Nat.ofDigitChars_eq_ofDigitChars_zero (l := ds)]
      exact Nat.le_add_right_of_le (Nat.le_mul_of_pos_left _ (Nat.pow_pos (by decide)))
    rw [List.cons_append, readWhole, if_pos hd, if_pos hle]
    exact ih (fun c hc ↦ hds c (List.mem_cons_of_mem d hc)) hk

/-- A number within the bound of the machine is read back. -/
theorem readNumber_toDigits {n : Nat} (hn : n ≤ maxSignificand) :
    readNumber false (Nat.toDigits 10 n ++ r) = .ok (.natural n, r) := by
  rcases Nat.eq_zero_or_pos n with rfl | hpos
  · rw [Nat.toDigits_zero, List.cons_append, List.nil_append, readNumber, if_pos rfl,
      hr.endsDigits.any_head?]
    exact hr.readTail_eq 0
  · obtain ⟨d, ds, h, hd⟩ := exists_toDigits n
    have hd0 : d ≠ '0' := fun hd0 ↦ Nat.ne_of_gt hpos (eq_zero_of_toDigits (hd0 ▸ h))
    have hwhole : readWhole 0 (Nat.toDigits 10 n ++ r) = (n, 0, r) := by
      have := hr.readWhole_append (k := 0) (fun c ↦ isDigit_of_mem_toDigits (n := n))
        (by rwa [Nat.ofDigitChars_ten_toDigits])
      rwa [Nat.ofDigitChars_ten_toDigits] at this
    have hfirst : 0 * 10 + digitValue d ≤ maxSignificand := by
      have := digitValue_le hd
      simp only [maxSignificand]
      omega
    rw [h, List.cons_append, readWhole, if_pos hd, if_pos hfirst, Nat.zero_mul, Nat.zero_add]
      at hwhole
    rw [h, List.cons_append, readNumber, if_neg hd0, if_pos hd, hwhole]
    exact hr.readTail_eq n

end EndsNumber

/-- Where two numbers end, the digits before are all that matters. -/
theorem toDigits_append_inj {n m : Nat} {r s : List Char} (hr : EndsNumber r) (hs : EndsNumber s)
    (h : Nat.toDigits 10 n ++ r = Nat.toDigits 10 m ++ s) : n = m ∧ r = s := by
  have hrest := congrArg skipDigits h
  rw [hr.endsDigits.skipDigits_append fun c ↦ isDigit_of_mem_toDigits,
    hs.endsDigits.skipDigits_append fun c ↦ isDigit_of_mem_toDigits] at hrest
  subst hrest
  refine ⟨?_, rfl⟩
  rw [← Nat.ofDigitChars_ten_toDigits (n := n), List.append_cancel_right h,
    Nat.ofDigitChars_ten_toDigits]

/-! ### Numbers that are passed over -/

theorem isNumber_toDigits (n : Nat) : IsNumber (Nat.toDigits 10 n) := by
  have hwhole : IsWhole (Nat.toDigits 10 n) := by
    rcases Nat.eq_zero_or_pos n with rfl | hpos
    · exact .zero
    · have hdigits := digits_toDigits n
      obtain ⟨d, ds, h, -⟩ := exists_toDigits n
      rw [h] at hdigits ⊢
      exact .digits (fun hd ↦ Nat.ne_of_gt hpos (eq_zero_of_toDigits (hd ▸ h))) hdigits
  have hsign : ([] : List Char) ∈ [[], ['-']] := List.mem_cons_self
  have hnumber := IsNumber.parts hsign hwhole .none .none
  simpa using hnumber

theorem Digits.exists_cons {ds : List Char} (h : Digits ds) :
    ∃ d t, ds = d :: t ∧ isDigit d = true ∧ ∀ c ∈ t, isDigit c = true := by
  obtain ⟨hne, hds⟩ := h
  rcases ds with - | ⟨d, t⟩
  · exact absurd rfl hne
  · exact ⟨d, t, rfl, hds d List.mem_cons_self, fun c hc ↦ hds c (List.mem_cons_of_mem d hc)⟩

theorem readExponentSign_digit {d : Char} (hd : isDigit d = true) (s : List Char) :
    readExponentSign (d :: s) = (false, d :: s) := by
  unfold readExponentSign
  split
  next h => exact absurd ((List.cons.inj h).1 ▸ hd) (by decide)
  next h => exact absurd ((List.cons.inj h).1 ▸ hd) (by decide)
  · rfl

theorem skipExponent_append {sign ds r : List Char} (hsign : sign ∈ [[], ['+'], ['-']])
    (hds : Digits ds) (hr : EndsDigits r) : skipExponent (sign ++ (ds ++ r)) = .ok r := by
  obtain ⟨d, t, rfl, hd, ht⟩ := hds.exists_cons
  have hread : ∃ down, readExponentSign (sign ++ (d :: t ++ r)) = (down, d :: (t ++ r)) := by
    simp only [List.mem_cons, List.not_mem_nil, or_false] at hsign
    rcases hsign with rfl | rfl | rfl
    · exact ⟨false, readExponentSign_digit hd (t ++ r)⟩
    · exact ⟨false, rfl⟩
    · exact ⟨true, rfl⟩
  obtain ⟨down, hread⟩ := hread
  simp only [skipExponent, hread, if_pos hd, hr.skipDigits_append ht]

theorem IsExponent.skipExponent?_append {e r : List Char} (h : IsExponent e)
    (hr : EndsNumber r) : skipExponent? (e ++ r) = .ok r := by
  cases h with
  | none =>
    rcases r with - | ⟨c, r⟩
    · rfl
    · obtain ⟨-, -, hlower, hupper⟩ := endsNumber_cons.1 hr
      simp [skipExponent?, hlower, hupper]
  | @some c sign ds hc hsign hds =>
    have hletter : (c = 'e' || c = 'E') = true := by simpa using hc
    rw [List.cons_append, List.append_assoc, skipExponent?, if_pos hletter]
    exact skipExponent_append hsign hds hr.endsDigits

theorem IsExponent.endsDigits_append {e r : List Char} (h : IsExponent e) (hr : EndsNumber r) :
    EndsDigits (e ++ r) := by
  cases h with
  | none => exact hr.endsDigits
  | some hc _ _ => rcases hc with rfl | rfl <;> exact endsDigits_cons.2 rfl

theorem IsExponent.head?_append_ne {e r : List Char} (h : IsExponent e) (hr : EndsNumber r) :
    (e ++ r).head? ≠ Option.some '.' := by
  cases h with
  | none => exact fun hpoint ↦ (hr '.' hpoint).2.1 rfl
  | some hc _ _ => rcases hc with rfl | rfl <;> simp

theorem IsFraction.endsDigits_append {f e r : List Char} (h : IsFraction f) (he : IsExponent e)
    (hr : EndsNumber r) : EndsDigits (f ++ (e ++ r)) := by
  cases h with
  | none => exact he.endsDigits_append hr
  | some _ => exact endsDigits_cons.2 rfl

theorem skipTail_of_ne_point {s : List Char} (h : s.head? ≠ some '.') :
    skipTail s = skipExponent? s := by
  rcases s with - | ⟨c, s⟩
  · rfl
  · have hc : c ≠ '.' := by simpa using h
    rw [skipTail, if_neg hc]

theorem IsFraction.skipTail_append {f e r : List Char} (h : IsFraction f) (he : IsExponent e)
    (hr : EndsNumber r) : skipTail (f ++ (e ++ r)) = .ok r := by
  have hexponent := he.skipExponent?_append hr
  cases h with
  | none => exact (skipTail_of_ne_point (he.head?_append_ne hr)).trans hexponent
  | some hds =>
    have hrest := he.endsDigits_append hr
    obtain ⟨d, t, rfl, hd, ht⟩ := hds.exists_cons
    have hall : ∀ c ∈ d :: t, isDigit c = true := List.forall_mem_cons.2 ⟨hd, ht⟩
    rw [List.cons_append, skipTail, if_pos rfl, if_pos (by simpa using hd),
      hrest.skipDigits_append hall]
    exact hexponent

theorem IsWhole.exists_cons {w : List Char} (h : IsWhole w) :
    ∃ d t, w = d :: t ∧ isDigit d = true := by
  cases h with
  | zero => exact ⟨_, _, rfl, rfl⟩
  | digits _ hds => exact ⟨_, _, rfl, hds.2 _ List.mem_cons_self⟩

theorem IsWhole.skipNumber_append {w s : List Char} (h : IsWhole w) (hs : EndsDigits s) :
    skipNumber (w ++ s) = skipTail s := by
  cases h with
  | zero => simp [skipNumber, hs.any_head?]
  | digits hd0 hds =>
    obtain ⟨d, t, heq, hd, ht⟩ := hds.exists_cons
    obtain ⟨rfl, rfl⟩ := List.cons.inj heq
    rw [List.cons_append, skipNumber, if_neg hd0, if_pos hd, hs.skipDigits_append ht]

theorem skipScalar_digit {d : Char} (hd : isDigit d = true) (s : List Char) :
    skipScalar (d :: s) = skipNumber (d :: s) := by
  have hne (c : Char) (hc : isDigit c = false) : d ≠ c := by
    rintro rfl
    simp [hd] at hc
  rw [skipScalar, if_neg (hne _ rfl), if_neg (hne _ rfl), if_neg (hne _ rfl), if_neg (hne _ rfl),
    if_pos hd]

/-- However a number is spelt, it is passed over. -/
theorem IsNumber.skipScalar_append {cs r : List Char} (h : IsNumber cs) (hr : EndsNumber r) :
    skipScalar (cs ++ r) = .ok r := by
  obtain ⟨hsign, hwhole, hfraction, hexponent⟩ := h
  next whole fraction exponent =>
  have hskip : skipNumber (whole ++ (fraction ++ (exponent ++ r))) = .ok r := by
    rw [hwhole.skipNumber_append (hfraction.endsDigits_append hexponent hr),
      hfraction.skipTail_append hexponent hr]
  simp only [List.append_assoc]
  simp only [List.mem_cons, List.not_mem_nil, or_false] at hsign
  rcases hsign with rfl | rfl
  · obtain ⟨d, t, rfl, hd⟩ := hwhole.exists_cons
    exact (skipScalar_digit hd _).trans hskip
  · exact hskip

/-- A number begins with a digit or with its sign. -/
theorem IsNumber.exists_cons {cs : List Char} (h : IsNumber cs) :
    ∃ c s, cs = c :: s ∧ (c = '-' ∨ isDigit c = true) := by
  obtain ⟨hsign, hwhole, -, -⟩ := h
  simp only [List.mem_cons, List.not_mem_nil, or_false] at hsign
  rcases hsign with rfl | rfl
  · obtain ⟨d, t, rfl, hd⟩ := hwhole.exists_cons
    exact ⟨d, _, rfl, .inr hd⟩
  · exact ⟨_, _, rfl, .inl rfl⟩

end TextHistory.Json
