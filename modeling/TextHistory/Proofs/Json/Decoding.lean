import TextHistory.Json.Decoder
import TextHistory.Proofs.Json.Walk

/-!
# Reading what a text says

Decoders against the grammar of JSON texts. A decoder takes a datum for a value (`Decoder.Takes`) if
it reads the value in every text of the datum, behind any blanks and whatever stands behind the
text. So what is read depends on what the text says and not on how it is spelt.

A record takes its members as they come. `RecordFormat.Sums` says what they add up to, one after the
other: each name is one that the format reads at that point, with a decoder that takes the datum
there for what is collected next. A member of a name that the format does not know is one that adds
nothing, whatever it says (`takes_ignored`). The step is a separator, a name and a colon
(`Separator.readMembers_append`); the run goes along the members (`Sums.readMembers_append`).
-/

namespace TextHistory.Json

variable {α β σ : Type} {v : Datum}

/-- The decoder finds a value in a text, whatever stands behind it. -/
def Decoder.Reads (d : Decoder α) (cs : List Char) (a : α) : Prop :=
  ∀ r, EndsNumber r → d.read (cs ++ r) = .ok (a, r)

theorem Decoder.Reads.map {d : Decoder α} {cs : List Char} {a : α} (h : d.Reads cs a)
    (f : α → β) : (d.map f).Reads cs (f a) := by
  intro r hr
  simp only [Decoder.map, h r hr]

/-- The decoder takes a datum for a value, however it is spelt. -/
def Decoder.Takes (d : Decoder α) (v : Datum) (a : α) : Prop :=
  ∀ ⦃w t : List Char⦄, Blank w → Spells v t → d.Reads (w ++ t) a

namespace Decoder.Takes

variable {d : Decoder α} {a : α}

theorem reads (h : d.Takes v a) {t : List Char} (ht : Spells v t) : d.Reads t a := h blank_nil ht

theorem map (h : d.Takes v a) (f : α → β) : (d.map f).Takes v (f a) :=
  fun _ _ hw ht ↦ (h hw ht).map f

/-- A whole text is read as what it says. -/
theorem decode_eq (h : d.Takes v a) {cs : List Char} (hcs : IsTextOf v cs) :
    d.decode cs = .ok a := by
  obtain ⟨hw, ht, hw'⟩ := hcs
  have hread := h hw ht _ (hw'.endsNumber_append endsNumber_nil)
  rw [List.append_nil, List.append_assoc] at hread
  simp only [Decoder.decode, hread, hw'.skipSpace_eq]

end Decoder.Takes

/-! ### Single values -/

theorem takes_natural {n : Nat} (hn : n ≤ maxSignificand) :
    natural.Takes (.number (Nat.toDigits 10 n)) n := by
  intro w t hw ht r hr
  cases ht
  have hnumber := hr.readNumber_toDigits hn
  obtain ⟨d, ds, h, hd⟩ := exists_toDigits n
  have hspace : isSpace d = false := (ne_of_number (.inr hd)).1
  have hsign : d ≠ '-' := by
    rintro rfl
    cases hd
  rw [h, List.cons_append] at hnumber
  rw [List.append_assoc, h, List.cons_append]
  simp only [natural, readNatural, hw.skipSpace_append, skipSpace_cons hspace, if_neg hsign,
    if_pos hd, hnumber, wantNatural]

theorem SpellsString.readVariantName_append {known : List (String × α)} {k : String × α}
    (h : known.find? (fun k' ↦ k'.1 == k.1) = some k) {n : List Char}
    (hn : SpellsString k.1 ('"' :: n)) (r : List Char) :
    readVariantName known (n ++ r) = .ok (k.2, r) := by
  cases hn with
  | quoted hchars =>
    rw [List.append_assoc, readVariantName]
    simp [hchars.readString_append, lookupVariant, h]

/-- One of the known names is read as what it stands for. -/
theorem takes_variant {known : List (String × α)} {k : String × α}
    (h : known.find? (fun k' ↦ k'.1 == k.1) = some k) :
    (variant known).Takes (.string k.1) k.2 := by
  intro w t hw ht r _
  cases ht with
  | string hn =>
    obtain ⟨n, rfl⟩ := hn.exists_cons
    rw [List.append_assoc, List.cons_append]
    simp only [variant, readVariant, hw.skipSpace_append, skipSpace_cons (c := '"') rfl, if_true]
    exact hn.readVariantName_append h r

/-- So is an object with the name as its one member, and with nothing for a value. -/
theorem takes_variant_object {known : List (String × α)} {k : String × α}
    (h : known.find? (fun k' ↦ k'.1 == k.1) = some k) :
    (variant known).Takes (.object [(k.1, .null)]) k.2 := by
  intro w t hw ht r _
  cases ht with
  | object hms =>
  cases hms with
  | cons hs hn hw₁ hw₂ hv hms =>
  cases hs with
  | first hs =>
  cases hv with
  | null =>
  cases hms with
  | nil hw₃ =>
    obtain ⟨n, rfl⟩ := hn.exists_cons
    simp only [List.append_assoc, List.cons_append]
    simp [variant, readVariant, hw.skipSpace_append, skipSpace_cons, isSpace, readTagged,
      hs.skipSpace_append, hn.readVariantName_append h, hw₁.skipColon_append, skipUnit,
      hw₂.skipSpace_append, readIdent, skipLastBrace, hw₃.skipSpace_append]

theorem takes_optionalString_null : optionalString.Takes .null none := by
  intro w t hw ht r _
  cases ht
  rw [List.append_assoc]
  simp [optionalString, readOptionalString, hw.skipSpace_append, skipSpace_cons, isSpace, readIdent]

theorem takes_optionalString (s : String) : optionalString.Takes (.string s) (some s) := by
  intro w t hw ht r _
  cases ht with
  | string hn =>
    obtain ⟨hchars⟩ := hn
    simp [optionalString, readOptionalString, hw.skipSpace_append, skipSpace_cons, isSpace,
      hchars.readString_append]

/-- Whatever is passed over adds nothing. -/
theorem takes_ignored (state : σ) (v : Datum) : (ignored state).Takes v state := by
  intro w t hw ht r hr
  have hskip : skipValue [] (w ++ (t ++ r)) = .ok r := by
    rw [hw.skipValue_append, ht.skipValue_append hr, skipRest]
  simp only [ignored, List.append_assoc, hskip]

/-! ### Records -/

namespace RecordFormat

variable {f : RecordFormat σ α}

theorem readMembers_eq (f : RecordFormat σ α) (first : Bool) (state : σ) (s : List Char) :
    f.readMembers first state s =
      match skipSpace s with
      | [] => failNext .endInObject []
      | c :: r =>
        match nextMember first c r with
        | .error e => .error e
        | .ok none => settle (f.ofObject state) r
        | .ok (some r) =>
          match f.readMember state r with
          | .error e => .error e
          | .ok (t, r) => f.readMembers false t r := by
  rw [readMembers]
  split
  next h => simp only [h]
  next h =>
    simp only [h]
    split
    · simp_all
    · simp_all
    · split <;> simp_all

theorem readMembers_brace {first : Bool} {state : σ} {w : List Char} (hw : Blank w)
    (r : List Char) :
    f.readMembers first state (w ++ '\x7d' :: r) = settle (f.ofObject state) r := by
  rw [readMembers_eq, hw.skipSpace_append, skipSpace_cons rfl]
  rfl

/-- Behind a separator stands the next member. -/
theorem exists_nextMember {first : Bool} {s : List Char} (hs : Separator first s)
    (n : List Char) :
    ∃ c r, skipSpace (s ++ '"' :: n) = c :: r ∧ nextMember first c r = .ok (some n) := by
  cases hs with
  | first hw => exact ⟨_, _, hw.skipSpace_append _, rfl⟩
  | comma hw hw' =>
    refine ⟨_, _, by rw [List.append_assoc]; exact hw.skipSpace_append _, ?_⟩
    simp [nextMember, hw'.skipSpace_append, skipSpace_cons, isSpace]

/-- **The step.** A member is read, and the next ones are read from what it added. -/
theorem readMembers_append {first : Bool} {state state' : σ} {name : String} {d : Decoder σ}
    {s n w u r : List Char} (hs : Separator first s) (hn : SpellsString name n) (hw : Blank w)
    (hd : f.member state name = .ok d) (hu : d.read u = .ok (state', r)) :
    f.readMembers first state (s ++ (n ++ (w ++ ':' :: u))) = f.readMembers false state' r := by
  obtain ⟨hchars⟩ := hn
  next t =>
  have hmember : f.readMember state (t ++ '"' :: (w ++ ':' :: u)) = .ok (state', r) := by
    simp [readMember, hchars.readString_append, hd, hw.skipColon_append, hu]
  obtain ⟨c, r', hspace, hnext⟩ := exists_nextMember hs (t ++ '"' :: (w ++ ':' :: u))
  rw [List.cons_append, List.append_assoc, List.singleton_append, readMembers_eq, hspace]
  simp only [hnext, hmember]

/-- What the members of an object add up to, one after the other. -/
inductive Sums (f : RecordFormat σ α) : σ → List (String × Datum) → σ → Prop
  /-- No members add nothing. -/
  | nil {s : σ} : Sums f s [] s
  /-- A member adds what its decoder takes it for. -/
  | cons {s t u : σ} {name : String} {v : Datum} {ms : List (String × Datum)} {d : Decoder σ}
      (hd : f.member s name = .ok d) (hv : d.Takes v t) (hms : Sums f t ms u) :
      Sums f s ((name, v) :: ms) u

namespace Sums

/-- **The run.** Members are read one after the other, up to the brace that closes the object. -/
theorem readMembers_append {state state' : σ} {ms : List (String × Datum)}
    (h : f.Sums state ms state') {first : Bool} {t : List Char} (ht : SpellsMembers first ms t)
    (r : List Char) : f.readMembers first state (t ++ r) = settle (f.ofObject state') r := by
  induction h generalizing first t with
  | nil =>
    cases ht with
    | nil hw =>
      rw [List.append_assoc]
      exact readMembers_brace hw r
  | cons hd hv _ ih =>
    cases ht with
    | @cons _ _ _ _ s n w w' t u hs hn hw hw' ht hms =>
      have hread := hv hw' ht (u ++ r) (hms.endsNumber_append r)
      rw [List.append_assoc] at hread
      simp only [List.append_assoc, List.cons_append]
      exact (RecordFormat.readMembers_append hs hn hw hd hread).trans (ih hms)

/-- An object whose members add up to something is taken for what that comes to. -/
theorem takes_object {state : σ} {ms : List (String × Datum)} (h : f.Sums f.start ms state) {a : α}
    (ha : f.ofObject state = .ok a) : f.decoder.Takes (.object ms) a := by
  intro w t hw ht r _
  cases ht with
  | object hms =>
    have hbrace (s : List Char) :
        f.readRecord (w ++ '\x7b' :: s) = f.readMembers true f.start s := by
      simp [readRecord, hw.skipSpace_append, skipSpace_cons, isSpace]
    rw [List.append_assoc, List.cons_append]
    exact (hbrace _).trans ((h.readMembers_append hms r).trans (by rw [ha, settle]))

end Sums

end RecordFormat

end TextHistory.Json
