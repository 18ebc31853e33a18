import TextHistory.Proofs.Json.Decoding
import TextHistory.Proofs.Json.Texts

/-!
# What is written is read back

A decoder reads a value back if it finds it in the text that the value is written as, whatever
stands behind that text (`Decoder.Reads`). The rest is the same as everywhere: it must not look like
more of a number.

Numbers within the bound of the machine, known names and optional strings are read back as such,
because what is written is one of the texts in which they are read. A record is read back member by
member. `RecordFormat.Collects` says what the members of an object, in the order in which they are
written, add up to: each name is one that the format reads at that point, with a decoder that reads
the value written there. An object whose members add up to something is read as what the format
makes of that (`RecordFormat.reads_object`).
-/

namespace TextHistory.Json

variable {α β σ : Type}

theorem Decoder.Reads.decode {d : Decoder α} {v : Value} {a : α} (h : d.Reads v.chars a) :
    d.decode v.text.toList = .ok a := by
  have hread := h [] endsNumber_nil
  rw [List.append_nil] at hread
  rw [Decoder.decode, Value.text, String.toList_ofList, hread]
  rfl

/-! ### Single values -/

theorem reads_natural {n : Nat} (hn : n ≤ maxSignificand) :
    natural.Reads (Value.number n).chars n :=
  (takes_natural hn).reads (.number (isNumber_toDigits n))

theorem reads_variant {known : List (String × α)} {k : String × α}
    (h : known.find? (fun k' ↦ k'.1 == k.1) = some k) :
    (variant known).Reads (Value.string k.1).chars k.2 :=
  (takes_variant h).reads (.string (spellsString_stringChars k.1))

theorem reads_optionalString (o : Option String) :
    optionalString.Reads (Value.ofOption .string o).chars o := by
  cases o with
  | none => exact takes_optionalString_null.reads .null
  | some s => exact (takes_optionalString s).reads (.string (spellsString_stringChars s))

/-! ### Records -/

namespace RecordFormat

variable {f : RecordFormat σ α}

/-- What the members of an object add up to, one after the other. -/
inductive Collects (f : RecordFormat σ α) : σ → List (String × Value) → σ → Prop
  /-- No members add nothing. -/
  | nil {s : σ} : Collects f s [] s
  /-- A member adds what its decoder reads. -/
  | cons {s t u : σ} {name : String} {v : Value} {ms : List (String × Value)} {d : Decoder σ}
      (hd : f.member s name = .ok d) (hv : d.Reads v.chars t) (hms : Collects f t ms u) :
      Collects f s ((name, v) :: ms) u

theorem Collects.readMembers_eq {s t : σ} {ms : List (String × Value)} (h : f.Collects s ms t)
    (r : List Char) :
    f.readMembers false s (Value.memberChars ms ++ r) = settle (f.ofObject t) r := by
  induction h with
  | nil => exact readMembers_brace blank_nil r
  | @cons s t u name v ms d hd hv hms ih =>
    calc f.readMembers false s (Value.memberChars ((name, v) :: ms) ++ r)
        = f.readMembers false s ([','] ++ (stringChars name.toList ++
            ([] ++ ':' :: (v.chars ++ (Value.memberChars ms ++ r))))) := by
          simp [Value.memberChars]
      _ = f.readMembers false t (Value.memberChars ms ++ r) :=
          readMembers_append (.comma blank_nil blank_nil) (spellsString_stringChars name) blank_nil
            hd (hv _ (Value.endsNumber_memberChars ms r))
      _ = settle (f.ofObject u) r := ih

theorem Collects.readRecord_eq {t : σ} {ms : List (String × Value)}
    (h : f.Collects f.start ms t) (r : List Char) :
    f.readRecord ((Value.object ms).chars ++ r) = settle (f.ofObject t) r := by
  have hbrace (s : List Char) : f.readRecord ('\x7b' :: s) = f.readMembers true f.start s := by
    simp [readRecord, skipSpace_cons, isSpace]
  cases h with
  | nil => exact (hbrace _).trans (readMembers_brace blank_nil r)
  | @cons _ t _ name v ms d hd hv hms =>
    calc f.readRecord ((Value.object ((name, v) :: ms)).chars ++ r)
        = f.readMembers true f.start ([] ++ (stringChars name.toList ++
            ([] ++ ':' :: (v.chars ++ (Value.memberChars ms ++ r))))) := by
          rw [← hbrace]
          simp [Value.chars]
      _ = f.readMembers false t (Value.memberChars ms ++ r) :=
          readMembers_append (.first blank_nil) (spellsString_stringChars name) blank_nil hd
            (hv _ (Value.endsNumber_memberChars ms r))
      _ = settle (f.ofObject _) r := hms.readMembers_eq r

/-- An object whose members add up to something is read as what that comes to. -/
theorem Collects.reads_object {t : σ} {ms : List (String × Value)} (h : f.Collects f.start ms t)
    {a : α} (ha : f.ofObject t = .ok a) : f.decoder.Reads (Value.object ms).chars a := by
  intro r _
  exact (h.readRecord_eq r).trans (by rw [ha, settle])

end RecordFormat

end TextHistory.Json
