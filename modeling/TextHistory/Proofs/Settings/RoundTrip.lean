import TextHistory.Proofs.Json.RoundTrip
import TextHistory.Settings.Json

/-!
# Written settings, positions and spans are read back

Everything that is both written as JSON and read from it comes back as it was: positions and spans
whose parts are machine words, every mode and level, and all settings but those that could not be
used (`decode_toJson`). Settings are checked when they are read, not when they are written, so a
capacity of nothing is written like any other and refused on the way back.

For a name that comes down to looking it up among the known ones. For a record it comes down to
what its members, in the order in which they are written, add up to (`RecordFormat.Collects`). The
name of a file may hold any characters.
-/

namespace TextHistory

open Json

/-- Both parts of a position are machine words. -/
def Position.Fits (p : Position) : Prop := p.line ≤ maxWord ∧ p.column ≤ maxWord

/-- All parts of a span are machine words. -/
def Span.Fits (s : Span) : Prop := s.start.Fits ∧ s.stop.Fits

/-! ### Records of two fields -/

/-- A record of two fields is read back if each of its fields is. -/
theorem reads_pair {α β : Type} {expected first second : String} {d : Decoder α}
    {mk : α → α → β} (hne : second ≠ first) {v w : Value} {a b : α} (hv : d.Reads v.chars a)
    (hw : d.Reads w.chars b) :
    (pairFormat expected first second d mk).decoder.Reads
      (Value.object [(first, v), (second, w)]).chars (mk a b) := by
  have hsecond : (pairFormat expected first second d mk).Collects (some a, none) [(second, w)]
      (some a, some b) :=
    .cons (by simp [pairFormat, hne, onlyOnce]) (hw.map fun b ↦ (some a, some b)) .nil
  exact RecordFormat.Collects.reads_object
    (.cons (by simp [pairFormat, onlyOnce]) (hv.map fun a ↦ (some a, none)) hsecond) rfl

theorem Position.reads_toJson {p : Position} (hp : p.Fits) :
    Position.decoder.Reads p.toJson.chars p :=
  reads_pair (by decide) (reads_natural hp.1) (reads_natural hp.2)

theorem Span.reads_toJson {s : Span} (hs : s.Fits) : Span.decoder.Reads s.toJson.chars s :=
  reads_pair (by decide) (Position.reads_toJson hs.1) (Position.reads_toJson hs.2)

/-! ### Names -/

theorem HistoryMode.find?_byName (m : HistoryMode) :
    byName.find? (fun k ↦ k.1 == m.name) = some (m.name, m) := by
  cases m <;> rfl

theorem LogLevel.find?_byName (l : LogLevel) :
    byName.find? (fun k ↦ k.1 == l.name) = some (l.name, l) := by
  cases l <;> rfl

theorem HistoryMode.reads_toJson (m : HistoryMode) :
    HistoryMode.decoder.Reads m.toJson.chars m :=
  reads_variant (k := (m.name, m)) m.find?_byName

theorem LogLevel.reads_toJson (l : LogLevel) : LogLevel.decoder.Reads l.toJson.chars l :=
  reads_variant (k := (l.name, l)) l.find?_byName

/-! ### Settings -/

namespace Settings

theorem reads_toJson {s : Settings} (hs : s.gapCapacity ≤ maxWord) :
    format.decoder.Reads s.toJson.chars s := by
  let file := ("log_file", Value.ofOption .string s.logFile)
  let level := ("log_level", s.logLevel.toJson)
  let mode := ("history_mode", s.historyMode.toJson)
  have hfile : format.Collects ⟨some s.gapCapacity, some s.historyMode, some s.logLevel, none⟩
      [file] ⟨some s.gapCapacity, some s.historyMode, some s.logLevel, some s.logFile⟩ :=
    .cons rfl ((reads_optionalString s.logFile).map _) .nil
  have hlevel : format.Collects ⟨some s.gapCapacity, some s.historyMode, none, none⟩
      [level, file] _ :=
    .cons rfl (s.logLevel.reads_toJson.map _) hfile
  have hmode : format.Collects ⟨some s.gapCapacity, none, none, none⟩ [mode, level, file] _ :=
    .cons rfl (s.historyMode.reads_toJson.map _) hlevel
  have hcapacity : format.Collects .nothing
      [("gap_capacity", .number s.gapCapacity), mode, level, file] _ :=
    .cons rfl ((reads_natural hs).map _) hmode
  exact hcapacity.reads_object rfl

theorem ofJson_toJson {s : Settings} (hs : s.gapCapacity ≤ maxWord) :
    ofJson s.toJson.text = s.validate := by
  rw [ofJson, ofText, (reads_toJson hs).decode]

theorem validate_eq (s : Settings) :
    s.validate =
      if s.gapCapacity = 0 then .error (.invalidValue "gap_capacity" "0") else .ok s := by
  rw [validate]
  split
  next h => rw [h]; rfl
  · rfl

end Settings

/-- **What is written is read back**: positions and spans of machine words, every mode and level,
and all settings, except that a capacity of nothing is refused. -/
theorem decode_toJson {p : Position} {s : Span} {c : Settings} (m : HistoryMode) (l : LogLevel)
    (hp : p.Fits) (hs : s.Fits) (hc : c.gapCapacity ≤ maxWord) :
    Position.decoder.decode p.toJson.text.toList = .ok p ∧
      Span.decoder.decode s.toJson.text.toList = .ok s ∧
      HistoryMode.decoder.decode m.toJson.text.toList = .ok m ∧
      LogLevel.decoder.decode l.toJson.text.toList = .ok l ∧
      Settings.ofJson c.toJson.text =
        if c.gapCapacity = 0 then .error (.invalidValue "gap_capacity" "0") else .ok c := by
  refine ⟨(Position.reads_toJson hp).decode, (Span.reads_toJson hs).decode,
    m.reads_toJson.decode, l.reads_toJson.decode, ?_⟩
  rw [Settings.ofJson_toJson hc, Settings.validate_eq]

/-- A span from the last position there is, and settings whose file is named with a quote, a
backslash, a line feed and a null character, once as they are and once with a capacity of
nothing. -/
theorem decode_toJson_last :
    let last : Position := ⟨maxWord, maxWord⟩
    let s : Span := ⟨last, .origin⟩
    let c : Settings := ⟨maxWord, .linear, .warning, some "a\"b\\\n\x00é"⟩
    let z : Settings := ⟨0, .branching, .debug, none⟩
    last.Fits ∧ s.Fits ∧ c.gapCapacity ≤ maxWord ∧ z.gapCapacity ≤ maxWord ∧
      Span.decoder.decode s.toJson.text.toList = .ok s ∧
      Settings.ofJson c.toJson.text = .ok c ∧
      Settings.ofJson z.toJson.text = .error (.invalidValue "gap_capacity" "0") := by
  intro last s c z
  have hlast : last.Fits := ⟨Nat.le_refl _, Nat.le_refl _⟩
  have hs : s.Fits := ⟨hlast, Nat.zero_le _, Nat.zero_le _⟩
  have hc : c.gapCapacity ≤ maxWord := Nat.le_refl _
  have hz : z.gapCapacity ≤ maxWord := Nat.zero_le _
  obtain ⟨-, hspan, -, -, hread⟩ := decode_toJson .linear .warning hlast hs hc
  obtain ⟨-, -, -, -, hrefused⟩ := decode_toJson .branching .debug hlast hs hz
  exact ⟨hlast, hs, hc, hz, hspan, hread, hrefused⟩

end TextHistory
