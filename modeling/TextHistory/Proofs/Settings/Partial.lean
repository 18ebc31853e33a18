import TextHistory.Proofs.Json.Decoding
import TextHistory.Proofs.Settings.RoundTrip
import TextHistory.Settings.Load

/-!
# Settings that are given in part

A text of settings may leave out any of the four fields, name them in any order, put members of
other names among them, and be spelt and padded in any way that JSON allows. What it comes to are
the defaults with the fields that are given put in.

`Given.Adds` says what members add to the fields that were given before, and it says it field by
field: the values of the members with the name of a field (`valuesOf`) are looked at without the
others, and there is none, or a single one of the right type where nothing was given. Since it does
not mention the order of the members, all that has to be shown about the reader is that it gets from
one end of the members to the other (`Given.Adds.sums`). At each member the fields behind are told
from those ahead by what is given already.

Settings are loaded by the same reader as from a text in no file, so loading adds nothing but the
name of the file to what is wrong (`load_eq`), and whatever way they come, their capacity has been
looked at.
-/

namespace TextHistory

/-- What is wrong with a text, as it is said of the file at a path. -/
def SettingsError.inFile (path : String) : SettingsError → SettingsError
  | invalidFile _ reason => invalidFile path reason
  | invalidValue key value => invalidValue key value
  | io reason => io reason

namespace Settings

open Json

/-! ### What members say -/

/-- The values of all members of a name, in their order. -/
def valuesOf (ms : List (String × Datum)) (name : String) : List Datum :=
  (ms.filter fun m ↦ m.1 = name).map Prod.snd

/-- The names of the fields. -/
def fieldNames : List String := ["gap_capacity", "history_mode", "log_level", "log_file"]

/-- The members that are not passed over. -/
def known (ms : List (String × Datum)) : List (String × Datum) :=
  ms.filter fun m ↦ m.1 ∈ fieldNames

/-- A capacity: the digits of a machine word. -/
inductive IsCapacity : Datum → Nat → Prop
  | digits {n : Nat} (hn : n ≤ maxWord) : IsCapacity (.number (Nat.toDigits 10 n)) n

/-- Something that has a name: the name, or an object with the name as its one member and with
nothing for its value. -/
inductive IsNamed {α : Type} (name : α → String) : Datum → α → Prop
  | string (a : α) : IsNamed name (.string (name a)) a
  | object (a : α) : IsNamed name (.object [(name a, .null)]) a

/-- A path that may be missing. -/
inductive IsPath : Datum → Option String → Prop
  | null : IsPath .null none
  | string (s : String) : IsPath (.string s) (some s)

/-- What values add to a field: it stays if there are none, and a single value of its type is put in
where nothing was given. -/
inductive AddsTo {α : Type} (IsA : Datum → α → Prop) : Option α → List Datum → Option α → Prop
  | nothing {o : Option α} : AddsTo IsA o [] o
  | once {v : Datum} {a : α} (h : IsA v a) : AddsTo IsA none [v] (some a)

/-- What members add to the fields that were given, field by field. -/
structure Given.Adds (g : Given) (ms : List (String × Datum)) (g' : Given) : Prop where
  /-- To the capacity. -/
  gapCapacity : AddsTo IsCapacity g.gapCapacity (valuesOf ms "gap_capacity") g'.gapCapacity
  /-- To the mode. -/
  historyMode :
    AddsTo (IsNamed HistoryMode.name) g.historyMode (valuesOf ms "history_mode") g'.historyMode
  /-- To the level. -/
  logLevel : AddsTo (IsNamed LogLevel.name) g.logLevel (valuesOf ms "log_level") g'.logLevel
  /-- To the file. -/
  logFile : AddsTo IsPath g.logFile (valuesOf ms "log_file") g'.logFile

/-- Members state the fields `g`, and no others: each field that `g` has is the value of one member
of its name, and the fields that it lacks have no members. Members of other names do not matter. -/
def States (ms : List (String × Datum)) (g : Given) : Prop := Given.nothing.Adds ms g

/-! ### Fields one by one -/

section Fields

variable {α : Type} {IsA : Datum → α → Prop} {o o' : Option α} {v : Datum} {vs vs' : List Datum}
  {ms ms' : List (String × Datum)} {name : String}

theorem valuesOf_cons_self : valuesOf ((name, v) :: ms) name = v :: valuesOf ms name := by
  simp [valuesOf]

theorem valuesOf_cons_ne {other : String} (h : name ≠ other) :
    valuesOf ((name, v) :: ms) other = valuesOf ms other := by
  simp [valuesOf, h]

theorem valuesOf_known (h : name ∈ fieldNames) : valuesOf (known ms) name = valuesOf ms name := by
  rw [valuesOf, known, List.filter_filter, valuesOf]
  congr 1
  refine List.filter_congr fun m _ ↦ ?_
  rw [Bool.and_eq_left_iff_imp]
  intro hm
  rw [of_decide_eq_true hm]
  exact decide_eq_true h

namespace AddsTo

theorem eq_of_nil (h : AddsTo IsA o [] o') : o = o' := by
  cases h
  rfl

/-- A value is put in where nothing was given, and no other value comes behind it. -/
theorem of_cons (h : AddsTo IsA o (v :: vs) o') :
    o = none ∧ ∃ a, IsA v a ∧ AddsTo IsA (some a) vs o' := by
  cases h with
  | once h => exact ⟨rfl, _, h, .nothing⟩

theorem of_perm (h : AddsTo IsA none vs o) (hvs : vs.Perm vs') : AddsTo IsA none vs' o := by
  cases h with
  | nothing =>
    rw [List.nil_perm.1 hvs]
    exact .nothing
  | once h =>
    rw [List.perm_singleton.1 hvs.symm]
    exact .once h

/-- Values add something to a field in which nothing was given exactly if there is at most one, and
it is of the type of the field. -/
theorem exists_iff :
    (∃ o, AddsTo IsA none vs o) ↔ vs.length ≤ 1 ∧ ∀ v ∈ vs, ∃ a, IsA v a := by
  constructor
  · rintro ⟨o, h⟩
    cases h with
    | nothing => simp
    | once h => exact ⟨Nat.le_refl _, List.forall_mem_singleton.2 ⟨_, h⟩⟩
  · rintro ⟨hlen, hvs⟩
    rcases vs with - | ⟨v, - | ⟨w, vs⟩⟩
    · exact ⟨none, .nothing⟩
    · obtain ⟨a, ha⟩ := hvs v List.mem_cons_self
      exact ⟨some a, .once ha⟩
    · simp at hlen

end AddsTo

end Fields

theorem IsNamed.takes {α : Type} {name : α → String} {byName : List (String × α)}
    (hbyName : ∀ a, byName.find? (fun k ↦ k.1 == name a) = some (name a, a)) {v : Datum} {a : α}
    (h : IsNamed name v a) : (variant byName).Takes v a := by
  cases h with
  | string => exact takes_variant (k := (name a, a)) (hbyName a)
  | object => exact takes_variant_object (k := (name a, a)) (hbyName a)

theorem IsCapacity.takes {v : Datum} {n : Nat} (h : IsCapacity v n) : natural.Takes v n := by
  obtain ⟨hn⟩ := h
  exact takes_natural hn

theorem IsPath.takes {v : Datum} {o : Option String} (h : IsPath v o) :
    optionalString.Takes v o := by
  cases h with
  | null => exact takes_optionalString_null
  | string s => exact takes_optionalString s

/-! ### Members one by one -/

namespace Given.Adds

variable {g g' : Given} {name : String} {v : Datum} {ms ms' : List (String × Datum)}

theorem eq_of_nil (h : g.Adds [] g') : g = g' := by
  obtain ⟨hcapacity, hmode, hlevel, hfile⟩ := h
  cases g
  cases g'
  congr
  · exact hcapacity.eq_of_nil
  · exact hmode.eq_of_nil
  · exact hlevel.eq_of_nil
  · exact hfile.eq_of_nil

/-- **The step.** The first of the members is read into what was given before, and the others add
to that what they would have added anyway. -/
theorem of_cons (h : g.Adds ((name, v) :: ms) g') :
    ∃ d g₁, format.member g name = .ok d ∧ d.Takes v g₁ ∧ g₁.Adds ms g' := by
  obtain ⟨hcapacity, hmode, hlevel, hfile⟩ := h
  by_cases hname : name = "gap_capacity"
  · subst hname
    rw [valuesOf_cons_self] at hcapacity
    rw [valuesOf_cons_ne (by decide)] at hmode hlevel hfile
    obtain ⟨hnone, n, hn, hrest⟩ := hcapacity.of_cons
    exact ⟨g.readGapCapacity, { g with gapCapacity := some n }, by simp [format, onlyOnce, hnone],
      hn.takes.map _, hrest, hmode, hlevel, hfile⟩
  rw [valuesOf_cons_ne hname] at hcapacity
  by_cases hname : name = "history_mode"
  · subst hname
    rw [valuesOf_cons_self] at hmode
    rw [valuesOf_cons_ne (by decide)] at hlevel hfile
    obtain ⟨hnone, m, hm, hrest⟩ := hmode.of_cons
    exact ⟨g.readHistoryMode, { g with historyMode := some m }, by simp [format, onlyOnce, hnone],
      (hm.takes HistoryMode.find?_byName).map _, hcapacity, hrest, hlevel, hfile⟩
  rw [valuesOf_cons_ne hname] at hmode
  by_cases hname : name = "log_level"
  · subst hname
    rw [valuesOf_cons_self] at hlevel
    rw [valuesOf_cons_ne (by decide)] at hfile
    obtain ⟨hnone, l, hl, hrest⟩ := hlevel.of_cons
    exact ⟨g.readLogLevel, { g with logLevel := some l }, by simp [format, onlyOnce, hnone],
      (hl.takes LogLevel.find?_byName).map _, hcapacity, hmode, hrest, hfile⟩
  rw [valuesOf_cons_ne hname] at hlevel
  by_cases hname : name = "log_file"
  · subst hname
    rw [valuesOf_cons_self] at hfile
    obtain ⟨hnone, o, ho, hrest⟩ := hfile.of_cons
    exact ⟨g.readLogFile, { g with logFile := some o }, by simp [format, onlyOnce, hnone],
      ho.takes.map _, hcapacity, hmode, hlevel, hrest⟩
  · rw [valuesOf_cons_ne hname] at hfile
    exact ⟨ignored g, g, by simp [format, *], takes_ignored g v, hcapacity, hmode, hlevel, hfile⟩

/-- **The run.** Whatever the order of the members is, the reader gets to what they add up to. -/
theorem sums (h : g.Adds ms g') : format.Sums g ms g' := by
  induction ms generalizing g with
  | nil =>
    rw [h.eq_of_nil]
    exact .nil
  | cons m ms ih =>
    obtain ⟨name, v⟩ := m
    obtain ⟨d, g₁, hd, hv, hms⟩ := h.of_cons
    exact .cons hd hv (ih hms)

end Given.Adds

namespace States

variable {ms ms' : List (String × Datum)} {g : Given}

/-- **A text of settings** is read as the defaults with the fields that it states put in. -/
theorem takes (h : States ms g) : format.decoder.Takes (.object ms) g.settings :=
  h.sums.takes_object rfl

/-- The order of the members, and all members of other names, make no difference. -/
theorem of_perm (h : States ms g) (hms : (known ms).Perm (known ms')) : States ms' g := by
  have hvalues (name : String) (hname : name ∈ fieldNames) :
      (valuesOf ms name).Perm (valuesOf ms' name) := by
    have hperm : (valuesOf (known ms) name).Perm (valuesOf (known ms') name) :=
      (hms.filter _).map _
    rwa [valuesOf_known hname, valuesOf_known hname] at hperm
  exact {
    gapCapacity := h.gapCapacity.of_perm (hvalues _ (by decide))
    historyMode := h.historyMode.of_perm (hvalues _ (by decide))
    logLevel := h.logLevel.of_perm (hvalues _ (by decide))
    logFile := h.logFile.of_perm (hvalues _ (by decide)) }

end States

/-- Members state something exactly if each field is there at most once and has a value of its
type. -/
theorem exists_states_iff {ms : List (String × Datum)} :
    (∃ g, States ms g) ↔ (∀ name ∈ fieldNames, (valuesOf ms name).length ≤ 1) ∧
      (∀ v ∈ valuesOf ms "gap_capacity", ∃ n, IsCapacity v n) ∧
      (∀ v ∈ valuesOf ms "history_mode", ∃ m, IsNamed HistoryMode.name v m) ∧
      (∀ v ∈ valuesOf ms "log_level", ∃ l, IsNamed LogLevel.name v l) ∧
      ∀ v ∈ valuesOf ms "log_file", ∃ o, IsPath v o := by
  constructor
  · rintro ⟨g, hcapacity, hmode, hlevel, hfile⟩
    obtain ⟨hlen₁, hcapacity⟩ := AddsTo.exists_iff.1 ⟨_, hcapacity⟩
    obtain ⟨hlen₂, hmode⟩ := AddsTo.exists_iff.1 ⟨_, hmode⟩
    obtain ⟨hlen₃, hlevel⟩ := AddsTo.exists_iff.1 ⟨_, hlevel⟩
    obtain ⟨hlen₄, hfile⟩ := AddsTo.exists_iff.1 ⟨_, hfile⟩
    exact ⟨by simp [fieldNames, *], hcapacity, hmode, hlevel, hfile⟩
  · rintro ⟨hlen, hcapacity, hmode, hlevel, hfile⟩
    obtain ⟨n, hn⟩ := AddsTo.exists_iff.2 ⟨hlen _ (by decide), hcapacity⟩
    obtain ⟨m, hm⟩ := AddsTo.exists_iff.2 ⟨hlen _ (by decide), hmode⟩
    obtain ⟨l, hl⟩ := AddsTo.exists_iff.2 ⟨hlen _ (by decide), hlevel⟩
    obtain ⟨o, ho⟩ := AddsTo.exists_iff.2 ⟨hlen _ (by decide), hfile⟩
    exact ⟨⟨n, m, l, o⟩, hn, hm, hl, ho⟩

/-! ### Texts, and files -/

theorem ofJson_of_states {text : String} {ms : List (String × Datum)} {g : Given}
    (htext : IsTextOf (.object ms) text.toList) (h : States ms g) :
    ofJson text = if g.gapCapacity = some 0 then .error (.invalidValue "gap_capacity" "0")
      else .ok ⟨g.gapCapacity.getD 64, g.historyMode.getD .branching, g.logLevel.getD .info,
        g.logFile.getD none⟩ := by
  have hzero : g.settings.gapCapacity = 0 ↔ g.gapCapacity = some 0 := by
    cases hg : g.gapCapacity <;> simp [Given.settings, hg, default, defaultCapacity]
  rw [ofJson, ofText, h.takes.decode_eq htext]
  simp only [validate_eq, hzero]
  rfl

theorem gapCapacity_of_ofText {path text : String} {s : Settings} (h : ofText path text = .ok s) :
    1 ≤ s.gapCapacity := by
  rw [ofText] at h
  split at h
  · cases h
  · rw [validate_eq] at h
    split at h
    · cases h
    next hne =>
      obtain rfl := Except.ok.inj h
      exact Nat.pos_of_ne_zero hne

theorem gapCapacity_of_load {files : FileTree} {path : String} {s : Settings}
    (h : load files path = .ok s) : 1 ≤ s.gapCapacity := by
  rw [load] at h
  split at h
  · cases h
  · exact gapCapacity_of_ofText h

theorem gapCapacity_of_loadFrom {files : FileTree} {env : Environment} {path : String}
    {s : Settings} (h : loadFrom files env path = .ok s) : 1 ≤ s.gapCapacity := by
  rw [loadFrom] at h
  cases hpath : expandPath env path with
  | error e => simp [hpath, bind, Except.bind] at h
  | ok p =>
    rw [hpath] at h
    exact gapCapacity_of_load h

theorem gapCapacity_of_loadOrDefault {files : FileTree} {env : Environment} {s : Settings}
    (h : loadOrDefault files env = .ok s) : 1 ≤ s.gapCapacity := by
  rw [loadOrDefault] at h
  split at h
  · exact gapCapacity_of_load h
  · obtain rfl := Except.ok.inj h
    decide

theorem readText_of_entry? {files : FileTree} {path text : String} {place : List String}
    (hplace : files.resolve path = .ok place)
    (hentry : files.entry? place = some (.file text.toUTF8)) : files.readText path = .ok text := by
  have htext : String.fromUTF8? text.toUTF8 = some text := dif_pos text.isValidUTF8
  simp only [FileTree.readText, hplace, bind, Except.bind, hentry, htext]

/-- Loading a file is reading its text, with another name for where it is. -/
theorem load_eq {files : FileTree} {path text : String} (h : files.readText path = .ok text) :
    load files path = (ofJson text).mapError (SettingsError.inFile path) := by
  rw [load, h, ofJson]
  dsimp only [ofText]
  split
  · rfl
  · rw [validate_eq]
    split <;> rfl

/-- **Settings may be given in part.** A text is an object with the members `ms`, spelt and padded
in any way; each field of the settings is among the members at most once, in any place, and has a
value of its type (`exists_states_iff`); `g` is what is given so. Then the settings that are read
are the defaults with just these fields put in, unless a capacity of nothing is given, which is
refused. Another object with the same members of the known names, in another order and among other
members, comes to the same.

Whatever way settings come from a text, their capacity is not nothing. And for any text at all,
loading a file that holds it comes to what reading it comes to, but for the path in the refusal. -/
theorem ofJson_partial :
    (∀ (text : String) (ms : List (String × Datum)) (g : Given),
      IsTextOf (.object ms) text.toList → States ms g →
        ofJson text = (if g.gapCapacity = some 0 then .error (.invalidValue "gap_capacity" "0")
          else .ok ⟨g.gapCapacity.getD 64, g.historyMode.getD .branching, g.logLevel.getD .info,
            g.logFile.getD none⟩) ∧
        ∀ (text' : String) (ms' : List (String × Datum)), IsTextOf (.object ms') text'.toList →
          (known ms).Perm (known ms') → ofJson text' = ofJson text) ∧
    (∀ s : Settings, (∀ text, ofJson text = .ok s → 1 ≤ s.gapCapacity) ∧
      (∀ files path, load files path = .ok s → 1 ≤ s.gapCapacity) ∧
      (∀ files env path, loadFrom files env path = .ok s → 1 ≤ s.gapCapacity) ∧
      ∀ files env, loadOrDefault files env = .ok s → 1 ≤ s.gapCapacity) ∧
    ∀ (files : FileTree) (path text : String), files.readText path = .ok text →
      load files path = (ofJson text).mapError (SettingsError.inFile path) := by
  refine ⟨fun text ms g htext h ↦ ⟨ofJson_of_states htext h, fun text' ms' htext' hms ↦ ?_⟩,
    fun s ↦ ⟨fun text ↦ gapCapacity_of_ofText, fun files path ↦ gapCapacity_of_load,
      fun files env path ↦ gapCapacity_of_loadFrom, fun files env ↦ gapCapacity_of_loadOrDefault⟩,
    fun files path text ↦ load_eq⟩
  rw [ofJson_of_states htext h, ofJson_of_states htext' (h.of_perm hms)]

/-- A member that is passed over, blanks, and the name of a field with an escape, in a file; the two
fields of it in their other order; and a capacity of nothing. -/
theorem ofJson_partial_escaped :
    let text := "\x7b \"x\":[-1.5E+3] ,\"\\u006Cog_file\":null,\"history_mode\":\"linear\"\x7d\n"
    let text' := "\x7b\"history_mode\":\"linear\",\"log_file\":null\x7d"
    let zero := "\x7b\"gap_capacity\":0\x7d"
    let file := ("log_file", Datum.null)
    let mode := ("history_mode", Datum.string "linear")
    let ms := [("x", .array [.number ['-', '1', '.', '5', 'E', '+', '3']]), file, mode]
    let files : FileTree := ⟨[(["c"], .file text.toUTF8)], []⟩
    IsTextOf (.object ms) text.toList ∧ States ms ⟨none, some .linear, none, some none⟩ ∧
      IsTextOf (.object [mode, file]) text'.toList ∧ (known ms).Perm (known [mode, file]) ∧
      ofJson text = .ok ⟨64, .linear, .info, none⟩ ∧ ofJson text' = ofJson text ∧
      ofJson zero = .error (.invalidValue "gap_capacity" "0") ∧
      files.readText "c" = .ok text ∧ load files "c" = .ok ⟨64, .linear, .info, none⟩ := by
  intro text text' zero file mode ms files
  have hblank : Blank [' '] := by decide
  have hline : Blank ['\n'] := by decide
  have hcomma : Separator false [','] := .comma blank_nil blank_nil
  have hpoint : IsFraction ['.', '5'] := .some (by decide)
  have hexponent : IsExponent ['E', '+', '3'] :=
    @IsExponent.some _ ['+'] ['3'] (.inr rfl) (by decide) (by decide)
  have hnumber : IsNumber ['-', '1', '.', '5', 'E', '+', '3'] :=
    @IsNumber.parts ['-'] ['1'] _ _ (by decide) (.digits (by decide) (by decide)) hpoint hexponent
  have hx : Spells (.array [.number ['-', '1', '.', '5', 'E', '+', '3']]) _ :=
    .array (.cons (.first blank_nil) (.number hnumber) (.nil blank_nil))
  have hcode : SpellsCode 'l'.toNat ['0', '0', '6', 'C'] :=
    @SpellsCode.digits 0 0 6 12 _ _ _ _ (isHexDigit_hexDigit (by decide))
      (isHexDigit_hexDigit (by decide)) (isHexDigit_hexDigit (by decide)) ⟨by decide, .inr rfl⟩
  have hfile : SpellsString "log_file" _ :=
    .quoted (.cons (.code hcode) (spellsChars_flatMap "og_file".toList))
  have hmode : SpellsMembers false [mode] _ :=
    .cons hcomma (spellsString_stringChars _) blank_nil blank_nil
      (.string (spellsString_stringChars _)) (.nil blank_nil)
  have hspelt := IsTextOf.padded blank_nil (.object (.cons (.first hblank)
    (spellsString_stringChars "x") blank_nil blank_nil hx
    (.cons (.comma hblank blank_nil) hfile blank_nil blank_nil .null hmode))) hline
  have htext : IsTextOf (.object ms) text.toList := by
    refine (congrArg (IsTextOf _) (?_ : _ = text.toList)).mp hspelt
    decide
  have hstates : States ms ⟨none, some .linear, none, some none⟩ :=
    ⟨.nothing, .once (.string HistoryMode.linear), .nothing, .once .null⟩
  have hspelt' := IsTextOf.padded blank_nil (.object (.cons (.first blank_nil)
    (spellsString_stringChars "history_mode") blank_nil blank_nil
    (.string (spellsString_stringChars "linear")) (.cons hcomma
    (spellsString_stringChars "log_file") blank_nil blank_nil .null (.nil blank_nil)))) blank_nil
  have htext' : IsTextOf (.object [mode, file]) text'.toList := by
    refine (congrArg (IsTextOf _) (?_ : _ = text'.toList)).mp hspelt'
    decide
  have hknown : (known ms).Perm (known [mode, file]) := .swap _ _ _
  have hspelt₀ := IsTextOf.padded blank_nil (.object (.cons (.first blank_nil)
    (spellsString_stringChars "gap_capacity") blank_nil blank_nil
    (.number (isNumber_toDigits 0)) (.nil blank_nil))) blank_nil
  have hzero : IsTextOf (.object [("gap_capacity", .number (Nat.toDigits 10 0))]) zero.toList := by
    refine (congrArg (IsTextOf _) (?_ : _ = zero.toList)).mp hspelt₀
    decide
  have hsplit : "c".splitOn "/" = ["c"] := by
    rw [String.splitOn, if_neg (by decide), String.splitOnAux, if_neg (by decide),
      if_neg (by decide), String.splitOnAux, if_pos (by decide)]
    decide
  have hnames : FileTree.names "c" = ["c"] := by
    rw [FileTree.names, hsplit]
    decide
  have hplace : files.resolve "c" = .ok ["c"] := by
    rw [FileTree.resolve, hnames]
    rfl
  have hread : files.readText "c" = .ok text := readText_of_entry? hplace rfl
  obtain ⟨hpartial, -, hload⟩ := ofJson_partial
  obtain ⟨hok, hsame⟩ := hpartial text ms _ htext hstates
  obtain ⟨hrefused, -⟩ := hpartial zero _ ⟨some 0, none, none, none⟩ hzero
    ⟨.once (.digits (Nat.zero_le _)), .nothing, .nothing, .nothing⟩
  refine ⟨htext, hstates, htext', hknown, hok, hsame text' _ htext' hknown, hrefused, hread, ?_⟩
  rw [hload files "c" text hread, hok]
  rfl

end Settings

end TextHistory
