import TextHistory.Proofs.Json.Walk

/-!
# The text of a value

Two facts about what the writer makes of a value, however deeply it is nested and whatever its
strings contain. The first is about the text with more text behind it, so that it can be proved
along the value.

**The text says which value it is** (`chars_append_inj`): texts that begin with the texts of two
values and go on the same way from there begin with the same value. The first character tells the
kind of a value (`Kind.ofChar`); a closing bracket is the first character of none, so an array that
ends at once is told from one with an item. From there on the parts follow one after the other, a
comma before each and a bracket behind the last. Only a number has to be protected from what
follows it, and the comma or the bracket does that (`endsNumber_itemChars`,
`endsNumber_memberChars`).

**The text is a JSON text** (`exists_spells`), without any blanks and with as few escapes as JSON
allows. So whatever holds of all JSON texts holds of it: the reader that passes over a value passes
over it and ends where it ends (`skipValue_text`).
-/

namespace TextHistory.Json

/-! ### The kind of a value -/

/-- The kinds of values that the first character of a text tells apart. -/
inductive Kind
  | null | bool | number | string | array | object

/-- The kind of the values whose texts begin with a character. -/
def Kind.ofChar (c : Char) : Option Kind :=
  if isDigit c then some number
  else if c = 'n' then some null
  else if c = 't' || c = 'f' then some bool
  else if c = '"' then some string
  else if c = '[' then some array
  else if c = '\x7b' then some object
  else none

namespace Value

/-- The kind of a value. -/
def kind : Value → Kind
  | null => .null
  | bool _ => .bool
  | number _ => .number
  | string _ => .string
  | array _ => .array
  | object _ => .object

/-- A text of a value begins with a character of its kind. -/
theorem exists_chars_append (v : Value) (r : List Char) :
    ∃ c s, v.chars ++ r = c :: s ∧ Kind.ofChar c = some v.kind := by
  cases v with
  | null => exact ⟨_, _, rfl, rfl⟩
  | bool b => cases b <;> exact ⟨_, _, rfl, rfl⟩
  | number n =>
    obtain ⟨d, ds, h, hd⟩ := exists_toDigits n
    exact ⟨d, ds ++ r, by rw [chars, h, List.cons_append], if_pos hd⟩
  | string s => exact ⟨_, _, rfl, rfl⟩
  | array vs => cases vs <;> exact ⟨_, _, rfl, rfl⟩
  | object ms => rcases ms with - | ⟨⟨name, v⟩, ms⟩ <;> exact ⟨_, _, rfl, rfl⟩

theorem kind_eq_of_chars_append {v w : Value} {r s : List Char}
    (h : v.chars ++ r = w.chars ++ s) : v.kind = w.kind := by
  obtain ⟨c, t, hv, hc⟩ := v.exists_chars_append r
  obtain ⟨d, u, hw, hd⟩ := w.exists_chars_append s
  rw [hv, hw, List.cons.injEq] at h
  rw [h.1, hd] at hc
  exact Option.some.inj hc.symm

/-- An array with an item does not end at once. -/
theorem item_append_ne (v : Value) {vs : List Value} {r s : List Char} :
    v.chars ++ itemChars vs ++ r ≠ ']' :: s := by
  obtain ⟨c, t, hv, hc⟩ := v.exists_chars_append (itemChars vs ++ r)
  intro h
  rw [List.append_assoc, hv, List.cons.injEq] at h
  rw [h.1] at hc
  cases hc

/-! ### What follows a value inside brackets -/

theorem endsNumber_itemChars (vs : List Value) (r : List Char) :
    EndsNumber (itemChars vs ++ r) := by
  cases vs <;> exact endsNumber_cons.2 (by decide)

theorem endsNumber_memberChars (ms : List (String × Value)) (r : List Char) :
    EndsNumber (memberChars ms ++ r) := by
  rcases ms with - | ⟨⟨name, v⟩, ms⟩ <;> exact endsNumber_cons.2 (by decide)

/-! ### The value of a text -/

mutual

/-- Texts that begin with values begin with the same one. -/
theorem chars_append_inj : ∀ (v w : Value) {r s : List Char}, EndsNumber r → EndsNumber s →
    v.chars ++ r = w.chars ++ s → v = w ∧ r = s
  | null, w, r, s, _, _, h => by
    cases w with
    | null => exact ⟨rfl, by simpa [chars] using h⟩
    | _ => cases kind_eq_of_chars_append h
  | bool b, w, r, s, _, _, h => by
    cases w with
    | bool b' => cases b <;> cases b' <;> simp_all [chars]
    | _ => cases kind_eq_of_chars_append h
  | number n, w, r, s, hr, hs, h => by
    cases w with
    | number m =>
      obtain ⟨rfl, rfl⟩ := toDigits_append_inj hr hs h
      exact ⟨rfl, rfl⟩
    | _ => cases kind_eq_of_chars_append h
  | string a, w, r, s, _, _, h => by
    cases w with
    | string b =>
      obtain ⟨hab, rfl⟩ := stringChars_append_inj.1 h
      exact ⟨by rw [String.toList_inj.1 hab], rfl⟩
    | _ => cases kind_eq_of_chars_append h
  | array [], w, r, s, _, _, h => by
    cases w with
    | array ws =>
      cases ws with
      | nil => exact ⟨rfl, by simpa [chars] using h⟩
      | cons w ws => exact absurd (List.cons.inj h).2.symm (item_append_ne w)
    | _ => cases kind_eq_of_chars_append h
  | array (v :: vs), w, r, s, _, _, h => by
    cases w with
    | array ws =>
      cases ws with
      | nil => exact absurd (List.cons.inj h).2 (item_append_ne v)
      | cons w ws =>
        -- behind the bracket stands what would otherwise stand behind a comma
        have hitems : itemChars (v :: vs) ++ r = itemChars (w :: ws) ++ s :=
          congrArg (',' :: ·) (List.cons.inj h).2
        obtain ⟨hvs, rfl⟩ := itemChars_append_inj (v :: vs) (w :: ws) hitems
        exact ⟨by rw [hvs], rfl⟩
    | _ => cases kind_eq_of_chars_append h
  | object [], w, r, s, _, _, h => by
    cases w with
    | object ns =>
      rcases ns with - | ⟨⟨name, w⟩, ns⟩
      · exact ⟨rfl, by simpa [chars] using h⟩
      · simp [chars, stringChars] at h
    | _ => cases kind_eq_of_chars_append h
  | object ((name, v) :: ms), w, r, s, _, _, h => by
    cases w with
    | object ns =>
      rcases ns with - | ⟨⟨name', w⟩, ns⟩
      · simp [chars, stringChars] at h
      · have hmembers : memberChars ((name, v) :: ms) ++ r = memberChars ((name', w) :: ns) ++ s :=
          congrArg (',' :: ·) (List.cons.inj h).2
        obtain ⟨hms, rfl⟩ := memberChars_append_inj ((name, v) :: ms) ((name', w) :: ns) hmembers
        exact ⟨by rw [hms], rfl⟩
    | _ => cases kind_eq_of_chars_append h

theorem itemChars_append_inj : ∀ (vs ws : List Value) {r s : List Char},
    itemChars vs ++ r = itemChars ws ++ s → vs = ws ∧ r = s
  | [], [], r, s, h => ⟨rfl, by simpa [itemChars] using h⟩
  | [], w :: ws, r, s, h => by simp [itemChars] at h
  | v :: vs, [], r, s, h => by simp [itemChars] at h
  | v :: vs, w :: ws, r, s, h => by
    simp only [itemChars, List.cons_append, List.append_assoc, List.cons.injEq, true_and] at h
    obtain ⟨rfl, hrest⟩ := chars_append_inj v w (endsNumber_itemChars vs r)
      (endsNumber_itemChars ws s) h
    obtain ⟨rfl, rfl⟩ := itemChars_append_inj vs ws hrest
    exact ⟨rfl, rfl⟩

theorem memberChars_append_inj : ∀ (ms ns : List (String × Value)) {r s : List Char},
    memberChars ms ++ r = memberChars ns ++ s → ms = ns ∧ r = s
  | [], [], r, s, h => ⟨rfl, by simpa [memberChars] using h⟩
  | [], (name, v) :: ns, r, s, h => by simp [memberChars] at h
  | (name, v) :: ms, [], r, s, h => by simp [memberChars] at h
  | (name, v) :: ms, (name', w) :: ns, r, s, h => by
    simp only [memberChars, List.cons_append, List.append_assoc, List.cons.injEq, true_and,
      stringChars_append_inj, String.toList_inj] at h
    obtain ⟨rfl, h⟩ := h
    obtain ⟨rfl, hrest⟩ := chars_append_inj v w (endsNumber_memberChars ms r)
      (endsNumber_memberChars ns s) h
    obtain ⟨rfl, rfl⟩ := memberChars_append_inj ms ns hrest
    exact ⟨rfl, rfl⟩

end

/-- Different values have different texts. -/
theorem text_inj {v w : Value} : v.text = w.text ↔ v = w := by
  refine ⟨fun h ↦ ?_, fun h ↦ h ▸ rfl⟩
  have hchars : v.chars ++ [] = w.chars ++ [] := by
    rw [List.append_nil, List.append_nil]
    exact String.ofList_inj.1 h
  exact (chars_append_inj v w endsNumber_nil endsNumber_nil hchars).1

end Value

/-! ### The texts of values are JSON texts -/

namespace Value

mutual

/-- The text of a value is a JSON text. -/
theorem exists_spells : ∀ v : Value, ∃ d, Spells d v.chars
  | null => ⟨_, .null⟩
  | bool true => ⟨_, .truth⟩
  | bool false => ⟨_, .falsity⟩
  | number n => ⟨_, .number (isNumber_toDigits n)⟩
  | string s => ⟨_, .string (spellsString_stringChars s)⟩
  | array [] => ⟨_, .array (.nil blank_nil)⟩
  | array (v :: vs) => by
    obtain ⟨d, hv⟩ := exists_spells v
    obtain ⟨ds, hvs⟩ := exists_spellsItems vs
    have harray := Spells.array (.cons (.first blank_nil) hv hvs)
    exact ⟨_, by simpa [chars] using harray⟩
  | object [] => ⟨_, .object (.nil blank_nil)⟩
  | object ((name, v) :: ms) => by
    obtain ⟨d, hv⟩ := exists_spells v
    obtain ⟨ds, hms⟩ := exists_spellsMembers ms
    have hobject := Spells.object (.cons (.first blank_nil) (spellsString_stringChars name)
      blank_nil blank_nil hv hms)
    exact ⟨_, by simpa [chars] using hobject⟩

theorem exists_spellsItems : ∀ vs : List Value, ∃ ds, SpellsItems false ds (itemChars vs)
  | [] => ⟨_, .nil blank_nil⟩
  | v :: vs => by
    obtain ⟨d, hv⟩ := exists_spells v
    obtain ⟨ds, hvs⟩ := exists_spellsItems vs
    have hitems := SpellsItems.cons (.comma blank_nil blank_nil) hv hvs
    exact ⟨_, by simpa [itemChars] using hitems⟩

theorem exists_spellsMembers : ∀ ms : List (String × Value),
    ∃ ds, SpellsMembers false ds (memberChars ms)
  | [] => ⟨_, .nil blank_nil⟩
  | (name, v) :: ms => by
    obtain ⟨d, hv⟩ := exists_spells v
    obtain ⟨ds, hms⟩ := exists_spellsMembers ms
    have hmembers := SpellsMembers.cons (.comma blank_nil blank_nil)
      (spellsString_stringChars name) blank_nil blank_nil hv hms
    exact ⟨_, by simpa [memberChars] using hmembers⟩

end

/-- The text of a value is passed over, with nothing behind the value. -/
theorem skipValue_text (v : Value) : skipValue [] v.text.toList = .ok [] := by
  obtain ⟨d, hd⟩ := v.exists_spells
  have h : skipValue [] (v.chars ++ []) = skipRest [] false [] :=
    hd.skipValue_append endsNumber_nil
  rw [List.append_nil, skipRest] at h
  rw [text, String.toList_ofList, h]

end Value

end TextHistory.Json
