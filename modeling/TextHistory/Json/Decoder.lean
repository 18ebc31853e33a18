import TextHistory.Json.Skip

/-!
# Decoders

A decoder reads one value of a certain type from the front of a JSON text. It always uses
something up, and that law is part of the type, so whatever reads values one after the other
comes to an end.

## Records

A record is written as an object or, without the names, as an array of its fields in order.
`RecordFormat` says how: what a member of a given name does to what was collected so far, what
each item of an array does, and how what was collected becomes the value in the end. Members may
come in any order; a member of unknown name is passed over.

A refusal that does not come from the spelling, such as a missing field, is noticed at the end of
the record and placed behind its closing bracket. A member that comes twice is noticed at its
name, and placed behind the bracket only if that follows at once (`behindBrace`).
-/

namespace TextHistory.Json

/-- A reader of one value. -/
structure Decoder (α : Type) where
  /-- Reads the value at the front of a text, behind any blanks. -/
  read : List Char → Result α
  /-- Something is used up. -/
  length_read : ∀ {s r : List Char} {a : α}, read s = .ok (a, r) → r.length < s.length

/-! ### Values of the wrong kind -/

/-- The failure at a literal name that is not wanted. -/
def wrongIdent (found : Found) (expected : String) (rest s : List Char) : Failure :=
  match readIdent rest s with
  | .error e => e
  | .ok r => ⟨.wrongType found expected, r, 0⟩

/-- How a number is named. -/
def Number.found : Number → Found
  | natural n => .integer n
  | negative n => .integer (-(n : Int))
  | floating f => .floating (floatText f)

/-- The failure at a number that is not wanted. -/
def wrongNumber (expected : String) : Result Number → Failure
  | .error e => e
  | .ok (n, r) => ⟨.wrongType n.found expected, r, 0⟩

/-- The failure at a value of another kind than the expected one: it is read as far as it takes
to name it. -/
def wrongKind (expected : String) (s : List Char) : Failure :=
  match s with
  | [] => ⟨.expectedValue, [], 1⟩
  | c :: r =>
    if c = 'n' then wrongIdent .null expected ['u', 'l', 'l'] r
    else if c = 't' then wrongIdent (.boolean true) expected ['r', 'u', 'e'] r
    else if c = 'f' then wrongIdent (.boolean false) expected ['a', 'l', 's', 'e'] r
    else if c = '-' then wrongNumber expected (readNumber true r)
    else if isDigit c then wrongNumber expected (readNumber false s)
    else if c = '"' then
      match readString r with
      | .error e => e
      | .ok (cs, r) => ⟨.wrongType (.string (String.ofList cs)) expected, r, 0⟩
    else if c = '[' then ⟨.wrongType .sequence expected, s, 0⟩
    else if c = '\x7b' then ⟨.wrongType .map expected, s, 0⟩
    else ⟨.expectedValue, s, 1⟩

/-! ### Natural numbers -/

/-- Insists on a number being a natural one. -/
def wantNatural : Result Number → Result Nat
  | .error e => .error e
  | .ok (.natural n, r) => .ok (n, r)
  | .ok (.negative n, r) => failHere (.wrongValue (Number.negative n).found "usize") r
  | .ok (.floating f, r) => failHere (.wrongType (Number.floating f).found "usize") r

/-- Reads a natural number. -/
def readNatural (s : List Char) : Result Nat :=
  match skipSpace s with
  | [] => failNext .endInValue []
  | c :: r =>
    if c = '-' then wantNatural (readNumber true r)
    else if isDigit c then wantNatural (readNumber false (c :: r))
    else .error (wrongKind "usize" (c :: r))

theorem length_wantNatural {b : Bool} {s r : List Char} {n : Nat}
    (h : wantNatural (readNumber b s) = .ok (n, r)) : r.length < s.length := by
  rcases hr : readNumber b s with e | ⟨v, r'⟩
  · simp [hr, wantNatural] at h
  · have hlt := length_readNumber hr
    rw [hr] at h
    cases v with
    | natural m =>
      simp only [wantNatural, Except.ok.injEq, Prod.mk.injEq] at h
      rw [← h.2]
      exact hlt
    | negative m => simp [wantNatural, failHere] at h
    | floating f => simp [wantNatural, failHere] at h

theorem length_readNatural {s r : List Char} {n : Nat} (h : readNatural s = .ok (n, r)) :
    r.length < s.length := by
  have hs := length_skipSpace s
  rw [readNatural] at h
  split at h
  · simp [failNext] at h
  next c t heq =>
    rw [heq, List.length_cons] at hs
    split at h
    · have := length_wantNatural h
      omega
    · split at h
      · have := length_wantNatural h
        rw [List.length_cons] at this
        omega
      · simp at h

/-- The decoder of natural numbers. -/
def natural : Decoder Nat := ⟨readNatural, length_readNatural⟩

/-! ### Names -/

/-- Looks a name up among the known ones. -/
def lookupVariant {α : Type} (known : List (String × α)) (cs s : List Char) : Result α :=
  match known.find? fun k ↦ k.1 == String.ofList cs with
  | some k => .ok (k.2, s)
  | none => failHere (.unknownVariant (String.ofList cs) (known.map Prod.fst)) s

/-- Reads a string that is one of the known names. -/
def readVariantName {α : Type} (known : List (String × α)) (s : List Char) : Result α :=
  match readString s with
  | .error e => .error e
  | .ok (cs, r) => lookupVariant known cs r

/-- Passes over the value `null`. -/
def skipUnit (s : List Char) : Except Failure (List Char) :=
  match skipSpace s with
  | [] => failNext .endInValue []
  | c :: r =>
    if c = 'n' then readIdent ['u', 'l', 'l'] r else .error (wrongKind "unit" (c :: r))

/-- Passes over the brace that closes an object of one member. -/
def skipLastBrace (s : List Char) : Except Failure (List Char) :=
  match skipSpace s with
  | [] => failHere .endInObject []
  | c :: r => if c = '\x7d' then .ok r else failHere .expectedValue (c :: r)

/-- Reads an object with a known name as its one member, from behind its brace. An object without
members lacks a value. -/
def readTagged {α : Type} (known : List (String × α)) (s : List Char) : Result α :=
  match skipSpace s with
  | [] => failHere .endInObject []
  | c :: r =>
    if c = '"' then
      match readVariantName known r with
      | .error e => .error e
      | .ok (a, r) =>
        match skipColon r with
        | .error e => .error e
        | .ok r =>
          match skipUnit r with
          | .error e => .error e
          | .ok r =>
            match skipLastBrace r with
            | .error e => .error e
            | .ok r => .ok (a, r)
    else if c = '\x7d' then failNext .expectedValue (c :: r)
    else failNext .keyMustBeString (c :: r)

/-- Reads one of the known names: a string, or an object with it as the one member, which then
has the value `null`. -/
def readVariant {α : Type} (known : List (String × α)) (s : List Char) : Result α :=
  match skipSpace s with
  | [] => failNext .endInValue []
  | c :: r =>
    if c = '"' then readVariantName known r
    else if c = '\x7b' then readTagged known r
    else failNext .expectedValue (c :: r)

theorem length_readVariantName {α : Type} {known : List (String × α)} {s r : List Char} {a : α}
    (h : readVariantName known s = .ok (a, r)) : r.length < s.length := by
  rw [readVariantName] at h
  split at h
  · simp at h
  next hr =>
    have hlt := length_readString hr
    rw [lookupVariant] at h
    split at h
    · simp only [Except.ok.injEq, Prod.mk.injEq] at h
      rw [← h.2]
      exact hlt
    · simp [failHere] at h

theorem length_skipUnit {s r : List Char} (h : skipUnit s = .ok r) : r.length ≤ s.length := by
  have hs := length_skipSpace s
  rw [skipUnit] at h
  split at h
  · simp [failNext] at h
  next heq =>
    rw [heq, List.length_cons] at hs
    split at h
    · have := length_readIdent h
      omega
    · simp at h

theorem length_skipLastBrace {s r : List Char} (h : skipLastBrace s = .ok r) :
    r.length ≤ s.length := by
  have hs := length_skipSpace s
  rw [skipLastBrace] at h
  split at h
  · simp [failHere] at h
  next heq =>
    rw [heq, List.length_cons] at hs
    split at h
    · simp only [Except.ok.injEq] at h
      rw [← h]
      omega
    · simp [failHere] at h

theorem length_readTagged {α : Type} {known : List (String × α)} {s r : List Char} {a : α}
    (h : readTagged known s = .ok (a, r)) : r.length < s.length := by
  have hs := length_skipSpace s
  rw [readTagged] at h
  split at h
  · simp [failHere] at h
  next heq =>
    rw [heq, List.length_cons] at hs
    split at h
    · split at h
      · simp at h
      next h₁ =>
        have := length_readVariantName h₁
        split at h
        · simp at h
        next h₂ =>
          have := length_skipColon h₂
          split at h
          · simp at h
          next h₃ =>
            have := length_skipUnit h₃
            split at h
            · simp at h
            next h₄ =>
              have := length_skipLastBrace h₄
              simp only [Except.ok.injEq, Prod.mk.injEq] at h
              rw [← h.2]
              omega
    · split at h <;> simp [failNext] at h

theorem length_readVariant {α : Type} {known : List (String × α)} {s r : List Char} {a : α}
    (h : readVariant known s = .ok (a, r)) : r.length < s.length := by
  have hs := length_skipSpace s
  rw [readVariant] at h
  split at h
  · simp [failNext] at h
  next heq =>
    rw [heq, List.length_cons] at hs
    split at h
    · have := length_readVariantName h
      omega
    · split at h
      · have := length_readTagged h
        omega
      · simp [failNext] at h

/-- The decoder of one of the known names. -/
def variant {α : Type} (known : List (String × α)) : Decoder α :=
  ⟨readVariant known, length_readVariant⟩

/-! ### Optional strings -/

/-- Reads a string or `null`. -/
def readOptionalString (s : List Char) : Result (Option String) :=
  match skipSpace s with
  | [] => failNext .endInValue []
  | c :: r =>
    if c = 'n' then
      match readIdent ['u', 'l', 'l'] r with
      | .error e => .error e
      | .ok r => .ok (none, r)
    else if c = '"' then
      match readString r with
      | .error e => .error e
      | .ok (cs, r) => .ok (some (String.ofList cs), r)
    else .error (wrongKind "a string" (c :: r))

theorem length_readOptionalString {s r : List Char} {a : Option String}
    (h : readOptionalString s = .ok (a, r)) : r.length < s.length := by
  have hs := length_skipSpace s
  rw [readOptionalString] at h
  split at h
  · simp [failNext] at h
  next heq =>
    rw [heq, List.length_cons] at hs
    split at h
    · split at h
      · simp at h
      next hr =>
        have := length_readIdent hr
        simp only [Except.ok.injEq, Prod.mk.injEq] at h
        rw [← h.2]
        omega
    · split at h
      · split at h
        · simp at h
        next hr =>
          have := length_readString hr
          simp only [Except.ok.injEq, Prod.mk.injEq] at h
          rw [← h.2]
          omega
      · simp at h

/-- The decoder of a string or `null`. -/
def optionalString : Decoder (Option String) := ⟨readOptionalString, length_readOptionalString⟩

/-! ### Fields -/

/-- What a decoded value does to what was collected so far. -/
def Decoder.map {α β : Type} (f : α → β) (d : Decoder α) : Decoder β where
  read s :=
    match d.read s with
    | .error e => .error e
    | .ok (a, r) => .ok (f a, r)
  length_read h := by
    split at h
    · simp at h
    next hr =>
      simp only [Except.ok.injEq, Prod.mk.injEq] at h
      rw [← h.2]
      exact d.length_read hr

/-- The decoder that passes over a value. -/
def ignored {σ : Type} (state : σ) : Decoder σ where
  read s :=
    match skipValue [] s with
    | .error e => .error e
    | .ok r => .ok (state, r)
  length_read h := by
    split at h
    · simp at h
    next hr =>
      simp only [Except.ok.injEq, Prod.mk.injEq] at h
      rw [← h.2]
      exact length_skipValue hr

/-- How a record of type `α` is written, with `σ` for what is collected while reading it. -/
structure RecordFormat (σ α : Type) where
  /-- How the record is named where something else stands in its place. -/
  expected : String
  /-- What was collected before the first field. -/
  start : σ
  /-- What a member of a name does; a member that must not come again is refused. -/
  member : σ → String → Except Cause (Decoder σ)
  /-- What the items of an array do, in order. -/
  items : List (σ → Decoder σ)
  /-- What an object comes to. -/
  ofObject : σ → Except Cause α
  /-- What an array of so many items comes to. -/
  ofArray : σ → Nat → Except Cause α

/-- The text from behind a closing brace, if that is next. -/
def behindBrace (s : List Char) : List Char :=
  match skipSpace s with
  | [] => []
  | c :: r => if c = '\x7d' then r else c :: r

/-- Settles what was collected behind the end of a record. -/
def settle {α : Type} (a : Except Cause α) (s : List Char) : Result α :=
  match a with
  | .error cause => failHere cause s
  | .ok a => .ok (a, s)

theorem length_settle {α : Type} {a : Except Cause α} {s r : List Char} {b : α}
    (h : settle a s = .ok (b, r)) : r = s := by
  unfold settle at h
  split at h
  · simp [failHere] at h
  · simp only [Except.ok.injEq, Prod.mk.injEq] at h
    exact h.2.symm

namespace RecordFormat

variable {σ α : Type} (f : RecordFormat σ α)

/-- Reads a member from behind the opening quote of its name. -/
def readMember (state : σ) (s : List Char) : Result σ :=
  match readString s with
  | .error e => .error e
  | .ok (name, r) =>
    match f.member state (String.ofList name) with
    | .error cause => failHere cause (behindBrace r)
    | .ok d =>
      match skipColon r with
      | .error e => .error e
      | .ok r => d.read r

theorem length_readMember {state state' : σ} {s r : List Char}
    (h : f.readMember state s = .ok (state', r)) : r.length < s.length := by
  rw [readMember] at h
  split at h
  · simp at h
  next h₁ =>
    have := length_readString h₁
    split at h
    · simp [failHere] at h
    next d _ =>
      split at h
      · simp at h
      next h₂ =>
        have := length_skipColon h₂
        have := d.length_read h
        omega

/-- The text from behind the opening quote of the next member's name, or nothing at the end of
the object. -/
def nextMember (first : Bool) (c : Char) (r : List Char) : Except Failure (Option (List Char)) :=
  if c = '\x7d' then .ok none
  else if c = ',' && !first then
    match skipSpace r with
    | [] => failNext .endInValue []
    | c :: r =>
      if c = '"' then .ok (some r)
      else if c = '\x7d' then failNext .trailingComma (c :: r)
      else failNext .keyMustBeString (c :: r)
  else if first then
    if c = '"' then .ok (some r) else failNext .keyMustBeString (c :: r)
  else failNext .expectedCommaOrBrace (c :: r)

theorem length_nextMember {first : Bool} {c : Char} {r r' : List Char}
    (h : nextMember first c r = .ok (some r')) : r'.length ≤ r.length := by
  have hs := length_skipSpace r
  rw [nextMember] at h
  split at h
  · simp at h
  · split at h
    · split at h
      · simp [failNext] at h
      next heq =>
        rw [heq, List.length_cons] at hs
        split at h
        · simp only [Except.ok.injEq, Option.some.injEq] at h
          rw [← h]
          omega
        · split at h <;> simp [failNext] at h
    · split at h
      · split at h
        · simp only [Except.ok.injEq, Option.some.injEq] at h
          simp [h]
        · simp [failNext] at h
      · simp [failNext] at h

/-- Reads the members of an object, up to and with its closing brace. -/
def readMembers (first : Bool) (state : σ) (s : List Char) : Result α :=
  match hs : skipSpace s with
  | [] => failNext .endInObject []
  | c :: r =>
    have hlt : r.length < s.length := by
      have := length_skipSpace s
      rw [hs] at this
      exact this
    match hn : nextMember first c r with
    | .error e => .error e
    | .ok none => settle (f.ofObject state) r
    | .ok (some r') =>
      match hm : f.readMember state r' with
      | .error e => .error e
      | .ok (state', r'') =>
        have : r''.length < s.length :=
          Nat.lt_trans (f.length_readMember hm) (Nat.lt_of_le_of_lt (length_nextMember hn) hlt)
        readMembers false state' r''
termination_by s.length

theorem length_readMembers {first : Bool} {state : σ} {s r : List Char} {a : α}
    (h : f.readMembers first state s = .ok (a, r)) : r.length < s.length := by
  induction hk : s.length using Nat.strongRecOn generalizing first state s with
  | ind k ih =>
    have hs := length_skipSpace s
    rw [readMembers] at h
    split at h
    · simp [failNext] at h
    next heq =>
      rw [heq, List.length_cons] at hs
      split at h
      · simp at h
      · rw [length_settle h]
        omega
      next hn =>
        have h₁ := length_nextMember hn
        split at h
        · simp at h
        next hm =>
          have h₂ := f.length_readMember hm
          have := ih _ (by omega) h rfl
          omega

/-- Passes over the bracket that closes an array all of whose fields were read. -/
def closeArray (s : List Char) : Except Failure (List Char) :=
  match skipSpace s with
  | [] => failNext .endInList []
  | c :: r =>
    if c = ']' then .ok r
    else if c = ',' then
      match skipSpace r with
      | ']' :: t => failNext .trailingComma (']' :: t)
      | t => failNext .trailingCharacters t
    else failNext .trailingCharacters (c :: r)

/-- The text from the next item on, or nothing at the end of the array. -/
def nextItem (first : Bool) (c : Char) (r : List Char) : Except Failure (Option (List Char)) :=
  if c = ']' then .ok none
  else if c = ',' && !first then
    match skipSpace r with
    | [] => failNext .endInValue []
    | c :: r => if c = ']' then failNext .trailingComma (c :: r) else .ok (some (c :: r))
  else if first then .ok (some (c :: r))
  else failNext .expectedCommaOrBracket (c :: r)

/-- Reads the items of an array, up to and with its closing bracket. -/
def readItems (first : Bool) (state : σ) (count : Nat) :
    List (σ → Decoder σ) → List Char → Result α
  | [], s =>
    match closeArray s with
    | .error e => .error e
    | .ok r => settle (f.ofArray state count) r
  | d :: ds, s =>
    match skipSpace s with
    | [] => failNext .endInList []
    | c :: r =>
      match nextItem first c r with
      | .error e => .error e
      | .ok none => settle (f.ofArray state count) r
      | .ok (some r') =>
        match (d state).read r' with
        | .error e => .error e
        | .ok (state', r'') => readItems false state' (count + 1) ds r''

/-- Reads a record. -/
def readRecord (s : List Char) : Result α :=
  match skipSpace s with
  | [] => failNext .endInValue []
  | c :: r =>
    if c = '[' then f.readItems true f.start 0 f.items r
    else if c = '\x7b' then f.readMembers true f.start r
    else .error (wrongKind f.expected (c :: r))

theorem length_closeArray {s r : List Char} (h : closeArray s = .ok r) : r.length < s.length := by
  have hs := length_skipSpace s
  rw [closeArray] at h
  split at h
  · simp [failNext] at h
  next heq =>
    rw [heq, List.length_cons] at hs
    split at h
    · simp only [Except.ok.injEq] at h
      rw [← h]
      omega
    · split at h
      · split at h <;> simp [failNext] at h
      · simp [failNext] at h

theorem length_nextItem {first : Bool} {c : Char} {r r' : List Char}
    (h : nextItem first c r = .ok (some r')) : r'.length ≤ (c :: r).length := by
  have hs := length_skipSpace r
  rw [nextItem] at h
  split at h
  · simp at h
  · split at h
    · split at h
      · simp [failNext] at h
      next heq =>
        rw [heq] at hs
        split at h
        · simp [failNext] at h
        · simp only [Except.ok.injEq, Option.some.injEq] at h
          rw [← h]
          exact Nat.le_succ_of_le hs
    · split at h
      · simp only [Except.ok.injEq, Option.some.injEq] at h
        simp [h]
      · simp [failNext] at h

theorem length_readItems {first : Bool} {state : σ} {count : Nat} {ds : List (σ → Decoder σ)}
    {s r : List Char} {a : α} (h : f.readItems first state count ds s = .ok (a, r)) :
    r.length < s.length := by
  induction ds generalizing first state count s with
  | nil =>
    rw [readItems] at h
    split at h
    · simp at h
    next hc =>
      rw [length_settle h]
      exact length_closeArray hc
  | cons d ds ih =>
    have hs := length_skipSpace s
    rw [readItems] at h
    split at h
    · simp [failNext] at h
    next heq =>
      rw [heq] at hs
      split at h
      · simp at h
      · rw [length_settle h]
        exact hs
      next hn =>
        have h₁ := length_nextItem hn
        split at h
        · simp at h
        next hd =>
          have h₂ := (d state).length_read hd
          have := ih h
          omega

theorem length_readRecord {s r : List Char} {a : α} (h : f.readRecord s = .ok (a, r)) :
    r.length < s.length := by
  have hs := length_skipSpace s
  rw [readRecord] at h
  split at h
  · simp [failNext] at h
  next heq =>
    rw [heq, List.length_cons] at hs
    split at h
    · have := f.length_readItems h
      omega
    · split at h
      · have := f.length_readMembers h
        omega
      · simp at h

/-- The decoder of records of a format. -/
def decoder : Decoder α := ⟨f.readRecord, f.length_readRecord⟩

end RecordFormat

/-! ### Whole texts -/

/-- Reads a whole text: one value, with nothing but blanks around it. -/
def Decoder.decode {α : Type} (d : Decoder α) (s : List Char) : Except Failure α :=
  match d.read s with
  | .error e => .error e
  | .ok (a, r) =>
    match skipSpace r with
    | [] => .ok a
    | c :: r => failNext .trailingCharacters (c :: r)

end TextHistory.Json
