import TextHistory.Json.Decoder
import TextHistory.Json.Value
import TextHistory.Position

/-!
# Positions and spans as JSON

A position is an object of its `line` and its `column`, a span one of its `start` and its `end`.
Both fields have to be there, and either object may be written as an array of its fields.
-/

namespace TextHistory

open Json

/-- Refuses a second member of the same name. -/
def onlyOnce {β σ : Type} (seen : Option β) (name : String) (d : Decoder σ) :
    Except Cause (Decoder σ) :=
  if seen.isSome then .error (.duplicateField name) else .ok d

/-- What a record of two fields comes to. -/
def bothFields {α β : Type} (mk : α → α → β) (first second : String) :
    Option α × Option α → Except Cause β
  | (some a, some b) => .ok (mk a b)
  | (some _, none) => .error (.missingField second)
  | (none, _) => .error (.missingField first)

/-- The format of a record of two fields of the same type. -/
def pairFormat {α β : Type} (expected first second : String) (d : Decoder α) (mk : α → α → β) :
    RecordFormat (Option α × Option α) β where
  expected := expected
  start := (none, none)
  member s name :=
    if name = first then onlyOnce s.1 name (d.map fun a ↦ (some a, s.2))
    else if name = second then onlyOnce s.2 name (d.map fun a ↦ (s.1, some a))
    else .ok (ignored s)
  items := [fun s ↦ d.map fun a ↦ (some a, s.2), fun s ↦ d.map fun a ↦ (s.1, some a)]
  ofObject := bothFields mk first second
  ofArray s count :=
    match s with
    | (some a, some b) => .ok (mk a b)
    | _ => .error (.wrongLength count (expected ++ " with 2 elements"))

namespace Position

/-- The value that a position is written as. -/
def toJson (p : Position) : Value :=
  .object [("line", .number p.line), ("column", .number p.column)]

/-- The decoder of positions. -/
def decoder : Decoder Position :=
  (pairFormat "struct Position" "line" "column" natural Position.mk).decoder

end Position

namespace Span

/-- The value that a span is written as. -/
def toJson (s : Span) : Value := .object [("start", s.start.toJson), ("end", s.stop.toJson)]

/-- The decoder of spans. -/
def decoder : Decoder Span :=
  (pairFormat "struct Range" "start" "end" Position.decoder Span.mk).decoder

end Span

end TextHistory
