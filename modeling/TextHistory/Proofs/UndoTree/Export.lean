import TextHistory.Proofs.Json.Texts
import TextHistory.UndoTree.Json

/-!
# The exported tree

An undo tree is exported as one JSON text. Nothing of what is shown of the tree is lost in it
(`jsonText_lossless`): two trees have the same text only if their summaries are the same, one by one
and field by field. That rests on the unique reading of JSON texts (`Value.text_inj`), so no
description can be made to look like a part of the structure around it; what is left is that a
summary is determined by the value it is written as (`Summary.toJson_inj`). The text is a single
JSON value with nothing behind it, whatever the tree.
-/

namespace TextHistory.UndoTree

open Json

/-- A missing number is told from every number. -/
theorem ofOption_number_inj {a b : Option Nat} :
    Value.ofOption .number a = .ofOption .number b ↔ a = b := by
  cases a <;> cases b <;> simp [Value.ofOption]

/-- A summary can be told from the value that it is written as. -/
theorem Summary.toJson_inj {s s' : Summary} : s.toJson = s'.toJson ↔ s = s' := by
  refine ⟨fun h ↦ ?_, fun h ↦ h ▸ rfl⟩
  have hnumber (a b : Nat) : Value.number a = .number b → a = b := Value.number.inj
  obtain ⟨description, id, parent, children, isCurrent⟩ := s
  obtain ⟨description', id', parent', children', isCurrent'⟩ := s'
  simpa [toJson, ofOption_number_inj, List.map_inj_right hnumber] using h

/-- **The export is lossless**: the text of every tree is one JSON value, and the texts of two trees
are equal exactly if what is shown of them is: the same nodes in the same order, each with the same
description, id, parent, children and mark. -/
theorem jsonText_lossless (t t' : UndoTree) :
    skipValue [] t.jsonText.toList = .ok [] ∧
      (t.jsonText = t'.jsonText ↔ t.summaries = t'.summaries) := by
  refine ⟨Value.skipValue_text _, ?_⟩
  calc t.jsonText = t'.jsonText
    _ ↔ Value.array (t.summaries.map Summary.toJson)
          = Value.array (t'.summaries.map Summary.toJson) := Value.text_inj
    _ ↔ t.summaries.map Summary.toJson = t'.summaries.map Summary.toJson := by
        rw [Value.array.injEq]
    _ ↔ t.summaries = t'.summaries := List.map_inj_right fun _ _ ↦ Summary.toJson_inj.1

end TextHistory.UndoTree
