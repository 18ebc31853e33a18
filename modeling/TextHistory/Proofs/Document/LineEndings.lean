import Mathlib.Data.List.Chain
import TextHistory.Proofs.Document.LineIndex
import TextHistory.Session

/-!
# Line endings are read in one pass

A text from a file is made up of line endings, of which there are three kinds, and of characters
that have no part in one. Reading it from left to right, and taking a pair wherever there is one,
cuts it into these pieces (`scan`); and no other way of cutting it takes all pairs
(`isReading_iff`).

What is made of a text in two passes can then be said in one: every line ending is written as a line
feed, and all else is kept (`toList_normalizeLineEndings`). It makes no difference that the first
pass can leave a new pair, as it does of two carriage returns and a line feed. The second pass does
not look for pairs, so it makes two line feeds of it, one for each of the line endings that were
there (`replaceReturns_joinPairs`).

No carriage return is left (`return_not_mem_map_written`), and there are as many line feeds as there
were line endings (`count_map_written`). So reading such a text again can only take a mark off its
front (`normalizeLineEndings_of_not_mem`). A mark is there if the file began with two of them; and a
session keeps it, as it makes its document of the text that was read and does not read it again.
-/

namespace TextHistory

/-- A piece of a text from a file. -/
inductive FileToken
  /-- A carriage return and a line feed. -/
  | pair
  /-- A carriage return on its own. -/
  | carriageReturn
  /-- A line feed on its own. -/
  | lineFeed
  /-- A character that has no part in a line ending. -/
  | other (c : Char)
deriving DecidableEq

namespace FileToken

/-- The characters that are read. -/
def chars : FileToken → List Char
  | pair => ['\r', '\n']
  | carriageReturn => ['\r']
  | lineFeed => ['\n']
  | other c => [c]

/-- The character that is kept. -/
def written : FileToken → Char
  | other c => c
  | _ => '\n'

/-- Whether a line ends. -/
def isLineEnd : FileToken → Bool
  | other _ => false
  | _ => true

/-- Any other character is not one that line endings are made of. -/
def Proper : FileToken → Prop
  | other c => c ≠ '\r' ∧ c ≠ '\n'
  | _ => True

/-- Two pieces that do not make up a pair. -/
def Apart (t u : FileToken) : Prop := ¬(t = carriageReturn ∧ u = lineFeed)

end FileToken

open FileToken

/-- Reads a text from left to right. -/
def scan : List Char → List FileToken
  | '\r' :: '\n' :: cs => pair :: scan cs
  | '\r' :: cs => carriageReturn :: scan cs
  | '\n' :: cs => lineFeed :: scan cs
  | c :: cs => other c :: scan cs
  | [] => []

/-- The pieces are those of a text, and every pair in it is one of them. -/
structure IsReading (ts : List FileToken) (cs : List Char) : Prop where
  /-- They make up the text. -/
  chars_eq : ts.flatMap chars = cs
  /-- Any other character is not one that line endings are made of. -/
  proper : ∀ t ∈ ts, t.Proper
  /-- No pair was missed. -/
  isChain : ts.IsChain Apart

variable {ts : List FileToken} {cs : List Char} {c : Char}

/-! ### Reading -/

theorem scan_other (hr : c ≠ '\r') (hn : c ≠ '\n') (cs : List Char) :
    scan (c :: cs) = other c :: scan cs := by
  rw [scan]
  · rintro ds rfl
    exact absurd rfl hr
  · exact hr
  · exact hn

theorem scan_carriageReturn (hcs : cs.head? ≠ some '\n') :
    scan ('\r' :: cs) = carriageReturn :: scan cs := by
  rw [scan]
  rintro ds rfl
  exact hcs rfl

namespace IsReading

theorem nil : IsReading [] [] := ⟨rfl, fun _ ht ↦ absurd ht List.not_mem_nil, .nil⟩

theorem cons (h : IsReading ts cs) {t : FileToken} (ht : t.Proper)
    (hapart : ∀ u ∈ ts.head?, t.Apart u) : IsReading (t :: ts) (t.chars ++ cs) where
  chars_eq := by rw [List.flatMap_cons, h.chars_eq]
  proper := List.forall_mem_cons.2 ⟨ht, h.proper⟩
  isChain := List.isChain_cons.2 ⟨hapart, h.isChain⟩

/-- What is read first tells whether the text begins with a line feed. -/
theorem head?_eq_lineFeed_iff (h : IsReading ts cs) :
    ts.head? = some lineFeed ↔ cs.head? = some '\n' := by
  obtain ⟨rfl, hproper, -⟩ := h
  cases ts with
  | nil => simp
  | cons t ts =>
    cases t with
    | pair => simp [chars]
    | carriageReturn => simp [chars]
    | lineFeed => simp [chars]
    | other c =>
      obtain ⟨-, hc⟩ := hproper _ List.mem_cons_self
      simp [chars, hc]

/-- There is one reading. -/
theorem eq_scan (h : IsReading ts cs) : ts = scan cs := by
  induction ts generalizing cs with
  | nil => rw [← h.chars_eq, List.flatMap_nil, scan]
  | cons t ts ih =>
    obtain ⟨rfl, hproper, hchain⟩ := h
    obtain ⟨ht, hproper⟩ := List.forall_mem_cons.1 hproper
    obtain ⟨hapart, hchain⟩ := List.isChain_cons.1 hchain
    have hrest : IsReading ts (ts.flatMap chars) := ⟨rfl, hproper, hchain⟩
    rw [List.flatMap_cons]
    cases t with
    | pair => exact congrArg _ (ih hrest)
    | carriageReturn =>
      have hhead : (ts.flatMap chars).head? ≠ some '\n' := fun hline ↦
        hapart lineFeed (hrest.head?_eq_lineFeed_iff.2 hline) ⟨rfl, rfl⟩
      exact (congrArg _ (ih hrest)).trans (scan_carriageReturn hhead).symm
    | lineFeed => exact congrArg _ (ih hrest)
    | other c => exact (congrArg _ (ih hrest)).trans (scan_other ht.1 ht.2 _).symm

end IsReading

theorem isReading_scan (cs : List Char) : IsReading (scan cs) cs := by
  fun_induction scan cs with
  | case1 cs ih => exact ih.cons (t := pair) trivial fun _ _ ↦ by simp [Apart]
  | case2 cs hcs ih =>
    refine ih.cons (t := carriageReturn) trivial fun u hu ↦ ?_
    rintro ⟨-, rfl⟩
    obtain ⟨ds, rfl⟩ := List.head?_eq_some_iff.1 (ih.head?_eq_lineFeed_iff.1 hu)
    exact hcs ds rfl
  | case3 cs ih => exact ih.cons (t := lineFeed) trivial fun _ _ ↦ by simp [Apart]
  | case4 c cs hpair hr hn ih => exact ih.cons (t := other c) ⟨hr, hn⟩ fun _ _ ↦ by simp [Apart]
  | case5 => exact .nil

/-- **A text is read in one way.** -/
theorem isReading_iff : IsReading ts cs ↔ ts = scan cs :=
  ⟨IsReading.eq_scan, fun h ↦ h ▸ isReading_scan cs⟩

/-- The second of two carriage returns makes a pair with the line feed behind it. -/
example : scan "\r\r\n".toList = [carriageReturn, pair] := by decide

/-! ### Writing -/

theorem return_not_mem_map_written (h : ∀ t ∈ ts, t.Proper) : '\r' ∉ ts.map written := by
  intro hmem
  obtain ⟨t, ht, hr⟩ := List.mem_map.1 hmem
  cases t with
  | other c => exact (h _ ht).1 hr
  | _ => exact absurd hr (by decide)

/-- What is written has as many line feeds as the text has line endings. -/
theorem count_map_written (h : ∀ t ∈ ts, t.Proper) :
    (ts.map written).count '\n' = ts.countP isLineEnd := by
  rw [List.count, List.countP_map]
  refine List.countP_congr fun t ht ↦ ?_
  cases t with
  | other c => simp [written, isLineEnd, (h _ ht).2]
  | _ => simp [written, isLineEnd]

/-- A text without carriage returns is written as it is. -/
theorem map_written_scan (h : '\r' ∉ cs) : (scan cs).map written = cs := by
  have hread := (isReading_scan cs).chars_eq
  have hsame : ∀ t ∈ scan cs, [t.written] = t.chars := by
    intro t ht
    have hr : '\r' ∉ t.chars := fun hmem ↦ h (hread ▸ List.mem_flatMap.2 ⟨t, ht, hmem⟩)
    cases t with
    | pair => exact absurd List.mem_cons_self hr
    | carriageReturn => exact absurd List.mem_cons_self hr
    | lineFeed => rfl
    | other c => rfl
  rw [List.map_eq_flatMap, List.flatMap_congr hsame, hread]

/-! ### The two passes -/

theorem joinPairs_cons (h : c = '\r' → cs.head? ≠ some '\n') :
    joinPairs (c :: cs) = c :: joinPairs cs := by
  rw [joinPairs]
  rintro ds rfl rfl
  exact h rfl rfl

/-- **Two passes** do what one does. -/
theorem replaceReturns_joinPairs (cs : List Char) :
    replaceReturns (joinPairs cs) = (scan cs).map written := by
  fun_induction scan cs with
  | case1 cs ih => exact congrArg _ ih
  | case2 cs hcs ih =>
    rw [joinPairs_cons fun _ hhead ↦ ?_]
    · exact congrArg _ ih
    · obtain ⟨ds, rfl⟩ := List.head?_eq_some_iff.1 hhead
      exact hcs ds rfl
  | case3 cs ih =>
    rw [joinPairs_cons (by simp)]
    exact congrArg _ ih
  | case4 c cs hpair hr hn ih =>
    rw [joinPairs_cons fun hc ↦ absurd hc hr, replaceReturns, List.map_cons, if_neg hr]
    exact congrArg _ ih
  | case5 => rfl

/-! ### The mark -/

theorem dropByteOrderMark_eq (cs : List Char) :
    dropByteOrderMark cs = if cs.head? = some byteOrderMark then cs.tail else cs := by
  cases cs with
  | nil => rfl
  | cons c cs => simp only [dropByteOrderMark, List.head?_cons, Option.some.injEq, List.tail_cons]

theorem dropByteOrderMark_eq_self_iff :
    dropByteOrderMark cs = cs ↔ cs.head? ≠ some byteOrderMark := by
  cases cs with
  | nil => simp [dropByteOrderMark]
  | cons c cs => by_cases hc : c = byteOrderMark <;> simp [dropByteOrderMark, hc]

theorem mem_of_mem_dropByteOrderMark (h : c ∈ dropByteOrderMark cs) : c ∈ cs := by
  rw [dropByteOrderMark_eq] at h
  split at h
  · exact List.mem_of_mem_tail h
  · exact h

/-- The mark ends no line. -/
theorem countP_scan_dropByteOrderMark (cs : List Char) :
    (scan (dropByteOrderMark cs)).countP isLineEnd = (scan cs).countP isLineEnd := by
  cases cs with
  | nil => rfl
  | cons c cs =>
    by_cases hc : c = byteOrderMark
    · subst hc
      rw [dropByteOrderMark, if_pos rfl, scan_other (by decide) (by decide)]
      rfl
    · rw [dropByteOrderMark, if_neg hc]

/-! ### Texts from files -/

/-- **What is made of a text from a file.** -/
theorem toList_normalizeLineEndings (s : String) :
    (normalizeLineEndings s).toList = (scan (dropByteOrderMark s.toList)).map written := by
  rw [normalizeLineEndings, String.toList_ofList]
  split
  · exact replaceReturns_joinPairs _
  · next h => exact (map_written_scan fun hr ↦ h (List.contains_iff_mem.2 hr)).symm

/-- A text without carriage returns is only rid of the mark. -/
theorem normalizeLineEndings_of_not_mem {s : String} (h : '\r' ∉ s.toList) :
    (normalizeLineEndings s).toList = dropByteOrderMark s.toList := by
  rw [toList_normalizeLineEndings, map_written_scan fun hr ↦ h (mem_of_mem_dropByteOrderMark hr)]

namespace Document

theorem content_ofString (text : String) (capacity : Nat) :
    (ofString text capacity).content = text :=
  String.toList_inj.1 (by rw [toList_content, ofString, buffer_ofBuffer, GapBuffer.toList_ofString])

theorem content_ofFileContent (content : String) :
    (ofFileContent content).content = normalizeLineEndings content := content_ofString _ _

/-- **Files are read in one pass.** The document of the content of a file is written by reading the
content once from left to right, without a byte order mark at its front: every pair and every single
carriage return or line feed becomes one line feed, and all else is kept. This is what two passes
make of a text with carriage returns, and what no pass makes of a text without. No carriage return
is left; there is one line more than the content has line endings; and reading the document again
changes nothing exactly if it does not begin with a mark. A session shows what was read once,
however it is set up, and so does one that starts again. -/
theorem content_of_file (content : String) :
    let cs := if content.toList.head? = some byteOrderMark then content.toList.tail
      else content.toList
    let d := ofFileContent content
    d.content.toList = (scan cs).map written ∧
      replaceReturns (joinPairs cs) = (scan cs).map written ∧
      ('\r' ∉ cs → cs = (scan cs).map written) ∧
      '\r' ∉ d.content.toList ∧
      d.lineCount = (scan content.toList).countP isLineEnd + 1 ∧
      ((ofFileContent d.content).content = d.content ↔
        d.content.toList.head? ≠ some byteOrderMark) ∧
      (∀ settings, (Session.ofContent content settings).document.content = d.content) ∧
      ∀ s : Session, (s.reload content).document.content = d.content := by
  intro cs d
  have hcs : cs = dropByteOrderMark content.toList := (dropByteOrderMark_eq _).symm
  have hproper := (isReading_scan cs).proper
  have hread : d.content.toList = (scan cs).map written := by
    rw [hcs, content_ofFileContent, toList_normalizeLineEndings]
  have hreturn : '\r' ∉ d.content.toList := hread ▸ return_not_mem_map_written hproper
  refine ⟨hread, replaceReturns_joinPairs cs, fun h ↦ (map_written_scan h).symm, hreturn, ?_, ?_,
    fun settings ↦ content_ofString _ _, fun _ ↦ rfl⟩
  · have hd : d.WellFormed := wellFormed_ofString _ _
    rw [hd.lineCount_eq, ← toList_content, hread, count_map_written hproper, hcs,
      countP_scan_dropByteOrderMark]
  · rw [content_ofFileContent, ← String.toList_inj, normalizeLineEndings_of_not_mem hreturn,
      dropByteOrderMark_eq_self_iff]

/-- A second mark is kept, since the content of a session is read once. -/
example : (Session.ofContent "\uFEFF\uFEFFa\r\r\n" .default).document.content = "\uFEFFa\n\n" := by
  decide +kernel

end Document

end TextHistory
