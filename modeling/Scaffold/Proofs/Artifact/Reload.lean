import Mathlib
import Scaffold.Proofs.Artifact.Chunk

/-!
# Storing and loading between two edits

A file is loaded before each merge and stored after it.  The text says less than the file in memory:
it has one list of characters for the lines, their terminators and the flag that the last one is
terminated.  What is loaded again has the same lines as long as they can be read
(`Artifact.Readable`), and the next edit then makes the same text as it makes in memory if the file
is steady as well (`Artifact.Steady`).  Both hold for every file that began with a terminated last
line and has a line left.
-/

namespace Scaffold

open Scaffold.Text

/-! ## Edits of a file -/

/-- An edit of a file. -/
inductive FileEdit where
  /-- Put a block in at an anchor. -/
  | block (anchor : Anchor) (lines : List String) (separated : Bool)
  /-- Put an import line in. -/
  | importLine (literal : String)
  /-- Take the first run of lines that matches a sample out. -/
  | removal (sample : List String)

namespace FileEdit

/-- Make an edit. -/
def apply (a : Artifact) : FileEdit → Artifact
  | block anchor lines separated => a.insertBlock anchor lines separated
  | importLine literal => a.insertImport literal
  | removal sample => (a.removeSequence? sample).getD a

/-- Make edits in order. -/
def applyAll (es : List FileEdit) (a : Artifact) : Artifact := es.foldl apply a

/-- A line without line feeds and carriage returns. -/
def PlainLine (line : String) : Prop := '\n' ∉ line.toList ∧ '\r' ∉ line.toList

instance (line : String) : Decidable (PlainLine line) := inferInstanceAs (Decidable (_ ∧ _))

/-- An edit that puts plain lines in. -/
def Plain : FileEdit → Prop
  | block _ lines _ => ∀ l ∈ lines, PlainLine l
  | importLine literal => PlainLine literal
  | removal _ => True

instance : DecidablePred Plain
  | block _ lines _ => inferInstanceAs (Decidable (∀ l ∈ lines, PlainLine l))
  | importLine literal => inferInstanceAs (Decidable (PlainLine literal))
  | removal _ => inferInstanceAs (Decidable True)

end FileEdit

namespace Artifact

variable {a b : Artifact}

/-- A removal takes one run of lines out, or leaves the file. -/
theorem apply_removal (a : Artifact) (sample : List String) :
    (FileEdit.removal sample).apply a = a ∨ ∃ i, (FileEdit.removal sample).apply a
      = { a with lines := a.lines.take i ++ a.lines.drop (i + sample.length) } := by
  rw [FileEdit.apply, removeSequence?]
  split
  · exact .inl rfl
  · cases findSequence? sample a.texts with
    | none => exact .inl rfl
    | some i => exact .inr ⟨i, rfl⟩

/-- A removal leaves no line that was not there. -/
theorem mem_lines_removal {sample : List String} {l : Line}
    (h : l ∈ ((FileEdit.removal sample).apply a).lines) : l ∈ a.lines := by
  rcases apply_removal a sample with hsame | ⟨i, hcut⟩
  · rwa [hsame] at h
  · rw [hcut, List.mem_append] at h
    exact h.elim List.mem_of_mem_take List.mem_of_mem_drop

/-! ## What an edit keeps -/

/-- Whether the last line is terminated is settled when a file is loaded. -/
theorem endsInNewline_apply (a : Artifact) (e : FileEdit) :
    (e.apply a).endsInNewline = a.endsInNewline := by
  cases e with
  | block anchor lines separated => rfl
  | importLine literal => rfl
  | removal sample =>
      rcases apply_removal a sample with hsame | ⟨i, hcut⟩
      · rw [hsame]
      · rw [hcut]

theorem WellRead.apply (h : a.WellRead) {e : FileEdit} (he : e.Plain) : (e.apply a).WellRead := by
  cases e with
  | block anchor lines separated => exact h.insertBlock anchor (fun l hl => (he l hl).1) separated
  | importLine literal =>
      exact h.insertBlock .afterImports (List.forall_mem_singleton.2 he.1) false
  | removal sample => exact fun l hl => h l (mem_lines_removal hl)

/-- A plain line can be read behind every indent. -/
theorem legible_insertBlock (h : ∀ l ∈ a.lines, l.Legible) {anchor : Anchor} {block : List String}
    (hblock : ∀ l ∈ block, '\r' ∉ l.toList) {separated : Bool} :
    ∀ l ∈ (a.insertBlock anchor block separated).lines, l.Legible := by
  intro l hl
  rcases mem_lines_insertBlock hl with hl | ⟨-, hl | ⟨b, hb, hne, hl⟩⟩
  · exact h l hl
  · intro _
    rw [hl]
    decide
  · -- the last character is that of the line of the block
    obtain ⟨text, ending⟩ := l
    obtain rfl : text = _ := hl
    exact Line.legible_append hne (hblock b hb) _ ending

theorem legible_apply (h : ∀ l ∈ a.lines, l.Legible) {e : FileEdit} (he : e.Plain) :
    ∀ l ∈ (e.apply a).lines, l.Legible := by
  cases e with
  | block anchor lines separated => exact legible_insertBlock h fun l hl => (he l hl).2
  | importLine literal => exact legible_insertBlock h (List.forall_mem_singleton.2 he.2)
  | removal sample => exact fun l hl => h l (mem_lines_removal hl)

/-- What every plain edit keeps holds after all of them. -/
theorem applyAll_induction {P : Artifact → Prop} {es : List FileEdit} (hes : ∀ e ∈ es, e.Plain)
    (hstep : ∀ a e, FileEdit.Plain e → P a → P (e.apply a)) (h : P a) : P (FileEdit.applyAll es a) := by
  induction es generalizing a with
  | nil => exact h
  | cons e es ih =>
      rw [List.forall_mem_cons] at hes
      exact ih hes.2 (hstep a e hes.1 h)

/-! ## What is loaded -/

/-- Only a carriage return at the end of a text is loaded as a character of a line. -/
theorem legible_parse {path content : String} (h : content.toList.getLast? ≠ some '\r') :
    ∀ l ∈ (parse path content).lines, l.Legible := by
  obtain ⟨front, last, hpieces⟩ := exists_pieces content
  rw [parse_of_pieces path hpieces]
  refine List.forall_mem_append.2 ⟨List.forall_mem_map.2 fun piece _ => Line.legible_ofPiece piece, ?_⟩
  split
  · exact List.forall_mem_nil _
  next hlast =>
    rw [Text.eq_of_piecesBy _ hpieces, List.getLast?_append_of_ne_nil _ hlast,
      ← String.toList_ofList (l := last)] at h
    exact List.forall_mem_singleton.2 fun _ => h

/-- A text that ends in a line feed is loaded with a terminated last line. -/
theorem endsInNewline_parse {path content : String}
    (h : content = "" ∨ content.toList.getLast? = some '\n') :
    (parse path content).endsInNewline = true := by
  rcases h with rfl | h
  · rfl
  · obtain ⟨front, hfront⟩ := List.getLast?_eq_some_iff.1 h
    have hlast : (piecesBy (· == '\n') content.toList).getLast? = some [] := by
      rw [hfront, piecesBy_append_sep (by rfl)]
      exact List.getLast?_concat
    simp [parse, hlast]

/-! ## Steady files -/

/-- An unterminated last line has the terminator that it is loaded with, and a file without lines
has the flags of an empty text. -/
structure Steady (a : Artifact) : Prop where
  blank : a.lines = [] → a.endsInNewline = true ∧ a.majority = .lf
  last : a.endsInNewline = false →
    ∀ front l, a.lines = front ++ [l] → l.ending = majorityEnding front

/-- Two files that no edit can tell apart by the text it makes. -/
structure Agree (a b : Artifact) : Prop where
  lines : a.lines = b.lines
  closed : a.endsInNewline = b.endsInNewline
  majority : a.lines = [] → a.majority = b.majority

/-- A steady file that can be read is loaded as it is. -/
theorem WellRead.agree_parse (ha : a.WellRead) (hread : a.Readable) (hsteady : a.Steady) (path : String) :
    Agree (parse path a.render) a := by
  have hlegible : ∀ {ls : List Line}, (∀ l ∈ ls, l.Legible) → ls.map Line.reread = ls := fun h =>
    (List.map_congr_left fun l hl => Line.reread_of_legible (h l hl)).trans (List.map_id _)
  obtain ⟨path', lines, isPresent, majority, closed⟩ := a
  cases closed with
  | true =>
      have hlines : ∀ l ∈ lines, l.Legible := hread.returns
      rw [render, parse_renderLines_true path ha, hlegible hlines]
      refine ⟨rfl, rfl, fun hnil => ?_⟩
      obtain rfl : lines = [] := hnil
      exact (hsteady.blank rfl).2.symm
  | false =>
      cases lines using List.reverseRecOn with
      | nil => cases (hsteady.blank rfl).1
      | append_singleton front l =>
          have hblank : l.text ≠ "" := by
            simpa [texts] using hread.last rfl
          have hfront : ∀ l ∈ front, l.Legible := by
            simpa [terminated] using hread.returns
          rw [render, parse_renderLines_false path ha hblank, hlegible hfront,
            ← hsteady.last rfl front l rfl]
          exact ⟨rfl, rfl, fun hnil => by simp at hnil⟩

/-- A line that is put in between the lines of a file takes its terminator from them. -/
theorem Agree.endingNear (h : Agree a b) {i : Nat} (hi : i ≤ a.lines.length) :
    a.endingNear i = b.endingNear i := by
  unfold Artifact.endingNear
  rw [← h.lines]
  by_cases hnil : a.lines = []
  · rw [h.majority hnil]
  · cases hget : a.lines[i]? with
    | some l => rfl
    | none =>
        have hlength := List.getElem?_eq_none_iff.1 hget
        obtain ⟨j, rfl⟩ : ∃ j, i = j + 1 :=
          Nat.exists_eq_succ_of_ne_zero (by have := List.length_pos_iff.2 hnil; omega)
        have hj : j < a.lines.length := by omega
        simp [List.getElem?_eq_getElem hj]

theorem Agree.lines_insertBlock (h : Agree a b) (anchor : Anchor) (block : List String)
    (separated : Bool) :
    (a.insertBlock anchor block separated).lines = (b.insertBlock anchor block separated).lines := by
  have htexts : a.texts = b.texts := congrArg (List.map Line.text) h.lines
  have hindex : (anchor.locate a.texts).index ≤ a.lines.length := by
    simpa [texts] using anchor.index_locate_le a.texts
  simp only [insertBlock, insertLines, h.endingNear hindex]
  rw [htexts, h.lines]

/-- The next edit makes one text of two files that agree. -/
theorem Agree.render_apply (h : Agree a b) (e : FileEdit) : (e.apply a).render = (e.apply b).render := by
  have hlines : (e.apply a).lines = (e.apply b).lines := by
    cases e with
    | block anchor lines separated => exact h.lines_insertBlock anchor lines separated
    | importLine literal => exact h.lines_insertBlock .afterImports [literal] false
    | removal sample =>
        have htexts : a.texts = b.texts := congrArg (List.map Line.text) h.lines
        simp only [FileEdit.apply, removeSequence?, htexts, h.lines]
        split
        · exact h.lines
        · cases findSequence? sample b.texts with
          | none => exact h.lines
          | some i => rfl
  rw [render, render, hlines, endsInNewline_apply, endsInNewline_apply, h.closed]

/-! ## Loading what was stored -/

/-- **What was stored is loaded again with the same lines as long as they can be read.**  For every
text and all edits that put plain lines in, the lines are loaded as they are exactly if the file can
be read, and if it is steady as well, the next edit makes the same text of what is loaded as it
makes in memory.  A line that cannot be read takes a carriage return at the end of the text, and a
file that began with a terminated last line can always be read. -/
theorem reload_applyAll (path content : String) {es : List FileEdit} (hes : ∀ e ∈ es, e.Plain) :
    let a := FileEdit.applyAll es (parse path content)
    ((parse path a.render).texts = a.texts ↔ a.Readable)
      ∧ (a.Readable → a.Steady → ∀ e : FileEdit,
        (e.apply (parse path a.render)).render = (e.apply a).render)
      ∧ (content.toList.getLast? ≠ some '\r' → ∀ l ∈ a.lines, l.Legible)
      ∧ (content = "" ∨ content.toList.getLast? = some '\n' →
        a.endsInNewline = true ∧ a.Readable ∧ (a.lines ≠ [] → a.Steady)) := by
  intro a
  have hwell : a.WellRead :=
    applyAll_induction hes (fun _ _ he h => h.apply he) (wellRead_parse path content)
  have hlegible : content.toList.getLast? ≠ some '\r' → ∀ l ∈ a.lines, l.Legible := fun hcr =>
    applyAll_induction (P := fun a => ∀ l ∈ a.lines, l.Legible) hes
      (fun _ _ he h => legible_apply h he) (legible_parse hcr)
  refine ⟨hwell.texts_reread_iff path, fun hread hsteady e => ?_, hlegible, fun hends => ?_⟩
  · exact (hwell.agree_parse hread hsteady path).render_apply e
  · have hclosed : a.endsInNewline = true :=
      applyAll_induction (P := fun a => a.endsInNewline = true) hes
        (fun a e _ h => (endsInNewline_apply a e).trans h) (endsInNewline_parse hends)
    have hcr : content.toList.getLast? ≠ some '\r' := by
      rcases hends with rfl | hends
      · decide
      · rw [hends]
        decide
    refine ⟨hclosed, ⟨?_, fun hopen => ?_⟩, fun hne => ⟨fun hnil => absurd hnil hne, fun hopen => ?_⟩⟩
    · rw [terminated, if_pos hclosed]
      exact hlegible hcr
    · rw [hclosed] at hopen
      cases hopen
    · rw [hclosed] at hopen
      cases hopen

/-- An import and a member that were put into a class are loaded again. -/
theorem reload_applyAll_class :
    (parse "C.cs" (FileEdit.applyAll [.importLine "using A;", .block .endOfBlock ["int B;"] true]
      (parse "C.cs" "class C\n\x7b\n\x7d\n")).render).texts
      = (FileEdit.applyAll [.importLine "using A;", .block .endOfBlock ["int B;"] true]
        (parse "C.cs" "class C\n\x7b\n\x7d\n")).texts := by
  have h := @reload_applyAll "C.cs" "class C\n\x7b\n\x7d\n"
    [.importLine "using A;", .block .endOfBlock ["int B;"] true] (by decide)
  exact h.1.2 (h.2.2.2 (.inr (by decide))).2.1

/-- A carriage return is lost once another line follows it, an empty last line is not loaded, and an
unterminated last line is loaded with the terminator of the majority. -/
theorem reload_applyAll_loses :
    ((FileEdit.applyAll [.block .endOfFile ["c"] false] (parse "A.cs" "x\r")).texts = ["x\r", "c"]
      ∧ (parse "A.cs" (FileEdit.applyAll [.block .endOfFile ["c"] false] (parse "A.cs" "x\r")).render).texts
        = ["x", "c"])
    ∧ ((FileEdit.applyAll [.removal ["b"]] (parse "A.cs" "a\n\nb")).texts = ["a", ""]
      ∧ (parse "A.cs" (FileEdit.applyAll [.removal ["b"]] (parse "A.cs" "a\n\nb")).render).texts = ["a"])
    ∧ (FileEdit.applyAll [.importLine "using B;", .block .endOfFile ["x"] false]
        (parse "A.cs" "using A;\r\nb\r\nc\nd\ne")).render
      ≠ (FileEdit.applyAll [.block .endOfFile ["x"] false] (parse "A.cs" (FileEdit.applyAll
        [.importLine "using B;"] (parse "A.cs" "using A;\r\nb\r\nc\nd\ne")).render)).render := by
  decide +kernel

end Artifact

end Scaffold
