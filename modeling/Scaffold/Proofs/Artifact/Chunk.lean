import Mathlib
import Scaffold.Proofs.Alteration
import Scaffold.Proofs.Artifact
import Scaffold.Proofs.Artifact.Pieces

/-!
# Chunks

A block is put into a file as one chunk of text, and everything before and after it is what it was
(`Artifact.insertBlock_chunk`).  Where the chunk comes behind a last line without a terminator, its
terminators stand in front of its lines and not behind them, so that the file still has none at its
end.  The terminator is copied from a line next to the chunk, so a file in which all of them are
alike stays so.
-/

namespace Scaffold

open Scaffold.Text

/-! ## Chunks of lines -/

/-- Lines as they are put into a text, with one terminator for all of them.  It follows each line,
or leads each where the line before them had none. -/
inductive Chunk (ls : List String) : String → Prop
  | following (e : Ending) : Chunk ls (String.join (ls.map (· ++ e.text)))
  | leading (e : Ending) : Chunk ls (String.join (ls.map (e.text ++ ·)))

/-- A block with one blank line at most, above or below it. -/
inductive Framed (block : List String) : List String → Prop
  | bare : Framed block block
  | above : Framed block ("" :: block)
  | below : Framed block (block ++ [""])

/-- Every line feed of a text follows a carriage return. -/
def AllCrlf (text : String) : Prop :=
  ∀ piece ∈ (piecesBy (· == '\n') text.toList).dropLast, piece.getLast? = some '\r'

instance (text : String) : Decidable (AllCrlf text) :=
  inferInstanceAs (Decidable (∀ piece ∈ (piecesBy (· == '\n') text.toList).dropLast, _))

/-! ## Places -/

namespace Anchor

variable {anchor : Anchor} {ls : List String}

theorem index_atLastBrace_le (ls : List String) : (atLastBrace ls).index ≤ ls.length := by
  unfold atLastBrace
  split
  next i hi => exact Nat.le_of_lt (lastIndex?_lt hi)
  next => exact Nat.le_refl _

/-- A block goes between lines. -/
theorem index_locate_le (anchor : Anchor) (ls : List String) : (anchor.locate ls).index ≤ ls.length := by
  unfold locate
  split
  · exact index_atLastBrace_le ls
  · split
    next i hi => exact Nat.le_of_lt (lastIndex?_lt hi)
    next => exact index_atLastBrace_le ls
  · split
    next i hi => exact lastIndex?_lt hi
    next => exact Nat.zero_le _
  · exact Nat.le_refl _

theorem opensImports_atLastBrace (ls : List String) : (atLastBrace ls).opensImports = false := by
  unfold atLastBrace
  split <;> rfl

/-- The first import of a file goes to its top. -/
theorem index_of_opensImports (h : (anchor.locate ls).opensImports = true) :
    (anchor.locate ls).index = 0 := by
  have hbrace := opensImports_atLastBrace ls
  unfold locate at h ⊢
  split at h
  · rw [hbrace] at h
    cases h
  · split at h
    · cases h
    · rw [hbrace] at h
      cases h
  · split at h
    · cases h
    next => rfl
  · cases h

/-- A character other than a blank of an indent is in no indent unless it is in the lines. -/
theorem not_mem_indent_locate {c : Char} (hc : c ≠ ' ' ∧ c ≠ '\t') (h : ∀ l ∈ ls, c ∉ l.toList)
    (anchor : Anchor) : c ∉ (anchor.locate ls).indent.toList := by
  have hline : ∀ i : Nat, c ∉ (leadingBlanks (ls[i]?.getD "")).toList := by
    intro i hmem
    have hin := (mem_leadingBlanks hmem).2
    cases hget : ls[i]? with
    | none => simp [hget] at hin
    | some l => exact h l (List.mem_of_getElem? hget) (by simpa [hget] using hin)
  have hunit : c ∉ (indentUnit ls).toList := by
    unfold indentUnit
    split
    · simpa using hc.2
    · simpa using hc.1
  have hbrace : c ∉ (atLastBrace ls).indent.toList := by
    unfold atLastBrace
    split
    next i _ =>
      rw [String.toList_append, List.mem_append]
      exact not_or.2 ⟨hline i, hunit⟩
    next => exact List.not_mem_nil
  unfold locate
  split
  · exact hbrace
  · split
    next i _ => exact hline i
    next => exact hbrace
  · split <;> exact List.not_mem_nil
  · exact List.not_mem_nil

end Anchor

namespace Artifact

/-! ## Putting lines in -/

theorem renderLines_true_map (e : Ending) (texts : List String) :
    renderLines true (texts.map (⟨·, e⟩)) = String.join (texts.map (· ++ e.text)) := by
  induction texts with
  | nil => rfl
  | cons text texts ih =>
      rw [List.map_cons, renderLines_true_cons, ih, ← String.toList_inj]
      simp [Line.render]

/-- Lines behind a last line without a terminator. -/
theorem renderLines_false_map (l : Line) (texts : List String) :
    renderLines false (l :: texts.map (⟨·, l.ending⟩))
      = l.text ++ String.join (texts.map (l.ending.text ++ ·)) := by
  obtain ⟨text, e⟩ := l
  induction texts generalizing text with
  | nil => exact String.append_empty.symm
  | cons next texts ih =>
      have hrest := ih next
      simp only at hrest ⊢
      rw [List.map_cons, renderLines_cons false _ (List.cons_ne_nil _ _), hrest, ← String.toList_inj]
      simp [Line.render]

/-- The terminator of a line behind all others is that of the last one. -/
theorem endingNear_length {a : Artifact} {front : List Line} {l : Line} (h : a.lines = front ++ [l]) :
    a.endingNear a.lines.length = l.ending := by
  unfold endingNear
  simp [h]

/-- Lines that are put in are one chunk of the text. -/
theorem Firm.insertLines_chunk {a : Artifact} (h : a.Firm) {i : Nat} (hi : i ≤ a.lines.length)
    (texts : List String) : ∃ before chunk behind, a.render = before ++ behind
      ∧ (a.insertLines i texts).render = before ++ chunk ++ behind ∧ Chunk texts chunk := by
  have hlines : a.lines = a.lines.take i ++ a.lines.drop i := (List.take_append_drop i _).symm
  have hrender : ∀ {rest : List Line}, (rest ≠ [] ∨ a.endsInNewline = true) → ∀ ls,
      renderLines a.endsInNewline (ls ++ rest)
        = renderLines true ls ++ renderLines a.endsInNewline rest := by
    rintro rest (hrest | hclosed) ls
    · exact renderLines_append _ ls hrest
    · rw [hclosed, renderLines_true_append]
  by_cases hopen : a.lines.drop i ≠ [] ∨ a.endsInNewline = true
  · refine ⟨renderLines true (a.lines.take i), _, renderLines a.endsInNewline (a.lines.drop i), ?_, ?_,
      .following (a.endingNear i)⟩
    · calc a.render
        _ = renderLines a.endsInNewline (a.lines.take i ++ a.lines.drop i) := by rw [← hlines, render]
        _ = renderLines true (a.lines.take i) ++ renderLines a.endsInNewline (a.lines.drop i) :=
            hrender hopen _
    · rw [← renderLines_true_map, ← renderLines_true_append]
      exact hrender hopen _
  · -- the lines come behind a last line without a terminator
    rw [not_or, not_not, Bool.not_eq_true] at hopen
    obtain ⟨hdrop, hclosed⟩ := hopen
    obtain rfl : i = a.lines.length := Nat.le_antisymm hi (List.drop_eq_nil_iff.1 hdrop)
    obtain ⟨front, l, hlast⟩ := (List.eq_nil_or_concat' a.lines).resolve_left (h hclosed)
    refine ⟨a.render, _, "", String.append_empty.symm, ?_, .leading l.ending⟩
    have hinserted : (a.insertLines a.lines.length texts).lines
        = front ++ l :: texts.map (⟨·, l.ending⟩) := by
      rw [Artifact.insertLines, endingNear_length hlast, List.take_length, List.drop_length,
        List.append_nil, hlast,
        List.append_assoc]
      rfl
    have hsame : (a.insertLines a.lines.length texts).endsInNewline = false := hclosed
    rw [String.append_empty, render, render, hinserted, hsame, hclosed, hlast,
      renderLines_append false front (by simp), renderLines_append false front (by simp),
      renderLines_false_map, String.append_assoc]
    rfl

/-- A block has one blank line at most around it. -/
theorem framed_gaps (texts block : List String) (anchor : Anchor) (separated : Bool) :
    Framed block (gapBefore texts (anchor.locate texts).index separated ++ block
      ++ gapAfter texts (anchor.locate texts)) := by
  cases hopens : (anchor.locate texts).opensImports with
  | true =>
      rw [Anchor.index_of_opensImports hopens, gapAfter]
      split
      · exact .below
      · simpa [gapBefore] using Framed.bare
  | false =>
      have hafter : gapAfter texts (anchor.locate texts) = [] := by simp [gapAfter, hopens]
      rw [hafter, List.append_nil]
      cases (anchor.locate texts).index with
      | zero => exact .bare
      | succ i =>
          simp only [gapBefore]
          split
          · exact .above
          · exact .bare

/-! ## Terminators -/

/-- The terminator of lines that are put in is one that the file has. -/
theorem endingNear_of_forall {a : Artifact} {e : Ending} (hlines : ∀ l ∈ a.lines, l.ending = e)
    (hmajority : a.majority = e) (i : Nat) : a.endingNear i = e := by
  unfold endingNear
  split
  next l hl => exact hlines l (List.mem_of_getElem? hl)
  next =>
    cases i with
    | zero => exact hmajority
    | succ j =>
        cases hl : a.lines[j]? with
        | none => simpa [hl] using hmajority
        | some l => simpa [hl] using hlines l (List.mem_of_getElem? hl)

/-- A file with carriage returns in all terminators has them in the text. -/
theorem allCrlf_renderLines {ls : List Line} (hfeed : ∀ l ∈ ls, '\n' ∉ l.text.toList)
    (hcrlf : ∀ l ∈ ls, l.ending = .crlf) (closed : Bool) : AllCrlf (renderLines closed ls) := by
  have hpieces : ∀ {front : List Line}, (∀ l ∈ front, l.ending = .crlf) →
      ∀ piece ∈ front.map Line.piece, piece.getLast? = some '\r' := by
    intro front hfront piece hpiece
    obtain ⟨l, hl, rfl⟩ := List.mem_map.1 hpiece
    rw [Line.piece, hfront l hl]
    exact List.getLast?_concat
  unfold AllCrlf
  cases closed with
  | true =>
      rw [piecesBy_renderLines_true hfeed, List.dropLast_concat]
      exact hpieces hcrlf
  | false =>
      cases ls using List.reverseRecOn with
      | nil => exact List.forall_mem_nil _
      | append_singleton front l =>
          rw [piecesBy_renderLines_false hfeed, List.dropLast_concat]
          exact hpieces fun x hx => hcrlf x (List.mem_append_left [l] hx)

theorem ending_ofPiece {piece : List Char} (h : piece.getLast? = some '\r') :
    (Line.ofPiece piece).ending = .crlf := by
  obtain ⟨front, hfront⟩ := List.getLast?_eq_some_iff.1 h
  have hdrop : dropTail? ['\r'] piece = some front := dropTail?_eq_some.2 hfront
  rw [Line.ofPiece, hdrop]

theorem majorityEnding_of_forall {ls : List Line} (hne : ls ≠ []) (h : ∀ l ∈ ls, l.ending = .crlf) :
    majorityEnding ls = .crlf := by
  have hcount : ls.countP (·.ending == .crlf) = ls.length :=
    List.countP_eq_length.2 fun l hl => beq_iff_eq.2 (h l hl)
  have hpos := List.length_pos_iff.2 hne
  rw [majorityEnding, hcount, if_pos (by omega)]

/-- A text with carriage returns in all its terminators is read so. -/
theorem ending_parse {path content : String} (h : AllCrlf content) (hfeed : '\n' ∈ content.toList) :
    (∀ l ∈ (parse path content).lines, l.ending = .crlf) ∧ (parse path content).majority = .crlf := by
  obtain ⟨front, last, hpieces⟩ := exists_pieces content
  rw [AllCrlf, hpieces, List.dropLast_concat] at h
  have hread : ∀ l ∈ front.map Line.ofPiece, l.ending = .crlf :=
    List.forall_mem_map.2 fun piece hpiece => ending_ofPiece (h piece hpiece)
  have hsome : front ≠ [] := by
    rintro rfl
    rw [Text.eq_of_piecesBy _ hpieces, List.flatMap_nil, List.nil_append] at hfeed
    have hlast : last ∈ piecesBy (· == '\n') content.toList := by simp [hpieces]
    simpa using not_mem_piecesBy hlast hfeed
  have hmajority := majorityEnding_of_forall (by simpa using hsome) hread
  rw [parse_of_pieces path hpieces]
  refine ⟨List.forall_mem_append.2 ⟨hread, ?_⟩, hmajority⟩
  split
  · exact List.forall_mem_nil _
  · exact List.forall_mem_singleton.2 hmajority

/-! ## Blocks -/

/-- A line of a file with a block in it is an old one, or blank, or one of the block at its
indentation. -/
theorem mem_lines_insertBlock {a : Artifact} {anchor : Anchor} {block : List String} {separated : Bool}
    {l : Line} (h : l ∈ (a.insertBlock anchor block separated).lines) :
    l ∈ a.lines ∨ l.ending = a.endingNear (anchor.locate a.texts).index
      ∧ (l.text = "" ∨ ∃ b ∈ block, b ≠ "" ∧ l.text = (anchor.locate a.texts).indent ++ b) := by
  unfold insertBlock insertLines at h
  simp only [List.mem_append, List.mem_map] at h
  rcases h with (h | ⟨text, htext, rfl⟩) | h
  · exact .inl (List.mem_of_mem_take h)
  · refine .inr ⟨rfl, ?_⟩
    rcases htext with (htext | ⟨b, hb, rfl⟩) | htext
    · exact .inl (gapBefore_blank text htext)
    · unfold indentBy
      split
      · exact .inl rfl
      next hne => exact .inr ⟨b, hb, by simpa using hne, rfl⟩
    · exact .inl (gapAfter_blank text htext)
  · exact .inl (List.mem_of_mem_drop h)

/-- The lines of a block are lines in the file. -/
theorem WellRead.insertBlock {a : Artifact} (h : a.WellRead) (anchor : Anchor) {block : List String}
    (hblock : ∀ l ∈ block, '\n' ∉ l.toList) (separated : Bool) :
    (a.insertBlock anchor block separated).WellRead := by
  have hindent : '\n' ∉ (anchor.locate a.texts).indent.toList :=
    Anchor.not_mem_indent_locate (by decide) (List.forall_mem_map.2 h) anchor
  intro l hl
  rcases mem_lines_insertBlock hl with hl | ⟨-, hl | ⟨b, hb, -, hl⟩⟩
  · exact h l hl
  · rw [hl]
    exact List.not_mem_nil
  · rw [hl, String.toList_append, List.mem_append]
    exact not_or.2 ⟨hindent, hblock b hb⟩

/-- **A block that is put in is one chunk of the text, and nothing else changes.**  For every text,
which is written back as it was read, and every block, the new text is the old one with a chunk put
in.  The chunk is made of the lines of the block at the indentation of the anchor, and of one blank
line at most.  Where all terminators of the text have a carriage return, so have those of the new
text. -/
theorem insertBlock_chunk (path content : String) (anchor : Anchor) (block : List String)
    (separated : Bool) :
    (parse path content).render = content
      ∧ (∃ before chunk behind ls, content = before ++ behind
        ∧ ((parse path content).insertBlock anchor block separated).render = before ++ chunk ++ behind
        ∧ Chunk ls chunk
        ∧ Framed (block.map (indentBy (anchor.locate (parse path content).texts).indent)) ls)
      ∧ ((∀ l ∈ block, '\n' ∉ l.toList) → '\n' ∈ content.toList → AllCrlf content →
        AllCrlf ((parse path content).insertBlock anchor block separated).render) := by
  have hrender := render_parse path content
  refine ⟨hrender, ?_, fun hblock hfeed hcrlf => ?_⟩
  · have hindex := anchor.index_locate_le (parse path content).texts
    rw [texts, List.length_map] at hindex
    obtain ⟨before, chunk, behind, hold, hnew, hchunk⟩ :=
      (firm_parse path content).insertLines_chunk hindex _
    exact ⟨before, chunk, behind, _, hrender.symm.trans hold, hnew, hchunk,
      framed_gaps _ _ anchor separated⟩
  · obtain ⟨hlines, hmajority⟩ := @ending_parse path content hcrlf hfeed
    refine allCrlf_renderLines ((wellRead_parse path content).insertBlock anchor hblock separated) ?_ _
    intro l hl
    rcases mem_lines_insertBlock hl with hl | ⟨hending, -⟩
    · exact hlines l hl
    · rw [hending]
      exact endingNear_of_forall hlines hmajority _

/-- A class in a file with carriage returns gets a line with one. -/
theorem insertBlock_chunk_crlf : AllCrlf
    ((parse "C.cs" "class C\r\n\x7b\r\n\x7d\r\n").insertBlock .endOfBlock ["int A;"] true).render :=
  (insertBlock_chunk "C.cs" "class C\r\n\x7b\r\n\x7d\r\n" .endOfBlock ["int A;"] true).2.2 (by decide)
    (by decide) (by decide)

end Artifact

end Scaffold
