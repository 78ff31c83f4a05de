import Mathlib
import Scaffold.Proofs.Text.Lines
import Scaffold.Task

/-!
# Changes that lose nothing

A file of any shape is written back as it was read (`Artifact.render_parse`), mixed terminators,
stray carriage returns and a missing last one included.  Putting a block in leaves its characters in
their order (`Artifact.sublist_insertBlock`).  Taking sample lines out cuts at most one run of lines
for each sample, and nothing else (`Artifact.WellRead.cutRuns`).
-/

namespace Scaffold

open Scaffold.Text

/-! ## Writing lines -/

namespace Artifact

theorem renderLines_cons (closed : Bool) (l : Line) {ls : List Line} (h : ls ≠ []) :
    renderLines closed (l :: ls) = l.render ++ renderLines closed ls := by
  cases ls with
  | nil => exact absurd rfl h
  | cons m rest => rfl

@[simp] theorem renderLines_true_cons (l : Line) (ls : List Line) :
    renderLines true (l :: ls) = l.render ++ renderLines true ls := by
  cases ls with
  | nil => exact (String.append_empty).symm
  | cons m rest => rfl

/-- Lines that others follow are all terminated. -/
theorem renderLines_append (closed : Bool) (ls : List Line) {rest : List Line} (h : rest ≠ []) :
    renderLines closed (ls ++ rest) = renderLines true ls ++ renderLines closed rest := by
  induction ls with
  | nil => exact (String.empty_append).symm
  | cons l ls ih =>
      rw [List.cons_append, renderLines_cons closed l (by simp [h]), ih, renderLines_true_cons,
        String.append_assoc]

@[simp] theorem renderLines_true_append (ls rest : List Line) :
    renderLines true (ls ++ rest) = renderLines true ls ++ renderLines true rest := by
  cases rest with
  | nil => rw [List.append_nil]; exact (String.append_empty).symm
  | cons m rest => exact renderLines_append true ls (by simp)

/-- Terminated lines end in a line feed. -/
theorem renderLines_true_last (ls : List Line) : renderLines true ls = ""
    ∨ (renderLines true ls).toList.getLast? = some '\n' := by
  induction ls using List.reverseRecOn with
  | nil => exact .inl rfl
  | append_singleton ls l =>
      right
      rw [renderLines_true_append]
      obtain ⟨text, ending⟩ := l
      cases ending <;> simp [renderLines, Line.render, Ending.text]

/-! ## Reading -/

theorem render_ofPiece (piece : List Char) :
    (Line.ofPiece piece).render.toList = piece ++ ['\n'] := by
  unfold Line.ofPiece
  split
  next text htext =>
    rw [dropTail?_eq_some.1 htext]
    simp [Line.render, Ending.text]
  next => simp [Line.render, Ending.text]

theorem toList_renderLines_ofPiece (pieces : List (List Char)) :
    (renderLines true (pieces.map Line.ofPiece)).toList = pieces.flatMap (· ++ ['\n']) := by
  induction pieces with
  | nil => rfl
  | cons piece pieces ih =>
      rw [List.map_cons, renderLines_true_cons, String.toList_append, render_ofPiece, ih]
      rfl

end Artifact

/-- A text is its pieces with a separator after each but the last. -/
theorem Text.eq_of_piecesBy {sep : Char} (cs : List Char) {front : List (List Char)}
    {last : List Char} (h : piecesBy (· == sep) cs = front ++ [last]) :
    cs = front.flatMap (· ++ [sep]) ++ last := by
  induction cs generalizing front last with
  | nil =>
      obtain ⟨rfl, rfl⟩ : front = [] ∧ last = [] := by
        cases front with
        | nil => simpa [piecesBy] using h
        | cons p front => simp [piecesBy] at h
      rfl
  | cons c cs ih =>
      by_cases hc : c = sep
      · subst hc
        have hpieces : piecesBy (· == c) (c :: cs) = [] :: piecesBy (· == c) cs := by simp [piecesBy]
        rw [hpieces] at h
        cases front with
        | nil => exact absurd (List.cons.inj h).2 (piecesBy_ne_nil _ cs)
        | cons piece front =>
            obtain ⟨rfl, hrest⟩ := List.cons.inj h
            rw [ih hrest]
            rfl
      · obtain ⟨piece, rest, hcs⟩ := List.exists_cons_of_ne_nil (piecesBy_ne_nil (· == sep) cs)
        have hpieces : piecesBy (· == sep) (c :: cs) = (c :: piece) :: rest := by
          simp [piecesBy, hc, hcs]
        rw [hpieces] at h
        cases front with
        | nil =>
            obtain ⟨rfl, rfl⟩ := List.cons.inj h
            rw [@ih [] _ hcs]
            rfl
        | cons first front =>
            obtain ⟨rfl, rfl⟩ := List.cons.inj h
            rw [@ih (piece :: front) _ hcs]
            rfl

namespace Artifact

/-- A file is written back as it was read. -/
theorem render_parse (path content : String) : (parse path content).render = content := by
  obtain ⟨front, last, hpieces⟩ : ∃ front last,
      piecesBy (· == '\n') content.toList = front ++ [last] :=
    ⟨_, _, (List.dropLast_concat_getLast (piecesBy_ne_nil _ _)).symm⟩
  have hcontent := Text.eq_of_piecesBy _ hpieces
  apply String.toList_injective
  rw [hcontent]
  unfold parse
  simp only [hpieces, List.getLast?_concat, List.dropLast_concat]
  cases last with
  | nil => rw [render, toList_renderLines_ofPiece, List.append_nil]
  | cons c last =>
      show (renderLines false (front.map Line.ofPiece ++ [_])).toList = _
      rw [renderLines_append false _ (by simp), String.toList_append, toList_renderLines_ofPiece]
      simp [renderLines]

/-! ## Putting lines in -/

theorem render_text_sublist (l : Line) : l.text.toList.Sublist l.render.toList := by
  rw [Line.render, String.toList_append]
  exact List.sublist_append_left _ _

/-- More lines are written with more characters. -/
theorem sublist_renderLines (closed : Bool) {ls ls' : List Line} (h : ls.Sublist ls') :
    (renderLines closed ls).toList.Sublist (renderLines closed ls').toList := by
  induction h with
  | slnil => exact .refl _
  | @cons ls ls' l h ih =>
      cases ls' with
      | nil =>
          cases List.sublist_nil.1 h
          exact List.nil_sublist _
      | cons m rest =>
          rw [renderLines_cons closed l (by simp), String.toList_append]
          exact ih.trans (List.sublist_append_right _ _)
  | @cons_cons ls ls' l h ih =>
      cases ls' with
      | nil =>
          cases List.sublist_nil.1 h
          exact .refl _
      | cons m rest =>
          rw [renderLines_cons closed l (List.cons_ne_nil m rest), String.toList_append]
          cases ls with
          | nil =>
              have hone : (renderLines closed [l]).toList.Sublist l.render.toList := by
                cases closed with
                | true => exact .refl _
                | false => exact render_text_sublist l
              exact hone.trans (List.sublist_append_left _ _)
          | cons n ls =>
              rw [renderLines_cons closed l (by simp), String.toList_append]
              exact List.Sublist.append (.refl _) ih

/-- Putting lines in leaves those that are there. -/
theorem sublist_insertLines (a : Artifact) (index : Nat) (texts : List String) :
    a.render.toList.Sublist (a.insertLines index texts).render.toList := by
  refine sublist_renderLines a.endsInNewline ?_
  have hsplit : a.lines = a.lines.take index ++ [] ++ a.lines.drop index := by simp
  calc a.lines
    _ = a.lines.take index ++ [] ++ a.lines.drop index := hsplit
    List.Sublist _ (a.insertLines index texts).lines :=
      ((List.Sublist.refl _).append (List.nil_sublist _)).append (.refl _)

theorem sublist_insertBlock (a : Artifact) (anchor : Anchor) (block : List String)
    (separated : Bool) :
    a.render.toList.Sublist (a.insertBlock anchor block separated).render.toList :=
  sublist_insertLines _ _ _

/-- The lines of an artifact are lines. -/
def WellRead (a : Artifact) : Prop := ∀ l ∈ a.lines, '\n' ∉ l.text.toList

theorem wellRead_parse (path content : String) : (parse path content).WellRead := by
  have hpieces : ∀ piece ∈ piecesBy (· == '\n') content.toList, '\n' ∉ piece := by
    intro piece hpiece hmem
    have hno := not_mem_piecesBy hpiece hmem
    simp at hno
  have hterminated : ∀ l ∈ ((piecesBy (· == '\n') content.toList).dropLast.map Line.ofPiece),
      '\n' ∉ l.text.toList := by
    intro l hl hmem
    obtain ⟨piece, hpiece, rfl⟩ := List.mem_map.1 hl
    refine hpieces piece (List.mem_of_mem_dropLast hpiece) ?_
    unfold Line.ofPiece at hmem
    split at hmem
    next text htext =>
      rw [dropTail?_eq_some.1 htext]
      exact List.mem_append_left _ (by simpa using hmem)
    next => simpa using hmem
  unfold parse WellRead
  cases hlast : (piecesBy (· == '\n') content.toList).getLast? with
  | none => simpa only [hlast] using hterminated
  | some last =>
      cases last with
      | nil => simpa only [hlast] using hterminated
      | cons c last =>
          simp only [hlast]
          intro l hl
          rcases List.mem_append.1 hl with hl | hl
          · exact hterminated l hl
          · cases List.mem_singleton.1 hl
            simpa using hpieces _ (List.mem_of_getLast? hlast)

end Artifact

/-! ## Taking lines out -/

/-- Lines that match a sample, up to blanks around each of them. -/
structure IsRun (sample : List String) (run : List Line) : Prop where
  same : run.map (fun l => trim l.text) = sample.map trim
  lines : ∀ l ∈ run, '\n' ∉ l.text.toList

/-- A text and what is left of it when a run of whole lines that match a sample is cut out.  Where the
run ends the text without a terminator, the one before it goes as well. -/
inductive CutRun (sample : List String) : String → String → Prop
  | between (before after : String) {run : List Line} (hrun : IsRun sample run)
      (hbefore : before = "" ∨ before.toList.getLast? = some '\n') :
      CutRun sample (before ++ Artifact.renderLines true run ++ after) (before ++ after)
  | last (before : String) (ending : Ending) {run : List Line} (hrun : IsRun sample run) :
      CutRun sample (before ++ ending.text ++ Artifact.renderLines false run) before
  | whole {run : List Line} (hrun : IsRun sample run) :
      CutRun sample (Artifact.renderLines false run) ""

/-- A text and what is left of it when at most one run is cut out for each sample, one after the
other. -/
inductive CutRuns : List (List String) → String → String → Prop
  | nil (text : String) : CutRuns [] text text
  | keep {sample : List String} {samples : List (List String)} {text text' : String}
      (hrest : CutRuns samples text text') : CutRuns (sample :: samples) text text'
  | cut {sample : List String} {samples : List (List String)} {text text' text'' : String}
      (hcut : CutRun sample text text') (hrest : CutRuns samples text' text'') :
      CutRuns (sample :: samples) text text''

theorem CutRuns.refl (samples : List (List String)) (text : String) : CutRuns samples text text := by
  induction samples with
  | nil => exact .nil text
  | cons sample samples ih => exact .keep ih

open Artifact in
/-- Leaving a run of lines out cuts it. -/
theorem IsRun.cutRun {sample : List String} {run : List Line} (hrun : IsRun sample run)
    (closed : Bool) (before : List Line) (hne : run ≠ []) (after : List Line) :
    CutRun sample (renderLines closed (before ++ (run ++ after)))
      (renderLines closed (before ++ after)) := by
  have hboundary := renderLines_true_last before
  by_cases hopen : closed = false ∧ after = []
  · -- the run ends the text, which has no terminator at its end
    obtain ⟨rfl, rfl⟩ := hopen
    rw [List.append_nil, List.append_nil, renderLines_append false before hne]
    cases before using List.reverseRecOn with
    | nil =>
        have hnone : renderLines true [] = "" := rfl
        rw [hnone, String.empty_append]
        exact .whole hrun
    | append_singleton before l =>
        rw [renderLines_append false before (by simp), renderLines_true_append]
        have hline : renderLines true [l] = l.text ++ l.ending.text := rfl
        rw [hline, ← String.append_assoc]
        exact .last _ l.ending hrun
  · have hrest : renderLines closed (run ++ after)
        = renderLines true run ++ renderLines closed after := by
      cases after with
      | nil =>
          have hclosed : closed = true := by simpa using hopen
          subst hclosed
          exact renderLines_true_append run []
      | cons l after => exact renderLines_append closed run (by simp)
    have hcut : renderLines closed (before ++ after)
        = renderLines true before ++ renderLines closed after := by
      cases after with
      | nil =>
          have hclosed : closed = true := by simpa using hopen
          subst hclosed
          exact renderLines_true_append before []
      | cons l after => exact renderLines_append closed before (by simp)
    rw [renderLines_append closed before (by simp [hne]), hrest, hcut, ← String.append_assoc]
    exact .between _ _ hrun hboundary

namespace Artifact

theorem matchesSequence_iff {seq texts : List String} :
    matchesSequence seq texts = true ↔ (texts.take seq.length).map trim = seq.map trim := by
  induction seq generalizing texts with
  | nil => simp [matchesSequence]
  | cons s seq ih =>
      cases texts with
      | nil => simp [matchesSequence]
      | cons text texts => simp [matchesSequence, ih]

theorem findSequence?_spec {seq texts : List String} {i : Nat} (h : findSequence? seq texts = some i) :
    matchesSequence seq (texts.drop i) = true := by
  induction texts generalizing i with
  | nil => cases h
  | cons text texts ih =>
      unfold findSequence? at h
      split at h
      next hmatches =>
        cases h
        exact hmatches
      next =>
        obtain ⟨j, hj, rfl⟩ := Option.map_eq_some_iff.1 h
        exact ih hj

/-- A sample that is taken out was a run of lines. -/
theorem removeSequence?_eq_some {a b : Artifact} {sample : List String}
    (h : a.removeSequence? sample = some b) :
    sample ≠ [] ∧ ∃ before run after, a.lines = before ++ (run ++ after)
      ∧ run.map (fun l => trim l.text) = sample.map trim ∧ b = { a with lines := before ++ after } := by
  unfold removeSequence? at h
  split at h
  · cases h
  next hsample =>
    obtain ⟨i, hi, rfl⟩ := Option.map_eq_some_iff.1 h
    have hmatches := matchesSequence_iff.1 (findSequence?_spec hi)
    refine ⟨fun hnil => hsample (List.isEmpty_iff.2 hnil), a.lines.take i,
      (a.lines.drop i).take sample.length,
      a.lines.drop (i + sample.length), ?_, ?_, rfl⟩
    · rw [← List.drop_drop, List.take_append_drop, List.take_append_drop]
    · rw [← hmatches, texts, ← List.map_drop, ← List.map_take, List.map_map]
      rfl

/-- Taking a sample out cuts a run. -/
theorem WellRead.cutRun {a b : Artifact} {sample : List String} (ha : a.WellRead)
    (h : a.removeSequence? sample = some b) : b.WellRead ∧ CutRun sample a.render b.render := by
  obtain ⟨hsample, before, run, after, hlines, hsame, rfl⟩ := removeSequence?_eq_some h
  have hisRun : IsRun sample run := ⟨hsame, fun l hl => ha l (by rw [hlines]; simp [hl])⟩
  have hne : run ≠ [] := by
    rintro rfl
    exact hsample (List.map_eq_nil_iff.1 hsame.symm)
  refine ⟨fun l hl => ha l ?_, ?_⟩
  · rw [hlines]
    rcases List.mem_append.1 hl with hl | hl <;> simp [hl]
  · show CutRun sample (renderLines a.endsInNewline a.lines)
      (renderLines a.endsInNewline (before ++ after))
    rw [hlines]
    exact hisRun.cutRun a.endsInNewline before hne after

/-- Taking samples out cuts at most one run for each of them. -/
theorem WellRead.cutRuns {a : Artifact} (ha : a.WellRead) (samples : List (List String)) :
    CutRuns samples a.render (removeSamples samples a).2.render := by
  unfold removeSamples
  generalize false = removed
  induction samples generalizing a removed with
  | nil => exact .nil _
  | cons sample samples ih =>
      rw [List.foldl_cons]
      cases hremove : a.removeSequence? sample with
      | none =>
          simp only [hremove]
          exact .keep (ih ha removed)
      | some b =>
          obtain ⟨hb, hcut⟩ := ha.cutRun hremove
          simp only [hremove]
          exact .cut hcut (ih hb true)

example : (removeSamples [["b"]] (.parse "f" "a\r\n b ")).2.render = "a" := by decide +kernel

end Artifact

end Scaffold
