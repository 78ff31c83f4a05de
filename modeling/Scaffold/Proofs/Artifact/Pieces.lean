import Mathlib
import Scaffold.Proofs.Lossless

/-!
# The pieces of a written file

A file is read by its pieces between line feeds.  The pieces of a file that was written are its
lines, each with the carriage return of its terminator (`Artifact.piecesBy_renderLines_true`,
`Artifact.piecesBy_renderLines_false`), so reading it again can be told line by line.  A line that
is written with a line feed alone and ends in a carriage return loses it to its terminator; all
others are read back as they are (`Line.reread_text_eq_iff`).  An empty last line without a
terminator is not read back either.  Nothing else is lost (`Artifact.WellRead.texts_reread_iff`).
-/

namespace Scaffold

open Scaffold.Text

/-! ## One line -/

namespace Line

/-- The characters of a line in front of its line feed. -/
def piece (l : Line) : List Char :=
  match l.ending with
  | .lf => l.text.toList
  | .crlf => l.text.toList ++ ['\r']

/-- A line as it is read after it was written. -/
def reread (l : Line) : Line := ofPiece l.piece

/-- A line does not end in a carriage return that is read as a part of its terminator. -/
def Legible (l : Line) : Prop := l.ending = .lf → l.text.toList.getLast? ≠ some '\r'

variable {l : Line}

theorem toList_render (l : Line) : l.render.toList = l.piece ++ ['\n'] := by
  obtain ⟨text, ending⟩ := l
  cases ending <;> simp [render, Ending.text, piece]

theorem not_mem_piece (h : '\n' ∉ l.text.toList) : '\n' ∉ l.piece := by
  obtain ⟨text, ending⟩ := l
  cases ending <;> simpa [piece] using h

/-- A line that was read is legible. -/
theorem legible_ofPiece (piece : List Char) : (ofPiece piece).Legible := by
  unfold ofPiece
  split
  next =>
    intro hending
    cases hending
  next hnone =>
    intro _ hlast
    rw [String.toList_ofList] at hlast
    obtain ⟨front, hfront⟩ := List.getLast?_eq_some_iff.1 hlast
    have hsome : dropTail? ['\r'] piece = some front := dropTail?_eq_some.2 hfront
    rw [hnone] at hsome
    cases hsome

/-- A legible line is read back as it is. -/
theorem reread_of_legible (h : l.Legible) : l.reread = l := by
  obtain ⟨text, ending⟩ := l
  unfold reread ofPiece piece
  cases ending with
  | lf =>
      have hnone : dropTail? ['\r'] text.toList = none := by
        cases hdrop : dropTail? ['\r'] text.toList with
        | none => rfl
        | some front =>
            refine absurd ?_ (h rfl)
            rw [dropTail?_eq_some.1 hdrop, List.getLast?_concat]
      simp [hnone]
  | crlf =>
      have hsome : dropTail? ['\r'] (text.toList ++ ['\r']) = some text.toList := dropTail?_eq_some.2 rfl
      simp [hsome]

/-- A text without carriage returns can be read behind every other one. -/
theorem legible_append {text : String} (hne : text ≠ "") (h : '\r' ∉ text.toList) (front : String)
    (ending : Ending) : (Line.mk (front ++ text) ending).Legible := by
  intro _ hlast
  have hne' : text.toList ≠ [] := fun hnil => hne (String.toList_eq_nil_iff.1 hnil)
  rw [String.toList_append, List.getLast?_append_of_ne_nil _ hne'] at hlast
  exact h (List.mem_of_getLast? hlast)

/-- Only a legible line is read back with its text. -/
theorem reread_text_eq_iff (l : Line) : l.reread.text = l.text ↔ l.Legible := by
  refine ⟨fun hread hending hlast => ?_, fun h => congrArg Line.text (reread_of_legible h)⟩
  obtain ⟨front, hfront⟩ := List.getLast?_eq_some_iff.1 hlast
  have hdrop : dropTail? ['\r'] l.text.toList = some front := dropTail?_eq_some.2 hfront
  unfold reread ofPiece piece at hread
  rw [hending] at hread
  simp only [hdrop] at hread
  have hlength := congrArg List.length (hfront.symm.trans (congrArg String.toList hread.symm))
  simp at hlength

end Line

namespace Artifact

/-! ## All lines -/

section

variable {ls : List Line} {l : Line} (path : String)

theorem piecesBy_renderLines_true (h : ∀ l ∈ ls, '\n' ∉ l.text.toList) :
    piecesBy (· == '\n') (renderLines true ls).toList = ls.map Line.piece ++ [[]] := by
  induction ls with
  | nil => rfl
  | cons l ls ih =>
      rw [List.forall_mem_cons] at h
      have hpiece : ∀ c ∈ l.piece, (c == '\n') = false := fun c hc =>
        beq_eq_false_iff_ne.2 (ne_of_mem_of_not_mem hc (Line.not_mem_piece h.1))
      rw [renderLines_true_cons, String.toList_append, Line.toList_render, List.append_assoc,
        List.singleton_append, piecesBy_append_sep (by rfl), piecesBy_of_forall hpiece, ih h.2]
      rfl

/-- The last line of a file without a last terminator is a piece as well. -/
theorem piecesBy_renderLines_false (h : ∀ x ∈ ls ++ [l], '\n' ∉ x.text.toList) :
    piecesBy (· == '\n') (renderLines false (ls ++ [l])).toList
      = ls.map Line.piece ++ [l.text.toList] := by
  rw [List.forall_mem_append, List.forall_mem_singleton] at h
  have hlast : ∀ c ∈ l.text.toList, (c == '\n') = false := fun c hc =>
    beq_eq_false_iff_ne.2 (ne_of_mem_of_not_mem hc h.2)
  rw [renderLines_append false ls (by simp), String.toList_append]
  induction ls with
  | nil => exact piecesBy_of_forall hlast
  | cons m ls ih =>
      rw [List.forall_mem_cons] at h
      have hpiece : ∀ c ∈ m.piece, (c == '\n') = false := fun c hc =>
        beq_eq_false_iff_ne.2 (ne_of_mem_of_not_mem hc (Line.not_mem_piece h.1.1))
      rw [renderLines_true_cons, String.toList_append, Line.toList_render, List.append_assoc,
        List.append_assoc, List.singleton_append, piecesBy_append_sep (by rfl),
        piecesBy_of_forall hpiece, ih ⟨h.1.2, h.2⟩]
      rfl

theorem map_ofPiece_piece (ls : List Line) : (ls.map Line.piece).map Line.ofPiece = ls.map Line.reread :=
  List.map_map

theorem exists_pieces (content : String) :
    ∃ front last, piecesBy (· == '\n') content.toList = front ++ [last] :=
  ⟨_, _, (List.dropLast_concat_getLast (piecesBy_ne_nil _ _)).symm⟩

/-- Every piece but the last is a terminated line, and the last one is a line unless it is empty: it
gets the terminator of the majority. -/
theorem parse_of_pieces {content : String} {front : List (List Char)} {last : List Char}
    (h : piecesBy (· == '\n') content.toList = front ++ [last]) : parse path content
      = ⟨path, front.map Line.ofPiece ++ (if last = [] then []
          else [⟨String.ofList last, majorityEnding (front.map Line.ofPiece)⟩]), true,
        majorityEnding (front.map Line.ofPiece), last.isEmpty⟩ := by
  unfold parse
  simp only [h, List.getLast?_concat, List.dropLast_concat]
  cases last with
  | nil => rw [if_pos rfl, List.append_nil, List.isEmpty_nil]
  | cons c last => rw [if_neg (List.cons_ne_nil c last), List.isEmpty_cons]

/-- Reading a file of terminated lines. -/
theorem parse_renderLines_true (h : ∀ l ∈ ls, '\n' ∉ l.text.toList) : parse path (renderLines true ls)
    = ⟨path, ls.map Line.reread, true, majorityEnding (ls.map Line.reread), true⟩ := by
  rw [parse_of_pieces path (piecesBy_renderLines_true h), map_ofPiece_piece, if_pos rfl, List.append_nil]
  rfl

/-- Reading a file whose last line is not empty and has no terminator. -/
theorem parse_renderLines_false (h : ∀ x ∈ ls ++ [l], '\n' ∉ x.text.toList) (hne : l.text ≠ "") :
    parse path (renderLines false (ls ++ [l]))
      = ⟨path, ls.map Line.reread ++ [⟨l.text, majorityEnding (ls.map Line.reread)⟩], true,
        majorityEnding (ls.map Line.reread), false⟩ := by
  have hlast : l.text.toList ≠ [] := fun hnil => hne (String.toList_eq_nil_iff.1 hnil)
  rw [parse_of_pieces path (piecesBy_renderLines_false h), map_ofPiece_piece, if_neg hlast,
    String.ofList_toList, List.isEmpty_eq_false_iff.2 hlast]

/-- An empty last line without a terminator leaves nothing in the text. -/
theorem renderLines_false_blank (hblank : l.text = "") :
    renderLines false (ls ++ [l]) = renderLines true ls := by
  rw [renderLines_append false ls (by simp)]
  change renderLines true ls ++ l.text = _
  rw [hblank, String.append_empty]

end

/-! ## Reading back -/

/-- The lines that are written with a terminator. -/
def terminated (a : Artifact) : List Line := if a.endsInNewline then a.lines else a.lines.dropLast

/-- Every line can be read back: none with a terminator takes a carriage return into it, and the
last one without a terminator is not empty. -/
structure Readable (a : Artifact) : Prop where
  returns : ∀ l ∈ a.terminated, l.Legible
  last : a.endsInNewline = false → a.texts.getLast? ≠ some ""

theorem map_reread_text_eq_iff (ls : List Line) :
    (ls.map Line.reread).map Line.text = ls.map Line.text ↔ ∀ l ∈ ls, l.Legible := by
  rw [List.map_map, List.map_inj_left]
  exact forall₂_congr fun l _ => l.reread_text_eq_iff

/-- **A file is read back with the lines it was written from exactly if each of them can be.** -/
theorem WellRead.texts_reread_iff {a : Artifact} (ha : a.WellRead) (path : String) :
    (parse path a.render).texts = a.texts ↔ a.Readable := by
  obtain ⟨path', lines, isPresent, majority, closed⟩ := a
  cases closed with
  | true =>
      have hread := parse_renderLines_true path ha
      rw [render, hread, texts, texts, map_reread_text_eq_iff]
      exact ⟨fun h => ⟨h, fun hopen => Bool.noConfusion hopen⟩, fun h => h.returns⟩
  | false =>
      cases lines using List.reverseRecOn with
      | nil => exact ⟨fun _ => ⟨List.forall_mem_nil _, fun _ => (Option.some_ne_none _).symm⟩,
          fun _ => rfl⟩
      | append_singleton front l =>
          have hlast : texts ⟨path', front ++ [l], isPresent, majority, false⟩
              = front.map Line.text ++ [l.text] := by simp [texts]
          by_cases hblank : l.text = ""
          · have hread := parse_renderLines_true path fun x hx => ha x (List.mem_append_left [l] hx)
            rw [render, renderLines_false_blank hblank, hread, hlast, texts]
            refine ⟨fun h => ?_, fun h => absurd ?_ (h.last rfl)⟩
            · have hlength := congrArg List.length h
              simp at hlength
            · rw [hlast, hblank, List.getLast?_concat]
          · have hread := parse_renderLines_false path ha hblank
            rw [render, hread, hlast, texts, List.map_append, List.map_singleton, List.append_left_inj,
              map_reread_text_eq_iff]
            have hterminated : terminated ⟨path', front ++ [l], isPresent, majority, false⟩ = front :=
              List.dropLast_concat
            refine ⟨fun h => ⟨by rwa [hterminated], fun _ => ?_⟩, fun h => ?_⟩
            · rw [hlast, List.getLast?_concat]
              simpa using hblank
            · rw [← hterminated]
              exact h.returns

end Artifact

end Scaffold
