import Mathlib
import Scaffold.Proofs.Artifact.Reload
import Scaffold.Proofs.Manifest.Terminator

/-!
# Texts and terminators in two lists

A program may keep the texts of the lines in one list and their terminators in another one, and
change both with every edit (`Columns`).  A position must then be one of both lists, and writing
pairs the lists off, so that a terminator too few would cut the file short.  The two lists stay
those of the lines (`Artifact.columns_carryOut?`): each of the six edits, of one line or of many,
changes them at the same places, and only an edit of one line can name a place that is not there.

A block goes in line by line, and a run of lines goes out line by line
(`Artifact.apply_eq_editAll`).  So what is known of edits of one line holds of all six, and a line
can be followed back to the one that was loaded (`Edit.steps`, `LineEdit.origins`).
-/

namespace Scaffold

open Scaffold.Text

/-! ## Edits as edits of one line -/

/-- Put lines in one after the other, the first at `i`. -/
def LineEdit.insertsAt : Nat → List String → List LineEdit
  | _, [] => []
  | i, text :: texts => .insert i text :: insertsAt (i + 1) texts

/-- The edits of one line that a file edit is made of, in a file with these texts. -/
def FileEdit.steps (texts : List String) : FileEdit → List LineEdit
  | block anchor lines separated => blockSteps anchor lines separated
  | importLine literal => blockSteps .afterImports [literal] false
  | removal sample =>
      if sample.isEmpty then []
      else (Artifact.findSequence? sample texts).elim [] fun i => List.replicate sample.length (.remove i)
where
  blockSteps (anchor : Anchor) (lines : List String) (separated : Bool) : List LineEdit :=
    let position := anchor.locate texts
    LineEdit.insertsAt position.index
      (Artifact.gapBefore texts position.index separated
        ++ lines.map (Artifact.indentBy position.indent)
        ++ Artifact.gapAfter texts position)

namespace Artifact

/-- A run that matches a sample is in the file as a whole. -/
theorem findSequence?_add_le {seq ls : List String} {i : Nat} (hseq : seq ≠ [])
    (h : findSequence? seq ls = some i) : i + seq.length ≤ ls.length := by
  have hlength := congrArg List.length (matchesSequence_iff.1 (findSequence?_spec h))
  have hpos := List.length_pos_iff.2 hseq
  simp only [List.length_map, List.length_take, List.length_drop] at hlength
  omega

/-- A line that is put in has its terminator from the place, and so has the next one. -/
theorem endingNear_insertLine (a : Artifact) {i : Nat} (hi : i ≤ a.lines.length) (text : String) :
    (a.insertLine i text).endingNear (i + 1) = a.endingNear i := by
  have hlength : (a.lines.take i).length = i := List.length_take_of_le hi
  have hlines : (a.insertLine i text).lines
      = a.lines.take i ++ ⟨text, a.endingNear i⟩ :: a.lines.drop i := by
    simp [insertLine, insertLines]
  have hnext : (a.insertLine i text).lines[i + 1]? = a.lines[i]? := by
    rw [hlines, List.getElem?_append_right (by omega), hlength, Nat.add_sub_cancel_left,
      List.getElem?_cons_succ, List.getElem?_drop, Nat.add_zero]
  have hself : (a.insertLine i text).lines[i]? = some ⟨text, a.endingNear i⟩ := by
    rw [hlines, List.getElem?_append_right (by omega), hlength, Nat.sub_self, List.getElem?_cons_zero]
  conv_lhs => unfold endingNear
  rw [hnext]
  cases hget : a.lines[i]? with
  | some l => simp only [endingNear, hget]
  | none => simp only [hself, Option.map_some, Option.getD_some]

theorem editAll_insertsAt (a : Artifact) {i : Nat} (hi : i ≤ a.lines.length) (texts : List String) :
    a.editAll (LineEdit.insertsAt i texts) = a.insertLines i texts := by
  induction texts generalizing a i with
  | nil => simp [LineEdit.insertsAt, editAll, insertLines]
  | cons text texts ih =>
      have hlength : (a.lines.take i).length = i := List.length_take_of_le hi
      have hnext : i + 1 ≤ (a.insertLine i text).lines.length := by
        simp only [insertLine, insertLines, List.length_append, hlength, List.length_map,
          List.length_singleton]
        omega
      change (a.insertLine i text).editAll (LineEdit.insertsAt (i + 1) texts) = _
      rw [ih _ hnext, insertLines, endingNear_insertLine a hi]
      have hafter : (a.lines.take i).drop (i + 1) = [] := List.drop_eq_nil_of_le (by omega)
      have hbefore : (a.lines.take i).take (i + 1) = a.lines.take i := List.take_of_length_le (by omega)
      simp [insertLine, insertLines, List.take_append, List.drop_append, hlength, hafter, hbefore]

theorem editAll_removes (a : Artifact) {i : Nat} (hi : i ≤ a.lines.length) (n : Nat) :
    a.editAll (List.replicate n (.remove i))
      = { a with lines := a.lines.take i ++ a.lines.drop (i + n) } := by
  induction n generalizing a with
  | zero => simp [editAll]
  | succ n ih =>
      have hlength : (a.lines.take i).length = i := List.length_take_of_le hi
      have hone : (a.removeLine i).lines = a.lines.take i ++ a.lines.drop (i + 1) :=
        List.eraseIdx_eq_take_drop_succ _ _
      have hle : i ≤ (a.removeLine i).lines.length := by
        rw [hone, List.length_append, hlength]
        omega
      change (a.removeLine i).editAll (List.replicate n (.remove i)) = _
      rw [ih _ hle, hone]
      simp [removeLine, List.drop_append, hlength, Nat.add_comm, Nat.add_left_comm]

/-- A file edit is made line by line. -/
theorem apply_eq_editAll (a : Artifact) (e : FileEdit) : e.apply a = a.editAll (e.steps a.texts) := by
  have hblock (anchor : Anchor) (lines : List String) (separated : Bool) :
      a.insertBlock anchor lines separated
        = a.editAll (FileEdit.steps.blockSteps a.texts anchor lines separated) := by
    have hindex : (anchor.locate a.texts).index ≤ a.lines.length := by
      simpa [texts] using anchor.index_locate_le a.texts
    rw [FileEdit.steps.blockSteps, editAll_insertsAt a hindex]
    rfl
  cases e with
  | block anchor lines separated => exact hblock anchor lines separated
  | importLine literal => exact hblock .afterImports [literal] false
  | removal sample =>
      rw [FileEdit.apply, removeSequence?, FileEdit.steps]
      split
      · rfl
      next hsample =>
        cases hfind : findSequence? sample a.texts with
        | none => rfl
        | some i =>
            have hrun := findSequence?_add_le (mt List.isEmpty_iff.2 hsample) hfind
            have hi : i ≤ a.lines.length := by
              rw [texts, List.length_map] at hrun
              omega
            exact (editAll_removes a hi sample.length).symm

end Artifact

/-- An edit of a file: of one line, or of many whose place is looked up. -/
inductive Edit where
  | line (e : LineEdit)
  | file (e : FileEdit)

namespace Edit

/-- Make an edit. -/
def apply (a : Artifact) : Edit → Artifact
  | line e => a.edit e
  | file e => e.apply a

/-- Make edits in order. -/
def applyAll (es : List Edit) (a : Artifact) : Artifact := es.foldl apply a

/-- An edit of one line names a position of the file. -/
def Fits (a : Artifact) : Edit → Prop
  | line e => e.inRange a.lines.length = true
  | file _ => True

/-- Every edit fits the file that the ones before it left. -/
def FitAll (a : Artifact) : List Edit → Prop
  | [] => True
  | e :: es => e.Fits a ∧ FitAll (e.apply a) es

instance (a : Artifact) : DecidablePred (Fits a)
  | line e => inferInstanceAs (Decidable (e.inRange a.lines.length = true))
  | file _ => inferInstanceAs (Decidable True)

instance decidableFitAll (a : Artifact) : (es : List Edit) → Decidable (FitAll a es)
  | [] => inferInstanceAs (Decidable True)
  | e :: es =>
      have := decidableFitAll (e.apply a) es
      inferInstanceAs (Decidable (e.Fits a ∧ FitAll (e.apply a) es))

/-- The edits of one line that an edit is made of, in a file with these texts. -/
def steps (texts : List String) : Edit → List LineEdit
  | line e => [e]
  | file e => e.steps texts

/-- The edits of one line that edits are made of. -/
def stepsAll (a : Artifact) : List Edit → List LineEdit
  | [] => []
  | e :: es => e.steps a.texts ++ stepsAll (e.apply a) es

/-- For each line of an edited file, the one it was, unless it was put in. -/
def origins (a : Artifact) (es : List Edit) : List (Option Nat) :=
  LineEdit.origins a.lines.length (stepsAll a es)

theorem apply_eq_editAll (a : Artifact) (e : Edit) : e.apply a = a.editAll (e.steps a.texts) := by
  cases e with
  | line e => rfl
  | file e => exact a.apply_eq_editAll e

theorem applyAll_eq_editAll (a : Artifact) (es : List Edit) :
    applyAll es a = a.editAll (stepsAll a es) := by
  induction es generalizing a with
  | nil => rfl
  | cons e es ih =>
      change applyAll es (e.apply a) = _
      rw [ih, stepsAll, Artifact.editAll, Artifact.editAll, List.foldl_append]
      congr 1
      exact apply_eq_editAll a e

end Edit

/-! ## Two lists -/

/-- A file whose texts and terminators are in two lists. -/
structure Columns where
  /-- The texts of the lines. -/
  texts : List String
  /-- Their terminators. -/
  endings : List Ending
  /-- The terminator of a line that has no neighbour. -/
  majority : Ending
  /-- Whether the last line is terminated. -/
  endsInNewline : Bool
deriving Repr, DecidableEq

/-- The two lists of the lines of a file. -/
def Artifact.columns (a : Artifact) : Columns :=
  ⟨a.texts, a.lines.map Line.ending, a.majority, a.endsInNewline⟩

namespace Columns

/-- The terminator at `index`, else the one before it, else that of the majority. -/
def endingNear (c : Columns) (index : Nat) : Ending :=
  ((c.endings[index]?).or (if index = 0 then none else c.endings[index - 1]?)).getD c.majority

/-- Change the two lists by an edit of one line, unless its position is in one of them only or in
none. -/
def edit? (c : Columns) : LineEdit → Option Columns
  | .insert i text =>
      if i ≤ c.texts.length ∧ i ≤ c.endings.length then
        some { c with texts := c.texts.take i ++ text :: c.texts.drop i
                      endings := c.endings.take i ++ c.endingNear i :: c.endings.drop i }
      else none
  | .remove i =>
      if i < c.texts.length ∧ i < c.endings.length then
        some { c with texts := c.texts.eraseIdx i, endings := c.endings.eraseIdx i }
      else none
  | .replace i text => if i < c.texts.length then some { c with texts := c.texts.set i text } else none

/-- Take `n` lines out, the first one at `i`. -/
def drain? (c : Columns) (i n : Nat) : Option Columns :=
  if i + n ≤ c.texts.length ∧ i + n ≤ c.endings.length then
    some { c with texts := c.texts.take i ++ c.texts.drop (i + n)
                  endings := c.endings.take i ++ c.endings.drop (i + n) }
  else none

/-- Put lines in one after the other, the first at `i`. -/
def insertAll? (c : Columns) : Nat → List String → Option Columns
  | _, [] => some c
  | i, text :: texts => (c.edit? (.insert i text)).bind fun c => c.insertAll? (i + 1) texts

/-- Put a block in at an anchor. -/
def insertBlock? (c : Columns) (anchor : Anchor) (block : List String) (separated : Bool) : Option Columns :=
  let position := anchor.locate c.texts
  c.insertAll? position.index
    (Artifact.gapBefore c.texts position.index separated
      ++ block.map (Artifact.indentBy position.indent) ++ Artifact.gapAfter c.texts position)

/-- Make an edit. -/
def carryOut? (c : Columns) : Edit → Option Columns
  | .line e => c.edit? e
  | .file (.block anchor lines separated) => c.insertBlock? anchor lines separated
  | .file (.importLine literal) => c.insertBlock? .afterImports [literal] false
  | .file (.removal sample) =>
      if sample.isEmpty then some c
      else match Artifact.findSequence? sample c.texts with
        | some i => c.drain? i sample.length
        | none => some c

/-- Make edits in order. -/
def applyAll? (c : Columns) : List Edit → Option Columns
  | [] => some c
  | e :: es => (c.carryOut? e).bind fun c => c.applyAll? es

/-- Write a file out: the two lists are paired off, and the last text goes without its terminator
unless the file ends in one. -/
def render (c : Columns) : String :=
  String.join ((c.texts.zip c.endings).zipIdx.map fun ((text, ending), i) =>
    if i < c.texts.length - 1 ∨ c.endsInNewline = true then text ++ ending.text else text)

end Columns

namespace Artifact

variable {a : Artifact}

theorem endingNear_columns (a : Artifact) (i : Nat) : a.columns.endingNear i = a.endingNear i := by
  unfold Columns.endingNear endingNear
  simp only [columns, List.getElem?_map]
  cases a.lines[i]? with
  | some l => rfl
  | none =>
      cases i with
      | zero => rfl
      | succ i => simp

theorem endings_modify (ls : List Line) (i : Nat) (text : String) :
    (ls.modify i fun l => { l with text := text }).map Line.ending = ls.map Line.ending := by
  induction ls generalizing i with
  | nil => simp
  | cons l ls ih => cases i <;> simp [ih]

/-- The two lists are changed at one place. -/
theorem columns_edit? {e : LineEdit} (h : e.inRange a.lines.length = true) :
    a.columns.edit? e = some (a.edit e).columns := by
  have htexts : a.columns.texts.length = a.lines.length := List.length_map _
  have hendings : a.columns.endings.length = a.lines.length := List.length_map _
  cases e with
  | insert i text =>
      have hi : i ≤ a.lines.length := by simpa [LineEdit.inRange] using h
      rw [Columns.edit?, if_pos (by rw [htexts, hendings]; exact ⟨hi, hi⟩), endingNear_columns]
      simp [edit, insertLine, insertLines, columns, texts]
  | remove i =>
      have hi : i < a.lines.length := by simpa [LineEdit.inRange] using h
      rw [Columns.edit?, if_pos (by rw [htexts, hendings]; exact ⟨hi, hi⟩)]
      simp [edit, removeLine, columns, texts, List.eraseIdx_map]
  | replace i text =>
      have hi : i < a.lines.length := by simpa [LineEdit.inRange] using h
      rw [Columns.edit?, if_pos (by rwa [htexts])]
      simp only [edit, replaceLine, columns, texts, texts_modify, endings_modify, List.set_eq_modify]

theorem columns_insertAll? {i : Nat} (hi : i ≤ a.lines.length) (lines : List String) :
    a.columns.insertAll? i lines = some (a.editAll (LineEdit.insertsAt i lines)).columns := by
  induction lines generalizing a i with
  | nil => rfl
  | cons text lines ih =>
      have hnext : i + 1 ≤ (a.edit (.insert i text)).lines.length := by
        simp only [edit, insertLine, insertLines, List.length_append, List.length_take, List.length_drop,
          List.length_map, List.length_singleton]
        omega
      rw [Columns.insertAll?, columns_edit? (by simpa [LineEdit.inRange] using hi), Option.bind_some,
        ih hnext]
      rfl

/-- Every edit keeps the two lists those of the lines. -/
theorem columns_carryOut? {e : Edit} (h : e.Fits a) :
    a.columns.carryOut? e = some (e.apply a).columns := by
  have htexts : a.columns.texts = a.texts := rfl
  have hblock (anchor : Anchor) (lines : List String) (separated : Bool) :
      a.columns.insertBlock? anchor lines separated
        = some (a.insertBlock anchor lines separated).columns := by
    have hindex : (anchor.locate a.texts).index ≤ a.lines.length := by
      simpa [texts] using anchor.index_locate_le a.texts
    rw [Columns.insertBlock?, htexts, columns_insertAll? hindex, editAll_insertsAt a hindex]
    rfl
  cases e with
  | line e => exact columns_edit? h
  | file e =>
      cases e with
      | block anchor lines separated => exact hblock anchor lines separated
      | importLine literal => exact hblock .afterImports [literal] false
      | removal sample =>
          rw [Columns.carryOut?, htexts]
          simp only [Edit.apply, FileEdit.apply, removeSequence?]
          split
          · rfl
          next hsample =>
            cases hfind : findSequence? sample a.texts with
            | none => rfl
            | some i =>
                have hrun := findSequence?_add_le (mt List.isEmpty_iff.2 hsample) hfind
                have hle : i + sample.length ≤ a.lines.length := by simpa [texts] using hrun
                simp [columns, Columns.drain?, texts, hle]

theorem columns_applyAll? {es : List Edit} (h : Edit.FitAll a es) :
    a.columns.applyAll? es = some (Edit.applyAll es a).columns := by
  induction es generalizing a with
  | nil => rfl
  | cons e es ih =>
      rw [Columns.applyAll?, columns_carryOut? h.1, Option.bind_some, ih h.2]
      rfl

/-- The lists are as long as each other, so pairing them off writes every line. -/
theorem render_columns (a : Artifact) : a.columns.render = a.render := by
  rw [render_eq_join, Columns.render]
  congr 1
  refine List.ext_getElem (by simp [columns, texts]) fun i hi _ => ?_
  have hlength : i < a.lines.length := by simpa [columns, texts] using hi
  simp only [List.getElem_map, List.getElem_zipIdx, List.getElem_zip, List.getElem_range, columns, texts,
    List.length_map, written, terminator?, List.getElem?_map, List.getElem?_eq_getElem hlength,
    Option.map_some, Option.getD_some, Nat.zero_add]
  by_cases hopen : a.endsInNewline = false ∧ i + 1 = a.lines.length
  · rw [if_pos hopen, if_neg (by rw [hopen.1]; simp; omega)]
    simp
  · rw [if_neg hopen, if_pos ?_]
    · rfl
    · cases hclosed : a.endsInNewline with
      | true => exact .inr rfl
      | false =>
          have hlast : i + 1 ≠ a.lines.length := fun h => hopen ⟨hclosed, h⟩
          exact .inl (by omega)

end Artifact

/-! ## Lines through edits -/

/-- The lines that are still there keep their order. -/
theorem LineEdit.sublist_origins (count : Nat) (es : List LineEdit) :
    (LineEdit.origins count es).reduceOption.Sublist (List.range count) := by
  have hstep (os : List (Option Nat)) (e : LineEdit) :
      (LineEdit.along none os e).reduceOption.Sublist os.reduceOption := by
    cases e with
    | insert i text =>
        have hsame : (os.take i ++ none :: os.drop i).reduceOption = os.reduceOption := by
          conv_rhs => rw [← List.take_append_drop i os]
          rw [List.reduceOption_append, List.reduceOption_append, List.reduceOption_cons_of_none]
        rw [LineEdit.along, hsame]
    | remove i => exact (List.eraseIdx_sublist os i).filterMap id
    | replace i text => exact List.Sublist.refl _
  have hall (os : List (Option Nat)) :
      (es.foldl (LineEdit.along none) os).reduceOption.Sublist os.reduceOption := by
    induction es generalizing os with
    | nil => exact List.Sublist.refl _
    | cons e es ih => exact (ih _).trans (hstep os e)
  have hstart : ((List.range count).map some).reduceOption = List.range count := by
    simp [List.reduceOption]
  rw [← hstart]
  exact hall _

/-- **The lines of a file and their terminators never drift apart.**  For every text and all edits
that fit it, each edit finds its place in both lists, of the texts and of the terminators, and
leaves those of the lines.  So there is one terminator for each line, and what is written is every
line with its terminator.  The lines that are still there are lines of the text in their order, and
each is written with the terminator that it has there, with a new text as well.  Only in a file
without a terminator at its end, the line that is now the last is written without one, and the one
that was the last with that of the majority. -/
theorem columns_keep_terminators (path content : String) {es : List Edit}
    (h : Edit.FitAll (.parse path content) es) :
    let a := Artifact.parse path content
    let b := Edit.applyAll es a
    (∃ c, a.columns.applyAll? es = some c ∧ c.texts = b.texts ∧ c.endings.length = c.texts.length
        ∧ c.render = b.render ∧ c.render = String.join ((List.range c.texts.length).map b.written))
      ∧ (Edit.origins a es).length = b.lines.length
      ∧ (Edit.origins a es).reduceOption.Sublist (List.range a.lines.length)
      ∧ ∀ i j, (Edit.origins a es)[j]? = some (some i) →
        b.terminator? j = if a.endsInNewline = false ∧ j + 1 = b.lines.length then none
          else some ((a.terminator? i).getD a.majority) := by
  intro a b
  have hb : b = a.editAll (Edit.stepsAll a es) := Edit.applyAll_eq_editAll a es
  have htexts : b.columns.texts.length = b.lines.length := List.length_map _
  refine ⟨⟨b.columns, Artifact.columns_applyAll? h, rfl, ?_, b.render_columns, ?_⟩, ?_,
    LineEdit.sublist_origins _ _, fun i j horigin => ?_⟩
  · rw [htexts]
    exact List.length_map _
  · rw [b.render_columns, htexts, b.render_eq_join]
  · rw [hb]
    exact (Artifact.forall₂_endsAs_editAll _ (Artifact.forall₂_endsAs_range a.lines)).length_eq.symm
  · rw [hb]
    exact Artifact.terminator?_editAll horigin

/-- An import goes into a class, its head is changed and its brace removed. -/
def classEdits : List Edit :=
  [.file (.importLine "using A;"), .line (.replace 2 "class D"), .file (.removal ["\x7d"])]

/-- In a file of both terminators the head keeps its own, and the opening brace, which becomes the
last line, is written without the one it had. -/
theorem columns_keep_terminators_class :
    Edit.FitAll (.parse "C.cs" "class C\r\n\x7b\n\x7d") classEdits
      ∧ Edit.origins (.parse "C.cs" "class C\r\n\x7b\n\x7d") classEdits = [none, none, some 0, some 1]
      ∧ (Edit.applyAll classEdits (.parse "C.cs" "class C\r\n\x7b\n\x7d")).terminator? 2 = some .crlf
      ∧ (Edit.applyAll classEdits (.parse "C.cs" "class C\r\n\x7b\n\x7d")).terminator? 3 = none
      ∧ ∃ c, (Artifact.parse "C.cs" "class C\r\n\x7b\n\x7d").columns.applyAll? classEdits = some c
        ∧ c.endings.length = 4 ∧ c.render = "using A;\r\n\r\nclass D\r\n\x7b" := by
  have hfits : Edit.FitAll (.parse "C.cs" "class C\r\n\x7b\n\x7d") classEdits :=
    by decide +kernel
  have horigins : Edit.origins (.parse "C.cs" "class C\r\n\x7b\n\x7d") classEdits
      = [none, none, some 0, some 1] := by decide +kernel
  have htexts : (Edit.applyAll classEdits (.parse "C.cs" "class C\r\n\x7b\n\x7d")).texts
      = ["using A;", "", "class D", "\x7b"] := by decide +kernel
  obtain ⟨⟨c, hc, hsame, hpaired, hrender, -⟩, -, -, hkept⟩ :=
    columns_keep_terminators "C.cs" "class C\r\n\x7b\n\x7d" hfits
  refine ⟨hfits, horigins, (hkept 0 2 (by rw [horigins]; rfl)).trans (by decide +kernel),
    (hkept 1 3 (by rw [horigins]; rfl)).trans (by decide +kernel), c, hc, ?_, ?_⟩
  · rw [hpaired, hsame, htexts]
    rfl
  · rw [hrender]
    decide +kernel

end Scaffold
