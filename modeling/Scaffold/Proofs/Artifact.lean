import Mathlib
import Scaffold.Artifact
import Scaffold.LineEdit
import Scaffold.Proofs.Text.Lines

/-!
# Files of plain lines

A file that is written from plain lines is read as an artifact whose lines all end with a line
feed (`parse_unlines`).  Such an artifact is closed under every change a task makes, so the
changes can be described on the list of its lines: a block goes in between two parts of the
list, with blank lines around it and blanks before its own (`insertBlock_ofLines`).
-/

namespace Scaffold

open Scaffold.Text

namespace Artifact

/-- A file whose lines all end with a line feed. -/
def ofLines (path : String) (isPresent : Bool) (ls : List String) : Artifact :=
  ⟨path, ls.map (⟨·, .lf⟩), isPresent, .lf, true⟩

@[simp] theorem texts_ofLines (path : String) (b : Bool) (ls : List String) :
    (ofLines path b ls).texts = ls := by
  simp [ofLines, texts, Function.comp_def]

@[simp] theorem path_ofLines (path : String) (b : Bool) (ls : List String) :
    (ofLines path b ls).path = path := rfl

@[simp] theorem isPresent_ofLines (path : String) (b : Bool) (ls : List String) :
    (ofLines path b ls).isPresent = b := rfl

/-! ## Reading and writing -/

/-- A piece without a carriage return is a line that ends with a line feed. -/
theorem ofPiece_toList {l : String} (h : IsPlain l) : Line.ofPiece l.toList = ⟨l, .lf⟩ := by
  have hnone : dropTail? ['\r'] l.toList = none := by
    unfold dropTail?
    cases hrev : l.toList.reverse with
    | nil => rfl
    | cons c cs =>
        have hc : c ∈ l.toList := by
          rw [← List.mem_reverse, hrev]
          exact List.mem_cons_self
        have hne : ('\r' == c) = false := by
          rw [beq_eq_false_iff_ne]
          rintro rfl
          exact h.2 hc
        simp [dropStart?, hne]
  simp [Line.ofPiece, hnone]

theorem majorityEnding_map_lf (ls : List String) :
    majorityEnding (ls.map (⟨·, Ending.lf⟩)) = .lf := by
  have hne : (Ending.lf == Ending.crlf) = false := by decide
  simp [majorityEnding, List.countP_map, Function.comp_def, hne]

/-- Reading the text of plain lines gives the lines back. -/
theorem parse_unlines {ls : List String} (h : ∀ l ∈ ls, IsPlain l) (path : String) :
    parse path (unlines ls) = ofLines path true ls := by
  have hread : (ls.map String.toList).map Line.ofPiece = ls.map (⟨·, Ending.lf⟩) := by
    rw [List.map_map]
    exact List.map_congr_left fun l hl => ofPiece_toList (h l hl)
  simp only [parse, piecesBy_unlines h, List.getLast?_append, List.getLast?_singleton,
    Option.some_or, List.dropLast_concat, hread, majorityEnding_map_lf]
  rfl

/-- Writing an artifact of lines gives the text of the lines. -/
@[simp] theorem render_ofLines (path : String) (b : Bool) (ls : List String) :
    (ofLines path b ls).render = unlines ls := by
  simp only [render, ofLines]
  induction ls with
  | nil => rfl
  | cons l ls ih =>
      cases ls with
      | nil => simp [renderLines, Line.render, Ending.text, unlines_cons]
      | cons m rest =>
          have hstep := congrArg ((Line.mk l .lf).render ++ ·) ih
          rw [unlines_cons l]
          exact hstep

/-! ## Changes -/

@[simp] theorem endingNear_ofLines (path : String) (b : Bool) (ls : List String) (i : Nat) :
    (ofLines path b ls).endingNear i = .lf := by
  unfold endingNear ofLines
  cases i with
  | zero => cases ls <;> rfl
  | succ i =>
      simp only [List.getElem?_map]
      cases ls[i + 1]? with
      | some l => rfl
      | none => cases ls[i]? <;> rfl

@[simp] theorem insertLines_ofLines (path : String) (b : Bool) (ls : List String) (i : Nat)
    (texts : List String) :
    (ofLines path b ls).insertLines i texts
      = ofLines path b (ls.take i ++ texts ++ ls.drop i) := by
  rw [insertLines, endingNear_ofLines]
  simp [ofLines]

@[simp] theorem edit_insert_ofLines (path : String) (b : Bool) (ls : List String) (i : Nat)
    (text : String) :
    (ofLines path b ls).edit (.insert i text)
      = ofLines path b (LineEdit.apply ls (.insert i text)) := by
  simp [edit, insertLine, LineEdit.apply]

end Artifact

/-! ## Blocks -/

theorem Artifact.indentBy_empty (line : String) : Artifact.indentBy "" line = line := by
  unfold Artifact.indentBy
  split
  next h => exact (String.isEmpty_iff.1 h).symm
  · exact String.empty_append

/-- The lines after a block was put into them: it stands between two parts of them, indented,
and blank lines may stand around it. -/
structure Spliced (indent : String) (ls block ls' : List String) : Prop where
  /-- Where the block stands. -/
  parts : ∃ before gap gap' after, ls = before ++ after
    ∧ ls' = before ++ (gap ++ block.map (Artifact.indentBy indent) ++ gap') ++ after
    ∧ (∀ x ∈ gap, x = "") ∧ (∀ x ∈ gap', x = "")

namespace Spliced

variable {indent : String} {ls block ls' : List String}

/-- No line goes out. -/
theorem sublist (h : Spliced indent ls block ls') : ls.Sublist ls' := by
  obtain ⟨before, gap, gap', after, rfl, rfl, -, -⟩ := h.parts
  exact (List.sublist_append_left before _).append (List.Sublist.refl after)

/-- The lines are those from before, blank lines and the lines of the block. -/
theorem mem (h : Spliced indent ls block ls') {x : String} (hx : x ∈ ls') :
    x ∈ ls ∨ x = "" ∨ ∃ l ∈ block, x = Artifact.indentBy indent l := by
  obtain ⟨before, gap, gap', after, rfl, rfl, hgap, hgap'⟩ := h.parts
  simp only [List.mem_append, List.mem_map] at hx ⊢
  rcases hx with (hx | (hx | ⟨l, hl, rfl⟩) | hx) | hx
  · exact .inl (.inl hx)
  · exact .inr (.inl (hgap x hx))
  · exact .inr (.inr ⟨l, hl, rfl⟩)
  · exact .inr (.inl (hgap' x hx))
  · exact .inl (.inr hx)

/-- What is not found in blank lines is found in the lines from before and in the block. -/
theorem countP (h : Spliced indent ls block ls') {q : String → Bool} (hq : q "" = false) :
    ls'.countP q = ls.countP q + (block.map (Artifact.indentBy indent)).countP q := by
  obtain ⟨before, gap, gap', after, rfl, rfl, hgap, hgap'⟩ := h.parts
  have hblank : ∀ lines : List String, (∀ x ∈ lines, x = "") → lines.countP q = 0 := by
    intro lines hlines
    rw [List.countP_eq_zero]
    intro x hx
    simp [hlines x hx, hq]
  simp only [List.countP_append, hblank gap hgap, hblank gap' hgap']
  omega

/-- Every line of the block is there. -/
theorem mem_of_mem_block (h : Spliced indent ls block ls') {l : String} (hl : l ∈ block) :
    Artifact.indentBy indent l ∈ ls' := by
  obtain ⟨before, gap, gap', after, rfl, rfl, -, -⟩ := h.parts
  simp only [List.mem_append, List.mem_map]
  exact .inl (.inr (.inl (.inr ⟨l, hl, rfl⟩)))

end Spliced

/-- The lines after a block was put in at an anchor. -/
def Anchor.put (anchor : Anchor) (ls block : List String) (separated : Bool) : List String :=
  let position := anchor.locate ls
  ls.take position.index
    ++ (Artifact.gapBefore ls position.index separated
      ++ block.map (Artifact.indentBy position.indent)
      ++ Artifact.gapAfter ls position)
    ++ ls.drop position.index

namespace Artifact

theorem gapBefore_blank {texts : List String} {i : Nat} {separated : Bool} :
    ∀ x ∈ gapBefore texts i separated, x = "" := by
  cases i with
  | zero => simp [gapBefore]
  | succ i =>
      unfold gapBefore
      split <;> simp

theorem gapAfter_blank {texts : List String} {position : Position} :
    ∀ x ∈ gapAfter texts position, x = "" := by
  unfold gapAfter
  split <;> simp

/-- Putting a block into plain lines. -/
theorem insertBlock_ofLines (path : String) (b : Bool) (ls : List String) (anchor : Anchor)
    (block : List String) (separated : Bool) :
    (ofLines path b ls).insertBlock anchor block separated
      = ofLines path b (anchor.put ls block separated) := by
  rw [insertBlock, texts_ofLines, insertLines_ofLines]
  rfl

end Artifact

namespace Anchor

/-- A block that was put in stands between two parts of the lines. -/
theorem put_spliced (anchor : Anchor) (ls block : List String) (separated : Bool) :
    Spliced (anchor.locate ls).indent ls block (anchor.put ls block separated) where
  parts := ⟨ls.take (anchor.locate ls).index, _, _, ls.drop (anchor.locate ls).index,
    (List.take_append_drop _ _).symm, rfl, Artifact.gapBefore_blank, Artifact.gapAfter_blank⟩

/-- A text of blanks that can stand in a line. -/
structure IsIndent (s : String) : Prop where
  /-- It is blank. -/
  blank : ∀ c ∈ s.toList, isBlank c = true
  /-- It stands in one line. -/
  plain : IsPlain s

theorem isIndent_empty : IsIndent "" := ⟨by simp, isPlain_empty⟩

theorem IsIndent.append {s t : String} (hs : IsIndent s) (ht : IsIndent t) : IsIndent (s ++ t) := by
  refine ⟨fun c hc => ?_, hs.plain.append ht.plain⟩
  rw [String.toList_append, List.mem_append] at hc
  exact hc.elim (hs.blank c) (ht.blank c)

theorem isIndent_leadingBlanks {l : String} (h : IsPlain l) : IsIndent (leadingBlanks l) :=
  ⟨fun _ hc => (mem_leadingBlanks hc).1,
   fun hc => h.1 (mem_leadingBlanks hc).2, fun hc => h.2 (mem_leadingBlanks hc).2⟩

theorem isIndent_indentUnit (ls : List String) : IsIndent (indentUnit ls) := by
  unfold indentUnit
  split
  · exact ⟨by simp [isBlank], by simp [IsPlain]⟩
  · exact ⟨by simp [isBlank], by simp [IsPlain]⟩

theorem isPlain_getD {ls : List String} (h : ∀ l ∈ ls, IsPlain l) (i : Nat) :
    IsPlain (ls[i]?.getD "") := by
  cases hi : ls[i]? with
  | none => exact isPlain_empty
  | some l => exact h l (List.mem_of_getElem? hi)

/-- A block in plain lines is indented by blanks. -/
theorem isIndent_locate {ls : List String} (h : ∀ l ∈ ls, IsPlain l) (anchor : Anchor) :
    IsIndent (anchor.locate ls).indent := by
  have hbrace : IsIndent (atLastBrace ls).indent := by
    unfold atLastBrace
    split
    next i _ => exact (isIndent_leadingBlanks (isPlain_getD h i)).append (isIndent_indentUnit ls)
    · exact isIndent_empty
  unfold locate
  split
  · exact hbrace
  · split
    next i _ => exact isIndent_leadingBlanks (isPlain_getD h i)
    · exact hbrace
  · split <;> exact isIndent_empty
  · exact isIndent_empty

/-- An import is not indented. -/
theorem indent_afterImports (ls : List String) : (Anchor.afterImports.locate ls).indent = "" := by
  simp only [locate]
  split <;> rfl

end Anchor

/-- The last line that satisfies a test satisfies it. -/
theorem lastIndex?_spec {p : String → Bool} {ls : List String} {i : Nat}
    (h : lastIndex? p ls = some i) : ∃ l, ls[i]? = some l ∧ p l = true := by
  obtain ⟨j, hj, rfl⟩ := Option.map_eq_some_iff.1 h
  obtain ⟨hlt, htest, -⟩ := List.findIdx?_eq_some_iff_getElem.1 hj
  rw [List.length_reverse] at hlt
  refine ⟨ls.reverse[j], ?_, htest⟩
  rw [← List.getElem?_reverse hlt, List.getElem?_eq_getElem]

theorem lastIndex?_lt {p : String → Bool} {ls : List String} {i : Nat} (h : lastIndex? p ls = some i) :
    i < ls.length := by
  obtain ⟨l, hget, -⟩ := lastIndex?_spec h
  exact (List.getElem?_eq_some_iff.1 hget).1

theorem lastIndex?_append (p : String → Bool) (ls ls' : List String) :
    lastIndex? p (ls ++ ls')
      = ((lastIndex? p ls').map (ls.length + ·)).or (lastIndex? p ls) := by
  unfold lastIndex?
  rw [List.reverse_append, List.findIdx?_append]
  cases hfound : ls'.reverse.findIdx? p with
  | some i =>
      have hlt := (List.findIdx?_eq_some_iff_getElem.1 hfound).1
      rw [List.length_reverse] at hlt
      simp only [Option.some_or, Option.map_some, List.length_append, Option.some.injEq]
      omega
  | none =>
      cases hfound' : ls.reverse.findIdx? p with
      | none => rfl
      | some i =>
          have hlt := (List.findIdx?_eq_some_iff_getElem.1 hfound').1
          rw [List.length_reverse] at hlt
          simp only [Option.none_or, Option.map_some, Option.map_none, List.length_append,
            List.length_reverse, Option.some.injEq]
          omega

theorem lastIndex?_eq_none {p : String → Bool} {ls : List String} :
    lastIndex? p ls = none ↔ ∀ x ∈ ls, p x = false := by
  simp [lastIndex?]

/-! ## Known lines -/

/-- Nothing matches a sequence whose first line is on no line. -/
theorem findSequence?_eq_none {s : String} {seq ls : List String}
    (h : ∀ l ∈ ls, trim l ≠ trim s) : Artifact.findSequence? (s :: seq) ls = none := by
  induction ls with
  | nil => rfl
  | cons l ls ih =>
      have hl : (trim l == trim s) = false := by simpa using h l List.mem_cons_self
      have hls := ih fun m hm => h m (List.mem_cons_of_mem _ hm)
      simp [Artifact.findSequence?, Artifact.matchesSequence, hl, hls]

end Scaffold
