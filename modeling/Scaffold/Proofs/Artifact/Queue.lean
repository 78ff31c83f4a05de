import Mathlib
import Scaffold.Proofs.Artifact.Reload

/-!
# Blocks at one anchor, one behind the other

An anchor is looked up afresh before each block, from the end of lines that hold the earlier blocks
with their own closing braces and markers.  It is found at the same line nevertheless: the blocks go
in front of that line, and nothing behind it is the line the anchor looks for (`Anchor.Heads`), so
no line of a block is found before it.  The indent is the same as well.  It comes from that line and
from the unit of the file, and the unit only changes if a line begins with a tab where none did
before, which no indented line and no blank one does (`Anchor.indent_locate_placed`).  So a run of
insertions is a queue: the first block stands first, and each block is set off from what is above it
by a blank line or not (`Artifact.applyAll_queue`).
-/

namespace Scaffold

open Scaffold.Text

/-! ## Where an anchor is found -/

namespace Anchor

/-- The line that a block goes before, up to blanks around it. -/
def target? : Anchor → Option String
  | endOfBlock => some "\x7d"
  | beforeMarker marker => some (trim marker)
  | afterImports | endOfFile => none

/-- Lines in which an anchor for a block is found without falling back on another one. -/
inductive PresentIn (ls : List String) : Anchor → Prop
  | line {anchor : Anchor} {target l : String} (htarget : anchor.target? = some target) (hmem : l ∈ ls)
      (hl : trim l = target) : PresentIn ls anchor
  | fileEnd : PresentIn ls endOfFile

/-- The lines behind the place of an anchor.  They begin with the last line that is the one it looks
for, and there are none at the end of the file. -/
inductive Heads : Anchor → List String → Prop
  | line {anchor : Anchor} {target l : String} {rest : List String} (htarget : anchor.target? = some target)
      (hl : trim l = target) (hrest : ∀ x ∈ rest, trim x ≠ target) : Heads anchor (l :: rest)
  | fileEnd : Heads endOfFile []

/-- The indent of a block in front of given lines, in a file with a given unit. -/
def margin (unit : String) (behind : List String) : Anchor → String
  | endOfBlock => leadingBlanks (behind.headD "") ++ unit
  | beforeMarker _ => leadingBlanks (behind.headD "")
  | afterImports | endOfFile => ""

variable {anchor : Anchor} {before behind placed : List String}

/-- The last line of its kind, which is the first one behind some lines, is found there. -/
theorem lastIndex?_of_last {target l : String} {rest : List String} (hl : trim l = target)
    (hrest : ∀ x ∈ rest, trim x ≠ target) (before : List String) :
    lastIndex? (fun x => trim x == target) (before ++ l :: rest) = some before.length := by
  have hbehind : lastIndex? (fun x => trim x == target) rest = none :=
    lastIndex?_eq_none.2 fun x hx => beq_eq_false_iff_ne.2 (hrest x hx)
  have hhead : lastIndex? (fun x => trim x == target) [l] = some 0 := by
    simp [lastIndex?, hl]
  rw [← List.singleton_append, lastIndex?_append, lastIndex?_append, hbehind, hhead]
  rfl

/-- Lines that have one of a kind can be cut before the last one. -/
theorem exists_last {target l : String} {ls : List String} (hmem : l ∈ ls) (hl : trim l = target) :
    ∃ before last rest, ls = before ++ last :: rest ∧ trim last = target ∧ ∀ x ∈ rest,
      trim x ≠ target := by
  induction ls using List.reverseRecOn with
  | nil => cases hmem
  | append_singleton front x ih =>
      by_cases hx : trim x = target
      · exact ⟨front, x, [], rfl, hx, List.forall_mem_nil _⟩
      · have hfront : l ∈ front := by
          refine (List.mem_append.1 hmem).resolve_right fun hlast => hx ?_
          rwa [← List.mem_singleton.1 hlast]
        obtain ⟨before, last, rest, rfl, hlast, hrest⟩ := ih hfront
        refine ⟨before, last, rest ++ [x], by simp, hlast, ?_⟩
        exact List.forall_mem_append.2 ⟨hrest, List.forall_mem_singleton.2 hx⟩

/-- An anchor that is present cuts the lines in two. -/
theorem PresentIn.exists_parts {ls : List String} (h : PresentIn ls anchor) :
    ∃ before behind, ls = before ++ behind ∧ anchor.Heads behind := by
  cases h with
  | line htarget hmem hl =>
      obtain ⟨before, last, rest, hls, hlast, hrest⟩ := exists_last hmem hl
      exact ⟨before, last :: rest, hls, .line htarget hlast hrest⟩
  | fileEnd => exact ⟨ls, [], (List.append_nil ls).symm, .fileEnd⟩

/-- An anchor is found in front of the line it looks for. -/
theorem Heads.locate (h : anchor.Heads behind) (before : List String) :
    anchor.locate (before ++ behind)
      = ⟨before.length, anchor.margin (indentUnit (before ++ behind)) behind, false⟩ := by
  cases h with
  | @line _ target l rest htarget hl hrest =>
      have hfound := lastIndex?_of_last hl hrest before
      have hget : (before ++ l :: rest)[before.length]? = some l := by simp
      cases anchor with
      | endOfBlock =>
          obtain rfl : "\x7d" = target := Option.some.inj htarget
          simp only [Anchor.locate, atLastBrace, hfound, hget]
          rfl
      | beforeMarker marker =>
          obtain rfl : trim marker = target := Option.some.inj htarget
          simp only [Anchor.locate, hfound, hget]
          rfl
      | afterImports => cases htarget
      | endOfFile => cases htarget
  | fileEnd => simp [Anchor.locate, atEnd, margin]

/-! ## The unit of a file -/

theorem beginsWith_tab (l : String) : beginsWith l "\t" = (l.toList.head? == some '\t') := by
  unfold beginsWith
  cases l.toList with
  | nil => rfl
  | cons c cs => simp [List.isPrefixOf, Bool.beq_comm]

/-- A line behind the blanks of one that begins with no tab, and behind spaces, begins with no tab. -/
theorem beginsWith_tab_margin {l : String} (h : beginsWith l "\t" = false) (text : String) :
    beginsWith (leadingBlanks l ++ "    " ++ text) "\t" = false := by
  rw [beginsWith_tab] at h ⊢
  simp only [leadingBlanks, String.toList_append, String.toList_ofList]
  cases hl : l.toList with
  | nil => rfl
  | cons c cs =>
      rw [hl] at h
      by_cases hc : isBlank c = true
      · rw [List.takeWhile_cons_of_pos hc]
        exact h
      · rw [List.takeWhile_cons_of_neg hc]
        rfl

/-- Lines at the indent of a block, and blank ones, do not change the unit of a file. -/
theorem indentUnit_placed (hplaced : ∀ x ∈ placed, x = "" ∨
      ∃ text, x = leadingBlanks (behind.headD "") ++ indentUnit (before ++ behind) ++ text) :
    indentUnit (before ++ placed ++ behind) = indentUnit (before ++ behind) := by
  cases htabs : (before ++ behind).any (beginsWith · "\t") with
  | true =>
      have hkept : (before ++ placed ++ behind).any (beginsWith · "\t") = true := by
        simp only [List.any_append, Bool.or_eq_true] at htabs ⊢
        exact htabs.imp_left .inl
      rw [indentUnit, indentUnit, if_pos htabs, if_pos hkept]
  | false =>
      rw [List.any_append, Bool.or_eq_false_iff] at htabs
      have hhead : beginsWith (behind.headD "") "\t" = false := by
        cases behind with
        | nil => rfl
        | cons l rest => simpa using (List.any_eq_false.1 htabs.2) l List.mem_cons_self
      have hunit : indentUnit (before ++ behind) = "    " := by
        rw [indentUnit, List.any_append, htabs.1, htabs.2]
        rfl
      have hnew : placed.any (beginsWith · "\t") = false := by
        rw [List.any_eq_false]
        intro x hx
        rcases hplaced x hx with rfl | ⟨text, rfl⟩
        · decide
        · rw [hunit, beginsWith_tab_margin hhead, Bool.not_eq_true]
      rw [hunit, indentUnit, List.any_append, List.any_append, htabs.1, htabs.2, hnew]
      rfl

/-- Lines at the indent of an anchor, and blank ones, do not change the indent. -/
theorem Heads.indent_locate_placed (h : anchor.Heads behind)
    (hplaced : ∀ x ∈ placed, x = "" ∨ ∃ text, x = (anchor.locate (before ++ behind)).indent ++ text) :
    (anchor.locate (before ++ placed ++ behind)).indent = (anchor.locate (before ++ behind)).indent := by
  rw [h.locate] at hplaced
  rw [h.locate, h.locate]
  cases anchor with
  | endOfBlock => exact congrArg (leadingBlanks (behind.headD "") ++ ·) (indentUnit_placed hplaced)
  | beforeMarker marker => rfl
  | afterImports => rfl
  | endOfFile => rfl

end Anchor

/-! ## Queues -/

/-- A separated block is set off by a blank line from the line above it, which is there and is
neither blank nor, up to blanks at its end, ends in an opening brace. -/
def SetOff (above : List String) (separated : Bool) : Prop :=
  separated = true ∧ ∃ l, above.getLast? = some l ∧ trimEnd l ≠ "" ∧ endsWith (trimEnd l) "\x7b" = false

/-- A block as it stands below other lines: all of it at one indent, and one blank line above it if
it is set off. -/
structure StandsBelow (above : List String) (indent : String) (block : List String) (separated : Bool)
    (placed : List String) : Prop where
  parts : ∃ gap, placed = gap ++ block.map (Artifact.indentBy indent)
    ∧ (SetOff above separated ∧ gap = [""] ∨ ¬ SetOff above separated ∧ gap = [])

/-- Blocks as they stand one behind the other below some lines. -/
inductive Queue (indent : String) : (above : List String) → List (List String × Bool) → List (List String) → Prop
  | done {above : List String} : Queue indent above [] []
  | next {above block placed : List String} {separated : Bool} {blocks : List (List String × Bool)}
      {behind : List (List String)} (hblock : StandsBelow above indent block separated placed)
      (hbehind : Queue indent (above ++ placed) blocks behind) :
      Queue indent above ((block, separated) :: blocks) (placed :: behind)

namespace Artifact

/-- The blank line above a block is there if the block is set off. -/
theorem gapBefore_spec (above behind : List String) (separated : Bool) :
    SetOff above separated ∧ gapBefore (above ++ behind) above.length separated = [""]
      ∨ ¬ SetOff above separated ∧ gapBefore (above ++ behind) above.length separated = [] := by
  cases above using List.reverseRecOn with
  | nil => exact .inr ⟨fun h => by simp [SetOff] at h, rfl⟩
  | append_singleton front l =>
      have hget : (front ++ [l] ++ behind)[front.length]? = some l := by simp
      have hsetOff : SetOff (front ++ [l]) separated ↔ (separated && needsGap l) = true := by
        simp [SetOff, needsGap]
      rw [List.length_append, List.length_singleton, gapBefore, hget, hsetOff, Option.getD_some]
      split
      next h => exact .inl ⟨h, rfl⟩
      next h => exact .inr ⟨h, rfl⟩

/-- A block that is put in at an anchor goes in front of the line of the anchor, and the anchor is
found at that line again, with the same indent. -/
theorem insertBlock_placed {a : Artifact} {anchor : Anchor} {before behind : List Line}
    (hlines : a.lines = before ++ behind) (hheads : anchor.Heads (behind.map Line.text))
    (block : List String)
    (separated : Bool) :
    ∃ placed, (a.insertBlock anchor block separated).lines = before ++ placed ++ behind
      ∧ StandsBelow (before.map Line.text) (anchor.locate a.texts).indent block separated
        (placed.map Line.text)
      ∧ (anchor.locate (a.insertBlock anchor block separated).texts).indent
        = (anchor.locate a.texts).indent := by
  have htexts : a.texts = before.map Line.text ++ behind.map Line.text := by
    rw [texts, hlines, List.map_append]
  have hindex : (anchor.locate a.texts).index = before.length := by
    rw [htexts, hheads.locate, List.length_map]
  have hafter : gapAfter a.texts (anchor.locate a.texts) = [] := by
    rw [htexts, hheads.locate]
    rfl
  let gap := gapBefore a.texts before.length separated
  let placed := gap ++ block.map (indentBy (anchor.locate a.texts).indent)
  have hgap : SetOff (before.map Line.text) separated ∧ gap = [""]
      ∨ ¬ SetOff (before.map Line.text) separated ∧ gap = [] := by
    simpa [gap, htexts] using gapBefore_spec (before.map Line.text) (behind.map Line.text) separated
  have hplaced : ∀ x ∈ placed, x = "" ∨ ∃ text, x = (anchor.locate a.texts).indent ++ text := by
    refine List.forall_mem_append.2
      ⟨fun x hx => .inl (gapBefore_blank x hx), List.forall_mem_map.2 fun l _ => ?_⟩
    unfold indentBy
    split
    · exact .inl rfl
    · exact .inr ⟨l, rfl⟩
  have hnew : (a.insertBlock anchor block separated).lines
      = before ++ placed.map (⟨·, a.endingNear before.length⟩) ++ behind := by
    rw [insertBlock, insertLines, hindex, hafter, hlines, List.append_nil, List.take_left, List.drop_left]
  have hback : (placed.map (Line.mk · (a.endingNear before.length))).map Line.text = placed := by
    simp [Function.comp_def]
  refine ⟨_, hnew, ⟨gap, hback, hgap⟩, ?_⟩
  rw [texts, hnew, List.map_append, List.map_append, hback, htexts]
  rw [htexts] at hplaced
  exact hheads.indent_locate_placed hplaced

/-- Blocks that are put in one after another queue up in front of the line of the anchor. -/
theorem applyAll_placed {anchor : Anchor} {behind : List Line}
    (hheads : anchor.Heads (behind.map Line.text))
    {indent : String} (blocks : List (List String × Bool)) {a : Artifact} {before : List Line}
    (hlines : a.lines = before ++ behind) (hindent : (anchor.locate a.texts).indent = indent) :
    ∃ placed : List (List Line),
      (FileEdit.applyAll (blocks.map fun b => .block anchor b.1 b.2) a).lines
        = before ++ placed.flatten ++ behind
      ∧ Queue indent (before.map Line.text) blocks (placed.map (List.map Line.text)) := by
  induction blocks generalizing a before with
  | nil => exact ⟨[], by simpa [FileEdit.applyAll] using hlines, .done⟩
  | cons b blocks ih =>
      -- the first block stands above all others
      obtain ⟨placed, hnew, hblock, hsame⟩ := insertBlock_placed hlines hheads b.1 b.2
      obtain ⟨rest, hrest, hqueue⟩ := ih hnew (hsame.trans hindent)
      rw [hindent] at hblock
      rw [List.map_append] at hqueue
      refine ⟨placed :: rest, ?_, .next hblock hqueue⟩
      rw [List.flatten_cons, ← List.append_assoc]
      exact hrest

/-- **Blocks that are put in one after another at an anchor stand in order.**  For every file in
which the anchor is present and all blocks, whatever is on their lines, the lines are cut in two
where the anchor is found, in front of the last line that it looks for or at the end of the file.
The blocks stand between the two parts in the order they were put in.  Each is in one piece, at the
indent that the anchor has in the file from before, with one blank line above it if it is set off
and none otherwise. -/
theorem applyAll_queue (a : Artifact) {anchor : Anchor} (hpresent : Anchor.PresentIn a.texts anchor)
    (blocks : List (List String × Bool)) :
    ∃ (before behind : List Line) (placed : List (List Line)), a.lines = before ++ behind
      ∧ (FileEdit.applyAll (blocks.map fun b => .block anchor b.1 b.2) a).lines
        = before ++ placed.flatten ++ behind
      ∧ before.length = (anchor.locate a.texts).index ∧ anchor.Heads (behind.map Line.text)
      ∧ Queue (anchor.locate a.texts).indent (before.map Line.text) blocks
        (placed.map (List.map Line.text)) := by
  obtain ⟨before', behind', htexts, hheads⟩ := hpresent.exists_parts
  obtain ⟨before, behind, hlines, rfl, rfl⟩ := List.map_eq_append_iff.1 htexts
  obtain ⟨placed, hnew, hqueue⟩ := applyAll_placed hheads blocks hlines rfl
  refine ⟨before, behind, placed, hlines, hnew, ?_, hheads, hqueue⟩
  rw [htexts, hheads.locate, List.length_map]

/-- Two methods with closing braces of their own are put into a class. -/
theorem applyAll_queue_methods :
    ∃ (before behind : List Line) (placed : List (List Line)),
      (parse "C.cs" "class C\n\x7b\n\x7d\n").lines = before ++ behind
      ∧ (FileEdit.applyAll ([(["void A()", "\x7b", "\x7d"], true), (["void B()", "\x7b", "\x7d"], true)].map
          fun b => .block .endOfBlock b.1 b.2) (parse "C.cs" "class C\n\x7b\n\x7d\n")).lines
        = before ++ placed.flatten ++ behind
      ∧ before.length = 2 ∧ Anchor.endOfBlock.Heads (behind.map Line.text)
      ∧ Queue "    " (before.map Line.text)
        [(["void A()", "\x7b", "\x7d"], true), (["void B()", "\x7b", "\x7d"], true)]
        (placed.map (List.map Line.text)) :=
  @applyAll_queue (parse "C.cs" "class C\n\x7b\n\x7d\n") .endOfBlock
    (.line rfl (l := "\x7d") (by decide) (by decide)) _

end Artifact

end Scaffold
