import Mathlib
import Scaffold.Proofs.Contents

/-!
# Lines that take each other's place

Two declarations at one anchor of a file come to stand in the order in which they are made.  Nothing
else depends on that order: the anchors of the file overlook both lines (`Anchor.Overlooks`), so
lines that differ in which of the two is there (`Twins`) are alike to every block that is put into
them (`Twins.put`), and when the other one is put in as well, they are the same up to their order
(`Twins.put_perm`).
-/

namespace Scaffold

open Scaffold.Text

/-! ## The last line that satisfies a test -/

/-- The last line that satisfies a test, with its index. -/
def lastLine? (p : String → Bool) (ls : List String) : Option (Nat × String) :=
  (lastIndex? p ls).map fun i => (i, ls[i]?.getD "")

section

variable {p : String → Bool} {ls ls' : List String}

theorem lastLine?_append (p : String → Bool) (ls ls' : List String) : lastLine? p (ls ++ ls')
    = ((lastLine? p ls').map fun found => (ls.length + found.1, found.2)).or (lastLine? p ls) := by
  unfold lastLine?
  rw [lastIndex?_append]
  cases hback : lastIndex? p ls' with
  | some i => simp [List.getElem?_append_right]
  | none =>
      cases hfront : lastIndex? p ls with
      | none => rfl
      | some i => simp [List.getElem?_append_left (lastIndex?_lt hfront)]

theorem lastLine?_eq_none (h : ∀ x ∈ ls, p x = false) : lastLine? p ls = none := by
  rw [lastLine?, lastIndex?_eq_none.2 h]
  rfl

theorem mem_of_lastLine? {i : Nat} {l : String} (h : lastLine? p ls = some (i, l)) : l ∈ ls := by
  obtain ⟨j, hj, heq⟩ := Option.map_eq_some_iff.1 h
  obtain ⟨l', hget, -⟩ := lastIndex?_spec hj
  obtain ⟨-, rfl⟩ := Prod.mk.inj heq
  rw [hget]
  exact List.mem_of_getElem? hget

/-- Lines that do not satisfy the test leave the last one that does. -/
theorem lastLine?_insert {ins : List String} (h : ∀ x ∈ ins, p x = false) (front back : List String) :
    (lastLine? p (front ++ ins ++ back)).map Prod.snd = (lastLine? p (front ++ back)).map Prod.snd := by
  rw [lastLine?_append p (front ++ ins), lastLine?_append p front ins, lastLine?_eq_none h,
    lastLine?_append p front back]
  cases lastLine? p back <;> rfl

end

/-! ## What anchors look for -/

/-- Decide whether a line is a closing brace. -/
def isBrace (line : String) : Bool := trim line == "\x7d"

/-- Decide whether a line is indented by a tab. -/
def isTabbed (line : String) : Bool := beginsWith line "\t"

theorem isTabbed_append (front back : String) :
    isTabbed (front ++ back) = if front.toList = [] then isTabbed back else isTabbed front := by
  unfold isTabbed beginsWith
  rw [String.toList_append]
  cases front.toList <;> simp [List.isPrefixOf]

theorem isTabbed_leadingBlanks {line : String} (h : isTabbed (leadingBlanks line) = true) :
    isTabbed line = true := by
  unfold isTabbed beginsWith leadingBlanks at h
  unfold isTabbed beginsWith
  rw [String.toList_ofList] at h
  cases hline : line.toList with
  | nil =>
      rw [hline] at h
      cases h
  | cons c cs =>
      rw [hline, List.takeWhile_cons] at h
      split at h
      · simpa [List.isPrefixOf] using h
      · cases h

/-- A statement has no blanks behind it. -/
theorem trimEnd_of_endsStatement {line : String} (h : EndsStatement line) : trimEnd line = line := by
  obtain ⟨cs, hcs⟩ := List.getLast?_eq_some_iff.1 h
  have hblank : isBlank ';' = false := by decide
  rw [trimEnd, hcs, List.reverse_append]
  simp only [List.reverse_cons, List.reverse_nil, List.nil_append, List.singleton_append,
    List.dropWhile_cons, hblank, Bool.false_eq_true, if_false, List.reverse_reverse]
  rw [← hcs, String.ofList_toList]

theorem head?_toList_append {front : String} {c : Char} (h : front.toList.head? = some c) (back : String) :
    (front ++ back).toList.head? = some c := by
  rw [String.toList_append, List.head?_append, h]
  rfl

theorem isTabbed_of_head {line : String} {c : Char} (h : line.toList.head? = some c) (hc : c ≠ '\t') :
    isTabbed line = false := by
  obtain ⟨cs, hcs⟩ := List.head?_eq_some_iff.1 h
  simp [isTabbed, beginsWith, hcs, List.isPrefixOf, Ne.symm hc]

namespace Anchor

theorem atLastBrace_eq (ls : List String) : atLastBrace ls = ((lastLine? isBrace ls).map fun found =>
    ⟨found.1, leadingBlanks found.2 ++ indentUnit ls, false⟩).getD (atEnd ls) := by
  unfold atLastBrace lastLine? isBrace
  cases lastIndex? (fun l => trim l == "\x7d") ls <;> rfl

theorem locate_beforeMarker (marker : String) (ls : List String) : (beforeMarker marker).locate ls
    = ((lastLine? (fun l => trim l == trim marker) ls).map fun found =>
      ⟨found.1, leadingBlanks found.2, false⟩).getD (atLastBrace ls) := by
  rw [locate, lastLine?]
  cases lastIndex? (fun l => trim l == trim marker) ls with
  | none => rfl
  | some i => rfl

theorem locate_afterImports (ls : List String) : afterImports.locate ls
    = ((lastLine? isImportLine ls).map fun found => ⟨found.1 + 1, "", false⟩).getD ⟨0, "", true⟩ := by
  rw [locate, lastLine?]
  cases lastIndex? isImportLine ls with
  | none => rfl
  | some i => rfl

/-- A block is indented by a tab only where lines are. -/
theorem isTabbed_locate {anchor : Anchor} {ls : List String}
    (h : isTabbed (anchor.locate ls).indent = true) : ls.any isTabbed = true := by
  have hline : ∀ {p : String → Bool} {i : Nat} {l : String}, lastLine? p ls = some (i, l) →
      isTabbed (leadingBlanks l) = true → ls.any isTabbed = true := fun hfound htab =>
    List.any_eq_true.2 ⟨_, mem_of_lastLine? hfound, isTabbed_leadingBlanks htab⟩
  have hbrace : isTabbed (atLastBrace ls).indent = true → ls.any isTabbed = true := by
    rw [atLastBrace_eq]
    cases hfound : lastLine? isBrace ls with
    | none =>
        intro htab
        cases htab
    | some found =>
        intro htab
        change isTabbed (leadingBlanks found.2 ++ indentUnit ls) = true at htab
        rw [isTabbed_append] at htab
        split at htab
        · unfold indentUnit at htab
          split at htab
          · assumption
          · cases htab
        · exact hline hfound htab
  cases anchor with
  | endOfBlock => exact hbrace h
  | beforeMarker marker =>
      rw [locate_beforeMarker] at h
      cases hfound : lastLine? (fun l => trim l == trim marker) ls with
      | none =>
          rw [hfound] at h
          exact hbrace h
      | some found =>
          rw [hfound] at h
          exact hline hfound h
  | afterImports =>
      rw [indent_afterImports] at h
      cases h
  | endOfFile => cases h

/-- A statement that an anchor does not look for. -/
structure Overlooks (anchor : Anchor) (line : String) : Prop where
  statement : EndsStatement line
  marker : ∀ marker, anchor = .beforeMarker marker → trim line ≠ trim marker

namespace Overlooks

variable {anchor : Anchor} {line : String}

theorem isBrace_eq (h : anchor.Overlooks line) : isBrace line = false := by
  have hlast := getLast?_trim h.statement (by decide)
  rw [isBrace, beq_eq_false_iff_ne]
  intro heq
  rw [heq] at hlast
  cases hlast

theorem exists_eq (h : anchor.Overlooks line) : ∃ cs, line.toList = cs ++ [';'] :=
  List.getLast?_eq_some_iff.1 h.statement

theorem isBlankText_eq (h : anchor.Overlooks line) : isBlankText line = false := by
  obtain ⟨cs, hcs⟩ := h.exists_eq
  have hblank : isBlank ';' = false := by decide
  simp [isBlankText, hcs, hblank]

theorem needsGap_eq (h : anchor.Overlooks line) : Artifact.needsGap line = true := by
  obtain ⟨cs, hcs⟩ := h.exists_eq
  have htrim := trimEnd_of_endsStatement h.statement
  have hempty : line.isEmpty = false := by
    rw [Bool.eq_false_iff, ne_eq, String.isEmpty_iff]
    rintro rfl
    simp at hcs
  have hbrace : endsWith line "\x7b" = false := by
    rw [endsWith, hcs, Bool.eq_false_iff, ne_eq, List.isSuffixOf_iff_suffix]
    rintro ⟨front, hfront⟩
    have hlast := congrArg List.getLast? hfront
    simp at hlast
  simp only [Artifact.needsGap, htrim, hempty, hbrace, Bool.not_false, Bool.and_self]

end Overlooks

/-- What can be put into lines without an effect on an anchor: blank lines, and statements that it
does not look for and that are indented by a tab only where lines are. -/
structure Bears (anchor : Anchor) (ls : List String) (line : String) : Prop where
  blank : line = "" ∨ anchor.Overlooks line
  tab : isTabbed line = true → ls.any isTabbed = true

/-- The marker of an anchor is not blank. -/
def Marked (anchor : Anchor) : Prop := ∀ marker, anchor = .beforeMarker marker → trim marker ≠ ""

/-- A block is indented as it was before lines were put in that an anchor does not look for. -/
theorem indent_locate_insert {anchor : Anchor} {front ins back : List String} (hmarked : anchor.Marked)
    (h : ∀ x ∈ ins, anchor.Bears (front ++ back) x) :
    (anchor.locate (front ++ ins ++ back)).indent = (anchor.locate (front ++ back)).indent := by
  have hunit : indentUnit (front ++ ins ++ back) = indentUnit (front ++ back) := by
    have hany : (front ++ ins ++ back).any isTabbed = (front ++ back).any isTabbed := by
      rw [Bool.eq_iff_iff]
      simp only [List.any_append, Bool.or_eq_true]
      refine ⟨?_, by tauto⟩
      rintro ((hfront | hins) | hback)
      · exact .inl hfront
      · obtain ⟨x, hx, htab⟩ := List.any_eq_true.1 hins
        simpa using (h x hx).tab htab
      · exact .inr hback
    unfold indentUnit
    exact congrArg (if · then "\t" else "    ") hany
  have hbrace : (atLastBrace (front ++ ins ++ back)).indent = (atLastBrace (front ++ back)).indent := by
    have hlast := @lastLine?_insert isBrace ins (fun x hx => by
      obtain rfl | hover := (h x hx).blank
      · decide
      · exact hover.isBrace_eq) front back
    rw [atLastBrace_eq, atLastBrace_eq, hunit]
    cases hfound : lastLine? isBrace (front ++ ins ++ back) <;>
      cases hfound' : lastLine? isBrace (front ++ back) <;> rw [hfound, hfound'] at hlast
    · rfl
    · cases hlast
    · cases hlast
    · rw [Option.map_some, Option.map_some, Option.some.injEq] at hlast
      exact congrArg (leadingBlanks · ++ indentUnit (front ++ back)) hlast
  cases anchor with
  | endOfBlock => exact hbrace
  | beforeMarker marker =>
      have hlast := @lastLine?_insert (fun l => trim l == trim marker) ins (fun x hx => by
        rw [beq_eq_false_iff_ne]
        obtain rfl | hover := (h x hx).blank
        · exact fun heq => hmarked marker rfl heq.symm
        · exact hover.marker marker rfl) front back
      rw [locate_beforeMarker, locate_beforeMarker]
      cases hfound : lastLine? (fun l => trim l == trim marker) (front ++ ins ++ back) <;>
        cases hfound' : lastLine? (fun l => trim l == trim marker) (front ++ back) <;>
          rw [hfound, hfound'] at hlast
      · exact hbrace
      · cases hlast
      · cases hlast
      · rw [Option.map_some, Option.map_some, Option.some.injEq] at hlast
        exact congrArg leadingBlanks hlast
  | afterImports => rw [indent_afterImports, indent_afterImports]
  | endOfFile => rfl

/-- Lines that make no difference to an anchor. -/
structure Alike (anchor : Anchor) (x y : String) : Prop where
  left : anchor.Overlooks x
  right : anchor.Overlooks y
  imports : isImportLine x = false ∧ isImportLine y = false
  tab : isTabbed x = isTabbed y

/-- A line that can be declared at an anchor: a statement, not indented, that is no import and has a
character that the marker of the anchor has not. -/
structure Admits (anchor : Anchor) (line : String) : Prop where
  statement : EndsStatement line
  imports : isImportLine line = false
  tab : isTabbed line = false
  marker : ∀ marker, anchor = .beforeMarker marker →
    ∃ c ∈ line.toList, isBlank c = false ∧ c ∉ marker.toList

section

variable {anchor : Anchor} {line line' indent : String}

/-- A line with a character that a marker has not is not the marker. -/
theorem trim_ne_of_mem {marker : String} {c : Char} (hc : c ∈ line.toList) (hblank : isBlank c = false)
    (hmarker : c ∉ marker.toList) : trim line ≠ trim marker := by
  have hkept : c ∈ (trim line).toList := by
    have hdrop : ∀ {cs : List Char}, c ∈ cs → c ∈ cs.dropWhile isBlank := by
      intro cs hcs
      rw [← List.takeWhile_append_dropWhile (p := isBlank) (l := cs), List.mem_append] at hcs
      obtain htake | hdrop := hcs
      · rw [List.mem_takeWhile_imp htake] at hblank
        cases hblank
      · exact hdrop
    rw [trim, String.toList_ofList, trimChars, List.mem_reverse]
    exact hdrop (List.mem_reverse.2 (hdrop hc))
  intro heq
  rw [heq, trim, String.toList_ofList, trimChars, List.mem_reverse] at hkept
  exact hmarker ((List.dropWhile_suffix _).subset
    (List.mem_reverse.1 ((List.dropWhile_suffix _).subset hkept)))

theorem Admits.indentBy_eq (h : anchor.Admits line) (indent : String) :
    Artifact.indentBy indent line = indent ++ line := by
  have hne : line.isEmpty = false := by
    rw [Bool.eq_false_iff, ne_eq, String.isEmpty_iff]
    rintro rfl
    cases h.statement
  simp [Artifact.indentBy, hne]

theorem Admits.overlooks (h : anchor.Admits line) (indent : String) :
    anchor.Overlooks (Artifact.indentBy indent line) := by
  rw [h.indentBy_eq]
  refine ⟨h.statement.append indent, fun marker hmarker => ?_⟩
  obtain ⟨c, hc, hblank, hnot⟩ := h.marker marker hmarker
  exact trim_ne_of_mem (String.toList_append ▸ List.mem_append_right _ hc) hblank hnot

theorem Admits.isTabbed_eq (h : anchor.Admits line) (indent : String) :
    isTabbed (Artifact.indentBy indent line) = isTabbed indent := by
  rw [h.indentBy_eq, isTabbed_append, h.tab]
  split
  next hindent =>
    rw [String.toList_eq_nil_iff.1 hindent]
    rfl
  · rfl

/-- Lines that are declared at an anchor in its place make no difference to it. -/
theorem Admits.alike (h : anchor.Admits line) (h' : anchor.Admits line') (hindent : IsIndent indent) :
    anchor.Alike (Artifact.indentBy indent line) (Artifact.indentBy indent line') where
  left := h.overlooks indent
  right := h'.overlooks indent
  imports := ⟨isImportLine_indentBy hindent h.imports, isImportLine_indentBy hindent h'.imports⟩
  tab := (h.isTabbed_eq indent).trans (h'.isTabbed_eq indent).symm

/-- A line that is declared at an anchor has no effect on it. -/
theorem Admits.bears (h : anchor.Admits line) (ls : List String) :
    anchor.Bears ls (Artifact.indentBy (anchor.locate ls).indent line) :=
  ⟨.inr (h.overlooks _), fun htab => isTabbed_locate (h.isTabbed_eq _ ▸ htab)⟩

end

end Anchor

/-! ## Imports -/

theorem endsStatement_import (space : String) : EndsStatement ("using " ++ space ++ ";") :=
  EndsStatement.append (by simp [EndsStatement]) ("using " ++ space)

theorem isImportLine_import {space : String} (h : Made isDottedChar space) :
    isImportLine ("using " ++ space ++ ";") = true := by
  have hglobal : dropStart? "global ".toList ("using " ++ space ++ ";").toList = none := by
    simp [dropStart?]
  have hparen : '(' ∉ ("using " ++ space ++ ";").toList := by
    simp only [String.toList_append, List.mem_append, not_or]
    exact ⟨⟨by decide, h.not_mem (by decide)⟩, by decide⟩
  have hends : endsWith ("using " ++ space ++ ";") ";" = true := endsWith_append_self _ _
  simp only [isImportLine, hglobal, Option.getD_none, String.ofList_toList,
    trimEnd_of_endsStatement (endsStatement_import space), hends, Bool.and_true, Bool.and_eq_true,
    Bool.not_eq_true', List.contains_eq_mem, decide_eq_false_iff_not]
  exact ⟨by simp [List.isPrefixOf], hparen⟩

/-- An import has no effect on an anchor whose marker has other letters. -/
theorem Anchor.bears_import {anchor : Anchor}
    (hmarker : ∀ marker, anchor = .beforeMarker marker → 'g' ∉ marker.toList) (space : String)
    (ls : List String) : anchor.Bears ls ("using " ++ space ++ ";") := by
  refine ⟨.inr ⟨endsStatement_import space, fun marker h => ?_⟩, fun htab => ?_⟩
  · exact trim_ne_of_mem (by simp : 'g' ∈ ("using " ++ space ++ ";").toList) (by decide) (hmarker marker h)
  · rw [@isTabbed_of_head _ 'u' (by simp) (by decide)] at htab
    cases htab

/-! ## Lists that differ in one line -/

/-- Lists of lines that are the same but for one line. -/
def Twins (x y : String) (ls ls' : List String) : Prop :=
  ∃ front back, ls = front ++ x :: back ∧ ls' = front ++ y :: back

namespace Twins

variable {anchor : Anchor} {x y : String} {ls ls' : List String}

theorem length_eq (h : Twins x y ls ls') : ls.length = ls'.length := by
  obtain ⟨front, back, rfl, rfl⟩ := h
  simp

theorem lastLine?_eq (h : Twins x y ls ls') {p : String → Bool} (hx : p x = false) (hy : p y = false) :
    lastLine? p ls = lastLine? p ls' := by
  obtain ⟨front, back, rfl, rfl⟩ := h
  have hone : ∀ {z : String}, p z = false → lastLine? p (front ++ z :: back)
      = ((lastLine? p back).map fun found => (front.length + (1 + found.1), found.2)).or
        (lastLine? p front) := by
    intro z hz
    rw [lastLine?_append, ← List.singleton_append, lastLine?_append p [z],
      lastLine?_eq_none (by simpa using hz : ∀ l ∈ [z], p l = false)]
    cases lastLine? p back <;> rfl
  rw [hone hx, hone hy]

theorem any_eq (h : Twins x y ls ls') {p : String → Bool} (hxy : p x = p y) : ls.any p = ls'.any p := by
  obtain ⟨front, back, rfl, rfl⟩ := h
  simp [hxy]

/-- What stands at an index in both is the same line, or one is there and the other here. -/
theorem getElem?_eq (h : Twins x y ls ls') (i : Nat) :
    ls[i]? = ls'[i]? ∨ ls[i]? = some x ∧ ls'[i]? = some y := by
  obtain ⟨front, back, rfl, rfl⟩ := h
  rcases Nat.lt_trichotomy i front.length with hlt | rfl | hgt
  · simp [List.getElem?_append_left hlt]
  · simp
  · obtain ⟨j, rfl⟩ := Nat.exists_eq_add_of_lt hgt
    refine .inl ?_
    rw [List.getElem?_append_right (by omega), List.getElem?_append_right (by omega),
      (by omega : front.length + j + 1 - front.length = j + 1)]
    rfl

/-- An anchor is found where it was. -/
theorem locate_eq (h : Twins x y ls ls') (hxy : anchor.Alike x y) :
    anchor.locate ls = anchor.locate ls' := by
  have hunit : Scaffold.indentUnit ls = Scaffold.indentUnit ls' :=
    congrArg (if · then "\t" else "    ") (h.any_eq hxy.tab)
  have hbrace : Anchor.atLastBrace ls = Anchor.atLastBrace ls' := by
    rw [Anchor.atLastBrace_eq, Anchor.atLastBrace_eq,
      h.lastLine?_eq hxy.left.isBrace_eq hxy.right.isBrace_eq, hunit, Anchor.atEnd, h.length_eq]
    rfl
  cases anchor with
  | endOfBlock => exact hbrace
  | beforeMarker marker =>
      rw [Anchor.locate_beforeMarker, Anchor.locate_beforeMarker, hbrace,
        h.lastLine?_eq (p := fun l => trim l == trim marker)
          (beq_eq_false_iff_ne.2 (hxy.left.marker marker rfl))
          (beq_eq_false_iff_ne.2 (hxy.right.marker marker rfl))]
  | afterImports =>
      rw [Anchor.locate_afterImports, Anchor.locate_afterImports,
        h.lastLine?_eq hxy.imports.1 hxy.imports.2]
  | endOfFile =>
      show Anchor.atEnd ls = Anchor.atEnd ls'
      rw [Anchor.atEnd, Anchor.atEnd, h.length_eq]

/-- Lines at one place in both. -/
theorem splice (h : Twins x y ls ls') (i : Nat) (ins : List String) :
    Twins x y (ls.take i ++ ins ++ ls.drop i) (ls'.take i ++ ins ++ ls'.drop i) := by
  obtain ⟨front, back, rfl, rfl⟩ := h
  rcases Nat.le_total i front.length with hle | hle
  · refine ⟨front.take i ++ ins ++ front.drop i, back, ?_, ?_⟩ <;>
      simp [List.take_append_of_le_length hle, List.drop_append_of_le_length hle]
  · obtain ⟨j, rfl⟩ := Nat.exists_eq_add_of_le hle
    cases j with
    | zero => exact ⟨front ++ ins, back, by simp, by simp⟩
    | succ j =>
        refine ⟨front, back.take j ++ ins ++ back.drop j, ?_, ?_⟩ <;>
          simp [List.take_append, List.drop_append, List.take_of_length_le, List.drop_of_length_le]

/-- The blank lines around a block are the same. -/
theorem gaps_eq (h : Twins x y ls ls') (hxy : anchor.Alike x y) (position : Position) (separated : Bool) :
    Artifact.gapBefore ls position.index separated = Artifact.gapBefore ls' position.index separated
      ∧ Artifact.gapAfter ls position = Artifact.gapAfter ls' position := by
  constructor
  · cases hindex : position.index with
    | zero => rfl
    | succ i =>
        simp only [Artifact.gapBefore]
        obtain hsame | ⟨hx, hy⟩ := h.getElem?_eq i
        · rw [hsame]
        · rw [hx, hy, Option.getD_some, Option.getD_some, hxy.left.needsGap_eq, hxy.right.needsGap_eq]
  · unfold Artifact.gapAfter
    obtain hsame | ⟨hx, hy⟩ := h.getElem?_eq position.index
    · rw [hsame]
    · rw [hx, hy, Option.any_some, Option.any_some, hxy.left.isBlankText_eq, hxy.right.isBlankText_eq]

/-- A block that is put into both leaves them the same but for the one line. -/
theorem put (h : Twins x y ls ls') (hxy : anchor.Alike x y) (block : List String) (separated : Bool) :
    Twins x y (anchor.put ls block separated) (anchor.put ls' block separated) := by
  obtain ⟨hbefore, hafter⟩ := h.gaps_eq hxy (anchor.locate ls) separated
  rw [Anchor.put, Anchor.put, ← h.locate_eq hxy, ← hbefore, ← hafter]
  exact h.splice _ _

end Twins

/-- The lines after a block was put in are those of the block and those from before. -/
theorem Anchor.put_perm (anchor : Anchor) (ls block : List String) (separated : Bool) :
    (anchor.put ls block separated).Perm (Artifact.gapBefore ls (anchor.locate ls).index separated
      ++ block.map (Artifact.indentBy (anchor.locate ls).indent)
      ++ Artifact.gapAfter ls (anchor.locate ls) ++ ls) := by
  have hswap := (@List.perm_append_comm _ (ls.take (anchor.locate ls).index)
    (Artifact.gapBefore ls (anchor.locate ls).index separated
      ++ block.map (Artifact.indentBy (anchor.locate ls).indent)
      ++ Artifact.gapAfter ls (anchor.locate ls))).append_right (ls.drop (anchor.locate ls).index)
  rwa [List.append_assoc _ (ls.take _), List.take_append_drop] at hswap

/-- A block is indented as it was before another one was put in that has no effect on its anchor. -/
theorem Anchor.indent_locate_put {anchor anchor' : Anchor} (hmarked : anchor.Marked)
    {ls block : List String} {separated : Bool}
    (h : ∀ x ∈ block, anchor.Bears ls (Artifact.indentBy (anchor'.locate ls).indent x)) :
    (anchor.locate (anchor'.put ls block separated)).indent = (anchor.locate ls).indent := by
  have hblank : anchor.Bears ls "" := ⟨.inl rfl, fun htab => absurd htab (by decide)⟩
  have hinsert := @Anchor.indent_locate_insert anchor (ls.take (anchor'.locate ls).index)
    (Artifact.gapBefore ls (anchor'.locate ls).index separated
      ++ block.map (Artifact.indentBy (anchor'.locate ls).indent)
      ++ Artifact.gapAfter ls (anchor'.locate ls)) (ls.drop (anchor'.locate ls).index) hmarked
  rw [List.take_append_drop] at hinsert
  refine hinsert fun x hx => ?_
  rw [List.mem_append, List.mem_append] at hx
  obtain (hx | hx) | hx := hx
  · exact Artifact.gapBefore_blank x hx ▸ hblank
  · obtain ⟨line, hline, rfl⟩ := List.mem_map.1 hx
    exact h line hline
  · exact Artifact.gapAfter_blank x hx ▸ hblank

/-- One line or another, put in at the same place. -/
theorem Anchor.twins_put (anchor : Anchor) (ls : List String) (a b : String) (separated : Bool) :
    Twins (Artifact.indentBy (anchor.locate ls).indent a) (Artifact.indentBy (anchor.locate ls).indent b)
      (anchor.put ls [a] separated) (anchor.put ls [b] separated) :=
  ⟨ls.take (anchor.locate ls).index ++ Artifact.gapBefore ls (anchor.locate ls).index separated,
    Artifact.gapAfter ls (anchor.locate ls) ++ ls.drop (anchor.locate ls).index,
    by simp [Anchor.put], by simp [Anchor.put]⟩

/-- Twins to which each line is put that the other has are the same lines. -/
theorem Twins.put_perm {anchor : Anchor} {a b : String} {ls ls' : List String}
    (h : Twins (Artifact.indentBy (anchor.locate ls).indent a)
      (Artifact.indentBy (anchor.locate ls).indent b) ls ls')
    (hab : anchor.Alike (Artifact.indentBy (anchor.locate ls).indent a)
      (Artifact.indentBy (anchor.locate ls).indent b)) (separated : Bool) :
    (anchor.put ls [b] separated).Perm (anchor.put ls' [a] separated) := by
  obtain ⟨hbefore, hafter⟩ := h.gaps_eq hab (anchor.locate ls) separated
  refine (anchor.put_perm ls [b] separated).trans (.trans ?_ (anchor.put_perm ls' [a] separated).symm)
  rw [← h.locate_eq hab, ← hbefore, ← hafter]
  obtain ⟨front, back, hls, hls'⟩ := h
  refine List.perm_iff_count.2 fun z => ?_
  have hcount := congrArg (List.count z) hls
  have hcount' := congrArg (List.count z) hls'
  simp only [List.count_append, List.count_cons, List.map_cons, List.map_nil, List.count_nil]
    at hcount hcount' ⊢
  omega

/-! ## Imports, one after the other -/

/-- The lines after imports were put in that were not there. -/
def importAll (literals ls : List String) : List String :=
  literals.foldl (fun ls literal =>
    if literal ∈ ls then ls else Anchor.afterImports.put ls [literal] false) ls

section

variable {literals ls ls' : List String} {x y : String}

theorem importAll_cons (literal : String) (literals ls : List String) :
    importAll (literal :: literals) ls = importAll literals
      (if literal ∈ ls then ls else Anchor.afterImports.put ls [literal] false) := rfl

/-- Lines that make no difference to an anchor make none to where imports go. -/
theorem Anchor.Alike.afterImports {anchor : Anchor} (h : anchor.Alike x y) :
    Anchor.afterImports.Alike x y := by
  refine ⟨⟨h.left.statement, ?_⟩, ⟨h.right.statement, ?_⟩, h.imports, h.tab⟩ <;> rintro _ ⟨⟩

/-- The same imports go into both. -/
theorem Twins.importAll (h : Twins x y ls ls') (hxy : Anchor.afterImports.Alike x y)
    (hliterals : ∀ z ∈ literals, isImportLine z = true) :
    Twins x y (importAll literals ls) (importAll literals ls') := by
  induction literals generalizing ls ls' with
  | nil => exact h
  | cons z literals ih =>
      rw [List.forall_mem_cons] at hliterals
      have hmem : z ∈ ls ↔ z ∈ ls' := by
        have hne : z ≠ x ∧ z ≠ y := by
          constructor <;> rintro rfl
          · exact Bool.false_ne_true (hxy.imports.1.symm.trans hliterals.1)
          · exact Bool.false_ne_true (hxy.imports.2.symm.trans hliterals.1)
        obtain ⟨front, back, rfl, rfl⟩ := h
        simp [hne.1, hne.2]
      rw [importAll_cons, importAll_cons]
      by_cases hz : z ∈ ls
      · rw [if_pos hz, if_pos (hmem.1 hz)]
        exact ih h hliterals.2
      · rw [if_neg hz, if_neg fun hz' => hz (hmem.2 hz')]
        exact ih (h.put hxy [z] false) hliterals.2

/-- A block is indented as it was before the imports were put in. -/
theorem Anchor.indent_locate_importAll {anchor : Anchor} (hmarked : anchor.Marked)
    (hmarker : ∀ marker, anchor = .beforeMarker marker → 'g' ∉ marker.toList)
    (hliterals : ∀ z ∈ literals, ∃ space, z = "using " ++ space ++ ";") (ls : List String) :
    (anchor.locate (importAll literals ls)).indent = (anchor.locate ls).indent := by
  induction literals generalizing ls with
  | nil => rfl
  | cons z literals ih =>
      rw [List.forall_mem_cons] at hliterals
      obtain ⟨⟨space, rfl⟩, hliterals⟩ := hliterals
      rw [importAll_cons, ih hliterals]
      split
      · rfl
      · refine Anchor.indent_locate_put hmarked (List.forall_mem_singleton.2 ?_)
        rw [Anchor.indent_afterImports, Artifact.indentBy_empty]
        exact Anchor.bears_import hmarker space ls

end

end Scaffold
