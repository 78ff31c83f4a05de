import Mathlib
import Scaffold.Proofs.Artifact.Pieces
import Scaffold.Proofs.Manifest.Bounds

/-!
# The terminators of a merged manifest

A merge is carried out on plain lines and on a file by the same edits.  On the file they also go
along the terminators of the lines, and the flag that the last line has one stays.
`LineEdit.origins` follows each line back through the edits to the line it was, so that it can be
told which terminator it is written with (`mergeFile?_refines`).

The flag belongs to the file and not to a line.  In a file without a terminator at its end, the line
that becomes the last one is written without its terminator, and the one that was the last gets that
of the majority when another follows it (`mergeFile?_refines_unterminated`).
-/

namespace Scaffold

/-! ## Where lines come from -/

namespace LineEdit

/-- What an edit does to a list that goes along the lines, with `fresh` for a line that is put in. -/
def along {α : Type} (fresh : α) (xs : List α) : LineEdit → List α
  | .insert i _ => xs.take i ++ fresh :: xs.drop i
  | .remove i => xs.eraseIdx i
  | .replace _ _ => xs

/-- For each line that edits leave of `count` lines, the one it was, unless it was put in. -/
def origins (count : Nat) (es : List LineEdit) : List (Option Nat) :=
  es.foldl (along none) ((List.range count).map some)

end LineEdit

open LineEdit in
/-- A relation between lines and what goes along them is kept by an edit if it says nothing of new
lines and nothing of the text of a line. -/
theorem Artifact.forall₂_edit {α : Type} {R : Line → α → Prop} {fresh : α} (hfresh : ∀ l, R l fresh)
    (htext : ∀ l x text, R l x → R { l with text := text } x) {a : Artifact} {xs : List α}
    (h : List.Forall₂ R a.lines xs) (e : LineEdit) :
    List.Forall₂ R (a.edit e).lines (along fresh xs e) := by
  cases e with
  | insert i text =>
      have hnew : List.Forall₂ R [⟨text, a.endingNear i⟩] [fresh] := .cons (hfresh _) .nil
      have hall := List.rel_append (List.rel_append (List.forall₂_take i h) hnew) (List.forall₂_drop i h)
      simpa [Artifact.edit, insertLine, insertLines, along] using hall
  | remove i =>
      have hall := List.rel_append (List.forall₂_take i h) (List.forall₂_drop (i + 1) h)
      simpa [Artifact.edit, removeLine, along, List.eraseIdx_eq_take_drop_succ] using hall
  | replace i text =>
      change List.Forall₂ R (a.lines.modify i fun l => { l with text := text }) xs
      generalize a.lines = ls at h
      induction h generalizing i with
      | nil => simp
      | @cons l x ls xs hl hls ih =>
          cases i with
          | zero => exact .cons (htext l x text hl) hls
          | succ i => exact .cons hl (ih i)

namespace Artifact

variable {a : Artifact}

/-! ## Edits of a file -/

theorem endsInNewline_editAll (a : Artifact) (es : List LineEdit) :
    (a.editAll es).endsInNewline = a.endsInNewline := by
  induction es generalizing a with
  | nil => rfl
  | cons e es ih =>
      have hone : (a.edit e).endsInNewline = a.endsInNewline := by cases e <;> rfl
      exact (ih (a.edit e)).trans hone

/-- Edits do to the texts of a file what they do to plain lines. -/
theorem texts_editAll {es : List LineEdit} {result : List String}
    (h : LineEdit.carryOut? a.texts es = some result) : (a.editAll es).texts = result := by
  induction es generalizing a with
  | nil => exact Option.some.inj h
  | cons e es ih =>
      rw [LineEdit.carryOut?] at h
      split at h
      next next hnext =>
        obtain ⟨-, hnext⟩ := Option.ite_none_right_eq_some.1 hnext
        refine ih (a := a.edit e) ?_
        rwa [texts_edit, Option.some.inj hnext]
      next => cases h

/-- A line has the terminator of the line it was, one of `base`. -/
def EndsAs (base : List Line) (l : Line) (origin : Option Nat) : Prop :=
  ∀ i ∈ origin, ∃ m, base[i]? = some m ∧ l.ending = m.ending

theorem EndsAs.fresh {base : List Line} (l : Line) : EndsAs base l none := by
  rintro i ⟨⟩

/-- Every edit leaves lines their terminators. -/
theorem forall₂_endsAs_editAll {base : List Line} (es : List LineEdit) {a : Artifact}
    {os : List (Option Nat)} (h : List.Forall₂ (EndsAs base) a.lines os) :
    List.Forall₂ (EndsAs base) (a.editAll es).lines (es.foldl (LineEdit.along none) os) := by
  induction es generalizing a os with
  | nil => exact h
  | cons e es ih => exact ih (forall₂_edit EndsAs.fresh (fun _ _ _ hl => hl) h e)

theorem forall₂_endsAs_range (ls : List Line) :
    List.Forall₂ (EndsAs ls) ls ((List.range ls.length).map some) := by
  rw [List.forall₂_iff_get]
  refine ⟨by simp, fun n hn _ i hi => ?_⟩
  obtain rfl : n = i := by simpa using hi
  exact ⟨_, List.getElem?_eq_getElem hn, rfl⟩

/-- A line after edits has the terminator of the line it was. -/
theorem ending_editAll {es : List LineEdit} {i j : Nat}
    (h : (LineEdit.origins a.lines.length es)[j]? = some (some i)) :
    ∃ l m, (a.editAll es).lines[j]? = some l ∧ a.lines[i]? = some m ∧ l.ending = m.ending := by
  obtain ⟨hlength, hall⟩ := List.forall₂_iff_get.1
    (forall₂_endsAs_editAll es (forall₂_endsAs_range a.lines))
  obtain ⟨hj, hget⟩ := List.getElem?_eq_some_iff.1 h
  have hj' : j < (a.editAll es).lines.length := hlength ▸ hj
  obtain ⟨m, hm, hending⟩ := hall j hj' hj i hget
  exact ⟨_, m, List.getElem?_eq_getElem hj', hm, hending⟩

/-! ## Terminators in the text -/

/-- The terminator that a line is written with. -/
def terminator? (a : Artifact) (i : Nat) : Option Ending :=
  if a.endsInNewline = false ∧ i + 1 = a.lines.length then none else a.lines[i]?.map Line.ending

/-- The text of a line and the terminator that it is written with. -/
def written (a : Artifact) (i : Nat) : String :=
  ((a.texts[i]?).getD "") ++ (a.terminator? i).elim "" Ending.text

/-- A file is written as its lines, each with its terminator. -/
theorem render_eq_join (a : Artifact) :
    a.render = String.join ((List.range a.lines.length).map a.written) := by
  obtain ⟨path, lines, isPresent, majority, closed⟩ := a
  change renderLines closed lines = _
  induction lines with
  | nil => rfl
  | cons l lines ih =>
      have hrest : ∀ i, written ⟨path, l :: lines, isPresent, majority, closed⟩ (i + 1)
          = written ⟨path, lines, isPresent, majority, closed⟩ i := by
        intro i
        simp [written, terminator?, texts]
      rw [List.length_cons, List.range_succ_eq_map, List.map_cons, List.map_map, Function.comp_def]
      simp only [Nat.succ_eq_add_one, hrest]
      cases lines with
      | nil => cases closed <;> simp [renderLines, written, terminator?, texts, Line.render]
      | cons m lines =>
          have hfirst : written ⟨path, l :: m :: lines, isPresent, majority, closed⟩ 0 = l.render := by
            simp [written, terminator?, texts, Line.render]
          rw [renderLines_cons closed l (List.cons_ne_nil m lines), ih, hfirst, ← String.toList_inj]
          simp

/-- An unterminated last line is loaded with the terminator of the majority. -/
theorem ending_parse_last {path content : String} (hopen : (parse path content).endsInNewline = false)
    {l : Line} (hlast : (parse path content).lines.getLast? = some l) :
    l.ending = (parse path content).majority := by
  obtain ⟨front, last, hpieces⟩ := exists_pieces content
  rw [parse_of_pieces path hpieces] at hopen hlast ⊢
  rw [if_neg (List.isEmpty_eq_false_iff.1 hopen), List.getLast?_concat, Option.some.injEq] at hlast
  rw [← hlast]

/-- A line after edits of a file that was loaded is written with the terminator that the line it was
is written with.  Where the file has none at its end, the line that is now the last has none, and
the one that was the last has that of the majority. -/
theorem terminator?_editAll {path content : String} {es : List LineEdit} {i j : Nat}
    (h : (LineEdit.origins (parse path content).lines.length es)[j]? = some (some i)) :
    ((parse path content).editAll es).terminator? j
      = if (parse path content).endsInNewline = false
          ∧ j + 1 = ((parse path content).editAll es).lines.length
        then none else some (((parse path content).terminator? i).getD (parse path content).majority) := by
  obtain ⟨l, m, hl, hm, hending⟩ := ending_editAll h
  rw [terminator?, endsInNewline_editAll, hl, Option.map_some, hending]
  refine if_congr Iff.rfl rfl (congrArg some ?_)
  unfold terminator?
  split
  next hlast =>
    obtain ⟨hopen, hi⟩ := hlast
    have hgetLast : (parse path content).lines.getLast? = some m := by
      rw [List.getLast?_eq_getElem?, ← hi, Nat.add_sub_cancel]
      exact hm
    exact ending_parse_last hopen hgetLast
  next => rw [hm, Option.map_some, Option.getD_some]

end Artifact

/-! ## Merging -/

namespace Manifest

open Scaffold.LineEdit

/-- Merge an entry into plain lines: whether there is anything to change, and the lines after it. -/
def mergeLines? (k : EntryKind) (identity entry : String) (version : Option String) (lines : List String) :
    Option (Bool × List String) :=
  (merge? k identity entry version lines).bind fun edits =>
    (carryOut? lines edits).map fun result => (!edits.isEmpty, result)

/-- Merge an entry into a file. -/
def mergeFile? (k : EntryKind) (identity entry : String) (version : Option String) (a : Artifact) :
    Option (Bool × Artifact) :=
  (merge? k identity entry version a.texts).map fun edits => (!edits.isEmpty, a.editAll edits)

variable {k : EntryKind} {identity entry : String} {version : Option String} {a b : Artifact}

/-- The lines of a file go through a merge as plain lines do. -/
theorem mergeFile?_texts (k : EntryKind) (identity entry : String) (version : Option String)
    (a : Artifact) : (mergeFile? k identity entry version a).map (fun r => (r.1, r.2.texts))
      = mergeLines? k identity entry version a.texts := by
  unfold mergeFile? mergeLines?
  cases hmerge : merge? k identity entry version a.texts with
  | none => rfl
  | some edits =>
      obtain ⟨result, hresult⟩ := carryOut?_merge hmerge
      simp [hresult, Artifact.texts_editAll hresult]

/-- A merge that has nothing to change leaves a file. -/
theorem mergeFile?_eq_self (h : mergeFile? k identity entry version a = some (false, b)) : b = a := by
  obtain ⟨edits, -, hmerge⟩ := Option.map_eq_some_iff.1 h
  obtain ⟨hflag, rfl⟩ := Prod.mk.inj hmerge
  obtain rfl : edits = [] := by simpa using hflag
  rfl

/-- **Merging into a file is merging into its lines, and every line keeps its terminator but for
those that the end of the file decides on.**  For every text, every entry and every version, the
merge of the file that is loaded has the outcome of the merge of its lines, one out of range as
well, and a merge that has nothing to change gives the text back.  A line that was neither put in
nor taken out is written with the terminator of the line that it was, also with a new text.  Only in
a file without a terminator at its end, the line that is now the last is written without one, and
the one that was the last with that of the majority. -/
theorem mergeFile?_refines (k : EntryKind) (identity entry : String) (version : Option String)
    (path content : String) :
    (mergeFile? k identity entry version (.parse path content)).map (fun r => (r.1, r.2.texts))
        = mergeLines? k identity entry version (Artifact.parse path content).texts
      ∧ (∀ b, mergeFile? k identity entry version (.parse path content) = some (false, b) →
        b.render = content)
      ∧ ∀ edits, merge? k identity entry version (Artifact.parse path content).texts = some edits →
        let a := Artifact.parse path content
        let b := a.editAll edits
        b.render = String.join ((List.range b.lines.length).map b.written)
          ∧ ∀ i j, (origins a.lines.length edits)[j]? = some (some i) →
            b.terminator? j = if a.endsInNewline = false ∧ j + 1 = b.lines.length then none
              else some ((a.terminator? i).getD a.majority) := by
  refine ⟨mergeFile?_texts k identity entry version _, fun b hmerge => ?_, fun edits _ => ?_⟩
  · rw [mergeFile?_eq_self hmerge, Artifact.render_parse]
  · exact ⟨Artifact.render_eq_join _, fun i j => Artifact.terminator?_editAll⟩

/-- The lines of a manifest keep their carriage returns around an entry that is put in. -/
theorem mergeFile?_refines_crlf :
    ((Artifact.parse "A.csproj" "<Project>\r\n</Project>\r\n").editAll
        (insertEntry .reference "<ProjectReference Include=\"B\" />" ["<Project>", "</Project>"])).terminator? 5
      = some .crlf := by
  have h := (mergeFile?_refines .reference "B" "<ProjectReference Include=\"B\" />" none "A.csproj"
    "<Project>\r\n</Project>\r\n").2.2 (insertEntry .reference "<ProjectReference Include=\"B\" />"
      ["<Project>", "</Project>"]) (by decide +kernel)
  exact h.2 1 5 (by decide +kernel)

/-- A line whose duplicate beneath it is taken out of a file without a terminator at its end is
written without the terminator that it had. -/
theorem mergeFile?_refines_unterminated :
    mergeDependency? "A" none ["<PackageReference Include=\"A\" />", "<PackageReference Include=\"A\" />"]
        = some [.remove 1]
      ∧ origins 2 [.remove 1] = [some 0]
      ∧ (Artifact.parse "A.csproj"
          "<PackageReference Include=\"A\" />\n<PackageReference Include=\"A\" />").terminator? 0 = some .lf
      ∧ ((Artifact.parse "A.csproj"
          "<PackageReference Include=\"A\" />\n<PackageReference Include=\"A\" />").editAll
            [.remove 1]).render = "<PackageReference Include=\"A\" />" := by
  decide +kernel

end Manifest

end Scaffold
