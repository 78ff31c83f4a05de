import Mathlib
import Scaffold.Proofs.Delivery

/-!
# How often known lines have to be taken out

One call takes out one copy of each sample, in the order of the samples, and does not look again.
So a second copy stays, and lines that a removal brings together can be a copy that was not there
before.  The next call finds nothing exactly if no copy is left in the text (`Task.cleans`).

Every call that finds something leaves fewer lines, whatever the samples are and however their
copies overlap, which bounds how often it has to be made.  One call is enough where the samples are
untangled: the first line of a sample stands at most once and begins a whole copy, and it does not
occur further down in a sample.  A copy can then neither lie in another one nor come about when one
is cut out, so that the first lines go with the copies (`Untangled.cut`).

A text that was cut is written and read again before the next call.  Reading it may take a carriage
return off a line or drop an empty last line, and neither brings a copy back, as lines are compared
up to blanks around them.
-/

namespace Scaffold

open Scaffold.Path (components)
open Scaffold.Text

/-! ## Copies -/

/-- Some lines that follow one another are those of a sample, up to blanks around each line. -/
def HasCopy (sample lines : List String) : Prop :=
  ∃ rest ∈ lines.tails, (rest.take sample.length).map trim = sample.map trim

instance (sample lines : List String) : Decidable (HasCopy sample lines) :=
  inferInstanceAs (Decidable (∃ rest ∈ lines.tails, _))

/-- No sample has a copy in a text. -/
def Clear (samples : List (List String)) (text : String) : Prop :=
  ∀ sample ∈ samples, ¬ HasCopy sample (Text.lines text)

instance (samples : List (List String)) (text : String) : Decidable (Clear samples text) :=
  inferInstanceAs (Decidable (∀ sample ∈ samples, _))

section

variable {sample : List String}

/-- A copy begins at the first line or further down. -/
theorem hasCopy_cons_iff {line : String} {lines : List String} : HasCopy sample (line :: lines)
    ↔ ((line :: lines).take sample.length).map trim = sample.map trim ∨ HasCopy sample lines := by
  simp only [HasCopy, List.tails_cons, List.mem_cons, exists_eq_or_imp]

theorem not_hasCopy_nil (hsample : sample ≠ []) : ¬ HasCopy sample [] := by
  rintro ⟨rest, hrest, hcopy⟩
  obtain rfl := List.mem_singleton.1 hrest
  rw [List.take_nil, List.map_nil] at hcopy
  exact hsample (List.map_eq_nil_iff.1 hcopy.symm)

namespace Artifact

theorem findSequence?_eq_none_iff (hsample : sample ≠ []) {lines : List String} :
    findSequence? sample lines = none ↔ ¬ HasCopy sample lines := by
  induction lines with
  | nil => exact iff_of_true rfl (not_hasCopy_nil hsample)
  | cons line lines ih =>
      rw [findSequence?, hasCopy_cons_iff, not_or, ← ih, ← matchesSequence_iff]
      split
      next hmatches => simp [hmatches]
      next hno => simp [hno]

theorem removeSequence?_eq_none_iff (hsample : sample ≠ []) {a : Artifact} :
    a.removeSequence? sample = none ↔ ¬ HasCopy sample a.texts := by
  rw [removeSequence?, List.isEmpty_eq_false_iff.2 hsample, if_neg Bool.false_ne_true,
    Option.map_eq_none_iff,
    findSequence?_eq_none_iff hsample]

end Artifact

end

/-! ## One call -/

section

variable {samples : List (List String)} {sample : List String} {a b : Artifact}

theorem removeSamples_cons_of_none (h : a.removeSequence? sample = none) :
    removeSamples (sample :: samples) a = removeSamples samples a := by
  simp only [removeSamples, List.foldl_cons, h]

/-- A removal is told of at the end, whatever the later samples do. -/
theorem removeSamples_cons_of_some (h : a.removeSequence? sample = some b) :
    removeSamples (sample :: samples) a = (true, (removeSamples samples b).2) := by
  simp only [removeSamples, List.foldl_cons, h]
  clear h
  induction samples generalizing b with
  | nil => rfl
  | cons next samples ih =>
      simp only [List.foldl_cons]
      cases b.removeSequence? next with
      | none => exact ih
      | some c => simp only [ih (b := c)]

/-- What is left are lines that were there, in their order. -/
theorem sublist_removeSamples (samples : List (List String)) (a : Artifact) :
    (removeSamples samples a).2.lines.Sublist a.lines := by
  induction samples generalizing a with
  | nil => exact .refl _
  | cons sample samples ih =>
      cases hremove : a.removeSequence? sample with
      | none =>
          rw [removeSamples_cons_of_none hremove]
          exact ih a
      | some b =>
          rw [removeSamples_cons_of_some hremove]
          obtain ⟨-, before, run, after, hlines, -, rfl⟩ := Artifact.removeSequence?_eq_some hremove
          refine (ih _).trans ?_
          rw [hlines]
          exact (List.sublist_append_right run after).append_left before

/-- Nothing goes out exactly if no sample has a copy. -/
theorem removeSamples_eq_false_iff (hsamples : ∀ sample ∈ samples, sample ≠ []) :
    (removeSamples samples a).1 = false ↔ ∀ sample ∈ samples, ¬ HasCopy sample a.texts := by
  induction samples with
  | nil => exact iff_of_true rfl (List.forall_mem_nil _)
  | cons sample samples ih =>
      obtain ⟨hfirst, hrest⟩ := List.forall_mem_cons.1 hsamples
      rw [List.forall_mem_cons, ← Artifact.removeSequence?_eq_none_iff hfirst, ← ih hrest]
      cases hremove : a.removeSequence? sample with
      | none => simp [removeSamples_cons_of_none hremove]
      | some b => simp [removeSamples_cons_of_some hremove]

/-- Where something goes out fewer lines are left. -/
theorem length_removeSamples_lt (h : (removeSamples samples a).1 = true) :
    (removeSamples samples a).2.lines.length < a.lines.length := by
  induction samples with
  | nil => cases h
  | cons sample samples ih =>
      cases hremove : a.removeSequence? sample with
      | none =>
          rw [removeSamples_cons_of_none hremove] at h ⊢
          exact ih h
      | some b =>
          rw [removeSamples_cons_of_some hremove]
          obtain ⟨hsample, before, run, after, hlines, hsame, rfl⟩ :=
            Artifact.removeSequence?_eq_some hremove
          have hle := (sublist_removeSamples samples { a with lines := before ++ after }).length_le
          have hrun : run.length = sample.length := by
            simpa using congrArg List.length hsame
          have hpos := List.length_pos_iff.2 hsample
          rw [hlines]
          simp only [List.length_append] at hle ⊢
          omega

end

/-! ## Untangled samples -/

/-- Decide whether a line is the first of a sample, up to blanks around it. -/
def begins (sample : List String) (line : String) : Bool := sample.head?.any (trim line == trim ·)

/-- Lines in which a sample stands at most once, and whole. -/
structure Untangled (samples : List (List String)) (lines : List String) : Prop where
  /-- No sample begins further down in a sample. -/
  apart : ∀ sample ∈ samples, ∀ other ∈ samples, ∀ line ∈ other.tail, begins sample line = false
  /-- No sample begins twice. -/
  once : ∀ sample ∈ samples, lines.countP (begins sample) ≤ 1
  /-- Where a sample begins all of it follows. -/
  whole : ∀ sample ∈ samples, ∀ rest ∈ lines.tails, rest.head?.any (begins sample) = true →
    (rest.take sample.length).map trim = sample.map trim

/-- The samples of a new entry point do not begin further down in one another. -/
theorem apart_weatherSample : ∀ sample ∈ Site.weatherSample, ∀ other ∈ Site.weatherSample,
    ∀ line ∈ other.tail, begins sample line = false := by
  have hchars : ∀ sample ∈ Site.weatherSample.map (List.map fun line => trimChars line.toList),
      ∀ other ∈ Site.weatherSample.map (List.map fun line => trimChars line.toList),
      ∀ line ∈ other.tail, sample.head? ≠ some line := by
    simp only [Site.weatherSample, List.map_cons, List.map_nil]
    repeat rw [String.toList_ofList]
    decide +kernel
  intro sample hsample other hother line hline
  have hne := hchars _ (List.mem_map_of_mem hsample) _ (List.mem_map_of_mem hother) (trimChars line.toList)
    (List.map_tail ▸ List.mem_map_of_mem hline)
  cases sample with
  | nil => rfl
  | cons first rest =>
      refine beq_eq_false_iff_ne.2 fun hsame => hne ?_
      have htrimmed : trimChars first.toList = trimChars line.toList :=
        (String.ofList_injective hsame).symm
      rw [List.map_cons, List.head?_cons, htrimmed]

section

variable {samples : List (List String)} {sample : List String}

theorem begins_of_trim_eq {line line' : String} (h : trim line = trim line') :
    begins sample line = begins sample line' := by
  rw [begins, begins, h]

/-- A copy begins with the first line of its sample. -/
theorem not_hasCopy_of_begins (hsample : sample ≠ []) {lines : List String}
    (h : ∀ line ∈ lines, begins sample line = false) : ¬ HasCopy sample lines := by
  rintro ⟨rest, hrest, hcopy⟩
  obtain ⟨first, others, rfl⟩ := List.exists_cons_of_ne_nil hsample
  cases rest with
  | nil => cases hcopy
  | cons line rest =>
      have hfirst : trim line = trim first := (List.cons.inj hcopy).1
      have hmem : line ∈ lines := (List.mem_tails _ _ |>.1 hrest).subset List.mem_cons_self
      have hno := h line hmem
      simp [begins, hfirst] at hno

/-- A copy that goes on past the lines before `line` has it further down. -/
theorem exists_mem_tail_of_copy {x line : String} {front rest : List String}
    (hcopy : ((x :: front ++ line :: rest).take sample.length).map trim = sample.map trim)
    (hlong : (x :: front).length < sample.length) : ∃ other ∈ sample.tail, trim line = trim other := by
  cases sample with
  | nil => cases hlong
  | cons first others =>
      have hlt : front.length < others.length := by simpa using hlong
      have hbehind : ((front ++ line :: rest).take others.length).map trim = others.map trim :=
        (List.cons.inj hcopy).2
      have hat : trim line = trim others[front.length] := by
        simpa [List.getElem?_take, hlt] using congrArg (·[front.length]?) hbehind
      exact ⟨_, List.getElem_mem hlt, hat⟩

/-- A run that is cut out takes the first line of its sample with it.  It lies in no other copy, as
one that it cut short would have its first line further down. -/
theorem Untangled.cut {before run after : List String} (h : Untangled samples (before ++ (run ++ after)))
    (hmem : sample ∈ samples) (hsample : sample ≠ []) (hsame : run.map trim = sample.map trim) :
    Untangled samples (before ++ after) ∧ ∀ line ∈ before ++ after, begins sample line = false := by
  obtain ⟨line, run, rfl⟩ : ∃ line lines, run = line :: lines := by
    cases run with
    | nil => exact absurd (List.map_eq_nil_iff.1 hsame.symm) hsample
    | cons line lines => exact ⟨line, lines, rfl⟩
  have hbegins : begins sample line = true := by
    cases sample with
    | nil => exact absurd rfl hsample
    | cons first others => simpa [begins] using (List.cons.inj hsame).1
  refine ⟨⟨h.apart, fun other hother => ?_, fun other hother rest hrest hhead => ?_⟩, ?_⟩
  · have hcount := h.once other hother
    simp only [List.countP_append] at hcount ⊢
    omega
  · obtain ⟨front, hfront⟩ := (List.mem_tails _ _).1 hrest
    have htail : rest <:+ after → (rest.take other.length).map trim = other.map trim := fun hsuffix =>
      h.whole other hother rest ((List.mem_tails _ _).2
        ((hsuffix.trans (List.suffix_append _ _)).trans (List.suffix_append _ _))) hhead
    obtain ⟨mid, rfl, rfl⟩ | ⟨mid, rfl, rfl⟩ := List.append_eq_append_iff.1 hfront
    · -- the copy begins before the cut
      cases mid with
      | nil => exact htail List.suffix_rfl
      | cons x mid =>
          have hcopy := h.whole other hother ((x :: mid) ++ (line :: run ++ after))
            ((List.mem_tails _ _).2 ⟨front, by simp⟩) hhead
          by_cases hshort : other.length ≤ (x :: mid).length
          · rwa [List.take_append_of_le_length hshort] at hcopy ⊢
          · obtain ⟨inner, hinner, htrim⟩ := exists_mem_tail_of_copy hcopy (Nat.lt_of_not_le hshort)
            rw [begins_of_trim_eq htrim, h.apart sample hmem other hother inner hinner] at hbegins
            cases hbegins
    · exact htail (List.suffix_append _ _)
  · have hcount := h.once sample hmem
    have hzero : (before ++ after).countP (begins sample) = 0 := by
      simp only [List.countP_append, List.countP_cons, hbegins, if_true] at hcount ⊢
      omega
    simpa using List.countP_eq_zero.1 hzero

/-- Where the samples are untangled none of their first lines is left. -/
theorem Untangled.begins_removeSamples {all : List (List String)}
    (hsamples : ∀ sample ∈ samples, sample ∈ all ∧ sample ≠ [])
    {a : Artifact} (h : Untangled all a.texts) : ∀ sample ∈ samples,
    ∀ line ∈ (removeSamples samples a).2.texts, begins sample line = false := by
  have hleft : ∀ (samples : List (List String)) {a : Artifact}, ∀ line ∈ (removeSamples samples a).2.texts,
      line ∈ a.texts := fun samples a line hline =>
    ((sublist_removeSamples samples a).map Line.text).subset hline
  induction samples generalizing a with
  | nil => exact List.forall_mem_nil _
  | cons sample samples ih =>
      obtain ⟨⟨hmem, hsample⟩, hrest⟩ := List.forall_mem_cons.1 hsamples
      rw [List.forall_mem_cons]
      cases hremove : a.removeSequence? sample with
      | none =>
          rw [removeSamples_cons_of_none hremove]
          refine ⟨fun line hline => ?_, ih hrest h⟩
          -- a first line would begin a copy, which would have been taken out
          rw [← Bool.not_eq_true]
          intro hbegins
          obtain ⟨front, back, hlines⟩ := List.append_of_mem (hleft samples line hline)
          have htail : line :: back ∈ a.texts.tails := (List.mem_tails _ _).2 ⟨front, hlines.symm⟩
          have hhead : (line :: back).head?.any (begins sample) = true := by
            rwa [List.head?_cons, Option.any_some]
          exact (Artifact.removeSequence?_eq_none_iff hsample).1 hremove
            ⟨line :: back, htail, h.whole sample hmem _ htail hhead⟩
      | some b =>
          rw [removeSamples_cons_of_some hremove]
          obtain ⟨-, before, run, after, hlines, hsame, rfl⟩ := Artifact.removeSequence?_eq_some hremove
          rw [Artifact.texts, hlines, List.map_append, List.map_append] at h
          obtain ⟨hcut, hgone⟩ := h.cut hmem hsample ((List.map_map ..).trans hsame)
          rw [← List.map_append] at hcut hgone
          refine ⟨fun line hline => hgone line ?_,
            ih (a := { a with lines := before ++ after }) hrest hcut⟩
          exact hleft samples line hline

end

/-! ## Reading what is left -/

/-- A carriage return at the end is trimmed. -/
theorem IsReturned.trim_eq {old new : String} (h : IsReturned old new) : trim old = trim new := by
  rcases h with rfl | rfl
  · rfl
  · have hblank : isBlank '\r' = true := by decide
    rw [trim, trim, trimChars, trimChars, String.toList_append]
    congr 1
    change (List.dropWhile isBlank (List.dropWhile isBlank (new.toList ++ ['\r'])).reverse).reverse = _
    rw [List.dropWhile_append]
    split
    next hnone => simp [List.isEmpty_iff.1 hnone, hblank]
    next => simp [hblank]

/-- The lines that are read are those that were written, or all but an empty one at the end. -/
theorem Artifact.WellRead.lines_render {a : Artifact} (ha : a.WellRead) : ∃ kept, kept <+: a.lines
    ∧ List.Forall₂ IsReturned (kept.map Line.text) (Text.lines a.render) := by
  have hreread : ∀ ls : List Line,
      List.Forall₂ IsReturned (ls.map Line.text) ((ls.map Line.reread).map Line.text) := by
    intro ls
    rw [List.map_map, List.forall₂_map_left_iff, List.forall₂_map_right_iff]
    exact List.forall₂_same.2 fun l _ => l.isReturned_reread
  rw [← texts_parse a.path]
  obtain ⟨path, lines, isPresent, majority, closed⟩ := a
  unfold WellRead at ha
  change ∃ kept, kept <+: lines
    ∧ List.Forall₂ IsReturned (kept.map Line.text) (parse path (renderLines closed lines)).texts
  cases closed with
  | true =>
      rw [parse_renderLines_true path ha]
      exact ⟨lines, List.prefix_rfl, hreread lines⟩
  | false =>
      cases lines using List.reverseRecOn with
      | nil => exact ⟨[], List.prefix_rfl, .nil⟩
      | append_singleton front last =>
          by_cases hblank : last.text = ""
          · rw [renderLines_false_blank hblank,
              parse_renderLines_true path fun l hl => ha l (List.mem_append_left _ hl)]
            exact ⟨front, List.prefix_append _ _, hreread front⟩
          · rw [parse_renderLines_false path ha hblank]
            refine ⟨front ++ [last], List.prefix_rfl, ?_⟩
            rw [texts, List.map_append, List.map_append]
            exact List.rel_append (hreread front) (.cons (.inl rfl) .nil)

/-- The text a file is left with by taking samples out. -/
def afterCleaning (samples : List (List String)) (path text : String) : String :=
  (removeSamples samples (.parse path text)).2.render

-- of two copies the second one stays, and a removal can bring a copy together
example : afterCleaning [["b"]] "f" "b\nb\n" = "b\n" := by decide +kernel
example : afterCleaning [["a", "c"], ["b"]] "f" "a\nb\nc\n" = "a\nc\n" := by decide +kernel

section

variable {samples : List (List String)} (hsamples : ∀ sample ∈ samples, sample ≠ []) {path text : String}

include hsamples

theorem clear_iff (path : String) :
    Clear samples text ↔ (removeSamples samples (.parse path text)).1 = false := by
  rw [removeSamples_eq_false_iff hsamples, Artifact.texts_parse]
  rfl

/-- A text without copies is left as it is. -/
theorem afterCleaning_of_clear (h : Clear samples text) : afterCleaning samples path text = text := by
  have hnone : ∀ sample ∈ samples, (Artifact.parse path text).removeSequence? sample = none :=
    fun sample hmem =>
    (Artifact.removeSequence?_eq_none_iff (hsamples sample hmem)).2 (by
      rw [Artifact.texts_parse]
      exact h sample hmem)
  rw [afterCleaning, Action.removeSamples_eq hnone, Artifact.render_parse]

omit hsamples in
/-- The lines of what is left, as they are read. -/
theorem lines_afterCleaning (samples : List (List String)) (path text : String) :
    ∃ kept, kept <+: (removeSamples samples (.parse path text)).2.lines
      ∧ List.Forall₂ IsReturned (kept.map Line.text) (Text.lines (afterCleaning samples path text)) := by
  refine Artifact.WellRead.lines_render fun l hl => ?_
  exact Artifact.wellRead_parse path text l ((sublist_removeSamples samples _).subset hl)

/-- Where there was a copy fewer lines are left. -/
theorem length_lines_afterCleaning (h : ¬ Clear samples text) :
    (Text.lines (afterCleaning samples path text)).length < (Text.lines text).length := by
  obtain ⟨kept, hkept, hlines⟩ := lines_afterCleaning samples path text
  have hremoved : (removeSamples samples (.parse path text)).1 = true := by
    rwa [clear_iff hsamples path, Bool.not_eq_false] at h
  have hlength := length_removeSamples_lt hremoved
  have htexts : (Artifact.parse path text).lines.length = (Text.lines text).length := by
    rw [← Artifact.texts_parse path, Artifact.texts, List.length_map]
  rw [← hlines.length_eq, List.length_map, ← htexts]
  exact hkept.length_le.trans_lt hlength

/-- As many calls as a text has lines leave no copy. -/
theorem clear_iterate {n : Nat} (hn : (Text.lines text).length ≤ n) :
    Clear samples ((afterCleaning samples path)^[n] text) := by
  induction n generalizing text with
  | zero =>
      rw [Function.iterate_zero, id_eq]
      intro sample hmem
      rw [List.length_eq_zero_iff.1 (Nat.le_zero.1 hn)]
      exact not_hasCopy_nil (hsamples sample hmem)
  | succ n ih =>
      by_cases hclear : Clear samples text
      · rwa [Function.iterate_fixed (afterCleaning_of_clear hsamples hclear)]
      · rw [Function.iterate_succ_apply]
        exact ih (Nat.le_of_lt_succ ((length_lines_afterCleaning hsamples hclear).trans_le hn))

/-- One call leaves no copy where the samples are untangled. -/
theorem Untangled.clear_afterCleaning (h : Untangled samples (Text.lines text)) :
    Clear samples (afterCleaning samples path text) := by
  intro sample hmem
  obtain ⟨kept, hkept, hlines⟩ := lines_afterCleaning samples path text
  rw [← Artifact.texts_parse path] at h
  have hgone := h.begins_removeSamples (fun sample hmem => ⟨hmem, hsamples sample hmem⟩) sample hmem
  refine not_hasCopy_of_begins (hsamples sample hmem) fun line hline => ?_
  obtain ⟨i, hi, rfl⟩ := List.getElem_of_mem hline
  have hi' : i < (kept.map Line.text).length := hlines.length_eq ▸ hi
  have hreturned : IsReturned (kept.map Line.text)[i] (Text.lines (afterCleaning samples path text))[i] :=
    hlines.get hi' hi
  rw [← begins_of_trim_eq hreturned.trim_eq]
  exact hgone _ ((hkept.map Line.text).subset (List.getElem_mem hi'))

end

/-! ## Calls -/

section

variable {w : Surroundings} {templates : Templates} {root : String} {s s' : Scene} {t : Task}
  {samples : List (List String)} {text : String}

theorem Task.reads_of_clean (haction : t.action = .clean samples) (template : String) (ctx : Context) :
    t.action ≠ .file template ctx := fun hne => by cases haction.symm.trans hne

theorem Scene.fileAt_of_fileIn (htext : t.fileIn root s = some text) :
    s.fileAt (t.path.under root) = .parse (t.path.under root) text := by
  rw [Scene.fileAt, show s.tree.content (components (t.path.under root)) = _ from htext]

variable (hsamples : ∀ sample ∈ samples, sample ≠ [])

include hsamples

/-- What a call does to a file that is there. -/
theorem Task.fileIn_clean (haction : t.action = .clean samples)
    (htext : t.fileIn root s = some text) {step : Step}
    (h : execute (t.perform w.files templates root) s = (.ok step, s')) :
    t.fileIn root s' = some (afterCleaning samples (t.path.under root) text)
      ∧ (step.outcome = .unchanged ↔ Clear samples text) := by
  obtain ⟨outcome, next, rfl, hdecide, hfile⟩ := Task.fileIn_perform (Task.reads_of_clean haction) h
  rw [haction, Action.decide, Scene.fileAt_of_fileIn htext] at hdecide
  rw [clear_iff hsamples (t.path.under root), hfile, htext]
  rcases hremove : removeSamples samples (.parse (t.path.under root) text) with ⟨removed, left⟩
  rw [hremove] at hdecide
  cases removed with
  | true =>
      cases hdecide
      rw [afterCleaning, hremove]
      exact ⟨rfl, by simp⟩
  | false =>
      cases hdecide
      have hclear : Clear samples text := (clear_iff hsamples _).2 (congrArg Prod.fst hremove)
      rw [afterCleaning_of_clear hsamples hclear]
      exact ⟨rfl, by simp⟩

/-- A call that can read its file finds nothing exactly if there is no copy, and it looks at its
file only. -/
theorem Task.perform_clean_unchanged_iff (haction : t.action = .clean samples)
    (htext : t.fileIn root s = some text)
    (hread : w.fault (s.after (.read (t.path.under root))).calls = none) :
    execute (t.perform w.files templates root) s
      = (.ok ⟨t.what, t.path.slashed, .unchanged⟩, s.after (.read (t.path.under root)))
        ↔ Clear samples text := by
  refine ⟨fun h => (Task.fileIn_clean hsamples haction htext h).2.1 rfl, fun hclear => ?_⟩
  have hload := execute_loadArtifact_eq (w := w) (s := s) (t.path.under root)
  rw [hread, Scene.fileAt_of_fileIn htext, ← Task.inspect_eq_load (Task.reads_of_clean haction)] at hload
  obtain ⟨left, hremove⟩ : ∃ left,
    removeSamples samples (.parse (t.path.under root) text) = (false, left) :=
    ⟨_, Prod.ext ((clear_iff hsamples _).1 hclear) rfl⟩
  have hdecide : t.action.decide templates (.parse (t.path.under root) text)
      = .ok (.unchanged, .parse (t.path.under root) text) := by
    rw [haction, Action.decide, hremove]
  exact Task.execute_perform_unchanged hload hdecide

/-- What calls that follow one another leave. -/
theorem Task.fileIn_cleanings (haction : t.action = .clean samples) {n : Nat} {steps : List Step}
    (htext : t.fileIn root s = some text)
    (h : execute (performAll w.files templates root (List.replicate n t)) s = (.ok steps, s')) :
    t.fileIn root s' = some ((afterCleaning samples (t.path.under root))^[n] text) := by
  induction n generalizing s text steps with
  | zero =>
      cases h
      exact htext
  | succ n ih =>
      obtain ⟨step, s₁, hfirst, h⟩ := execute_bind_eq_ok h
      obtain ⟨rest, s₂, hrest, h⟩ := execute_bind_eq_ok h
      cases h
      rw [Function.iterate_succ_apply]
      exact ih (Task.fileIn_clean hsamples haction htext hfirst).1 hrest

/-- **One call to take known lines out leaves the second copies and what comes together.**  For
every text at the path of the task, all samples that have a line, all templates and wherever a call
fails: let the task succeed.  Its file is left with the text without the first copy of each sample,
and the step says that nothing changed exactly if there was no copy.  The same task made right after
it, with any templates, finds nothing and looks at its file only, exactly if no sample has a copy in
what was left.  That is so if the samples were untangled; and after as many calls as the file has
lines, whatever it holds. -/
theorem Task.cleans (haction : t.action = .clean samples) (htext : t.fileIn root s = some text) {step : Step}
    (h : execute (t.perform w.files templates root) s = (.ok step, s')) :
    let left := afterCleaning samples (t.path.under root) text
    t.fileIn root s' = some left
    ∧ (step.outcome = .unchanged ↔ Clear samples text)
    ∧ (∀ (w' : Surroundings) (templates' : Templates),
        w'.fault (s'.after (.read (t.path.under root))).calls = none →
        (execute (t.perform w'.files templates' root) s'
            = (.ok ⟨t.what, t.path.slashed, .unchanged⟩, s'.after (.read (t.path.under root)))
          ↔ Clear samples left))
    ∧ (Untangled samples (Text.lines text) → Clear samples left)
    ∧ ∀ n steps s'', (Text.lines text).length ≤ n →
        execute (performAll w.files templates root (List.replicate n t)) s = (.ok steps, s'') →
        ∃ last, t.fileIn root s'' = some last ∧ Clear samples last := by
  intro left
  obtain ⟨hleft, hunchanged⟩ := Task.fileIn_clean hsamples haction htext h
  refine ⟨hleft, hunchanged, fun w' templates' hread => ?_, fun huntangled => ?_,
    fun n steps s'' hn hcalls => ?_⟩
  · exact Task.perform_clean_unchanged_iff hsamples haction hleft hread
  · exact huntangled.clear_afterCleaning hsamples
  · exact ⟨_, Task.fileIn_cleanings hsamples haction htext hcalls, clear_iterate hsamples hn⟩

end

/-- An entry point in which a sample of one line stands twice. -/
def Scene.sampledTwice : Scene where
  tree := { files := [⟨"/work/src/Acme.Api/Program.cs", "// sample\n// sample\n"⟩] }
  descriptor := none
  container := none
  calls := []

/-- The task that takes the sample out. -/
def Task.sampleEndpoint : Task :=
  ⟨"sample endpoint", Locator.entryPoint ⟨"Acme", .routes⟩, .clean [["// sample"]]⟩

/-- The second call takes the second copy out. -/
theorem Task.cleans_twice : ∃ step s',
    execute (Task.sampleEndpoint.perform Surroundings.still.files builtin "/work") .sampledTwice = (.ok step, s')
    ∧ Task.sampleEndpoint.fileIn "/work" s' = some "// sample\n"
    ∧ execute (Task.sampleEndpoint.perform Surroundings.still.files builtin "/work") s'
      ≠ (.ok ⟨"sample endpoint", "src/Acme.Api/Program.cs", .unchanged⟩,
        s'.after (.read "/work/src/Acme.Api/Program.cs")) := by
  obtain ⟨step, s', hrun⟩ : ∃ step s',
    execute (Task.sampleEndpoint.perform Surroundings.still.files builtin "/work")
      .sampledTwice = (.ok step, s') := ⟨_, _, rfl⟩
  have hsamples : ∀ sample ∈ [["// sample"]], sample ≠ [] := by decide
  have htext : Task.sampleEndpoint.fileIn "/work" .sampledTwice
      = some "// sample\n// sample\n" := by decide +kernel
  obtain ⟨hleft, -, hagain, -⟩ := Task.cleans hsamples rfl htext hrun
  have hone : afterCleaning [["// sample"]] (Task.sampleEndpoint.path.under "/work")
      "// sample\n// sample\n"
      = "// sample\n" := by decide +kernel
  have hcopy : ¬ Clear [["// sample"]] "// sample\n" := by decide +kernel
  rw [hone] at hleft hagain
  exact ⟨step, s', hrun, hleft, fun hsame => hcopy ((hagain .still builtin rfl).1 hsame)⟩

end Scaffold
