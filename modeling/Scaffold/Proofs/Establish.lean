import Mathlib
import Scaffold.Proofs.Artifact.Reload
import Scaffold.Proofs.Presence

/-!
# Putting something into a file, twice

A task that puts a declaration or an import line into a file looks for it first, and it looks again
the next time, in the file as it was written and read once more.  What it put in has to survive
that: a line that is put in is plain, so it is read back whatever terminator it took from its
neighbours and wherever the file ends (`Artifact.WellRead.mem_lines_render`).  So a task that
succeeded has its line in the file, and is done with one look at the file ever after
(`Task.establishes`).
-/

namespace Scaffold

open Scaffold.Path (components)
open Scaffold.Text

/-! ## Lines that are written -/

namespace Artifact

/-- A line that is not empty and can be read is a line of the text that is written. -/
theorem WellRead.mem_lines_render {a : Artifact} (ha : a.WellRead) {l : Line} (hl : l ∈ a.lines)
    (hlegible : l.Legible) (hne : l.text ≠ "") : l.text ∈ Text.lines a.render := by
  have hreread : ∀ {ls : List Line}, l ∈ ls → l.text ∈ (ls.map Line.reread).map Line.text := fun hmem =>
    List.mem_map.2 ⟨_, List.mem_map_of_mem hmem, congrArg Line.text (Line.reread_of_legible hlegible)⟩
  rw [← texts_parse a.path]
  obtain ⟨path, lines, isPresent, majority, closed⟩ := a
  cases closed with
  | true =>
      rw [render, parse_renderLines_true path ha]
      exact hreread hl
  | false =>
      cases lines using List.reverseRecOn with
      | nil => cases hl
      | append_singleton front last =>
          rcases List.mem_append.1 hl with hfront | hlast
          · -- an empty last line is lost, the others are not
            by_cases hblank : last.text = ""
            · rw [render, renderLines_false_blank hblank, parse_renderLines_true path fun x hx =>
                ha x (List.mem_append_left [last] hx)]
              exact hreread hfront
            · rw [render, parse_renderLines_false path ha hblank, texts, List.map_append]
              exact List.mem_append_left _ (hreread hfront)
          · obtain rfl := List.mem_singleton.1 hlast
            rw [render, parse_renderLines_false path ha hne, texts, List.map_append]
            exact List.mem_append_right _ List.mem_cons_self

/-- A file as it is loaded, or as it is made from a template. -/
inductive Loaded : Artifact → Prop
  | text (path content : String) : Loaded (parse path content)
  | nothing (path : String) : Loaded (absent path)

theorem Loaded.wellRead {a : Artifact} (h : a.Loaded) : a.WellRead := by
  cases h with
  | text path content => exact wellRead_parse path content
  | nothing path => exact List.forall_mem_nil _

/-- The lines of a file are those of its text until it is changed. -/
theorem Loaded.texts_eq {a : Artifact} (h : a.Loaded) : a.texts = Text.lines a.render := by
  cases h with
  | text path content => rw [texts_parse, render_parse]
  | nothing path => rfl

theorem loaded_fileAt (s : Scene) (path : String) : (s.fileAt path).Loaded := by
  unfold Scene.fileAt
  split
  · exact .text _ _
  · exact .nothing _

theorem Loaded.startFrom {templates : Templates} {current start : Artifact} {template : Option String}
    {ctx : Context} (h : current.Loaded) (hstart : startFrom templates current template ctx = .ok start) :
    start.Loaded := by
  unfold Scaffold.startFrom synthesize at hstart
  split at hstart
  · cases hstart
    exact h
  · split at hstart
    next name =>
      cases hmade : templates name ctx with
      | error e =>
          rw [hmade] at hstart
          cases hstart
      | ok content =>
          rw [hmade] at hstart
          cases hstart
          exact .text _ content
    next =>
      cases hstart
      exact .nothing _

/-- A line of a block is in the text that is written, at the indent of the block. -/
theorem WellRead.mem_lines_insertBlock {a : Artifact} (ha : a.WellRead) {block : List String}
    (hblock : ∀ l ∈ block, FileEdit.PlainLine l) {b : String} (hb : b ∈ block) (hne : b ≠ "")
    (anchor : Anchor) (separated : Bool) :
    (anchor.locate a.texts).indent ++ b ∈ Text.lines (a.insertBlock anchor block separated).render := by
  have hnew := ha.insertBlock anchor (fun l hl => (hblock l hl).1) separated
  refine hnew.mem_lines_render (l := ⟨_, a.endingNear (anchor.locate a.texts).index⟩) ?_
    (Line.legible_append hne (hblock b hb).2 _ _) ?_
  · have hindented : indentBy (anchor.locate a.texts).indent b = (anchor.locate a.texts).indent ++ b := by
      rw [indentBy, if_neg (by simpa using hne)]
    rw [Artifact.insertBlock, insertLines]
    refine List.mem_append_left _ (List.mem_append_right _ (List.mem_map_of_mem ?_))
    exact List.mem_append_left _ (List.mem_append_right _ (List.mem_map.2 ⟨b, hb, hindented⟩))
  · intro hnil
    exact hne (String.append_eq_empty_iff.1 hnil).2

end Artifact

/-! ## Actions that put something in -/

namespace Action

/-- A line shows that what an action puts in is there. -/
def IsShownBy : Action → String → Prop
  | .declare d _, line => contains line d.detection = true
  | .importLine literal, line => line = literal
  | .file _ _, _ | .clean _, _ | .dependency _ _ _, _ | .reference _ _, _ => False

/-- What an action puts in is on a line of a text. -/
def HoldsIn (a : Action) (text : String) : Prop := ∃ line ∈ Text.lines text, a.IsShownBy line

/-- An action that puts plain lines in, one of which shows that it did. -/
inductive Evident : Action → Prop
  | declare {d : Declaration} {ctx : Context} (hne : d.detection ≠ "")
      (hplain : ∀ l ∈ d.block, FileEdit.PlainLine l)
      (hshown : ∃ l ∈ d.block, contains l d.detection = true) : Evident (.declare d ctx)
  | importLine {literal : String} (hne : literal ≠ "") (hplain : FileEdit.PlainLine literal) :
      Evident (.importLine literal)

variable {a : Action} {templates : Templates} {current next : Artifact} {outcome : Outcome}

theorem Evident.effective (h : a.Evident) : a.Effective := by
  cases h with
  | declare hne hplain hshown =>
      obtain ⟨l, hl, -⟩ := hshown
      exact List.ne_nil_of_mem hl
  | importLine => trivial

/-- What a declaration puts in is in a text that contains the detection. -/
theorem holdsIn_declare_iff {d : Declaration} {ctx : Context} {text : String} :
    (Action.declare d ctx).HoldsIn text ↔ lineContains text d.detection = true := by
  rw [lineContains, List.any_eq_true]
  rfl

/-- What an action puts in is in the file that it leaves, and a file that it does not change is left
as it was. -/
theorem Evident.holdsIn_decide (h : a.Evident) (hcurrent : current.Loaded)
    (hdecide : a.decide templates current = .ok (outcome, next)) :
    a.HoldsIn next.render ∧ (outcome = .unchanged → next = current) := by
  have hwritten : changeOutcome current ≠ .unchanged := by
    unfold changeOutcome
    split <;> nofun
  cases h with
  | @declare d ctx hne hplain hshown =>
      cases Action.decides hdecide with
      | declared hstart hfound =>
          rw [Artifact.containsText, (hcurrent.startFrom hstart).texts_eq] at hfound
          refine ⟨holdsIn_declare_iff.2 hfound, fun hunchanged => ?_⟩
          split at hunchanged
          next hpresent =>
            rw [startFrom_of_present hpresent] at hstart
            cases hstart
            rfl
          next => cases hunchanged
      | declares hstart =>
          obtain ⟨l, hl, hcontains⟩ := hshown
          have hblank : l ≠ "" := by
            rintro rfl
            exact hne (String.toList_eq_nil_iff.1 (List.infix_nil.1 (occursIn_iff.1 hcontains)))
          refine ⟨⟨_, (hcurrent.startFrom hstart).wellRead.mem_lines_insertBlock hplain hl hblank _ _, ?_⟩,
            fun hunchanged => absurd hunchanged hwritten⟩
          rw [IsShownBy, contains, String.toList_append, occursIn_iff]
          exact (occursIn_iff.1 hcontains).trans (List.suffix_append _ _).isInfix
  | @importLine literal hne hplain =>
      cases Action.decides hdecide with
      | imported hfound =>
          rw [Artifact.containsLine, hcurrent.texts_eq, List.any_eq_true] at hfound
          obtain ⟨line, hline, heq⟩ := hfound
          exact ⟨⟨line, hline, beq_iff_eq.1 heq⟩, fun _ => rfl⟩
      | imports =>
          have hline := hcurrent.wellRead.mem_lines_insertBlock (List.forall_mem_singleton.2 hplain)
            (List.mem_singleton_self literal) hne .afterImports false
          rw [Anchor.indent_afterImports, String.empty_append] at hline
          exact ⟨⟨literal, hline, rfl⟩, fun hunchanged => absurd hunchanged hwritten⟩

/-- A file in which what an action puts in is there is left alone. -/
theorem Evident.decide_of_holdsIn (h : a.Evident) (path : String) {text : String}
    (hholds : a.HoldsIn text) :
    ∃ next, a.decide templates (.parse path text) = .ok (.unchanged, next) := by
  cases h with
  | @declare d ctx hne hplain hshown =>
      refine decide_declare_unchanged_iff.2 ⟨Artifact.isPresent_parse path text, ?_⟩
      rw [Artifact.containsText_parse]
      exact holdsIn_declare_iff.1 hholds
  | @importLine literal hne hplain =>
      obtain ⟨line, hline, heq⟩ := hholds
      have hfound : (Artifact.parse path text).containsLine literal = true := by
        rw [Artifact.containsLine, Artifact.texts_parse, List.any_eq_true]
        exact ⟨line, hline, beq_iff_eq.2 heq⟩
      exact ⟨_, by rw [Action.decide, if_pos hfound]⟩

end Action

/-! ## Carrying out -/

section

variable {w : Surroundings} {templates : Templates} {root : String} {s s' : Scene} {t : Task}

/-- A write that fails leaves the files. -/
theorem execute_write_error {path text : String} {e : Error}
    (h : execute (w.files.write path text) s = (.error e, s')) : s'.tree.content = s.tree.content := by
  rw [execute_write] at h
  split at h
  · cases h
    rfl
  · split at h
    · cases h
    · cases h
      rfl

theorem execute_storeArtifact_error {a : Artifact} {e : Error}
    (h : execute (storeArtifact w.files a) s = (.error e, s')) : s'.tree.content = s.tree.content := by
  unfold storeArtifact at h
  cases hparent : Path.parent a.path with
  | none =>
      rw [hparent] at h
      exact execute_write_error h
  | some dir =>
      rw [hparent] at h
      simp only at h
      rw [execute_bind, execute_createDirs] at h
      cases hfault : w.fault (s.after (.makeDirs dir)).calls with
      | some e' =>
          rw [hfault] at h
          cases h
          rfl
      | none =>
          rw [hfault] at h
          exact (execute_write_error h).trans (MemoryTree.content_createDirs _ _)

/-- A task that fails leaves the content of every file. -/
theorem Task.content_of_error {e : Error}
    (h : execute (t.perform w.files templates root) s = (.error e, s')) :
    s'.tree.content = s.tree.content := by
  have hlooked := (t.reads_inspect (w := w) root) s
  rw [Task.perform, execute_bind] at h
  rcases hinspect : execute (t.inspect w.files root) s with ⟨e' | current, s₁⟩ <;>
    rw [hinspect] at h hlooked
  · cases h
    rw [hlooked.tree]
  · have hsame : s₁.tree.content = s.tree.content := by rw [hlooked.tree]
    simp only at h
    rw [execute_bind, execute_lift_except] at h
    rcases hdecide : t.action.decide templates current with e' | ⟨outcome, next⟩ <;> rw [hdecide] at h
    · cases h
      exact hsame
    · simp only at h
      split at h
      next =>
        rw [execute_bind] at h
        rcases hstore : execute (storeArtifact w.files next) s₁ with ⟨e' | u, s₂⟩ <;> rw [hstore] at h
        · cases h
          exact (execute_storeArtifact_error hstore).trans hsame
        · cases h
      next => cases h

/-- A task that does more than to make sure that its file is there reads it. -/
theorem Task.inspect_eq_load (hreads : ∀ template ctx, t.action ≠ .file template ctx) :
    t.inspect w.files root = loadArtifact w.files (t.path.under root) := by
  rw [Task.inspect]
  cases haction : t.action with
  | file template ctx => exact absurd haction (hreads template ctx)
  | declare _ _ | importLine _ | clean _ | dependency _ _ _ | reference _ _ => rfl

/-- Such a task decides on its file as it is, and it leaves what it decided on if that is a change. -/
theorem Task.fileIn_perform (hreads : ∀ template ctx, t.action ≠ .file template ctx) {step : Step}
    (h : execute (t.perform w.files templates root) s = (.ok step, s')) :
    ∃ outcome next, step = ⟨t.what, t.path.slashed, outcome⟩
      ∧ t.action.decide templates (s.fileAt (t.path.under root)) = .ok (outcome, next)
      ∧ t.fileIn root s' = if outcome.changed then some next.render else t.fileIn root s := by
  obtain ⟨current, s₁, outcome, next, rfl, hinspect, hdecide, hrest⟩ := Task.perform_ok h
  have htree := ((t.reads_inspect (w := w) root).same hinspect).tree
  rw [Task.inspect_eq_load hreads, execute_loadArtifact_eq] at hinspect
  split at hinspect
  · cases hinspect
  · obtain ⟨hcurrent, rfl⟩ := Prod.ext_iff.1 hinspect
    obtain rfl := Except.ok.inj hcurrent
    refine ⟨outcome, next, rfl, hdecide, ?_⟩
    split at hrest
    next hchanged =>
      have hpath : next.path = t.path.under root := by
        rw [Action.path_decide hdecide, Scene.fileAt]
        split
        · exact Artifact.path_parse _ _
        · rfl
      obtain ⟨-, hcontent⟩ := execute_storeArtifact_ok hrest
      rw [if_pos hchanged, Task.fileIn, hcontent, hpath]
      exact Function.update_self _ _ _
    next hunchanged => rw [if_neg hunchanged, hrest, Task.fileIn, htree, ← Task.fileIn]

theorem Action.Evident.reads (ht : t.action.Evident) (template : String) (ctx : Context) :
    t.action ≠ .file template ctx := by
  intro haction
  rw [haction] at ht
  cases ht

theorem Action.Evident.inspect_eq (ht : t.action.Evident) :
    t.inspect w.files root = loadArtifact w.files (t.path.under root) := Task.inspect_eq_load ht.reads

/-- A task that succeeded has put its line into its file, or found it there. -/
theorem Action.Evident.holdsIn_fileIn (ht : t.action.Evident) {step : Step}
    (h : execute (t.perform w.files templates root) s = (.ok step, s')) :
    ∃ text, t.fileIn root s' = some text ∧ t.action.HoldsIn text := by
  obtain ⟨outcome, next, rfl, hdecide, hfile⟩ := Task.fileIn_perform ht.reads h
  obtain ⟨hholds, hsame⟩ := ht.holdsIn_decide (Artifact.loaded_fileAt s _) hdecide
  split at hfile
  next => exact ⟨next.render, hfile, hholds⟩
  next hunchanged =>
    -- the file is left alone, and it is there as it has a line
    have hleft : outcome = .unchanged := by
      cases outcome <;> first | rfl | exact absurd rfl hunchanged
    rw [hsame hleft, Scene.fileAt] at hholds
    cases hcontent : s.tree.content (components (t.path.under root)) with
    | none =>
        rw [hcontent] at hholds
        obtain ⟨line, hline, -⟩ := hholds
        cases hline
    | some text =>
        rw [hcontent] at hholds
        exact ⟨text, hfile.trans hcontent, by rwa [Artifact.render_parse] at hholds⟩

/-- **A task that puts something in establishes it, and is done with a look at the file from then
on.**  For every tree, with any content at the path of the task or no file there, for all templates,
and wherever a call fails: let the task put plain lines in, one of which shows that it did.  If the
task succeeds, what it puts in is on a line of its file.  It wrote its file at most, once, and it
left every other file.  Made again, with any templates and whatever fails then, it looks at its file
and finds its work done, unless it cannot read it.  A task that fails leaves the content of every
file. -/
theorem Task.establishes (ht : t.action.Evident) :
    (∀ step s', execute (t.perform w.files templates root) s = (.ok step, s') →
      (∃ text, t.fileIn root s' = some text ∧ t.action.HoldsIn text)
      ∧ s.Writes (if step.outcome.changed then [t.path.under root] else []) s'
      ∧ (∀ place, place ≠ t.place root → s'.tree.content place = s.tree.content place)
      ∧ ∀ (w' : Surroundings) (templates' : Templates),
          execute (t.perform w'.files templates' root) s'
            = (match w'.fault (s'.after (.read (t.path.under root))).calls with
              | some e => .error e
              | none => .ok ⟨t.what, t.path.slashed, .unchanged⟩, s'.after (.read (t.path.under root))))
    ∧ ∀ e s', execute (t.perform w.files templates root) s = (.error e, s') →
      s'.tree.content = s.tree.content := by
  refine ⟨fun step s' h => ?_, fun e s' h => Task.content_of_error h⟩
  have hclean : ∀ samples, t.action = .clean samples → t.IsThere root s := by
    intro samples haction
    rw [haction] at ht
    cases ht
  have htold := Task.told_of_step ht.effective hclean h
  obtain ⟨text, htext, hholds⟩ := ht.holdsIn_fileIn h
  refine ⟨⟨text, htext, hholds⟩, htold.writes, htold.frame, fun w' templates' => ?_⟩
  have hload := execute_loadArtifact_eq (w := w') (s := s') (t.path.under root)
  rw [← ht.inspect_eq] at hload
  cases hfault : w'.fault (s'.after (.read (t.path.under root))).calls with
  | some e =>
      rw [hfault] at hload
      rw [Task.perform, execute_bind, hload]
  | none =>
      have hfile : s'.fileAt (t.path.under root) = .parse (t.path.under root) text := by
        rw [Scene.fileAt, show s'.tree.content (components (t.path.under root)) = _ from htext]
      rw [hfault, hfile] at hload
      obtain ⟨next, hdecide⟩ : ∃ next, t.action.decide templates' (.parse (t.path.under root) text)
          = .ok (.unchanged, next) := ht.decide_of_holdsIn (t.path.under root) hholds
      exact Task.execute_perform_unchanged hload hdecide

end

/-- A project with an environment file that ends in a carriage return. -/
def Scene.unterminated : Scene where
  tree := { files := [⟨"/work/.env", "HOST=here\r"⟩] }
  descriptor := none
  container := none
  calls := []

/-- An entry of the environment file. -/
def Task.entry : Task :=
  ⟨"environment entry", Locator.environment ⟨"Acme", .routes⟩,
    .declare ⟨"MODE=", ["MODE=test"], .endOfFile, false, none⟩ (Site.mk ⟨"Acme", .routes⟩ 0).context⟩

/-- An entry goes behind a line with a carriage return, and it is not put in twice. -/
theorem Task.establishes_entry : ∃ step s',
    execute (Task.entry.perform Surroundings.still.files builtin "/work") .unterminated = (.ok step, s')
    ∧ (∃ text, Task.entry.fileIn "/work" s' = some text ∧ Task.entry.action.HoldsIn text)
    ∧ execute (Task.entry.perform Surroundings.still.files builtin "/work") s'
      = (.ok ⟨"environment entry", ".env", .unchanged⟩, s'.after (.read "/work/.env")) := by
  obtain ⟨step, s', hrun⟩ : ∃ step s',
    execute (Task.entry.perform Surroundings.still.files builtin "/work")
      .unterminated = (.ok step, s') := ⟨_, _, rfl⟩
  have hevident : Task.entry.action.Evident :=
    .declare (by decide) (by decide) ⟨"MODE=test", List.mem_singleton_self _, by decide⟩
  obtain ⟨hholds, -, -, hagain⟩ := (Task.establishes hevident).1 step s' hrun
  exact ⟨step, s', hrun, hholds, hagain .still builtin⟩

end Scaffold
