import Mathlib
import Scaffold.Proofs.Establish

/-!
# What a task leaves in its file

A request that succeeds has carried all its tasks out, and the only files it wrote are theirs.  So
the file of one task is as that task left it unless another task has the same file, and what the
task found there is what the request found (`performAll_split`, `Change.delivers`).

What a declaration leaves follows from the text it found, or that of its template where there was no
file: the same text if the detection is on one of its lines, the text with the block at the anchor
otherwise (`Task.fileIn_declare`).  At the end of a file the block comes behind the old lines, but
the last of these may give a carriage return up to the terminator it gets
(`Declaration.lines_putInto`).
-/

namespace Scaffold

open Scaffold.Path (components)
open Scaffold.Text

/-! ## Lines before an insertion -/

/-- A line that is read again is the same, or it has lost a carriage return at its end. -/
def IsReturned (old new : String) : Prop := new = old ∨ old = new ++ "\r"

theorem Line.isReturned_reread (l : Line) : IsReturned l.text l.reread.text := by
  by_cases hlegible : l.Legible
  · exact .inl (congrArg Line.text (reread_of_legible hlegible))
  · unfold Legible at hlegible
    push Not at hlegible
    obtain ⟨hending, hlast⟩ := hlegible
    obtain ⟨front, hfront⟩ := List.getLast?_eq_some_iff.1 hlast
    have hdrop : dropTail? ['\r'] l.text.toList = some front := dropTail?_eq_some.2 hfront
    refine .inr (String.toList_inj.1 ?_)
    rw [reread, piece, hending, ofPiece]
    simp only [hdrop, String.toList_append, String.toList_ofList]
    exact hfront

/-- A carriage return is a blank. -/
theorem IsReturned.trimEnd_eq {old new : String} (h : IsReturned old new) : trimEnd old = trimEnd new := by
  rcases h with rfl | rfl
  · rfl
  · have hblank : isBlank '\r' = true := by decide
    simp [trimEnd, hblank]

theorem map_trimEnd_of_isReturned {old new : List String} (h : List.Forall₂ IsReturned old new) :
    new.map trimEnd = old.map trimEnd := by
  induction h with
  | nil => rfl
  | cons hfirst _ ih => rw [List.map_cons, List.map_cons, ih, hfirst.trimEnd_eq]

namespace Artifact

/-- A last line that is not empty and can be read is read back whether it is terminated or not. -/
theorem texts_parse_renderLines (path : String) {front : List Line} {last : Line}
    (h : ∀ l ∈ front ++ [last], '\n' ∉ l.text.toList) (hne : last.text ≠ "") (hlegible : last.Legible)
    (closed : Bool) : (parse path (renderLines closed (front ++ [last]))).texts
      = (front.map Line.reread).map Line.text ++ [last.text] := by
  cases closed with
  | true =>
      rw [parse_renderLines_true path h, texts, List.map_append, List.map_append, List.map_singleton,
        Line.reread_of_legible hlegible]
      rfl
  | false =>
      rw [parse_renderLines_false path h hne, texts, List.map_append]
      rfl

/-- A block at the end of a file comes behind its lines. -/
theorem lines_insertBlock_endOfFile (a : Artifact) (block : List String) (separated : Bool) :
    (a.insertBlock .endOfFile block separated).lines = a.lines
      ++ (gapBefore a.texts a.texts.length separated ++ block).map (⟨·, a.endingNear a.texts.length⟩) := by
  have hindent : indentBy "" = id := funext indentBy_empty
  have hlength : a.texts.length = a.lines.length := List.length_map _
  have hafter : gapAfter a.texts (Anchor.atEnd a.texts) = [] := rfl
  simp only [insertBlock, insertLines, Anchor.locate, hafter, List.append_nil]
  simp only [Anchor.atEnd, hindent, List.map_id, hlength, List.take_length, List.drop_length,
    List.append_nil]

/-- The lines of a file that was written with a block at its end. -/
theorem WellRead.lines_insertBlock_endOfFile {a : Artifact} (ha : a.WellRead) {block : List String}
    (hblock : ∀ l ∈ block, FileEdit.PlainLine l) (hends : ∃ l ∈ block.getLast?, l ≠ "")
    (separated : Bool) :
    Text.lines (a.insertBlock .endOfFile block separated).render
      = (a.lines.map Line.reread).map Line.text
        ++ (gapBefore a.texts a.texts.length separated ++ block) := by
  obtain ⟨last, hlast, hne⟩ := hends
  obtain ⟨front, rfl⟩ := List.getLast?_eq_some_iff.1 hlast
  have hwell := ha.insertBlock .endOfFile (fun l hl => (hblock l hl).1) separated
  unfold WellRead at hwell
  rw [← texts_parse a.path, render]
  rw [Artifact.lines_insertBlock_endOfFile] at hwell ⊢
  generalize a.endingNear a.texts.length = ending at hwell ⊢
  generalize hgap : gapBefore a.texts a.texts.length separated = gap at hwell ⊢
  -- the lines that are put in can be read
  have hlegible : ∀ l ∈ gap ++ (front ++ [last]), (Line.mk l ending).Legible := by
    intro l hl _ hreturn
    rcases List.mem_append.1 hl with hl | hl
    · rw [gapBefore_blank l (hgap ▸ hl)] at hreturn
      cases hreturn
    · exact (hblock l hl).2 (List.mem_of_getLast? hreturn)
  have hsame : (((gap ++ front).map (Line.mk · ending)).map Line.reread).map Line.text = gap ++ front := by
    rw [List.map_map, List.map_map]
    refine (List.map_congr_left fun l hl =>
      congrArg Line.text (Line.reread_of_legible (hlegible l ?_))).trans
      (List.map_id _)
    rw [← List.append_assoc]
    exact List.mem_append_left _ hl
  rw [← List.append_assoc, List.map_append, ← List.append_assoc] at hwell ⊢
  rw [List.map_singleton] at hwell ⊢
  rw [texts_parse_renderLines a.path hwell hne (hlegible last (by simp)), List.map_append, List.map_append,
    hsame, List.append_assoc]

end Artifact

/-! ## What a declaration leaves -/

namespace Declaration

/-- The text a file is left with by a declaration. -/
def putInto (d : Declaration) (path text : String) : String :=
  if lineContains text d.detection then text
  else ((Artifact.parse path text).insertBlock d.anchor d.block d.separated).render

/-- The text a declaration begins with: that of its file, or that of its template if there is no
file. -/
def BeginsWith (d : Declaration) (templates : Templates) (ctx : Context) : Option String → String → Prop
  | some text, start => start = text
  | none, start => match d.template with
      | some name => templates name ctx = .ok start
      | none => start = ""

variable {d : Declaration} {path text : String}

/-- A declaration with a template begins with the file or with the template. -/
theorem BeginsWith.of_template {templates : Templates} {ctx : Context} {old : Option String}
    {start name : String}
    (h : d.BeginsWith templates ctx old start) (hname : d.template = some name) :
    (∀ text, old = some text → start = text) ∧ (old = none → ∃ ctx, templates name ctx = .ok start) := by
  unfold BeginsWith at h
  rw [hname] at h
  refine ⟨?_, ?_⟩
  · rintro text rfl
    exact h
  · rintro rfl
    exact ⟨ctx, h⟩

/-- A declaration without a template begins with the file or with nothing. -/
theorem BeginsWith.of_none {templates : Templates} {ctx : Context} {old : Option String} {start : String}
    (h : d.BeginsWith templates ctx old start) (hname : d.template = none) : start = old.getD "" := by
  unfold BeginsWith at h
  rw [hname] at h
  cases old <;> exact h

/-- A declaration that is there leaves the text. -/
theorem putInto_of_contains (h : lineContains text d.detection = true) : d.putInto path text = text := by
  rw [putInto, if_pos h]

/-- A declaration at the end of a file leaves the old lines, and the block behind them if it was not
there. -/
theorem lines_putInto (d : Declaration) (path : String) {text : String} (hanchor : d.anchor = .endOfFile)
    (hblock : ∀ l ∈ d.block, FileEdit.PlainLine l) (hends : ∃ l ∈ d.block.getLast?, l ≠ "")
    (hnew : lineContains text d.detection = false) :
    ∃ old gap, Text.lines (d.putInto path text) = old ++ (gap ++ d.block)
      ∧ List.Forall₂ IsReturned (Text.lines text) old ∧ (∀ l ∈ gap, l = "")
      ∧ (d.separated = false → gap = []) := by
  have hwell := Artifact.wellRead_parse path text
  let a := Artifact.parse path text
  refine ⟨(a.lines.map Line.reread).map Line.text, Artifact.gapBefore a.texts a.texts.length d.separated,
    ?_, ?_, Artifact.gapBefore_blank, ?_⟩
  · rw [putInto, hnew, hanchor, if_neg Bool.false_ne_true]
    exact hwell.lines_insertBlock_endOfFile hblock hends d.separated
  · rw [← Artifact.texts_parse path text, Artifact.texts, List.map_map, List.forall₂_map_left_iff,
      List.forall₂_map_right_iff]
    exact List.forall₂_same.2 fun l _ => l.isReturned_reread
  · intro hplain
    rw [hplain]
    unfold Artifact.gapBefore
    split <;> rfl

end Declaration

section

variable {w : Surroundings} {templates : Templates} {root : String} {s s' : Scene} {t : Task}

/-- What a declaration begins with, as it is read. -/
theorem Declaration.BeginsWith.of_startFrom {d : Declaration} {ctx : Context} {path : String}
    {old : Option String} {current start : Artifact}
    (hcurrent : current = match old with
      | some text => .parse path text
      | none => .absent path)
    (hstart : startFrom templates current d.template ctx = .ok start) : ∃ text,
      d.BeginsWith templates ctx old text
      ∧ start = { Artifact.parse path text with isPresent := start.isPresent } := by
  subst hcurrent
  cases old with
  | some text =>
      rw [startFrom, if_pos (Artifact.isPresent_parse path text)] at hstart
      cases hstart
      exact ⟨text, rfl, rfl⟩
  | none =>
      unfold startFrom at hstart
      unfold BeginsWith
      cases htemplate : d.template with
      | none =>
          rw [htemplate] at hstart
          cases hstart
          exact ⟨"", rfl, rfl⟩
      | some name =>
          rw [htemplate] at hstart
          obtain ⟨text, hmade, rfl⟩ := map_eq_ok hstart
          exact ⟨text, hmade, rfl⟩

/-- What a task leaves that declares something. -/
theorem Task.fileIn_declare {d : Declaration} {ctx : Context} (haction : t.action = .declare d ctx)
    {step : Step} (h : execute (t.perform w.files templates root) s = (.ok step, s')) :
    ∃ start, d.BeginsWith templates ctx (t.fileIn root s) start
      ∧ t.fileIn root s' = some (d.putInto (t.path.under root) start) := by
  obtain ⟨outcome, next, rfl, hdecide, hfile⟩ :=
    Task.fileIn_perform (fun _ _ hne => by cases haction.symm.trans hne) h
  have hcurrent : s.fileAt (t.path.under root) = match t.fileIn root s with
      | some text => .parse (t.path.under root) text
      | none => .absent (t.path.under root) := rfl
  rw [haction] at hdecide
  have hunchanged : outcome = .unchanged → (s.fileAt (t.path.under root)).isPresent = true
      ∧ (s.fileAt (t.path.under root)).containsText d.detection = true :=
    fun houtcome => Action.decide_declare_unchanged_iff.1 ⟨next, houtcome ▸ hdecide⟩
  obtain ⟨start, hstart, hdecide⟩ := bind_eq_ok.1 hdecide
  obtain ⟨text, hbegins, hread⟩ := Declaration.BeginsWith.of_startFrom hcurrent hstart
  have hcontains : start.containsText d.detection = lineContains text d.detection := by
    rw [hread]
    exact Artifact.containsText_parse (t.path.under root) text d.detection
  -- the file that is decided on has the text that the declaration leaves
  have hrender : next.render = d.putInto (t.path.under root) text := by
    rw [Declaration.putInto, ← hcontains]
    split at hdecide
    next hfound =>
      cases hdecide
      rw [if_pos hfound, hread]
      exact Artifact.render_parse (t.path.under root) text
    next hnew =>
      cases hdecide
      rw [if_neg hnew, hread]
      rfl
  refine ⟨text, hbegins, ?_⟩
  rw [hfile, ← hrender]
  split
  next => rfl
  next hleft =>
    -- a file that is not written was there, with the detection on a line
    have houtcome : outcome = .unchanged := by
      cases outcome <;> first | rfl | exact absurd rfl hleft
    obtain ⟨hpresent, hfound⟩ := hunchanged houtcome
    cases hold : t.fileIn root s with
    | none =>
        rw [hold] at hcurrent
        rw [hcurrent] at hpresent
        cases hpresent
    | some old =>
        rw [hold] at hbegins hcurrent
        obtain rfl : text = old := hbegins
        rw [hcurrent, Artifact.containsText_parse] at hfound
        rw [hrender, Declaration.putInto_of_contains hfound]

/-! ## The other files -/

/-- A task leaves every file but its own. -/
theorem Task.leads_elsewhere {place : List Component} (hplace : place ≠ t.place root) :
    Leads (fun s s' => s'.tree.content place = s.tree.content place)
      (t.perform w.files templates root) := by
  intro s
  rcases hrun : execute (t.perform w.files templates root) s with ⟨e | step, s'⟩
  · exact congrFun (Task.content_of_error hrun) place
  · obtain ⟨current, s₁, outcome, next, rfl, hinspect, hdecide, hrest⟩ := Task.perform_ok hrun
    have htree := ((t.reads_inspect (w := w) root).same hinspect).tree
    obtain ⟨-, hpath, -⟩ := t.inspect_spec hinspect
    split at hrest
    next =>
      obtain ⟨-, hcontent⟩ := execute_storeArtifact_ok hrest
      rw [hcontent, (Action.path_decide hdecide).trans hpath, ← htree]
      exact Function.update_of_ne hplace _ _
    next => exact congrArg (MemoryTree.content · place) (hrest ▸ htree)

theorem leads_performAll_elsewhere {place : List Component} {ts : List Task}
    (hts : ∀ t ∈ ts, place ≠ t.place root) :
    Leads (fun s s' => s'.tree.content place = s.tree.content place)
      (performAll w.files templates root ts) :=
  leads_performAll_of_forall (R := fun s s' => s'.tree.content place = s.tree.content place) (fun _ => rfl)
    (fun _ _ _ h h' => h'.trans h) fun t ht => Task.leads_elsewhere (hts t ht)

/-- In tasks that were all carried out each one was.  It found its file as it was at the beginning
if no task before it has the same file, and its file is left as it left it if no task after it has.
-/
theorem performAll_split (before after : List Task) {steps : List Step}
    (h : execute (performAll w.files templates root (before ++ t :: after)) s = (.ok steps, s')) :
    ∃ s₁ s₂ step, execute (t.perform w.files templates root) s₁ = (.ok step, s₂)
      ∧ ((∀ u ∈ before, t.place root ≠ u.place root) → t.fileIn root s₁ = t.fileIn root s)
      ∧ ((∀ u ∈ after, t.place root ≠ u.place root) → t.fileIn root s' = t.fileIn root s₂) := by
  rw [performAll_append] at h
  obtain ⟨steps₁, s₁, hbefore, h⟩ := execute_bind_eq_ok h
  obtain ⟨steps₂, s₃, hrest, h⟩ := execute_bind_eq_ok h
  cases h
  obtain ⟨step, s₂, hstep, hrest⟩ := execute_bind_eq_ok hrest
  obtain ⟨steps₃, s₄, hafter, hrest⟩ := execute_bind_eq_ok hrest
  cases hrest
  exact ⟨s₁, s₂, step, hstep, fun hne => (leads_performAll_elsewhere hne).holds hbefore,
    fun hne => (leads_performAll_elsewhere hne).holds hafter⟩

/-- What is left of a declaration by tasks of which no other has its file. -/
theorem performAll_delivers (before after : List Task) {d : Declaration} {ctx : Context}
    (haction : t.action = .declare d ctx) (hothers : ∀ u ∈ before ++ after, t.place root ≠ u.place root)
    {steps : List Step}
    (h : execute (performAll w.files templates root (before ++ t :: after)) s = (.ok steps, s')) :
    ∃ start, d.BeginsWith templates ctx (t.fileIn root s) start
      ∧ t.fileIn root s' = some (d.putInto (t.path.under root) start) := by
  obtain ⟨hbefore, hafter⟩ := List.forall_mem_append.1 hothers
  obtain ⟨s₁, s₂, step, hstep, hfirst, hlast⟩ := performAll_split before after h
  rw [← hfirst hbefore, hlast hafter]
  exact Task.fileIn_declare haction hstep

/-! ## Requests -/

variable {pluralize : String → String}

/-- Decide whether checkpoints are run after an order, which call the tool. -/
def Order.runsTool : Order → Bool
  | .crud _ | .action _ _ | .service _ _ _ => true
  | .constant _ _ | .enum _ _ => false

theorem Order.turns_runCheckpoints {place : List Component} (o : Order)
    (hw : o.runsTool = true → w.Spares place)
    (options : Options) (l : Locator) : Leads (Scene.Turns place Eq)
      (o.runCheckpoints (w.portsWith templates pluralize) options root l) := by
  cases o with
  | crud _ | action _ _ | service _ _ _ => exact leads_runCheckpoints_spares (hw rfl) options l _
  | constant _ _ | enum _ _ => exact .pure (.refl fun _ => rfl) _

/-- A request that succeeds has carried the tasks of its order out, from the files it found.  What
comes after them leaves every file that is there then, if the tool does. -/
theorem Change.delivers {options : Options} {c : Change} {report : Report} {d : Descriptor}
    (hd : s.descriptor = some d)
    (hmake : execute (c.make (w.portsWith templates pluralize) options root) s = (.ok report, s')) :
    ∃ o site provider s₁ s₂ steps, c.order pluralize = .ok o ∧ site.locator = d.locator
      ∧ s₁.tree = s.tree
      ∧ execute (performAll w.files templates root (o.plan site provider)) s₁ = (.ok steps, s₂)
      ∧ ∀ place, (o.runsTool = true → w.Spares place) → Scene.Turns place Eq s₂ s' := by
  rw [Change.make_eq] at hmake
  obtain ⟨-, _, ⟨⟩⟩ | ⟨o, loaded, p, s₁, horder, hloaded, hlocator, hsame, hmake⟩ :=
    Change.prepared_cases hmake
  obtain rfl : d = loaded := Option.some.inj (hd.symm.trans hloaded)
  obtain ⟨steps, s₂, htasks, hmake⟩ := execute_bind_eq_ok hmake
  obtain ⟨_, s₃, hcontainer, hmake⟩ := execute_bind_eq_ok hmake
  obtain ⟨checkpoints, s₄, hcheckpoints, hmake⟩ := execute_bind_eq_ok hmake
  obtain ⟨_, s₅, hcommit, hmake⟩ := execute_bind_eq_ok hmake
  cases hmake
  refine ⟨o, p.site, p.provider, s₁, s₂, steps, horder, hlocator, hsame.tree, htasks, fun place hw => ?_⟩
  have htrans : ∀ text text' text'' : String, text = text' → text' = text'' → text = text'' :=
    fun _ _ _ => Eq.trans
  exact (((Order.leads_recordContainer_spares o).holds hcontainer).comp htrans
    ((o.turns_runCheckpoints hw options p.site.locator).holds hcheckpoints)).comp htrans
      ((Order.leads_commitDescriptor_spares d _).holds hcommit)

/-- What a task of a request leaves is there when the request has succeeded, if no later task has
its file. -/
theorem Scene.Turns.fileIn {text : String} (h : Scene.Turns (t.place root) Eq s s')
    (htext : t.fileIn root s = some text) : t.fileIn root s' = some text := by
  obtain ⟨_, hnew, rfl⟩ := h text htext
  exact hnew

end

end Scaffold
