import Mathlib
import Scaffold.Proofs.Decision
import Scaffold.Proofs.Effect
import Scaffold.Proofs.Lossless
import Scaffold.Proofs.Outcome
import Scaffold.Proofs.Plan.Entry

/-!
# What is kept of the files

However a request ends, no file that was there is gone, and what it loses of the characters it had
is little (`Change.preserves`): a file that is no manifest of the project loses nothing, only that
runs of lines that match the sample code of a new project are cut out of the entry point.

The tree, the descriptor, the templates, the plurals and the calls that fail are arbitrary here.
-/

namespace Scaffold

open Scaffold.Path (components)

/-! ## How the text of a file turns -/

/-- Characters were put in, and the others stay in their order. -/
def Added (old new : String) : Prop := old.toList.Sublist new.toList

theorem Added.refl (text : String) : Added text text := List.Sublist.refl _

theorem Added.trans {text text' text'' : String} (h : Added text text') (h' : Added text' text'') :
    Added text text'' := List.Sublist.trans h h'

/-- Sample code was cut out, and then characters were put in. -/
def Tidied (old new : String) : Prop := ∃ cleaned, CutRuns Site.weatherSample old cleaned ∧ Added cleaned new

theorem Tidied.of_added {old new : String} (h : Added old new) : Tidied old new :=
  ⟨old, .refl _ old, h⟩

/-- The file at a place is still there if it was, and its text turned in some way. -/
def Scene.Turns (place : List Component) (R : String → String → Prop) (s s' : Scene) : Prop :=
  ∀ old, s.tree.content place = some old → ∃ new, s'.tree.content place = some new ∧ R old new

namespace Scene.Turns

variable {place : List Component} {R R' R'' : String → String → Prop} {s s' s'' : Scene}

theorem of_content (hR : ∀ text, R text text) (h : s'.tree.content place = s.tree.content place) :
    Turns place R s s' := fun old hold => ⟨old, h.trans hold, hR old⟩

theorem refl (hR : ∀ text, R text text) (s : Scene) : Turns place R s s := of_content hR rfl

theorem comp (hR : ∀ text text' text'', R text text' → R' text' text'' → R'' text text'')
    (h : Turns place R s s') (h' : Turns place R' s' s'') : Turns place R'' s s'' := by
  intro old hold
  obtain ⟨mid, hmid, hold'⟩ := h old hold
  obtain ⟨new, hnew, hmid'⟩ := h' mid hmid
  exact ⟨new, hnew, hR _ _ _ hold' hmid'⟩

theorem mono (hR : ∀ text text', R text text' → R' text text') (h : Turns place R s s') :
    Turns place R' s s' := by
  intro old hold
  obtain ⟨new, hnew, hturn⟩ := h old hold
  exact ⟨new, hnew, hR _ _ hturn⟩

end Scene.Turns

/-! ## Tasks -/

/-- How an action turns the text of its file. -/
def Action.Turns : Action → String → String → Prop
  | .file _ _, old, new => new = old
  | .declare _ _, old, new | .importLine _, old, new => Added old new
  | .clean samples, old, new => CutRuns samples old new
  | .dependency _ _ _, _, _ | .reference _ _, _, _ => True

theorem Action.Turns.refl (a : Action) (text : String) : a.Turns text text := by
  cases a with
  | file name ctx => rfl
  | declare d ctx => exact Added.refl text
  | importLine literal => exact Added.refl text
  | clean samples => exact CutRuns.refl samples text
  | dependency _ _ _ | reference _ _ => trivial

theorem Artifact.path_editAll (a : Artifact) (es : List LineEdit) : (a.editAll es).path = a.path := by
  unfold editAll
  induction es generalizing a with
  | nil => rfl
  | cons e es ih =>
      rw [List.foldl_cons, ih]
      cases e <;> rfl

theorem path_removeSamples (samples : List (List String)) (a : Artifact) :
    (removeSamples samples a).2.path = a.path := by
  unfold removeSamples
  generalize false = removed
  induction samples generalizing a removed with
  | nil => rfl
  | cons sample samples ih =>
      rw [List.foldl_cons]
      cases hremove : a.removeSequence? sample with
      | none => simpa only [hremove] using ih a removed
      | some b =>
          simp only [hremove]
          rw [ih]
          unfold Artifact.removeSequence? at hremove
          split at hremove
          · cases hremove
          · obtain ⟨i, -, rfl⟩ := Option.map_eq_some_iff.1 hremove
            rfl

section

variable {templates : Templates} {current start next : Artifact} {outcome : Outcome}

theorem Artifact.path_parse (path content : String) : (parse path content).path = path := by
  unfold parse
  simp only
  split <;> rfl

theorem Artifact.isPresent_parse (path content : String) : (parse path content).isPresent = true := by
  unfold parse
  simp only
  split <;> rfl

theorem path_synthesize {path : String} {template : Option String} {ctx : Context}
    (h : synthesize templates path template ctx = .ok start) : start.path = path := by
  cases template with
  | none =>
      cases h
      rfl
  | some name =>
      obtain ⟨text, -, rfl⟩ := map_eq_ok h
      exact Artifact.path_parse path text

theorem path_startFrom {template : Option String} {ctx : Context}
    (h : startFrom templates current template ctx = .ok start) : start.path = current.path := by
  unfold startFrom at h
  split at h
  · cases h
    rfl
  · exact path_synthesize h

theorem MergeDecides.path {ctx : Context} {merge? : List String → Option (List LineEdit)}
    (h : MergeDecides templates current ctx merge? outcome next) : next.path = current.path := by
  cases h with
  | rests => rfl
  | edits hstart => exact (Artifact.path_editAll _ _).trans (path_startFrom hstart)

/-- A file stays where it is. -/
theorem Action.path_decide {a : Action} (h : a.decide templates current = .ok (outcome, next)) :
    next.path = current.path := by
  cases Action.decides h with
  | there => rfl
  | made _ hmade => exact path_synthesize hmade
  | declared hstart => exact path_startFrom hstart
  | @declares d ctx start hstart => exact (path_startFrom hstart : start.path = current.path)
  | imported => rfl
  | imports => rfl
  | @cleans samples cleaned hremove =>
      have hpath := path_removeSamples samples current
      rwa [hremove] at hpath
  | clean => rfl
  | depends hmerge => exact hmerge.path
  | refers hmerge => exact hmerge.path

/-- What an action decides to write over a text. -/
theorem Action.turns_decide {a : Action} {path text : String} (hpresent : current.isPresent = true)
    (hcurrent : (∀ template ctx, a ≠ .file template ctx) → current = .parse path text)
    (h : a.decide templates current = .ok (outcome, next)) (hchanged : outcome.changed = true) :
    a.Turns text next.render := by
  have hrender : current = .parse path text → current.render = text := by
    rintro rfl
    exact Artifact.render_parse path text
  cases Action.decides h with
  | there => cases hchanged
  | made habsent => cases hpresent.symm.trans habsent
  | declared =>
      rw [hpresent] at hchanged
      cases hchanged
  | @declares d ctx start hstart =>
      rw [startFrom_of_present hpresent] at hstart
      cases hstart
      have hadded := Artifact.sublist_insertBlock current d.anchor d.block d.separated
      rwa [hrender (hcurrent (by rintro _ _ ⟨⟩))] at hadded
  | imported => cases hchanged
  | @imports literal =>
      have hadded := Artifact.sublist_insertBlock current .afterImports [literal] false
      rwa [hrender (hcurrent (by rintro _ _ ⟨⟩))] at hadded
  | @cleans samples cleaned hremove =>
      have hwell : current.WellRead := hcurrent (by rintro _ _ ⟨⟩) ▸ Artifact.wellRead_parse path text
      have hcut := hwell.cutRuns samples
      rwa [hrender (hcurrent (by rintro _ _ ⟨⟩)), hremove] at hcut
  | clean => cases hchanged
  | depends | refers => trivial

end

section

variable {w : Surroundings} {templates : Templates} {root : String} {s : Scene}

/-- What a task sees of its file. -/
theorem Task.inspect_spec (t : Task) {a : Artifact} {s' : Scene}
    (h : execute (t.inspect w.files root) s = (.ok a, s')) :
    s.Same .look s' ∧ a.path = t.path.under root
      ∧ ∀ text, s.tree.content (t.place root) = some text → a.isPresent = true
        ∧ ((∀ template ctx, t.action ≠ .file template ctx) → a = .parse (t.path.under root) text) := by
  have hload : execute (loadArtifact w.files (t.path.under root)) s = (.ok a, s') →
      s.Same .look s' ∧ a.path = t.path.under root
        ∧ ∀ text, s.tree.content (t.place root) = some text → a.isPresent = true
          ∧ a = .parse (t.path.under root) text := by
    intro h
    obtain ⟨r, s₁, hrun, hsame, hread, -⟩ := execute_loadArtifact (w := w) (s := s) (t.path.under root)
    cases hrun.symm.trans h
    have ha := hread a rfl
    refine ⟨hsame, ?_, fun text htext => ?_⟩
    · rw [ha]
      split
      · exact Artifact.path_parse _ _
      · rfl
    · rw [Task.place] at htext
      rw [htext] at ha
      rw [ha]
      exact ⟨Artifact.isPresent_parse _ _, rfl⟩
  unfold Task.inspect at h
  cases haction : t.action with
  | file template ctx =>
      rw [haction] at h
      simp only at h
      rw [execute_bind, execute_pathExists] at h
      have hsame : s.Same .look (s.after (.probe (t.path.under root))) :=
        .after s (Reach.look_le _)
      have hthere : ∀ text, s.tree.content (t.place root) = some text →
          s.tree.hasPath (t.path.under root) = true := by
        intro text htext
        rw [MemoryTree.hasPath, MemoryTree.read?_eq_content,
          show s.tree.content (components _) = _ from htext]
        rfl
      cases hpath : s.tree.hasPath (t.path.under root) <;> rw [hpath] at h hthere <;> cases h
      · exact ⟨hsame, rfl, fun text htext => absurd (hthere text htext) Bool.false_ne_true⟩
      · exact ⟨hsame, rfl, fun text htext => ⟨rfl, fun hne => absurd rfl (hne template ctx)⟩⟩
  | declare _ _ | importLine _ | clean _ | dependency _ _ _ | reference _ _ =>
      rw [haction] at h
      obtain ⟨hsame, hpath, hseen⟩ := hload h
      exact ⟨hsame, hpath, fun text htext => ⟨(hseen text htext).1, fun _ => (hseen text htext).2⟩⟩

theorem execute_write_content (path text : String) (place : List Component) :
    (execute (w.files.write path text) s).2.tree.content place = s.tree.content place
      ∨ place = components path
        ∧ (execute (w.files.write path text) s).2.tree.content place = some text := by
  rw [execute_write]
  cases w.fault (s.after (.write path text)).calls with
  | some e => exact .inl rfl
  | none =>
      cases hcan : s.tree.canWrite path with
      | false =>
          simp only [MemoryTree.write, hcan]
          exact .inl rfl
      | true =>
          obtain ⟨tree, hwrite, hcontent, -⟩ := MemoryTree.write_of_canWrite hcan text
          simp only [hwrite]
          rw [hcontent]
          by_cases hplace : place = components path
          · subst hplace
            exact .inr ⟨rfl, Function.update_self _ _ _⟩
          · exact .inl (Function.update_of_ne hplace _ _)

/-- A file that is stored has the text it was stored with, unless a call failed. -/
theorem execute_storeArtifact_content (a : Artifact) (place : List Component) :
    (execute (storeArtifact w.files a) s).2.tree.content place = s.tree.content place
      ∨ place = components a.path
        ∧ (execute (storeArtifact w.files a) s).2.tree.content place = some a.render := by
  unfold storeArtifact
  cases Path.parent a.path with
  | none => exact execute_write_content _ _ place
  | some dir =>
      simp only
      rw [execute_bind, execute_createDirs]
      cases w.fault (s.after (.makeDirs dir)).calls with
      | some e => exact .inl rfl
      | none =>
          have hwrite := execute_write_content (w := w) (s := { s.after (.makeDirs dir) with
            tree := s.tree.createDirs (components dir) }) a.path a.render place
          simpa only [MemoryTree.content_createDirs] using hwrite

theorem execute_bind_pure_snd {α β : Type} (x : InScene α) (b : β) (s : Scene) :
    (execute (x >>= fun _ => pure b) s).2 = (execute x s).2 := by
  rw [execute_bind]
  rcases execute x s with ⟨e | a, s'⟩ <;> rfl

theorem Task.reads_inspect (t : Task) (root : String) : Reads .look (t.inspect w.files root) := by
  unfold Task.inspect
  cases t.action with
  | file template ctx =>
      refine Reads.bind (reads_pathExists w _) fun found => ?_
      cases found <;> exact .pure _
  | declare _ _ | importLine _ | clean _ | dependency _ _ _ | reference _ _ =>
      exact reads_loadArtifact _

/-- How a task turns the text of the file at a place. -/
def Task.TurnsAt (root : String) (place : List Component) (t : Task) (old new : String) : Prop :=
  if place = t.place root then t.action.Turns old new else new = old

theorem Task.TurnsAt.refl (t : Task) (root : String) (place : List Component) (text : String) :
    t.TurnsAt root place text text := by
  unfold TurnsAt
  split
  · exact Action.Turns.refl _ text
  · rfl

theorem Task.leads_perform (t : Task) (place : List Component) :
    Leads (Scene.Turns place (t.TurnsAt root place)) (t.perform w.files templates root) := by
  intro s
  have hrefl := TurnsAt.refl t root place
  unfold Task.perform
  have hsame := t.reads_inspect (w := w) root s
  rw [execute_bind]
  rcases hinspect : execute (t.inspect w.files root) s with ⟨e | current, s₁⟩ <;>
    rw [hinspect] at hsame
  · exact .of_content hrefl (congrArg (MemoryTree.content · place) hsame.tree)
  · have hcontent : s₁.tree.content place = s.tree.content place :=
      congrArg (MemoryTree.content · place) hsame.tree
    obtain ⟨-, hpath, hseen⟩ := t.inspect_spec hinspect
    simp only
    rw [execute_bind, execute_lift_except]
    cases hdecide : t.action.decide templates current with
    | error e => exact .of_content hrefl hcontent
    | ok decided =>
        obtain ⟨outcome, next⟩ := decided
        simp only
        split
        next hchanged =>
          have hstored := execute_storeArtifact_content (w := w) (s := s₁) next place
          intro old hold
          rw [← hcontent] at hold
          rw [execute_bind_pure_snd]
          rcases hstored with hstored | ⟨hplace, hstored⟩
          · exact ⟨old, hstored.trans hold, hrefl old⟩
          · rw [(Action.path_decide hdecide).trans hpath] at hplace
            rw [hcontent, hplace] at hold
            obtain ⟨hpresent, hcurrent⟩ := hseen old hold
            refine ⟨next.render, hstored, ?_⟩
            change place = t.place root at hplace
            rw [TurnsAt, if_pos hplace]
            exact Action.turns_decide hpresent hcurrent hdecide hchanged
        · exact .of_content hrefl hcontent

/-- How tasks turn the text of a file, if each of them turns it in some way. -/
theorem leads_performAll_turns {R : String → String → Prop} (hrefl : ∀ text, R text text)
    (htrans : ∀ text text' text'', R text text' → R text' text'' → R text text'')
    (place : List Component) {ts : List Task}
    (hts : ∀ t ∈ ts, ∀ old new, t.TurnsAt root place old new → R old new) :
    Leads (Scene.Turns place R) (performAll w.files templates root ts) :=
  leads_performAll_of_forall (.refl hrefl) (fun _ _ _ => .comp htrans) fun t ht =>
    (t.leads_perform place).mono fun _ _ => .mono (hts t ht)

/-! ## Plans -/

/-- What is kept of the text of the file at a place of a project: nothing is said of a manifest,
sample code may have been cleaned out of the entry point, and no other file loses anything. -/
structure Locator.Keeps (l : Locator) (root : String) (place : List Component) (old new : String) :
    Prop where
  tidied : (∀ layer, layer ≠ .root → place ≠ components ((l.manifest layer).under root)) →
    Tidied old new
  added : (∀ layer, layer ≠ .root → place ≠ components ((l.manifest layer).under root)) →
    place ≠ components (l.entryPoint.under root) → Added old new

variable {l : Locator} {place : List Component}

theorem Locator.Keeps.of_added {old new : String} (h : Added old new) : l.Keeps root place old new :=
  ⟨fun _ => .of_added h, fun _ _ => h⟩

/-- A task that only puts text in adds to every file that is no manifest. -/
theorem Task.PutsIn.added {t : Task} (ht : t.PutsIn l)
    (hplace : ∀ layer, layer ≠ .root → place ≠ components ((l.manifest layer).under root))
    {old new : String} (h : t.TurnsAt root place old new) : Added old new := by
  unfold TurnsAt at h
  split at h
  next hhere =>
    unfold PutsIn at ht
    cases haction : t.action <;> rw [haction] at ht h
    case file => exact h ▸ .refl new
    case declare => exact h
    case importLine => exact h
    case clean => exact ht.elim
    all_goals
      obtain ⟨layer, hlayer, hpath⟩ := ht
      exact absurd (hhere.trans (by rw [Task.place, hpath])) (hplace layer hlayer)
  next => exact h ▸ .refl new

/-- A task that leaves the entry point aside does not change it. -/
theorem Task.IsAside.unchanged {t : Task} (ht : t.IsAside) {old new : String}
    (h : t.TurnsAt root (components (l.entryPoint.under root)) old new) : new = old := by
  unfold TurnsAt at h
  split at h
  next hhere =>
    rcases ht with ⟨template, ctx, haction⟩ | hends
    · rwa [haction] at h
    · exact absurd hhere.symm (hends.place_ne l root)
  next => exact h

/-- Texts turn in one way and then in another. -/
theorem Leads.turns {α β : Type} {R R' R'' : String → String → Prop} {x : InScene α}
    {f : α → InScene β} (hx : Leads (Scene.Turns place R) x)
    (hf : ∀ a, Leads (Scene.Turns place R') (f a))
    (hfirst : ∀ text text', R text text' → R'' text text')
    (hboth : ∀ text text' text'', R text text' → R' text' text'' → R'' text text'') :
    Leads (Scene.Turns place R'') (x >>= f) :=
  hx.seq hf (fun _ _ => .mono hfirst) (fun _ _ _ => .comp hboth)

/-- Texts turn in one way and are left as they are then. -/
theorem Leads.turns_of_same {α β : Type} {R : String → String → Prop} {x : InScene α}
    {f : α → InScene β} (hx : Leads (Scene.Turns place R) x)
    (hf : ∀ a, Leads (Scene.Turns place Eq) (f a)) : Leads (Scene.Turns place R) (x >>= f) :=
  hx.turns hf (fun _ _ h => h) fun _ _ _ h heq => heq ▸ h

/-- What is kept of the entry point by tasks that clean it and leave it aside before. -/
theorem leads_cleaning {before after : List Task} {what : String}
    (hbefore : ∀ t ∈ before, t.IsAside)
    (hafter : Leads (Scene.Turns (components (l.entryPoint.under root)) Added)
      (performAll w.files templates root after)) :
    Leads (Scene.Turns (components (l.entryPoint.under root)) Tidied) (performAll w.files templates root
      (before ++ ⟨what, l.entryPoint, .clean Site.weatherSample⟩ :: after)) := by
  have hunchanged : Leads (Scene.Turns (components (l.entryPoint.under root)) fun old new => new = old)
      (performAll w.files templates root before) :=
    leads_performAll_turns (R := fun old new => new = old) (fun _ => rfl)
      (fun _ _ _ h h' => h'.trans h) _
      fun t ht _ _ => (hbefore t ht).unchanged
  have hclean : Leads (Scene.Turns (components (l.entryPoint.under root))
      (CutRuns Site.weatherSample))
      (Task.perform w.files templates root ⟨what, l.entryPoint, .clean Site.weatherSample⟩) := by
    refine (Task.leads_perform _ _).mono fun _ _ => .mono fun old new hturns => ?_
    have hhere : components (l.entryPoint.under root)
        = Task.place root ⟨what, l.entryPoint, .clean Site.weatherSample⟩ := rfl
    rw [Task.TurnsAt, if_pos hhere] at hturns
    exact hturns
  have hrest : Leads (Scene.Turns (components (l.entryPoint.under root)) Tidied)
      (performAll w.files templates root (⟨what, l.entryPoint, .clean Site.weatherSample⟩ :: after)) :=
    hclean.turns (fun step => hafter.turns (fun steps => .pure (.refl Added.refl) _) (fun _ _ h => h)
        fun _ _ _ => Added.trans)
      (fun old new h => ⟨new, h, .refl new⟩) fun old mid new h h' => ⟨mid, h, h'⟩
  rw [performAll_append]
  exact hunchanged.turns (fun steps => hrest.turns_of_same fun steps' => .pure (.refl fun _ => rfl) _)
    (fun old new h => .of_added (h ▸ .refl new)) fun _ _ _ h h' => h ▸ h'

/-- What is kept of a file by the tasks of a plan. -/
theorem Gentle.leads {ts : List Task} (h : Gentle l ts) :
    Leads (Scene.Turns place (l.Keeps root place)) (performAll w.files templates root ts) := by
  by_cases hmanifest : ∃ layer, layer ≠ .root ∧ place = components ((l.manifest layer).under root)
  · have hall : Leads (Scene.Turns place fun _ _ => True) (performAll w.files templates root ts) :=
      leads_performAll_turns (fun _ => trivial) (fun _ _ _ _ _ => trivial) place
        fun _ _ _ _ _ => trivial
    obtain ⟨layer, hlayer, hplace⟩ := hmanifest
    exact hall.mono fun _ _ => .mono fun _ _ _ =>
      ⟨fun hnot => absurd hplace (hnot layer hlayer), fun hnot => absurd hplace (hnot layer hlayer)⟩
  · have hplace : ∀ layer, layer ≠ .root → place ≠ components ((l.manifest layer).under root) :=
      fun layer hlayer heq => hmanifest ⟨layer, hlayer, heq⟩
    have hadded : ∀ {ts : List Task}, (∀ t ∈ ts, t.PutsIn l) →
        Leads (Scene.Turns place Added) (performAll w.files templates root ts) := fun hts =>
      leads_performAll_turns Added.refl (fun _ _ _ => Added.trans) place
        fun t ht _ _ hturns => (hts t ht).added hplace hturns
    cases h with
    | plain hts => exact (hadded hts).mono fun _ _ => .mono fun _ _ => .of_added
    | @cleaning before after what hbefore hafter =>
        have hafter := hadded hafter
        by_cases hentry : place = components (l.entryPoint.under root)
        · subst hentry
          exact (leads_cleaning (fun t ht => (hbefore t ht).2) hafter).mono fun _ _ =>
            .mono fun _ _ h => ⟨fun _ => h, fun _ hne => absurd rfl hne⟩
        · have hclean : Leads (Scene.Turns place Added) (Task.perform w.files templates root
              ⟨what, l.entryPoint, .clean Site.weatherSample⟩) := by
            refine (Task.leads_perform _ place).mono fun _ _ => .mono fun old new hturns => ?_
            have hother : place ≠ Task.place root ⟨what, l.entryPoint, .clean Site.weatherSample⟩ :=
              hentry
            rw [Task.TurnsAt, if_neg hother] at hturns
            exact hturns ▸ .refl new
          have hboth : ∀ text text' text'', Added text text' → Added text' text'' → Added text text'' :=
            fun _ _ _ => Added.trans
          have hpure : ∀ {α : Type} (a : α), Leads (Scene.Turns place Added) (pure a : InScene α) :=
            fun a => .pure (.refl Added.refl) a
          rw [performAll_append]
          refine Leads.mono ?_ fun _ _ => .mono fun _ _ => .of_added
          exact (hadded fun t ht => (hbefore t ht).1).turns (fun steps => Leads.turns
            (hclean.turns (fun step => hafter.turns (fun _ => hpure _) (fun _ _ h => h) hboth)
              (fun _ _ h => h) hboth) (fun _ => hpure _) (fun _ _ h => h) hboth) (fun _ _ h => h) hboth

/-! ## Requests -/

/-- The tool leaves the file at a place as it is if it is there. -/
def Surroundings.Spares (w : Surroundings) (place : List Component) : Prop :=
  ∀ calls t old, t.content place = some old → (w.leaves calls t).content place = some old

theorem Scene.Same.turns {r : Reach} {s s' : Scene} (h : s.Same r s') : Scene.Turns place Eq s s' :=
  .of_content (fun _ => rfl) (congrArg (MemoryTree.content · place) h.tree)

variable {pluralize : String → String}

theorem leads_runTool_spares (hw : w.Spares place) (arguments : List String) :
    Leads (Scene.Turns place Eq) (runTool (w.portsWith templates pluralize) root arguments) := by
  have hpure : ∀ {α : Type} (x : Except Error α), Leads (Scene.Turns place Eq) (x : InScene α) :=
    fun x => .lift_except (.refl fun _ => rfl) x
  refine Leads.turns_of_same (fun s => ?_) (fun result => ?_)
  · rw [execute_attempt, execute_runCommand]
    exact fun old hold => ⟨old, hw _ _ old hold, rfl⟩
  · rcases result with (_ | cause | _ | _) | output
    · exact hpure (.error _)
    · simp only
      split
      · exact hpure (.ok _)
      · exact hpure (.error _)
    · exact hpure (.error _)
    · exact hpure (.error _)
    · simp only
      split <;> exact hpure (.ok _)

namespace Order

theorem leads_runCheckpoints_spares (hw : w.Spares place) (options : Options) (l' : Locator)
    (o : Order) : Leads (Scene.Turns place Eq)
      (o.runCheckpoints (w.portsWith templates pluralize) options root l') :=
  runCheckpoints_ind (motive := fun x => Leads (Scene.Turns place Eq) x) (.pure (.refl fun _ => rfl))
    (fun hx hf => hx.turns hf (fun _ _ h => h) fun _ _ _ => Eq.trans) (leads_runTool_spares hw)
    (fun path => .of_reads (fun _ _ => Scene.Same.turns) (reads_listFiles (r := .look) w path)) options o

theorem leads_recordContainer_spares (o : Order) : Leads (Scene.Turns place Eq)
    (o.recordContainer (w.portsWith templates pluralize)) := by
  refine recordContainer_ind (motive := fun x => Leads (Scene.Turns place Eq) x)
    (.pure (.refl fun _ => rfl) ()) (fun c s => ?_) o
  rw [execute_saveContainer]
  cases w.fault (s.after (.saveContainer c)).calls <;> exact .of_content (fun _ => rfl) rfl

theorem leads_commitDescriptor_spares (loaded changed : Descriptor) : Leads (Scene.Turns place Eq)
    (commitDescriptor (w.portsWith templates pluralize) root loaded changed) := by
  unfold commitDescriptor
  split
  · exact .pure (.refl fun _ => rfl) _
  · intro s
    rw [execute_bind, execute_now]
    simp only
    rw [execute_saveDescriptor]
    cases w.fault _ <;> exact .of_content (fun _ => rfl) rfl

/-- What is kept of a file by an order that is carried out. -/
theorem leads_finish (hw : w.Spares place) (options : Options) (loaded : Descriptor) (o : Order)
    {p : Prepared} (hp : p.site.locator = l) : Leads (Scene.Turns place (l.Keeps root place))
      (o.finish (w.portsWith templates pluralize) options root loaded p) := by
  have hgentle := o.plan_gentle p.site p.provider
  rw [hp] at hgentle
  refine hgentle.leads.turns_of_same fun steps => ?_
  refine o.leads_recordContainer_spares.turns_of_same fun _ => ?_
  refine (o.leads_runCheckpoints_spares hw options _).turns_of_same fun checkpoints => ?_
  exact (leads_commitDescriptor_spares _ _).turns_of_same fun _ => .pure (.refl fun _ => rfl) _

end Order

theorem Locator.Keeps.refl (l : Locator) (text : String) : l.Keeps root place text text :=
  .of_added (.refl text)

/-- A sequence whose first part only reads fails there, or goes on from the same scene. -/
theorem Reads.bind_cases {α β : Type} {r : Reach} {x : InScene α} {f : α → InScene β}
    (hx : Reads r x) {s s' : Scene} {out : Except Error β}
    (h : execute (x >>= f) s = (out, s')) : (s.Same r s' ∧ ∃ e, out = .error e)
      ∨ ∃ a s₁, execute x s = (.ok a, s₁) ∧ s.Same r s₁ ∧ execute (f a) s₁ = (out, s') := by
  have hsame := hx s
  rw [execute_bind] at h
  rcases hrun : execute x s with ⟨e | a, s₁⟩ <;> rw [hrun] at h hsame
  · cases h
    exact .inl ⟨hsame, e, rfl⟩
  · exact .inr ⟨a, s₁, rfl, hsame, h⟩

theorem Reads.execute_bind_cases {α β : Type} {r : Reach} {x : InScene α} {f : α → InScene β}
    (hx : Reads r x) {s s' : Scene} {out : Except Error β}
    (h : execute (x >>= f) s = (out, s')) : s.Same r s'
      ∨ ∃ a s₁, execute x s = (.ok a, s₁) ∧ s.Same r s₁ ∧ execute (f a) s₁ = (out, s') :=
  (hx.bind_cases h).imp_left And.left

/-- Until it is prepared, a request only reads.  It fails by then, or goes on with what it orders
for the project that is there. -/
theorem Change.prepared_cases {α : Type} {c : Change} {f : Order → Descriptor → Order.Prepared → InScene α}
    {s s' : Scene} {out : Except Error α}
    (h : execute (do
        let o ← ((c.order pluralize).mapError Error.request : Except Error Order)
        let loaded ← requireDescriptor (w.portsWith templates pluralize) root
        let p ← o.prepare (w.portsWith templates pluralize) root loaded
        f o loaded p) s = (out, s')) :
    (s.Same .ask s' ∧ ∃ e, out = .error e)
      ∨ ∃ o loaded p s₁, c.order pluralize = .ok o ∧ s.descriptor = some loaded
        ∧ p.site.locator = loaded.locator ∧ s.Same .ask s₁ ∧ execute (f o loaded p) s₁ = (out, s') := by
  obtain ⟨hsame, hfail⟩ | ⟨o, s₁, ho, hsame₁, h⟩ := (Reads.lift_except _).bind_cases h
  · exact .inl ⟨hsame, hfail⟩
  obtain ⟨hsame, hfail⟩ | ⟨loaded, s₂, hload, hsame₂, h⟩ := (reads_requireDescriptor root).bind_cases h
  · exact .inl ⟨hsame₁.trans hsame, hfail⟩
  obtain ⟨hsame, hfail⟩ | ⟨p, s₃, hprepare, hsame₃, h⟩ :=
    (o.reads_prepare (Reach.le_refl _) root loaded).bind_cases h
  · exact .inl ⟨(hsame₁.trans hsame₂).trans hsame, hfail⟩
  rw [execute_lift_except] at ho
  obtain ⟨provider, hlocator, -⟩ := Order.prepare_settled hprepare
  exact .inr ⟨o, loaded, p, s₃, mapError_eq_ok (Prod.ext_iff.1 ho).1,
    hsame₁.descriptor.symm.trans (requireDescriptor_ok hload), hlocator,
    (hsame₁.trans hsame₂).trans hsame₃, h⟩

/-- **No request loses what was there**, however it ends: a file that was there still is, it has all
its characters in their order if it is no manifest of the project, and only the entry point may have
lost runs of lines that match the sample code.  The tree, the descriptor, the templates, the plurals
and the calls that fail are arbitrary; the tool has to leave the file alone. -/
theorem Change.preserves (hw : w.Spares place) (options : Options) (c : Change) {s s' : Scene}
    {r : Except Error Report}
    (hmake : execute (c.make (w.portsWith templates pluralize) options root) s = (r, s'))
    {old : String} (hold : s.tree.content place = some old) :
    ∃ new, s'.tree.content place = some new ∧ (s.descriptor = none → new = old)
      ∧ ∀ d ∈ s.descriptor, d.locator.Keeps root place old new := by
  have hkept : ∀ {s' : Scene}, s.Same .ask s' → ∃ new, s'.tree.content place = some new
      ∧ (s.descriptor = none → new = old)
      ∧ ∀ d ∈ s.descriptor, d.locator.Keeps root place old new := fun hsame =>
    ⟨old, by rw [hsame.tree, hold], fun _ => rfl, fun d _ => .refl d.locator old⟩
  rw [Change.make_eq] at hmake
  obtain hsame | ⟨o, s₁, -, hsame₁, hmake⟩ := (Reads.lift_except _).execute_bind_cases hmake
  · exact hkept hsame
  obtain hsame | ⟨loaded, s₂, hload, hsame₂, hmake⟩ :=
    (reads_requireDescriptor root).execute_bind_cases hmake
  · exact hkept (hsame₁.trans hsame)
  obtain hsame | ⟨p, s₃, hprepare, hsame₃, hmake⟩ :=
    (o.reads_prepare (Reach.le_refl _) root loaded).execute_bind_cases hmake
  · exact hkept ((hsame₁.trans hsame₂).trans hsame)
  have hsame := (hsame₁.trans hsame₂).trans hsame₃
  obtain ⟨provider, hlocator, -⟩ := Order.prepare_settled hprepare
  have hleads : Leads (Scene.Turns place (loaded.locator.Keeps root place))
      (o.finish (w.portsWith templates pluralize) options root loaded p) :=
    Order.leads_finish hw options loaded o hlocator
  have hfinish := hleads s₃
  rw [hmake] at hfinish
  obtain ⟨new, hnew, hkeeps⟩ := hfinish old (by rw [hsame.tree, hold])
  have hloaded : s.descriptor = some loaded :=
    hsame₁.descriptor.symm.trans (requireDescriptor_ok hload)
  rw [hloaded]
  refine ⟨new, hnew, nofun, ?_⟩
  rintro d ⟨⟩
  exact hkeeps

/-- An entry point that was written by hand, with a sample at its end and no terminator after it. -/
def handwritten : String :=
  "// by hand\r\nrecord WeatherForecast(DateOnly Date, int TemperatureC, string? Summary)\n\x7b\n"
    ++ "    public int TemperatureF => 32 + (int)(TemperatureC / 0.5556);\n\x7d"

/-- A full generation keeps an entry point that was written by hand. -/
theorem Change.preserves_handwritten : ∃ (s s' : Scene) (r : Except Error Report) (new : String),
    s.tree.content (components "/work/src/Acme.Api/Program.cs") = some handwritten
    ∧ execute ((Change.crud ⟨"Invoice"⟩).make Surroundings.still.ports {} "/work") s = (r, s')
    ∧ s'.tree.content (components "/work/src/Acme.Api/Program.cs") = some new
    ∧ Tidied handwritten new := by
  have hold : (MemoryTree.mk [⟨"/work/src/Acme.Api/Program.cs", handwritten⟩] [] 0).content
      (components "/work/src/Acme.Api/Program.cs") = some handwritten := by
    decide +kernel
  have hmanifest : ∀ layer : Layer, layer ≠ .root → components "/work/src/Acme.Api/Program.cs"
      ≠ components ((Locator.manifest ⟨"Acme", .routes⟩ layer).under "/work") := by
    rintro (_ | _ | _ | _ | _) <;> decide +kernel
  let s : Scene := ⟨⟨[⟨"/work/src/Acme.Api/Program.cs", handwritten⟩], [], 0⟩,
    some ⟨⟨0⟩, "Acme", "/work", "Acme.Api", none, .routes, ⟨0, 0⟩, ⟨0, 0⟩, []⟩, none, []⟩
  rcases hmake : execute ((Change.crud ⟨"Invoice"⟩).make Surroundings.still.ports {} "/work") s
    with ⟨r, s'⟩
  obtain ⟨new, hnew, -, hkeeps⟩ := Change.preserves (w := .still) (fun _ _ _ h => h) {}
    (.crud ⟨"Invoice"⟩) hmake hold
  exact ⟨s, s', r, new, hold, hmake, hnew, (hkeeps _ rfl).tidied hmanifest⟩

end

end Scaffold
