import Mathlib
import Scaffold.Proofs.Alteration
import Scaffold.Proofs.Calls
import Scaffold.Proofs.Run

/-!
# The log of the steps

A report has one step for each task, and each step tells what became of the task's file
(`Task.Told`): whether it was made, changed or left alone, and nothing else was written.  A step is
told by its task (`Task.told_of_step`), the steps of a request by its tasks one after the other
(`Log.told_of_steps`), and after them a request writes nothing any more (`Change.logged`).

A task that makes sure of a file asks whether something is at its path, and that may be a directory.
It makes no file then, and a task that cleans the file has nothing to clean (`Task.Forgoes`).

The tree, the templates, the plurals and the surroundings are arbitrary.
-/

namespace Scaffold

open Scaffold.Path (components)

/-! ## Writes -/

/-- The path a call writes. -/
def PortCall.written? : PortCall → Option String
  | .write path _ => some path
  | .probe _ | .read _ | .makeDirs _ | .list _ | .command _ _ _ | .choose _ _ | .loadDescriptor _
  | .saveDescriptor _ _ | .saveContainer _ | .clock | .identify => none

namespace Scene

/-- The paths of the files that were written since a scene, in order. -/
def Writes (paths : List String) (s s' : Scene) : Prop :=
  ∃ new, s'.calls = s.calls ++ new ∧ new.filterMap PortCall.written? = paths

namespace Writes

variable {s s' s'' : Scene} {paths paths' : List String}

theorem refl (s : Scene) : Writes [] s s := ⟨[], by simp, rfl⟩

theorem trans (h : Writes paths s s') (h' : Writes paths' s' s'') : Writes (paths ++ paths') s s'' := by
  obtain ⟨new, hnew, rfl⟩ := h
  obtain ⟨new', hnew', rfl⟩ := h'
  exact ⟨new ++ new', by rw [hnew', hnew, List.append_assoc], List.filterMap_append⟩

theorem unique (h : Writes paths s s') (h' : Writes paths' s s') : paths = paths' := by
  obtain ⟨new, hnew, rfl⟩ := h
  obtain ⟨new', hnew', rfl⟩ := h'
  rw [List.append_cancel_left (hnew.symm.trans hnew')]

/-- Calls of which none writes. -/
theorem of_calls (h : Scene.Calls (PortCall.written? · = none) s s') : Writes [] s s' := by
  obtain ⟨new, hnew, hnone⟩ := h
  exact ⟨new, hnew, List.filterMap_eq_nil_iff.2 hnone⟩

end Writes

end Scene

/-- A call that writes a file alters something. -/
theorem PortCall.written?_of_reach {c : PortCall} (h : c.reach ≤ .run) : c.written? = none := by
  have hno : ¬ Reach.alter ≤ Reach.run := by decide
  cases c with
  | write _ _ => exact absurd h hno
  | probe _ | read _ | makeDirs _ | list _ | command _ _ _ | choose _ _ | loadDescriptor _
  | saveDescriptor _ _ | saveContainer _ | clock | identify => rfl

theorem Scene.Same.writes {r : Reach} (hr : r ≤ .run) {s s' : Scene} (h : s.Same r s') :
    s.Writes [] s' :=
  .of_calls (.of_same (fun _ hc => PortCall.written?_of_reach (Reach.le_trans hc hr)) h)

/-! ## One task -/

namespace Task

/-- The file of a task in a scene. -/
def fileIn (root : String) (t : Task) (s : Scene) : Option String := s.tree.content (t.place root)

/-- There is a file or a directory at the path of a task. -/
def IsThere (root : String) (t : Task) (s : Scene) : Prop :=
  t.fileIn root s ≠ none ∨ s.tree.hasDir (t.place root) = true

/-- A task that makes no file where there is none: it is to make sure of the file or to clean it, and
there is a directory at its path. -/
def Forgoes (root : String) (t : Task) (s : Scene) : Prop :=
  match t.action with
  | .file _ _ | .clean _ => s.tree.hasDir (t.place root) = true
  | .declare _ _ | .importLine _ | .dependency _ _ _ | .reference _ _ => False

/-- A step tells what became of the file of a task. -/
structure Told (root : String) (t : Task) (step : Step) (s s' : Scene) : Prop where
  /-- It names the file. -/
  path : step.path = t.path.slashed
  /-- It wrote the file if it says that it changed something, and nothing else. -/
  writes : s.Writes (if step.outcome.changed then [t.path.under root] else []) s'
  /-- It says that nothing changed exactly if it wrote nothing. -/
  unchanged : step.outcome = .unchanged ↔ s.Writes [] s'
  /-- It says that the file was made exactly if there was none, and then there is one. -/
  created : step.outcome = .created ↔ t.fileIn root s = none ∧ ¬ t.Forgoes root s
  made : step.outcome = .created → t.fileIn root s' ≠ none
  /-- It says that the file was changed exactly if it was there and has another text now. -/
  altered : step.outcome = .updated ∨ step.outcome = .cleaned ↔ ∃ old new,
    t.fileIn root s = some old ∧ t.fileIn root s' = some new ∧ new ≠ old
  /-- Where nothing changed the tree is as it was. -/
  rested : step.outcome = .unchanged → s'.tree = s.tree
  /-- The other files are as they were. -/
  frame : ∀ place, place ≠ t.place root → s'.tree.content place = s.tree.content place

end Task

section

variable {w : Surroundings} {templates : Templates} {pluralize : String → String} {root : String}
  {s s' : Scene}

/-- What a task sees of its file. -/
theorem Task.inspect_eq (t : Task) {a : Artifact}
    (h : execute (t.inspect w.files root) s = (.ok a, s')) :
    match t.fileIn root s with
    | some text => a.isPresent = true
        ∧ ((∀ template ctx, t.action ≠ .file template ctx) → a = .parse (t.path.under root) text)
    | none => (∃ template ctx, t.action = .file template ctx) ∧ s.tree.hasDir (t.place root) = true
          ∧ a.isPresent = true
        ∨ (∀ template ctx, t.action = .file template ctx → s.tree.hasDir (t.place root) = false)
          ∧ a = .absent (t.path.under root) := by
  obtain ⟨-, -, hseen⟩ := t.inspect_spec h
  cases hfile : t.fileIn root s with
  | some text => exact hseen text hfile
  | none =>
      have hload : execute (loadArtifact w.files (t.path.under root)) s = (.ok a, s') →
          a = .absent (t.path.under root) := by
        intro hrun
        obtain ⟨r, s₁, hrun', -, hread, -⟩ := execute_loadArtifact (w := w) (s := s) (t.path.under root)
        cases hrun'.symm.trans hrun
        have ha := hread a rfl
        rwa [show s.tree.content (components _) = none from hfile] at ha
      unfold Task.inspect at h
      cases haction : t.action with
      | file template ctx =>
          rw [haction] at h
          simp only at h
          rw [execute_bind, execute_pathExists, MemoryTree.hasPath, MemoryTree.read?_eq_content,
            show s.tree.content (components _) = none from hfile, Option.isSome_none,
            Bool.false_or] at h
          cases hdir : s.tree.hasDir (t.place root) with
          | true =>
              rw [Task.place] at hdir
              rw [hdir] at h
              cases h
              exact .inl ⟨⟨_, _, rfl⟩, rfl, rfl⟩
          | false =>
              rw [Task.place] at hdir
              rw [hdir] at h
              cases h
              exact .inr ⟨fun _ _ _ => rfl, rfl⟩
      | declare _ _ | importLine _ | clean _ | dependency _ _ _ | reference _ _ =>
          rw [haction] at h
          exact .inr ⟨by rintro _ _ ⟨⟩, hload h⟩

/-- A file that is not there is made, unless there is only something to clean. -/
theorem Action.decide_absent {a : Action} (ha : a.Effective) {path : String} {outcome : Outcome}
    {next : Artifact} (h : a.decide templates (.absent path) = .ok (outcome, next)) :
    (∃ samples, a = .clean samples) ∧ outcome = .unchanged
      ∨ (∀ samples, a ≠ .clean samples) ∧ outcome = .created := by
  have hmerge : ∀ {ctx : Context} {merge? : List String → Option (List LineEdit)},
      MergeDecides templates (.absent path) ctx merge? outcome next → outcome = .created := by
    rintro ctx merge? (hpresent | _)
    · cases hpresent
    · rfl
  cases Action.decides h with
  | there hpresent => cases hpresent
  | made => exact .inr ⟨by rintro _ ⟨⟩, rfl⟩
  | declared => exact .inr ⟨by rintro _ ⟨⟩, rfl⟩
  | declares => exact .inr ⟨by rintro _ ⟨⟩, rfl⟩
  | imported hfound => cases hfound
  | imports => exact .inr ⟨by rintro _ ⟨⟩, rfl⟩
  | cleans hremove =>
      have hlength := Artifact.WellRead.length_removeSamples (a := .absent path)
        (by rintro l ⟨⟩) ha
      rw [hremove] at hlength
      exact absurd hlength (Nat.not_succ_le_zero _)
  | clean => exact .inl ⟨⟨_, rfl⟩, rfl⟩
  | depends h => exact .inr ⟨by rintro _ ⟨⟩, hmerge h⟩
  | refers h => exact .inr ⟨by rintro _ ⟨⟩, hmerge h⟩

/-- A file that is written has the text it was written with. -/
theorem execute_write_ok {path text : String} {u : Unit}
    (h : execute (w.files.write path text) s = (.ok u, s')) :
    s.Writes [path] s'
      ∧ s'.tree.content = Function.update s.tree.content (components path) (some text) := by
  rw [execute_write] at h
  cases hfault : w.fault (s.after (.write path text)).calls with
  | some e =>
      rw [hfault] at h
      cases h
  | none =>
      simp only [hfault] at h
      cases hcan : s.tree.canWrite path with
      | false =>
          rw [MemoryTree.write, hcan] at h
          cases h
      | true =>
          obtain ⟨tree, hwrite, hcontent, -⟩ := MemoryTree.write_of_canWrite hcan text
          simp only [hwrite] at h
          cases h
          exact ⟨⟨[.write path text], rfl, rfl⟩, hcontent⟩

theorem execute_storeArtifact_ok {a : Artifact} {u : Unit}
    (h : execute (storeArtifact w.files a) s = (.ok u, s')) :
    s.Writes [a.path] s'
      ∧ s'.tree.content = Function.update s.tree.content (components a.path) (some a.render) := by
  unfold storeArtifact at h
  cases hparent : Path.parent a.path with
  | none =>
      rw [hparent] at h
      exact execute_write_ok h
  | some dir =>
      rw [hparent] at h
      obtain ⟨_, s₁, hdirs, hwrite⟩ := execute_bind_eq_ok h
      obtain ⟨hwrites, hcontent⟩ := execute_write_ok hwrite
      rw [execute_createDirs] at hdirs
      cases hfault : w.fault (s.after (.makeDirs dir)).calls with
      | some e =>
          rw [hfault] at hdirs
          cases hdirs
      | none =>
          rw [hfault] at hdirs
          cases hdirs
          have hmade : s.Writes [] { s.after (.makeDirs dir) with
            tree := s.tree.createDirs (components dir) } := ⟨[.makeDirs dir], rfl, rfl⟩
          refine ⟨hmade.trans hwrites, ?_⟩
          rw [hcontent]
          exact congrArg (Function.update · _ _) (MemoryTree.content_createDirs _ _)

/-- What a task makes of its file: it leaves one alone that is there, or changes it, and makes one
that is not there unless it forgoes that. -/
inductive Task.Decides (root : String) (t : Task) (s : Scene) (next : Artifact) : Outcome → Prop
  | leave {old : String} (hfile : t.fileIn root s = some old) : Decides root t s next .unchanged
  | forgo (hfile : t.fileIn root s = none) (h : t.Forgoes root s) : Decides root t s next .unchanged
  | alter {old : String} {outcome : Outcome} (hfile : t.fileIn root s = some old)
      (houtcome : outcome = .updated ∨ outcome = .cleaned) (hne : next.render ≠ old) :
      Decides root t s next outcome
  | make (hfile : t.fileIn root s = none) (h : ¬ t.Forgoes root s) : Decides root t s next .created

theorem Task.decides {t : Task} (ht : t.action.Effective)
    (hclean : ∀ samples, t.action = .clean samples → t.IsThere root s)
    {current next : Artifact} {s₁ : Scene}
    {outcome : Outcome} (hinspect : execute (t.inspect w.files root) s = (.ok current, s₁))
    (hdecide : t.action.decide templates current = .ok (outcome, next)) :
    t.Decides root s next outcome := by
  have hseen := t.inspect_eq hinspect
  cases hfile : t.fileIn root s with
  | some old =>
      rw [hfile] at hseen
      obtain ⟨hpresent, hcurrent⟩ := hseen
      cases hchanged : outcome.changed with
      | true =>
          obtain ⟨houtcome, hne⟩ := Action.alters_decide ht hpresent hcurrent hdecide hchanged
          exact .alter hfile houtcome hne
      | false =>
          obtain rfl : outcome = .unchanged := by cases outcome <;> first | rfl | cases hchanged
          exact .leave hfile
  | none =>
      rw [hfile] at hseen
      obtain ⟨⟨template, ctx, haction⟩, hdir, hpresent⟩ | ⟨hdir, rfl⟩ := hseen
      · rw [haction] at hdecide
        simp only [Action.decide, hpresent, if_true] at hdecide
        cases hdecide
        refine .forgo hfile ?_
        rw [Task.Forgoes, haction]
        exact hdir
      · obtain ⟨⟨samples, haction⟩, rfl⟩ | ⟨hmakes, rfl⟩ := Action.decide_absent ht hdecide
        · refine .forgo hfile ?_
          rw [Task.Forgoes, haction]
          exact (hclean samples haction).resolve_left fun h => h hfile
        · refine .make hfile ?_
          unfold Task.Forgoes
          cases haction : t.action with
          | file template ctx => simp [hdir template ctx haction]
          | clean samples => exact absurd haction (hmakes samples)
          | declare _ _ | importLine _ | dependency _ _ _ | reference _ _ => exact not_false

/-- What a task that succeeds has done. -/
theorem Task.perform_ok {t : Task} {step : Step}
    (h : execute (t.perform w.files templates root) s = (.ok step, s')) :
    ∃ current s₁ outcome next, step = ⟨t.what, t.path.slashed, outcome⟩
      ∧ execute (t.inspect w.files root) s = (.ok current, s₁)
      ∧ t.action.decide templates current = .ok (outcome, next)
      ∧ (if outcome.changed then execute (storeArtifact w.files next) s₁ = (.ok (), s') else s' = s₁) := by
  obtain ⟨current, s₁, hinspect, h⟩ := execute_bind_eq_ok h
  obtain ⟨⟨outcome, next⟩, s₂, hdecide, h⟩ := execute_bind_eq_ok h
  rw [execute_lift_except] at hdecide
  obtain ⟨hdecide, rfl⟩ := Prod.ext_iff.1 hdecide
  simp only at h
  split at h
  next hchanged =>
    obtain ⟨_, s₃, hstore, h⟩ := execute_bind_eq_ok h
    cases h
    exact ⟨current, s₁, outcome, next, rfl, hinspect, hdecide, by rwa [if_pos hchanged]⟩
  next hchanged =>
    cases h
    exact ⟨current, s', outcome, next, rfl, hinspect, hdecide, by rw [if_neg hchanged]⟩

/-- A task that writes nothing says that nothing changed. -/
theorem Task.told_unchanged {t : Task} (hwrites : s.Writes [] s') (htree : s'.tree = s.tree)
    (hmakes : ¬ (t.fileIn root s = none ∧ ¬ t.Forgoes root s)) :
    t.Told root ⟨t.what, t.path.slashed, .unchanged⟩ s s' where
  path := rfl
  writes := hwrites
  unchanged := ⟨fun _ => hwrites, fun _ => rfl⟩
  created := ⟨nofun, fun h => absurd h hmakes⟩
  made := nofun
  altered := by
    have hfile : t.fileIn root s' = t.fileIn root s := congrArg (MemoryTree.content · (t.place root)) htree
    constructor
    · rintro (h | h) <;> cases h
    · rintro ⟨old, new, hold, hnew, hne⟩
      exact absurd (Option.some.inj (hnew.symm.trans (hfile.trans hold))) hne
  rested _ := htree
  frame place _ := congrArg (MemoryTree.content · place) htree

/-- A task that writes its file says what it wrote it for. -/
theorem Task.told_changed {t : Task} {outcome : Outcome} {text : String}
    (hchanged : outcome.changed = true)
    (hwrites : s.Writes [t.path.under root] s')
    (hcontent : s'.tree.content = Function.update s.tree.content (t.place root) (some text))
    (hcreated : outcome = .created ↔ t.fileIn root s = none ∧ ¬ t.Forgoes root s)
    (haltered : outcome = .updated ∨ outcome = .cleaned ↔ ∃ old, t.fileIn root s = some old ∧ text ≠ old) :
    t.Told root ⟨t.what, t.path.slashed, outcome⟩ s s' := by
  have hafter : t.fileIn root s' = some text := by
    rw [Task.fileIn, hcontent]
    exact Function.update_self _ _ _
  have hne : outcome ≠ .unchanged := by
    rintro rfl
    cases hchanged
  refine ⟨rfl, by rwa [if_pos hchanged], ⟨fun h => absurd h hne, fun hnone => ?_⟩, hcreated,
    fun _ => hafter ▸ Option.some_ne_none _, ?_, fun h => absurd h hne, fun place hplace => ?_⟩
  · cases hnone.unique hwrites
  · refine haltered.trans ⟨fun ⟨old, hfile, htext⟩ => ⟨old, text, hfile, hafter, htext⟩, ?_⟩
    rintro ⟨old, new, hfile, hnew, htext⟩
    cases hafter.symm.trans hnew
    exact ⟨old, hfile, htext⟩
  · rw [hcontent]
    exact Function.update_of_ne hplace _ _

/-- **A step tells what became of the file of its task.** -/
theorem Task.told_of_step {t : Task} (ht : t.action.Effective)
    (hclean : ∀ samples, t.action = .clean samples → t.IsThere root s) {step : Step}
    (h : execute (t.perform w.files templates root) s = (.ok step, s')) : t.Told root step s s' := by
  obtain ⟨current, s₁, outcome, next, rfl, hinspect, hdecide, hrest⟩ := Task.perform_ok h
  have hsame := (t.reads_inspect (w := w) root).same hinspect
  have hlooked : s.Writes [] s₁ := hsame.writes (by decide)
  obtain ⟨-, hpath, -⟩ := t.inspect_spec hinspect
  have hnext := (Action.path_decide hdecide).trans hpath
  have hstored : execute (storeArtifact w.files next) s₁ = (.ok (), s') →
      s.Writes [t.path.under root] s'
        ∧ s'.tree.content = Function.update s.tree.content (t.place root) (some next.render) := by
    intro hstore
    obtain ⟨hwrites, hcontent⟩ := execute_storeArtifact_ok hstore
    rw [hnext] at hwrites hcontent
    rw [hsame.tree] at hcontent
    exact ⟨hlooked.trans hwrites, hcontent⟩
  cases Task.decides ht hclean hinspect hdecide with
  | leave hfile =>
      cases hrest
      exact Task.told_unchanged hlooked hsame.tree (by simp [hfile])
  | forgo hfile hforgoes =>
      cases hrest
      exact Task.told_unchanged hlooked hsame.tree (by simp [hforgoes])
  | @alter old outcome hfile houtcome hne =>
      have hchanged : outcome.changed = true := by rcases houtcome with rfl | rfl <;> rfl
      rw [if_pos hchanged] at hrest
      obtain ⟨hwrites, hcontent⟩ := hstored hrest
      refine Task.told_changed hchanged hwrites hcontent ?_ ⟨fun _ => ⟨old, hfile, hne⟩, fun _ => houtcome⟩
      rcases houtcome with rfl | rfl <;> simp [hfile]
  | make hfile hmakes =>
      obtain ⟨hwrites, hcontent⟩ := hstored hrest
      exact Task.told_changed rfl hwrites hcontent ⟨fun _ => ⟨hfile, hmakes⟩, fun _ => rfl⟩
        (by simp [hfile])

/-! ## Many tasks -/

/-- A log of steps, one for each task, each of which tells what became of its file. -/
inductive Log (root : String) : List Task → List Step → Scene → Scene → Prop
  | nil (s : Scene) : Log root [] [] s s
  | cons {t : Task} {ts : List Task} {step : Step} {steps : List Step} {s s₁ s' : Scene}
      (hstep : t.Told root step s s₁) (hsteps : Log root ts steps s₁ s') :
      Log root (t :: ts) (step :: steps) s s'

/-- Something is at the path of a file that was made sure of. -/
theorem Task.Told.isThere {t : Task} {step : Step} (h : t.Told root step s s') {template : String}
    {ctx : Context} (haction : t.action = .file template ctx) : t.IsThere root s' := by
  have hforgoes : t.Forgoes root s ↔ s.tree.hasDir (t.place root) = true := by
    rw [Task.Forgoes, haction]
  by_cases hcreated : step.outcome = .created
  · exact .inl (h.made hcreated)
  by_cases hfile : t.fileIn root s = none
  · have hdir : s.tree.hasDir (t.place root) = true := by
      by_contra hnone
      exact hcreated (h.created.2 ⟨hfile, fun h => hnone (hforgoes.1 h)⟩)
    have hunchanged : step.outcome = .unchanged := by
      cases houtcome : step.outcome with
      | unchanged => rfl
      | created => exact absurd houtcome hcreated
      | updated =>
          obtain ⟨old, _, hold, -⟩ := h.altered.1 (.inl houtcome)
          cases hfile.symm.trans hold
      | cleaned =>
          obtain ⟨old, _, hold, -⟩ := h.altered.1 (.inr houtcome)
          cases hfile.symm.trans hold
    exact .inr (h.rested hunchanged ▸ hdir)
  · by_cases haltered : step.outcome = .updated ∨ step.outcome = .cleaned
    · obtain ⟨_, new, -, hnew, -⟩ := h.altered.1 haltered
      exact .inl (hnew ▸ Option.some_ne_none _)
    · have hunchanged : step.outcome = .unchanged := by
        cases houtcome : step.outcome <;> simp_all
      exact .inl (by rwa [Task.fileIn, h.rested hunchanged])

/-- Tasks among which a file is only cleaned right after it was made sure of. -/
inductive Sheltered : List Task → Prop
  | nil : Sheltered []
  | cons {t : Task} {ts : List Task} (ht : ∀ samples, t.action ≠ .clean samples)
      (hts : Sheltered ts) : Sheltered (t :: ts)
  | clean {t t' : Task} {ts : List Task} {template : String} {ctx : Context}
      (ht : t.action = .file template ctx) (hpath : t'.path = t.path) (hts : Sheltered ts) :
      Sheltered (t :: t' :: ts)

namespace Sheltered

variable {ts ts' : List Task}

theorem of_forall (h : ∀ t ∈ ts, ∀ samples, t.action ≠ .clean samples) : Sheltered ts := by
  induction ts with
  | nil => exact .nil
  | cons t ts ih =>
      obtain ⟨ht, hts⟩ := List.forall_mem_cons.1 h
      exact .cons ht (ih hts)

theorem append (h : Sheltered ts) (h' : Sheltered ts') : Sheltered (ts ++ ts') := by
  induction h with
  | nil => exact h'
  | cons ht _ ih => exact .cons ht ih
  | clean ht hpath _ ih => exact .clean ht hpath ih

theorem of_putsIn {l : Locator} (h : ∀ t ∈ ts, t.PutsIn l) : Sheltered ts := by
  refine of_forall fun t ht samples haction => ?_
  have hputs := h t ht
  rwa [Task.PutsIn, haction] at hputs

theorem entryPoint (s : Site) (f : Feature) : Sheltered (s.entryPoint f) := by
  unfold Site.entryPoint
  simp only [List.append_assoc, List.cons_append, List.nil_append]
  refine .clean rfl rfl (of_putsIn (l := s.locator) ?_)
  simp only [List.forall_mem_append, List.forall_mem_cons, List.forall_mem_map]
  exact ⟨fun _ _ => trivial, trivial, fun _ _ => trivial, (Site.package_gentle (by decide) _ _).1,
    by rintro _ ⟨⟩⟩

end Sheltered

/-- Plans clean the entry point right after they made sure of it. -/
theorem Order.plan_sheltered (s : Site) (provider : Provider) (o : Order) :
    Sheltered (o.plan s provider) := by
  cases o with
  | crud f =>
      refine (Sheltered.append (.of_putsIn (l := s.locator) ?_) (.entryPoint s f)).append
        (.of_putsIn Site.infrastructureWiring_putsIn)
      simp only [List.forall_mem_append, List.forall_mem_cons, List.forall_mem_flatMap]
      exact ⟨⟨⟨⟨⟨⟨fun t ht => (Site.layerGraph_gentle t ht).1, trivial, trivial, by rintro _ ⟨⟩⟩,
        fun t ht => (Site.persistence_gentle t ht).1⟩, fun t ht => (Site.repository_gentle _ t ht).1⟩,
        fun t ht => (Site.applicationLayer_gentle t ht).1⟩,
        fun u _ t ht => (Site.useCase_gentle u t ht).1⟩, fun u _ t ht => (Site.exposure_gentle u t ht).1⟩
  | action f r =>
      refine (Sheltered.append (.of_putsIn (l := s.locator) ?_) (.entryPoint s f)).append
        (.of_putsIn Site.infrastructureWiring_putsIn)
      simp only [List.forall_mem_append]
      exact ⟨⟨⟨⟨⟨fun t ht => (Site.layerGraph_gentle t ht).1,
        fun t ht => (Site.persistence_gentle t ht).1⟩, fun t ht => (Site.repository_gentle _ t ht).1⟩,
        fun t ht => (Site.applicationLayer_gentle t ht).1⟩,
        fun t ht => (Site.useCase_gentle _ t ht).1⟩, fun t ht => (Site.exposure_gentle _ t ht).1⟩
  | service p name lifetime => exact .of_putsIn (Site.servicePlan_putsIn p name lifetime)
  | constant f name => exact .cons (by rintro _ ⟨⟩) .nil
  | enum f name =>
      exact .cons (by rintro _ ⟨⟩) (.cons (by rintro _ ⟨⟩) (.cons (by rintro _ ⟨⟩) .nil))

/-- The tasks of a request are told by its steps. -/
theorem Log.told_of_steps {ts : List Task} (hsheltered : Sheltered ts) (hts : ∀ t ∈ ts, t.action.Effective)
    {steps : List Step}
    (h : execute (performAll w.files templates root ts) s = (.ok steps, s')) :
    Log root ts steps s s' := by
  induction hsheltered generalizing s steps with
  | nil =>
      cases h
      exact .nil _
  | cons ht _ ih =>
      obtain ⟨hfirst, hrest⟩ := List.forall_mem_cons.1 hts
      obtain ⟨step, s₁, hstep, h⟩ := execute_bind_eq_ok h
      obtain ⟨steps, s₂, hsteps, h⟩ := execute_bind_eq_ok h
      cases h
      exact .cons (Task.told_of_step hfirst (fun samples hclean => absurd hclean (ht samples)) hstep)
        (ih hrest hsteps)
  | @clean t t' ts template ctx ht hpath _ ih =>
      obtain ⟨hfirst, hrest⟩ := List.forall_mem_cons.1 hts
      obtain ⟨hsecond, hrest⟩ := List.forall_mem_cons.1 hrest
      obtain ⟨step, s₁, hstep, h⟩ := execute_bind_eq_ok h
      obtain ⟨steps, s₂, h', h⟩ := execute_bind_eq_ok h
      cases h
      obtain ⟨step', s₃, hstep', h'⟩ := execute_bind_eq_ok h'
      obtain ⟨steps, s₄, hsteps, h'⟩ := execute_bind_eq_ok h'
      cases h'
      have htold := Task.told_of_step hfirst (by rw [ht]; rintro _ ⟨⟩) hstep
      have hthere : t'.IsThere root s₁ := by
        have hthere := htold.isThere ht
        rwa [Task.IsThere, Task.fileIn, Task.place, ← hpath] at hthere
      exact .cons htold (.cons (Task.told_of_step hsecond (fun _ _ => hthere) hstep') (ih hrest hsteps))

namespace Log

variable {ts : List Task} {steps : List Step}

/-- The steps that changed something name the files that were written, in order. -/
theorem writes {s s' : Scene} (h : Log root ts steps s s') : ∃ paths : List RelativePath,
    s.Writes (paths.map (·.under root)) s'
      ∧ (steps.filter (·.outcome.changed)).map Step.path = paths.map RelativePath.slashed := by
  induction h with
  | nil => exact ⟨[], .refl _, rfl⟩
  | @cons t ts step steps s s₁ s' hstep hsteps ih =>
      obtain ⟨paths, hpaths, hnames⟩ := ih
      have hfirst := hstep.writes
      cases hchanged : step.outcome.changed with
      | true =>
          rw [hchanged] at hfirst
          refine ⟨t.path :: paths, hfirst.trans hpaths, ?_⟩
          rw [List.filter_cons_of_pos (by simpa using hchanged), List.map_cons, hnames, hstep.path]
          rfl
      | false =>
          rw [hchanged] at hfirst
          refine ⟨paths, hfirst.trans hpaths, ?_⟩
          rw [List.filter_cons_of_neg (by simpa using hchanged), hnames]

/-- Where no step changed anything the tree is as it was. -/
theorem rested (h : Log root ts steps s s') (hnone : changedCount steps = 0) : s'.tree = s.tree := by
  induction h with
  | nil => rfl
  | @cons t ts step steps s s₁ s' hstep hsteps ih =>
      rw [changedCount, List.countP_eq_zero] at hnone
      obtain ⟨hfirst, hrest⟩ := List.forall_mem_cons.1 hnone
      have houtcome : step.outcome = .unchanged := by
        cases ho : step.outcome <;> rw [ho] at hfirst <;> first | rfl | exact absurd rfl hfirst
      rw [ih (by rwa [changedCount, List.countP_eq_zero]), hstep.rested houtcome]

end Log

/-! ## Requests -/

/-- Since a scene no file was written, and the tree is as it was unless the tool changed it. -/
def Scene.Rests (w : Surroundings) (s s' : Scene) : Prop :=
  s.Writes [] s' ∧ (w.Idle → s'.tree = s.tree)

namespace Scene.Rests

theorem trans {s'' : Scene} (h : s.Rests w s') (h' : s'.Rests w s'') : s.Rests w s'' :=
  ⟨h.1.trans h'.1, fun hw => (h'.2 hw).trans (h.2 hw)⟩

end Scene.Rests

/-- How the steps of a report tell what a request did. -/
structure Logged (w : Surroundings) (root : String) (s s' : Scene) (steps : List Step) : Prop where
  /-- Each step tells what became of the file of its task.  The tasks come one after the other, and
  before and after them nothing is written.  Where no step changed anything, they leave the tree as it
  was. -/
  log : ∃ ts s₁ s₂, s.Same .ask s₁ ∧ Log root ts steps s₁ s₂ ∧ s₂.Rests w s'
    ∧ (changedCount steps = 0 → s₂.tree = s.tree)
  /-- The steps that changed something name the files that were written, in order. -/
  writes : ∃ paths : List RelativePath, s.Writes (paths.map (·.under root)) s'
    ∧ (steps.filter (·.outcome.changed)).map Step.path = paths.map RelativePath.slashed
    ∧ changedCount steps = paths.length
  /-- The two counts of the summary. -/
  counts : changedCount steps + unchangedCount steps = steps.length
  /-- Where no step changed anything, only the tool may have changed the tree. -/
  rested : changedCount steps = 0 → w.Idle → s'.tree = s.tree

namespace Order

theorem leads_rests_recordContainer (o : Order) :
    Leads (Scene.Rests w) (o.recordContainer (w.portsWith templates pluralize)) := by
  intro s
  refine ⟨.of_calls (o.leads_calls_recordContainer (fun _ => rfl) s), fun _ => ?_⟩
  refine recordContainer_ind (motive := fun x => (execute x s).2.tree = s.tree) rfl (fun c => ?_) o
  rw [execute_saveContainer]
  cases w.fault (s.after (.saveContainer c)).calls <;> rfl

theorem leads_rests_runCheckpoints (options : Options) (l : Locator) (o : Order) :
    Leads (Scene.Rests w)
      (o.runCheckpoints (w.portsWith templates pluralize) options root l) := fun s =>
  ⟨.of_calls (o.leads_calls_runCheckpoints (fun _ hc => PortCall.written?_of_reach hc) options l s),
    fun hw => (o.reads_runCheckpoints hw root options l s).tree⟩

end Order

theorem leads_rests_commitDescriptor (loaded changed : Descriptor) :
    Leads (Scene.Rests w)
      (commitDescriptor (w.portsWith templates pluralize) root loaded changed) := by
  intro s
  refine ⟨.of_calls (leads_calls_commitDescriptor (fun _ hc => PortCall.written?_of_reach
    (Reach.le_trans hc (by decide))) (fun _ => rfl) loaded changed s), fun _ => ?_⟩
  unfold commitDescriptor
  split
  · rfl
  · rw [execute_bind]
    rcases hnow : execute (w.portsWith templates pluralize).now s with ⟨e | now, s₁⟩ <;>
      have htree := ((reads_now (r := .look) w).same hnow).tree
    · exact htree
    · simp only
      rw [execute_saveDescriptor]
      cases w.fault (s₁.after (.saveDescriptor root (changed.touch now))).calls <;> exact htree

/-- **The log of the steps tells the truth**, whatever the tree, the templates and the surroundings
are: a request that succeeds has written the files that its changed steps name, in their order, and
nothing else.  A step says that its file was made exactly if there was none just before it, that it
was updated or cleaned exactly if it was there and has another text since, and that nothing changed
exactly if it wrote nothing. -/
theorem Change.logged {options : Options} {c : Change} {report : Report}
    (hmake : execute (c.make (w.portsWith templates pluralize) options root) s = (.ok report, s')) :
    Logged w root s s' report.steps := by
  rw [Change.make_eq] at hmake
  obtain ⟨o, s₁, ho, hmake⟩ := execute_bind_eq_ok hmake
  obtain ⟨loaded, s₂, hload, hmake⟩ := execute_bind_eq_ok hmake
  obtain ⟨p, s₃, hprepare, hmake⟩ := execute_bind_eq_ok hmake
  have hsame : s.Same .ask s₃ := (((Reads.lift_except _).same ho).trans
    ((reads_requireDescriptor root).same hload)).trans
      ((o.reads_prepare (Reach.le_refl _) root loaded).same hprepare)
  obtain ⟨steps, s₄, htasks, hmake⟩ := execute_bind_eq_ok hmake
  obtain ⟨_, s₅, hcontainer, hmake⟩ := execute_bind_eq_ok hmake
  obtain ⟨checkpoints, s₆, hcheckpoints, hmake⟩ := execute_bind_eq_ok hmake
  obtain ⟨_, s₇, hcommit, hmake⟩ := execute_bind_eq_ok hmake
  cases hmake
  have hlog := Log.told_of_steps (o.plan_sheltered _ _) (o.plan_effective p.site p.provider) htasks
  have hrests : s₄.Rests w s' := by
    have h₁ := o.leads_rests_recordContainer.holds hcontainer
    have h₂ := (o.leads_rests_runCheckpoints options p.site.locator).holds hcheckpoints
    have h₃ := (leads_rests_commitDescriptor loaded (o.record p.settled)).holds hcommit
    exact (h₁.trans h₂).trans h₃
  have hsteps : (o.report steps checkpoints).steps = steps := by
    cases o <;> rfl
  rw [hsteps]
  have hrested : changedCount steps = 0 → s₄.tree = s.tree := fun hnone =>
    (hlog.rested hnone).trans hsame.tree
  refine ⟨⟨_, s₃, s₄, hsame, hlog, hrests, hrested⟩, ?_, ?_, fun hnone hw =>
    (hrests.2 hw).trans (hrested hnone)⟩
  · obtain ⟨paths, hpaths, hnames⟩ := hlog.writes
    have hwrites := ((hsame.writes (by decide)).trans hpaths).trans hrests.1
    rw [List.nil_append, List.append_nil] at hwrites
    refine ⟨paths, hwrites, hnames, ?_⟩
    rw [changedCount, List.countP_eq_length_filter, ← List.length_map Step.path, hnames,
      List.length_map]
  · exact Nat.add_sub_of_le List.countP_le_length

end

/-- The log of a generation. -/
theorem Change.logged_invoice : ∃ s s' report,
    execute ((Change.crud ⟨"Invoice"⟩).make Surroundings.still.ports {} "/work") s = (.ok report, s')
    ∧ Logged .still "/work" s s' report.steps := by
  obtain ⟨d₀, s, hinit⟩ : ∃ d₀ s, execute (initProject Surroundings.still.ports "/work" "Acme"
      .routes none) ⟨{}, none, none, []⟩ = (.ok d₀, s) := ⟨_, _, rfl⟩
  have hreached : Reached ∅ "/work" [] s d₀ := reached_init rfl hinit
  obtain ⟨report, s', hmake⟩ := hreached.next_invoice
  exact ⟨s, s', report, hmake, Change.logged hmake⟩

/-- A project with a directory at the path of the contract of a service. -/
def Scene.occupied : Scene where
  tree := { dirs := [components "/work/src/Acme.Application/Common/Services/IClockService.cs"] }
  descriptor := some ⟨⟨0⟩, "Acme", "/work", "Acme.Api", none, .routes, ⟨0, 0⟩, ⟨0, 0⟩, []⟩
  container := none
  calls := []

/-- A step that finds a directory at the path of its file makes no file, though there is none. -/
theorem Change.logged_occupied : ∃ report s',
    execute ((Change.service ⟨some "Clock", none, none, .scoped⟩).make
      (Surroundings.still.portsWith (fun _ _ => .ok "") id) {} "/work") .occupied = (.ok report, s')
    ∧ ∃ step ∈ report.steps.head?, step.outcome = .unchanged
        ∧ Scene.occupied.tree.content (components ("/work/" ++ step.path)) = none := by
  generalize hrun : execute _ Scene.occupied = run
  have hends : (run.1.toOption.bind fun report => report.steps.head?)
      = some ⟨"service contract", "src/Acme.Application/Common/Services/IClockService.cs",
        .unchanged⟩ := by
    rw [← hrun]
    decide +kernel
  obtain ⟨r, s'⟩ := run
  cases r with
  | error e => cases hends
  | ok report => exact ⟨report, s', rfl, _, hends, rfl, rfl⟩

end Scaffold
