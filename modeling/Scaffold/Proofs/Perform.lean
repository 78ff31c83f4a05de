import Mathlib
import Scaffold.Proofs.Carry
import Scaffold.Proofs.Scene

/-!
# Carrying tasks out in a scene

On a tree whose files are such as tasks write them (`MemoryTree.Sound`), carrying a list of tasks
out has the effect of `carryAll` if it ends well, and that of the first tasks of the list if a call
fails (`performAll_carries`): a task writes its file once, as the last thing it does.  Tasks that
rest only look (`performAll_rests`).
-/

namespace Scaffold

open Scaffold.Path (components)

/-! ## Sound trees -/

/-- The files of a project are such as tasks write them, and no directory lies in their place. -/
structure MemoryTree.Sound (l : Locator) (root : String) (t : MemoryTree) : Prop where
  legit : t.content.Legit l root
  /-- No directory lies where a file of the project belongs. -/
  free : ∀ layer kind p, IsPlace l layer kind p → t.hasDir (components (p.under root)) = false

theorem MemoryTree.sound_empty (l : Locator) (root : String) : ({} : MemoryTree).Sound l root :=
  ⟨Files.legit_empty l root, fun _ _ _ _ => rfl⟩

/-- The tree is sound as long as only files apart from the project change. -/
theorem MemoryTree.Sound.within {w : Surroundings} {T : Set (List Component)} (hw : w.Within T)
    {l : Locator} {root : String} (hT : Apart l root T) {t : MemoryTree} (ht : t.Sound l root)
    (calls : List PortCall) :
    (w.leaves calls t).Sound l root
      ∧ Files.AgreeOff T (w.leaves calls t).content t.content := by
  have hagree : Files.AgreeOff T (w.leaves calls t).content t.content :=
    fun c hc => (hw calls t c hc).1
  refine ⟨⟨hagree.legit hT ht.legit, fun layer kind p hplace => ?_⟩, hagree⟩
  rw [(hw calls t _ (hT layer kind p hplace)).2]
  exact ht.free layer kind p hplace

section

variable {l : Locator} {root : String} {w : Surroundings} {s : Scene}

/-! ## Reading -/

/-- The file at a path as it is loaded. -/
def Scene.fileAt (s : Scene) (path : String) : Artifact :=
  match s.tree.content (components path) with
  | some text => .parse path text
  | none => .absent path

/-- A file is loaded with one call. -/
theorem execute_loadArtifact_eq (path : String) : execute (loadArtifact w.files path) s
    = match w.fault (s.after (.read path)).calls with
      | some e => (.error e, s.after (.read path))
      | none => (.ok (s.fileAt path), s.after (.read path)) := by
  rw [loadArtifact, execute_bind, execute_read, Scene.fileAt]
  cases w.fault (s.after (.read path)).calls with
  | some e => rfl
  | none =>
      simp only [MemoryTree.read?_eq_content]
      cases s.tree.content (components path) <;> rfl

theorem execute_loadArtifact (path : String) :
    ∃ r s', execute (loadArtifact w.files path) s = (r, s') ∧ s.Same .look s'
      ∧ (∀ a, r = .ok a → a = match s.tree.content (components path) with
          | some text => .parse path text
          | none => .absent path)
      ∧ (w.Calm → ∃ a, r = .ok a) := by
  rw [execute_loadArtifact_eq]
  have hsame : s.Same .look (s.after (.read path)) := .after s (Reach.look_le _)
  cases hfault : w.fault (s.after (.read path)).calls with
  | some e =>
      refine ⟨_, _, rfl, hsame, nofun, fun hcalm => ?_⟩
      rw [hcalm.fault] at hfault
      cases hfault
  | none =>
      refine ⟨_, _, rfl, hsame, ?_, fun _ => ⟨_, rfl⟩⟩
      rintro _ ⟨⟩
      rfl

/-- Where no directory lies, what is there is a file. -/
theorem MemoryTree.Sound.hasPath_eq (hs : s.tree.Sound l root) {layer : Layer}
    {kind : ArtifactKind} {p : RelativePath} (hplace : IsPlace l layer kind p) :
    s.tree.hasPath (p.under root) = (s.tree.content (components (p.under root))).isSome := by
  rw [MemoryTree.hasPath, hs.free layer kind p hplace, Bool.or_false, MemoryTree.read?_eq_content]

/-- What a task sees of its file. -/
theorem execute_inspect {t : Task} (ht : t.Belongs l) (hs : s.tree.Sound l root) :
    ∃ r s', execute (t.inspect w.files root) s = (r, s') ∧ s.Same .look s'
      ∧ (∀ a, r = .ok a → a = t.look root (s.tree.content (t.place root)))
      ∧ (w.Calm → ∃ a, r = .ok a) := by
  obtain ⟨layer, kind, hplace, -⟩ := ht
  have hload := execute_loadArtifact (w := w) (s := s) (t.path.under root)
  unfold Task.inspect Task.look
  cases t.action with
  | file name ctx =>
      have hsame : s.Same .look (s.after (.probe (t.path.under root))) :=
        .after s (Reach.look_le _)
      rw [execute_bind, execute_pathExists, hs.hasPath_eq hplace, Task.place]
      cases (s.tree.content (components (t.path.under root))).isSome with
      | false =>
          refine ⟨_, _, rfl, hsame, ?_, fun _ => ⟨_, rfl⟩⟩
          rintro _ ⟨⟩
          rfl
      | true =>
          refine ⟨_, _, rfl, hsame, ?_, fun _ => ⟨_, rfl⟩⟩
          rintro _ ⟨⟩
          rfl
  | declare _ _ | importLine _ | clean _ | dependency _ _ _ | reference _ _ => exact hload

/-! ## Writing -/

/-- The stores are as they were, and no directory lies where a file of the project belongs. -/
structure Scene.Beside (l : Locator) (root : String) (s s' : Scene) : Prop where
  descriptor : s'.descriptor = s.descriptor
  container : s'.container = s.container
  free : ∀ layer kind p, IsPlace l layer kind p → s'.tree.hasDir (components (p.under root)) = false

/-- A file whose directory is there is written, or the contents stay. -/
theorem execute_write_file {s₀ : Scene} (hbeside : s₀.Beside l root s)
    {path : String} (hcan : s.tree.canWrite path = true) (text : String) :
    ∃ r s', execute (w.files.write path text) s = (r, s') ∧ s₀.Beside l root s'
      ∧ (r = .ok () → s'.tree.content
          = Function.update s.tree.content (components path) (some text))
      ∧ (∀ e, r = .error e → s'.tree.content = s.tree.content)
      ∧ (w.Calm → r = .ok ()) := by
  obtain ⟨tree, htree, hnew, hdirs⟩ := MemoryTree.write_of_canWrite hcan text
  rw [execute_write, htree]
  obtain ⟨hdescriptor, hcontainer, hfree⟩ := hbeside
  cases hfault : w.fault (s.after (.write path text)).calls with
  | some e =>
      refine ⟨_, _, rfl, ⟨hdescriptor, hcontainer, hfree⟩, nofun, fun _ _ => rfl, fun hcalm => ?_⟩
      rw [hcalm.fault] at hfault
      cases hfault
  | none =>
      refine ⟨_, _, rfl, ⟨hdescriptor, hcontainer, fun layer kind p hp => ?_⟩, fun _ => hnew, nofun,
        fun _ => rfl⟩
      have hsame : tree.hasDir (components (p.under root))
          = s.tree.hasDir (components (p.under root)) := by
        rw [MemoryTree.hasDir, MemoryTree.hasDir, hdirs]
      exact hsame.trans (hfree layer kind p hp)

/-- A file of the project is written with its directories, or the contents stay. -/
theorem execute_storeArtifact (hl : IsProject l.project) {layer : Layer} {kind : ArtifactKind}
    {p : RelativePath} (hplace : IsPlace l layer kind p) (hs : s.tree.Sound l root) {a : Artifact}
    (ha : a.path = p.under root) :
    ∃ r s', execute (storeArtifact w.files a) s = (r, s') ∧ s.Beside l root s'
      ∧ (r = .ok () → s'.tree.content
          = Function.update s.tree.content (components (p.under root)) (some a.render))
      ∧ (∀ e, r = .error e → s'.tree.content = s.tree.content)
      ∧ (w.Calm → r = .ok ()) := by
  have hbeside : s.Beside l root s := ⟨rfl, rfl, hs.free⟩
  unfold storeArtifact
  rw [ha]
  cases hparent : Path.parent (p.under root) with
  | none =>
      exact execute_write_file hbeside (MemoryTree.canWrite_of_parent_none _ hparent) a.render
  | some dir =>
      rw [execute_bind, execute_createDirs]
      cases hfault : w.fault (s.after (.makeDirs dir)).calls with
      | some e =>
          refine ⟨_, _, rfl, ⟨rfl, rfl, hs.free⟩, nofun, fun _ _ => rfl, fun hcalm => ?_⟩
          rw [hcalm.fault] at hfault
          cases hfault
      | none =>
          -- a directory above a file of the project is not where another file belongs
          have hfree : ∀ layer' kind' q, IsPlace l layer' kind' q →
              (s.tree.createDirs (components dir)).hasDir (components (q.under root)) = false := by
            intro layer' kind' q hq
            rw [Bool.eq_false_iff]
            intro hdir
            obtain hold | ⟨-, hprefix⟩ := (MemoryTree.hasDir_createDirs _ _ _).1 hdir
            · have hnone := hs.free layer' kind' q hq
              rw [hold] at hnone
              cases hnone
            · rw [Path.components_parent hparent] at hprefix
              exact hq.not_above hl hplace root hprefix
          have hbeside : s.Beside l root
              { s.after (.makeDirs dir) with tree := s.tree.createDirs (components dir) } :=
            ⟨rfl, rfl, hfree⟩
          have hwrite := execute_write_file (w := w) hbeside
            (MemoryTree.canWrite_createDirs _ hparent) a.render
          simpa only [MemoryTree.content_createDirs] using hwrite

/-! ## Carrying out -/

/-- How a computation that carries tasks out ends: the first of them were carried out, and all if
it ended well. -/
structure Carries {α : Type} (w : Surroundings) (l : Locator) (root : String) (s : Scene)
    (ts : List Task) (out : Except Error α × Scene) : Prop where
  descriptor : out.2.descriptor = s.descriptor
  container : out.2.container = s.container
  sound : out.2.tree.Sound l root
  content : ∃ k, out.2.tree.content = carryAll root s.tree.content (ts.take k)
  /-- All tasks were carried out by a computation that ended well. -/
  ended : ∀ a, out.1 = .ok a → out.2.tree.content = carryAll root s.tree.content ts
  /-- Where no call fails it ends well. -/
  calm : w.Calm → ∃ a, out.1 = .ok a

/-- A task is carried out, or the contents stay. -/
theorem Task.perform_carries (hl : IsProject l.project) {t : Task} (ht : t.Belongs l)
    (hs : s.tree.Sound l root) :
    Carries w l root s [t] (execute (t.perform w.files builtin root) s) := by
  obtain ⟨r, s₁, hinspect, hsame, hlook, hcalm⟩ := execute_inspect (w := w) ht hs
  have htree := hsame.tree
  have hsound : s₁.tree.Sound l root := htree ▸ hs
  have hkeep : s₁.tree.content = carryAll root s.tree.content ([t].take 0) := by rw [htree]; rfl
  rw [Task.perform, execute_bind, hinspect]
  cases r with
  | error e =>
      refine ⟨hsame.descriptor, hsame.container, hsound, ⟨0, hkeep⟩, by rintro _ ⟨⟩, fun h => ?_⟩
      obtain ⟨a, ha⟩ := hcalm h
      cases ha
  | ok a =>
      simp only [hlook a rfl]
      rw [execute_bind, execute_lift_except]
      by_cases hrests : t.Rests root s.tree.content
      · obtain ⟨next, hdecide⟩ := Task.decide_of_rests hl ht hs.legit hrests
        simp only [hdecide]
        have hcarry : carryAll root s.tree.content [t] = s.tree.content :=
          Task.carry_of_rests hl ht hs.legit hrests
        refine ⟨hsame.descriptor, hsame.container, hsound, ⟨0, hkeep⟩, fun _ _ => ?_,
          fun _ => ⟨_, rfl⟩⟩
        rw [hcarry]
        exact congrArg MemoryTree.content htree
      · have hbelongs := ht
        obtain ⟨layer, kind, hplace, hsuited⟩ := ht
        obtain ⟨outcome, b, ls', hdecide, hchanged, hyields⟩ :=
          Task.decide_of_not_rests hl hplace hsuited hs.legit hrests
        have hcarry : carryAll root s.tree.content [t]
            = Function.update s.tree.content (t.place root) (some (Text.unlines ls')) := by
          simp [carryAll, Task.carry, hdecide, hchanged]
        obtain ⟨r, s₂, hstore, hbeside, hwritten, hkept, hcalm⟩ :=
          execute_storeArtifact (w := w) (s := s₁) hl hplace hsound
            (a := .ofLines (t.path.under root) b ls') rfl
        simp only [hdecide, hchanged, if_true]
        rw [execute_bind, hstore]
        have hstores := hbeside.descriptor.trans hsame.descriptor
        have hcontainer := hbeside.container.trans hsame.container
        cases r with
        | error e =>
            have hcontent := hkept e rfl
            refine ⟨hstores, hcontainer, ⟨hcontent ▸ hsound.legit, hbeside.free⟩,
              ⟨0, hcontent.trans hkeep⟩, by rintro _ ⟨⟩, fun h => by cases hcalm h⟩
        | ok _ =>
            have hcontent : s₂.tree.content = carryAll root s.tree.content [t] := by
              rw [hwritten rfl, hcarry, htree, Artifact.render_ofLines]
              rfl
            have hlegit : s₂.tree.content.Legit l root := by
              rw [hcontent]
              exact Task.legit_carry hl hbelongs hs.legit
            exact ⟨hstores, hcontainer, ⟨hlegit, hbeside.free⟩, ⟨1, hcontent⟩, fun _ _ => hcontent,
              fun _ => ⟨_, rfl⟩⟩

/-- Tasks are carried out in order, up to the first at which a call fails. -/
theorem performAll_carries (hl : IsProject l.project) {ts : List Task}
    (hts : ∀ t ∈ ts, t.Belongs l) (hs : s.tree.Sound l root) :
    Carries w l root s ts (execute (performAll w.files builtin root ts) s) := by
  induction ts generalizing s with
  | nil => exact ⟨rfl, rfl, hs, ⟨0, rfl⟩, fun _ _ => rfl, fun _ => ⟨_, rfl⟩⟩
  | cons t ts ih =>
      rw [List.forall_mem_cons] at hts
      have hfirst := Task.perform_carries (w := w) hl hts.1 hs
      rw [performAll, execute_bind]
      rcases hrun : execute (t.perform w.files builtin root) s with ⟨e | step, s₁⟩ <;>
        rw [hrun] at hfirst
      · obtain ⟨k, hk⟩ := hfirst.content
        refine ⟨hfirst.descriptor, hfirst.container, hfirst.sound, ⟨k.min 1, ?_⟩, by rintro _ ⟨⟩,
          fun h => ?_⟩
        · have htake : (t :: ts).take (k.min 1) = [t].take k := by
            cases k <;> simp
          rw [htake]
          exact hk
        · obtain ⟨a, ha⟩ := hfirst.calm h
          cases ha
      · have hcarried : s₁.tree.content = t.carry root s.tree.content := hfirst.ended step rfl
        have hrest := ih (s := s₁) hts.2 hfirst.sound
        simp only
        rw [execute_bind]
        rcases hrun' : execute (performAll w.files builtin root ts) s₁ with ⟨e | steps, s₂⟩ <;>
          rw [hrun'] at hrest <;>
          obtain ⟨k, hk⟩ := hrest.content <;>
          have hcontent : s₂.tree.content
              = carryAll root s.tree.content ((t :: ts).take (k + 1)) := by
            rw [List.take_succ_cons, carryAll, List.foldl_cons, ← hcarried]
            exact hk
        · refine ⟨hrest.descriptor.trans hfirst.descriptor, hrest.container.trans hfirst.container,
            hrest.sound, ⟨k + 1, hcontent⟩, by rintro _ ⟨⟩, fun h => ?_⟩
          obtain ⟨a, ha⟩ := hrest.calm h
          cases ha
        · refine ⟨hrest.descriptor.trans hfirst.descriptor, hrest.container.trans hfirst.container,
            hrest.sound, ⟨k + 1, hcontent⟩, fun _ _ => ?_, fun _ => ⟨_, rfl⟩⟩
          rw [carryAll, List.foldl_cons, ← hcarried]
          exact hrest.ended steps rfl

/-- Tasks that rest only look, and report that nothing changed. -/
theorem performAll_rests (hl : IsProject l.project) {ts : List Task}
    (hts : ∀ t ∈ ts, t.Belongs l) (hs : s.tree.Sound l root)
    (hrests : ∀ t ∈ ts, t.Rests root s.tree.content) :
    ∃ r s', execute (performAll w.files builtin root ts) s = (r, s') ∧ s.Same .look s'
      ∧ ∀ steps, r = .ok steps → changedCount steps = 0 := by
  induction ts generalizing s with
  | nil => exact ⟨_, _, rfl, .refl _ s, by rintro _ ⟨⟩; rfl⟩
  | cons t ts ih =>
      rw [List.forall_mem_cons] at hts hrests
      obtain ⟨r, s₁, hinspect, hsame, hlook, -⟩ := execute_inspect (w := w) hts.1 hs
      rw [performAll, execute_bind, Task.perform, execute_bind, hinspect]
      cases r with
      | error e => exact ⟨_, _, rfl, hsame, nofun⟩
      | ok a =>
          obtain ⟨next, hdecide⟩ := Task.decide_of_rests hl hts.1 hs.legit hrests.1
          have hs₁ : s₁.tree.Sound l root := hsame.tree ▸ hs
          obtain ⟨r, s₂, hrun, hsame', hsteps⟩ := ih hts.2 hs₁ (by rw [hsame.tree]; exact hrests.2)
          have hunchanged : Outcome.unchanged.changed = false := rfl
          simp only [hlook a rfl]
          rw [execute_bind, execute_lift_except, hdecide]
          simp only [hunchanged, Bool.false_eq_true, if_false, execute_pure]
          rw [execute_bind, hrun]
          cases r with
          | error e => exact ⟨_, _, rfl, hsame.trans hsame', nofun⟩
          | ok steps =>
              refine ⟨_, _, rfl, hsame.trans hsame', ?_⟩
              rintro _ ⟨⟩
              have hrest := hsteps steps rfl
              simp [changedCount, hunchanged] at hrest ⊢
              exact hrest

end

end Scaffold
