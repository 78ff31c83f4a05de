import Mathlib
import Scaffold.Proofs.Twins

/-!
# A file by the actions on it

What tasks leave of a file depends on the actions on it, in their order, and on nothing else
(`carryAll_at`).  So the actions can be replayed on the file alone (`replay`), and lists of tasks
that come down to the same actions leave the same file.  Actions that have nothing to do can be left
out of a replay (`replay_rests`), and a declaration that has something to do puts its block in
(`replayed_declare`).
-/

namespace Scaffold

open Scaffold.Path (components)
open Scaffold.Text

/-! ## One place -/

section

variable {root : String} {F G : Files} {t : Task} {ts : List Task} {c : List Component}

theorem Task.carry_of_ne (h : t.place root ≠ c) : t.carry root F c = F c := by
  unfold Task.carry
  cases t.action.decide builtin (t.look root (F (t.place root))) with
  | error e => rfl
  | ok decided =>
      simp only
      split
      · exact Function.update_of_ne (Ne.symm h) _ _
      · rfl

/-- What a task leaves in its file depends on what was in it, and not on what the task is called. -/
theorem Task.carry_place {t' : Task} (hpath : t.path = t'.path) (haction : t.action = t'.action)
    (h : F (t.place root) = G (t.place root)) :
    t.carry root F (t.place root) = t'.carry root G (t.place root) := by
  obtain ⟨what, p, a⟩ := t
  obtain ⟨what', p', a'⟩ := t'
  obtain rfl : p = p' := hpath
  obtain rfl : a = a' := haction
  have hlook : (Task.mk what' p a).look root (G ((Task.mk what p a).place root))
      = (Task.mk what p a).look root (F ((Task.mk what p a).place root)) := by
    rw [← h]
    rfl
  have hplace : (Task.mk what' p a).place root = (Task.mk what p a).place root := rfl
  unfold Task.carry
  rw [hplace, hlook]
  cases a.decide builtin ((Task.mk what p a).look root (F ((Task.mk what p a).place root))) with
  | error e => exact h
  | ok decided =>
      simp only
      split
      · rw [Function.update_self, Function.update_self]
      · exact h

theorem carryAll_congr_at (h : F c = G c) (ts : List Task) :
    carryAll root F ts c = carryAll root G ts c := by
  induction ts generalizing F G with
  | nil => exact h
  | cons t ts ih =>
      refine ih ?_
      by_cases hplace : t.place root = c
      · subst hplace
        exact Task.carry_place rfl rfl h
      · rw [Task.carry_of_ne hplace, Task.carry_of_ne hplace, h]

/-- Tasks on other files leave a file alone. -/
theorem carryAll_of_ne (h : ∀ t ∈ ts, t.place root ≠ c) : carryAll root F ts c = F c := by
  induction ts generalizing F with
  | nil => rfl
  | cons t ts ih =>
      rw [List.forall_mem_cons] at h
      exact (ih h.2).trans (Task.carry_of_ne h.1)

end

/-! ## Replays -/

/-- Actions as tasks on a file. -/
def tasksAt (p : RelativePath) (actions : List Action) : List Task := actions.map (Task.mk "" p)

/-- The content of a file after actions on it. -/
def replay (root : String) (p : RelativePath) (actions : List Action) : Option String :=
  carryAll root (fun _ => none) (tasksAt p actions) (components (p.under root))

/-- The lines of a file after actions on it. -/
def replayed (root : String) (p : RelativePath) (actions : List Action) : Option (List String) :=
  (replay root p actions).map lines

theorem tasksAt_append (p : RelativePath) (actions actions' : List Action) :
    tasksAt p (actions ++ actions') = tasksAt p actions ++ tasksAt p actions' := List.map_append

theorem actionsOn_tasksAt (p : RelativePath) (actions : List Action) :
    actionsOn p (tasksAt p actions) = actions := by
  refine (@actionsOn_map p _ actions (Task.mk "" p) fun _ _ => rfl).trans ?_
  exact List.map_id' actions

section

variable {l : Locator} (hl : IsProject l.project) (root : String) {layer : Layer} {kind : ArtifactKind}
  {p : RelativePath} (hp : IsPlace l layer kind p) {actions actions' : List Action} {a : Action}

include hl hp

/-- **A file by the actions on it.** -/
theorem carryAll_at {ts : List Task} (hts : ∀ t ∈ ts, t.Belongs l) (F : Files) :
    carryAll root F ts (components (p.under root))
      = carryAll root F (tasksAt p (actionsOn p ts)) (components (p.under root)) := by
  induction ts generalizing F with
  | nil => rfl
  | cons t ts ih =>
      rw [List.forall_mem_cons] at hts
      by_cases hpath : t.path = p
      · subst hpath
        rw [actionsOn_cons_self rfl]
        refine (ih hts.2 _).trans (carryAll_congr_at ?_ _)
        exact Task.carry_place rfl rfl rfl
      · have hplace : t.place root ≠ components (p.under root) := by
          obtain ⟨⟨layer', kind', hplace, -⟩, -⟩ := hts
          exact fun heq => hpath (hplace.unique hl hp heq).2.2
        rw [actionsOn_cons_of_ne hpath]
        exact (ih hts.2 _).trans (carryAll_congr_at (Task.carry_of_ne hplace) _)

theorem replay_actionsOn {ts : List Task} (hts : ∀ t ∈ ts, t.Belongs l) :
    carryAll root (fun _ => none) ts (components (p.under root)) = replay root p (actionsOn p ts) :=
  carryAll_at hl root hp hts _

/-- The actions of tasks of a project on one of its files suit it. -/
theorem suited_of_mem_actionsOn {ts : List Task} (hts : ∀ t ∈ ts, t.Belongs l) :
    ∀ a ∈ actionsOn p ts, a.Suited l p kind := by
  intro a ha
  obtain ⟨t, ht, rfl, rfl⟩ := mem_actionsOn.1 ha
  obtain ⟨layer', kind', hplace, hsuited⟩ := hts t ht
  cases hplace.kind_eq hl hp
  exact hsuited

omit hl in
theorem tasksAt_belong (h : ∀ a ∈ actions, a.Suited l p kind) : ∀ t ∈ tasksAt p actions, t.Belongs l :=
  List.forall_mem_map.2 fun a ha => ⟨layer, kind, hp, h a ha⟩

/-- A replay writes the file. -/
theorem written_replayed (h : ∀ a ∈ actions, a.Suited l p kind) :
    Written l p kind actions (replayed root p actions) := by
  have hwritten := written_carryAll hl root (tasksAt_belong hp h) hp
  rwa [actionsOn_tasksAt] at hwritten

omit hl hp in
theorem replay_append_congr (h : replay root p actions = replay root p actions') (rest : List Action) :
    replay root p (actions ++ rest) = replay root p (actions' ++ rest) := by
  rw [replay, replay, tasksAt_append, tasksAt_append, carryAll_append, carryAll_append]
  exact carryAll_congr_at h _

/-- Actions with nothing to do leave the file. -/
theorem replay_rests (h : ∀ a ∈ actions ++ actions', a.Suited l p kind)
    (hrests : ∀ a ∈ actions', a.Rests (replayed root p actions)) :
    replay root p (actions ++ actions') = replay root p actions := by
  rw [List.forall_mem_append] at h
  rw [replay, tasksAt_append, carryAll_append, carryAll_of_rests hl (tasksAt_belong hp h.2)
    (legit_carryAll hl (tasksAt_belong hp h.1) (Files.legit_empty l root))
    (List.forall_mem_map.2 fun a ha => hrests a ha)]
  rfl

/-- Actions rest after they were carried out. -/
theorem rests_replayed (h : ∀ a ∈ actions, a.Suited l p kind) :
    ∀ a ∈ actions, a.Rests (replayed root p actions) := fun a ha =>
  rests_carryAll hl (tasksAt_belong hp h) (Files.legit_empty l root) ⟨"", p, a⟩ (List.mem_map_of_mem ha)

/-- Actions that were carried out leave the file. -/
theorem replay_again (h : ∀ a ∈ actions, a.Suited l p kind) (hagain : ∀ a ∈ actions', a ∈ actions) :
    replay root p (actions ++ actions') = replay root p actions :=
  replay_rests hl root hp (List.forall_mem_append.2 ⟨h, fun a ha => h a (hagain a ha)⟩)
    fun a ha => rests_replayed hl root hp h a (hagain a ha)

/-- An action with something to do. -/
theorem replayed_yields (h : ∀ a ∈ actions, a.Suited l p kind) (ha : a.Suited l p kind)
    (hnot : ¬ a.Rests (replayed root p actions)) : ∃ ls, replayed root p (actions ++ [a]) = some ls
      ∧ a.Yields l kind ((replayed root p actions).getD a.base) ls := by
  obtain ⟨ls, hcarry, hyields⟩ := Task.carry_of_not_rests (t := ⟨"", p, a⟩) hl hp ha
    (legit_carryAll hl (tasksAt_belong hp h) (Files.legit_empty l root)) hnot
  refine ⟨ls, ?_, hyields⟩
  rw [replayed, replay, tasksAt_append, carryAll_append]
  change (Task.carry root _ ⟨"", p, a⟩ _).map lines = _
  rw [hcarry]
  exact Task.linesAt_update hyields.kept _

/-- A declaration of something new puts its block in. -/
theorem replayed_declare (h : ∀ a ∈ actions, a.Suited l p kind) {m : Member} {ctx : Context}
    (ha : (Action.declare (m.declaration l) ctx).Suited l p kind) (hm : m.WellNamed)
    (hkind : m.kind = kind)
    (hnew : actions.any (Action.declares (m.declaration l).detection) = false) :
    replayed root p (actions ++ [.declare (m.declaration l) ctx])
      = some ((m.declaration l).anchor.put
        ((replayed root p actions).getD (Action.declare (m.declaration l) ctx).base)
        (m.declaration l).block (m.declaration l).separated) := by
  have hwritten := written_replayed hl root hp h
  have hnot : ¬ (Action.declare (m.declaration l) ctx).Rests (replayed root p actions) := by
    rw [hwritten.rests_iff hl ha, hnew]
    exact Bool.false_ne_true
  obtain ⟨ls, hls, hyields⟩ := replayed_yields hl root hp h ha hnot
  obtain ⟨hmet, -⟩ | ⟨-, rfl⟩ := hyields.adds
  · -- a new file has nothing declared, and one that is there would rest
    cases hcurrent : replayed root p actions with
    | some current =>
        rw [hcurrent] at hmet hnot
        exact absurd (.inr ⟨current, rfl, hmet⟩) hnot
    | none =>
        rw [hcurrent] at hmet
        obtain ⟨x, hx, hfound⟩ := hmet
        exact absurd hfound (List.countP_eq_zero.1 (ha.base_clear hm hkind) x hx)
  · exact hls

/-! ### Imports -/

/-- Imports of a file that is there. -/
theorem replayed_imports (h : ∀ a ∈ actions, a.Suited l p kind) {literals : List String}
    (hliterals : ∀ x ∈ literals, (Action.importLine x).Suited l p kind) {ls : List String}
    (hls : replayed root p actions = some ls) :
    replayed root p (actions ++ literals.map .importLine) = some (importAll literals ls) := by
  induction literals generalizing actions ls with
  | nil => simpa [importAll] using hls
  | cons x literals ih =>
      rw [List.forall_mem_cons] at hliterals
      have hstep : ∀ a ∈ actions ++ [Action.importLine x], a.Suited l p kind :=
        List.forall_mem_append.2 ⟨h, List.forall_mem_singleton.2 hliterals.1⟩
      rw [List.map_cons, List.append_cons, importAll_cons]
      by_cases hmem : x ∈ ls
      · have hrests : (Action.importLine x).Rests (replayed root p actions) := .inr ⟨ls, hls, hmem⟩
        rw [if_pos hmem]
        refine ih hstep hliterals.2 (.trans ?_ hls)
        rw [replayed, replay_rests hl root hp hstep (List.forall_mem_singleton.2 hrests)]
        rfl
      · have hnot : ¬ (Action.importLine x).Rests (replayed root p actions) := by
          rintro (⟨samples, hclean⟩ | ⟨ls', hls', hmem'⟩)
          · cases hclean
          · cases hls.symm.trans hls'
            exact hmem hmem'
        obtain ⟨ls', hls', hyields⟩ := replayed_yields hl root hp h hliterals.1 hnot
        have hadds := hyields.adds
        rw [hls] at hadds
        rw [if_neg hmem]
        exact ih hstep hliterals.2 (hls'.trans (congrArg some hadds))

end

end Scaffold
