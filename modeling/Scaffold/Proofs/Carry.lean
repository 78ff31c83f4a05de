import Mathlib
import Scaffold.Proofs.Task

/-!
# Carrying tasks out on the contents of files

`Task.carry` is the effect of a task on the contents of all files, and `carryAll` that of a list
of tasks.  On files that only tasks have written (`Files.Legit`) a task that rests changes nothing
(`Task.carry_of_rests`), and one that does not rests from then on (`Task.rests_carry`), because no
later task takes a line out (`Files.Grows`).  So a list of tasks that was carried out in part can
be carried out again from the top (`carryAll_take`).

What else lies in the tree makes no difference: contents that agree but for places apart from the
project (`Files.AgreeOff`) agree after tasks were carried out (`Files.AgreeOff.carryAll`).
-/

namespace Scaffold

open Scaffold.Text

/-! ## Contents -/

namespace Files

/-- The lines of the file at some components. -/
def linesAt (F : Files) (c : List Component) : Option (List String) := (F c).map lines

/-- The files of a project are such as tasks write them. -/
def Legit (l : Locator) (root : String) (F : Files) : Prop :=
  ∀ layer kind p, IsPlace l layer kind p →
    ∀ text ∈ F (Path.components (p.under root)), ∃ ls, text = unlines ls ∧ WellKept l kind ls

/-- Every file of `F` is there in `G`, with all its lines. -/
def Grows (F G : Files) : Prop :=
  ∀ c, ∀ ls ∈ F.linesAt c, ∃ ls' ∈ G.linesAt c, ls.Sublist ls'

theorem Grows.refl (F : Files) : Grows F F := fun _ ls hls => ⟨ls, hls, .refl ls⟩

theorem Grows.trans {F G H : Files} (h : Grows F G) (h' : Grows G H) : Grows F H := by
  intro c ls hls
  obtain ⟨ls', hls', hsub⟩ := h c ls hls
  obtain ⟨ls'', hls'', hsub'⟩ := h' c ls' hls'
  exact ⟨ls'', hls'', hsub.trans hsub'⟩

theorem legit_empty (l : Locator) (root : String) : Legit l root fun _ => none := by
  intro layer kind p _ text htext
  cases htext

end Files

/-! ## One task -/

namespace Task

/-- Where the file of a task is. -/
def place (root : String) (t : Task) : List Component := Path.components (t.path.under root)

/-- The file a task decides on, by its content.  To make sure that a file is there it is enough
to know whether it is. -/
def look (root : String) (t : Task) (content : Option String) : Artifact :=
  let path := t.path.under root
  match t.action with
  | .file _ _ => { Artifact.absent path with isPresent := content.isSome }
  | .declare _ _ | .importLine _ | .clean _ | .dependency _ _ _ | .reference _ _ =>
      match content with
      | some text => .parse path text
      | none => .absent path

/-- The effect of a task on the contents of the files. -/
def carry (root : String) (F : Files) (t : Task) : Files :=
  match t.action.decide builtin (t.look root (F (t.place root))) with
  | .ok (outcome, next) =>
      if outcome.changed then Function.update F (t.place root) (some next.render) else F
  | .error _ => F

/-- A task on a file of a project. -/
def Belongs (l : Locator) (t : Task) : Prop :=
  ∃ layer kind, IsPlace l layer kind t.path ∧ t.action.Suited l t.path kind

/-- There is nothing to do for a task. -/
def Rests (root : String) (t : Task) (F : Files) : Prop := t.action.Rests (F.linesAt (t.place root))

section

variable {l : Locator} {root : String} {F G : Files} {t : Task}

theorem Rests.mono (h : t.Rests root F) (hgrows : F.Grows G) : t.Rests root G := by
  obtain hclean | ⟨ls, hls, hmet⟩ := h
  · exact .inl hclean
  · obtain ⟨ls', hls', hsub⟩ := hgrows _ ls hls
    exact .inr ⟨ls', hls', hmet.mono hsub.subset⟩

/-- What a task decides on is the artifact of the lines of its file. -/
theorem look_eq (hF : F.Legit l root) {layer : Layer} {kind : ArtifactKind}
    (hplace : IsPlace l layer kind t.path) :
    t.look root (F (t.place root)) = t.action.look (t.path.under root) (F.linesAt (t.place root))
      ∧ ∀ ls ∈ F.linesAt (t.place root), WellKept l kind ls := by
  unfold look Action.look Files.linesAt
  cases hcontent : F (t.place root) with
  | none =>
      refine ⟨?_, by simp⟩
      cases t.action <;> rfl
  | some text =>
      obtain ⟨ls, rfl, hkept⟩ := hF _ _ _ hplace text hcontent
      have hread := lines_unlines hkept.plain
      have hparse := Artifact.parse_unlines hkept.plain (t.path.under root)
      refine ⟨?_, by simpa [hread] using hkept⟩
      simp only [Option.map_some, hread, hparse]
      cases t.action <;> rfl

/-- What a task that rests decides: nothing changes. -/
theorem decide_of_rests (hl : IsProject l.project) (ht : t.Belongs l) (hF : F.Legit l root)
    (h : t.Rests root F) : ∃ next,
    t.action.decide builtin (t.look root (F (t.place root))) = .ok (.unchanged, next) := by
  obtain ⟨layer, kind, hplace, hsuited⟩ := ht
  obtain ⟨hlook, hkept⟩ := look_eq hF hplace
  rw [hlook]
  exact ⟨_, Action.decide_of_rests hl hsuited hkept h _⟩

/-- What a task that does not rest decides: the file has new lines. -/
theorem decide_of_not_rests (hl : IsProject l.project) {layer : Layer} {kind : ArtifactKind}
    (hplace : IsPlace l layer kind t.path) (hsuited : t.action.Suited l t.path kind)
    (hF : F.Legit l root) (h : ¬ t.Rests root F) : ∃ outcome b ls',
    t.action.decide builtin (t.look root (F (t.place root)))
      = .ok (outcome, .ofLines (t.path.under root) b ls')
    ∧ outcome.changed = true
    ∧ t.action.Yields l kind ((F.linesAt (t.place root)).getD t.action.base) ls' := by
  obtain ⟨hlook, hkept⟩ := look_eq hF hplace
  rw [hlook]
  exact Action.decide_of_not_rests hl hsuited hkept h _

/-- A task that rests changes nothing. -/
theorem carry_of_rests (hl : IsProject l.project) (ht : t.Belongs l) (hF : F.Legit l root)
    (h : t.Rests root F) : t.carry root F = F := by
  obtain ⟨next, hdecide⟩ := decide_of_rests hl ht hF h
  simp [carry, hdecide, Outcome.changed]

/-- A task that does not rest puts lines into its file. -/
theorem carry_of_not_rests (hl : IsProject l.project) {layer : Layer} {kind : ArtifactKind}
    (hplace : IsPlace l layer kind t.path) (hsuited : t.action.Suited l t.path kind)
    (hF : F.Legit l root) (h : ¬ t.Rests root F) : ∃ ls',
    t.carry root F = Function.update F (t.place root) (some (unlines ls'))
    ∧ t.action.Yields l kind ((F.linesAt (t.place root)).getD t.action.base) ls' := by
  obtain ⟨outcome, b, ls', hdecide, hchanged, hyields⟩ :=
    decide_of_not_rests hl hplace hsuited hF h
  refine ⟨ls', ?_, hyields⟩
  simp [carry, hdecide, hchanged]

/-- The lines of a file after a task has written it. -/
theorem linesAt_update {ls : List String} {kind : ArtifactKind} (h : WellKept l kind ls)
    (c : List Component) :
    Files.linesAt (Function.update F c (some (unlines ls))) c = some ls := by
  simp [Files.linesAt, lines_unlines h.plain]

theorem linesAt_update_of_ne {c c' : List Component} (h : c' ≠ c) (text : Option String) :
    Files.linesAt (Function.update F c text) c' = F.linesAt c' := by
  simp [Files.linesAt, Function.update_of_ne h]

/-- The files stay such as tasks write them. -/
theorem legit_carry (hl : IsProject l.project) (ht : t.Belongs l) (hF : F.Legit l root) :
    (t.carry root F).Legit l root := by
  by_cases h : t.Rests root F
  · rw [carry_of_rests hl ht hF h]
    exact hF
  · obtain ⟨layer, kind, hplace, hsuited⟩ := ht
    obtain ⟨ls', hcarry, hyields⟩ := carry_of_not_rests hl hplace hsuited hF h
    rw [hcarry]
    intro layer' kind' p' hplace' text htext
    by_cases hsame : Path.components (p'.under root) = t.place root
    · obtain ⟨-, rfl, -⟩ := hplace'.unique hl hplace hsame
      rw [hsame, Function.update_self] at htext
      exact ⟨ls', (Option.some.inj htext).symm, hyields.kept⟩
    · rw [Function.update_of_ne hsame] at htext
      exact hF layer' kind' p' hplace' text htext

/-- No file and no line goes out. -/
theorem grows_carry (hl : IsProject l.project) (ht : t.Belongs l) (hF : F.Legit l root) :
    F.Grows (t.carry root F) := by
  by_cases h : t.Rests root F
  · rw [carry_of_rests hl ht hF h]
    exact .refl F
  · obtain ⟨layer, kind, hplace, hsuited⟩ := ht
    obtain ⟨ls', hcarry, hyields⟩ := carry_of_not_rests hl hplace hsuited hF h
    rw [hcarry]
    intro c ls hls
    by_cases hsame : c = t.place root
    · subst hsame
      refine ⟨ls', linesAt_update hyields.kept _, ?_⟩
      have hsub := hyields.sublist
      rwa [hls] at hsub
    · exact ⟨ls, (linesAt_update_of_ne hsame _).trans hls, .refl ls⟩

/-- A task rests after it was carried out. -/
theorem rests_carry (hl : IsProject l.project) (ht : t.Belongs l) (hF : F.Legit l root) :
    t.Rests root (t.carry root F) := by
  by_cases h : t.Rests root F
  · rw [carry_of_rests hl ht hF h]
    exact h
  · obtain ⟨layer, kind, hplace, hsuited⟩ := ht
    obtain ⟨ls', hcarry, hyields⟩ := carry_of_not_rests hl hplace hsuited hF h
    rw [hcarry]
    exact .inr ⟨ls', linesAt_update hyields.kept _, hyields.met⟩

/-- Tasks that differ at most in the year. -/
structure Alike (t t' : Task) : Prop where
  what : t.what = t'.what
  path : t.path = t'.path
  action : t.action.Alike t'.action

theorem Alike.rests_iff {t' : Task} (h : t.Alike t') : t.Rests root F ↔ t'.Rests root F := by
  unfold Rests place
  rw [h.path]
  exact h.action.rests_iff _

theorem Alike.look_eq {t' : Task} (h : t.Alike t') (content : Option String) :
    t.look root content = t'.look root content := by
  obtain ⟨what, path, action⟩ := t
  obtain ⟨what', path', action'⟩ := t'
  obtain ⟨rfl, rfl, haction⟩ := h
  cases haction <;> rfl

theorem Alike.carry_eq {t' : Task} (h : t.Alike t') (ht : t.Belongs l) (ht' : t'.Belongs l) :
    t.carry root F = t'.carry root F := by
  obtain ⟨_, _, _, hsuited⟩ := ht
  obtain ⟨_, _, _, hsuited'⟩ := ht'
  have hplace : t.place root = t'.place root := by
    unfold place
    rw [h.path]
  unfold carry
  rw [hplace, h.look_eq, h.action.decide_eq hsuited.dotted hsuited'.dotted]

end

end Task

/-! ## Lists of tasks -/

/-- The effect of tasks, one after the other. -/
def carryAll (root : String) (F : Files) (ts : List Task) : Files := ts.foldl (Task.carry root) F

section

variable {l : Locator} {root : String} {F : Files} {ts : List Task}

theorem carryAll_append (root : String) (F : Files) (ts ts' : List Task) :
    carryAll root F (ts ++ ts') = carryAll root (carryAll root F ts) ts' :=
  List.foldl_append

theorem legit_carryAll (hl : IsProject l.project) (hts : ∀ t ∈ ts, t.Belongs l)
    (hF : F.Legit l root) : (carryAll root F ts).Legit l root := by
  induction ts generalizing F with
  | nil => exact hF
  | cons t ts ih =>
      rw [List.forall_mem_cons] at hts
      exact ih hts.2 (Task.legit_carry hl hts.1 hF)

theorem grows_carryAll (hl : IsProject l.project) (hts : ∀ t ∈ ts, t.Belongs l)
    (hF : F.Legit l root) : F.Grows (carryAll root F ts) := by
  induction ts generalizing F with
  | nil => exact .refl F
  | cons t ts ih =>
      rw [List.forall_mem_cons] at hts
      exact (Task.grows_carry hl hts.1 hF).trans (ih hts.2 (Task.legit_carry hl hts.1 hF))

/-- Every task rests after all were carried out. -/
theorem rests_carryAll (hl : IsProject l.project) (hts : ∀ t ∈ ts, t.Belongs l)
    (hF : F.Legit l root) : ∀ t ∈ ts, t.Rests root (carryAll root F ts) := by
  induction ts generalizing F with
  | nil => simp
  | cons t ts ih =>
      rw [List.forall_mem_cons] at hts ⊢
      have hlegit := Task.legit_carry hl hts.1 hF
      exact ⟨(Task.rests_carry hl hts.1 hF).mono (grows_carryAll hl hts.2 hlegit),
        ih hts.2 hlegit⟩

/-- Tasks that rest change nothing. -/
theorem carryAll_of_rests (hl : IsProject l.project) (hts : ∀ t ∈ ts, t.Belongs l)
    (hF : F.Legit l root) (h : ∀ t ∈ ts, t.Rests root F) : carryAll root F ts = F := by
  induction ts with
  | nil => rfl
  | cons t ts ih =>
      rw [List.forall_mem_cons] at hts h
      rw [carryAll, List.foldl_cons, Task.carry_of_rests hl hts.1 hF h.1]
      exact ih hts.2 h.2

/-- Tasks of which the first were carried out already have the effect they would have had. -/
theorem carryAll_take (hl : IsProject l.project) (hts : ∀ t ∈ ts, t.Belongs l)
    (hF : F.Legit l root) (k : Nat) :
    carryAll root (carryAll root F (ts.take k)) ts = carryAll root F ts := by
  have hfront : ∀ t ∈ ts.take k, t.Belongs l := fun t ht => hts t (List.mem_of_mem_take ht)
  have hagain := carryAll_of_rests hl hfront (legit_carryAll hl hfront hF)
    (rests_carryAll hl hfront hF)
  calc carryAll root (carryAll root F (ts.take k)) ts
      = carryAll root (carryAll root F (ts.take k)) (ts.take k ++ ts.drop k) := by
        rw [List.take_append_drop]
    _ = carryAll root (carryAll root F (ts.take k)) (ts.drop k) := by
        rw [carryAll_append, hagain]
    _ = carryAll root F ts := by rw [← carryAll_append, List.take_append_drop]

/-- Carrying the first tasks out twice is carrying the longer part out once. -/
theorem carryAll_take_take (hl : IsProject l.project) (hts : ∀ t ∈ ts, t.Belongs l)
    (hF : F.Legit l root) (j k : Nat) : carryAll root (carryAll root F (ts.take j)) (ts.take k)
      = carryAll root F (ts.take (max j k)) := by
  have hpart : ∀ i, ∀ t ∈ ts.take i, t.Belongs l := fun i t ht => hts t (List.mem_of_mem_take ht)
  rcases Nat.le_total j k with hjk | hkj
  · rw [Nat.max_eq_right hjk]
    have htake : ts.take j = (ts.take k).take j := by rw [List.take_take, Nat.min_eq_left hjk]
    rw [htake]
    exact carryAll_take hl (hpart k) hF j
  · rw [Nat.max_eq_left hkj]
    refine carryAll_of_rests hl (hpart k) (legit_carryAll hl (hpart j) hF) fun t ht => ?_
    refine rests_carryAll hl (hpart j) hF t ?_
    have htake : ts.take k = (ts.take j).take k := by rw [List.take_take, Nat.min_eq_left hkj]
    rw [htake] at ht
    exact List.mem_of_mem_take ht

theorem rests_alike {ts' : List Task} (h : List.Forall₂ Task.Alike ts ts')
    (hrests : ∀ t ∈ ts', t.Rests root F) : ∀ t ∈ ts, t.Rests root F := by
  induction h with
  | nil => simp
  | cons halike _ ih =>
      rw [List.forall_mem_cons] at hrests ⊢
      exact ⟨halike.rests_iff.2 hrests.1, ih hrests.2⟩

theorem carryAll_alike {ts' : List Task} (h : List.Forall₂ Task.Alike ts ts')
    (hts : ∀ t ∈ ts, t.Belongs l) (hts' : ∀ t ∈ ts', t.Belongs l) :
    carryAll root F ts = carryAll root F ts' := by
  induction h generalizing F with
  | nil => rfl
  | @cons t t' ts ts' halike _ ih =>
      rw [List.forall_mem_cons] at hts hts'
      rw [carryAll, carryAll, List.foldl_cons, List.foldl_cons, halike.carry_eq hts.1 hts'.1]
      exact ih hts.2 hts'.2

end

/-! ## Contents but for some places -/

/-- The places of a set belong to no file of a project. -/
def Apart (l : Locator) (root : String) (T : Set (List Component)) : Prop :=
  ∀ layer kind p, IsPlace l layer kind p → Path.components (p.under root) ∉ T

theorem apart_empty (l : Locator) (root : String) : Apart l root ∅ := fun _ _ _ _ => id

namespace Files

/-- The contents are the same but for some places. -/
def AgreeOff (T : Set (List Component)) (F G : Files) : Prop := ∀ c ∉ T, F c = G c

namespace AgreeOff

variable {T : Set (List Component)} {F G H : Files}

theorem refl (T : Set (List Component)) (F : Files) : AgreeOff T F F := fun _ _ => rfl

theorem symm (h : AgreeOff T F G) : AgreeOff T G F := fun c hc => (h c hc).symm

theorem trans (h : AgreeOff T F G) (h' : AgreeOff T G H) : AgreeOff T F H :=
  fun c hc => (h c hc).trans (h' c hc)

theorem of_eq (h : F = G) : AgreeOff T F G := h ▸ refl T F

/-- Nothing is left out. -/
theorem eq (h : AgreeOff ∅ F G) : F = G := funext fun c => h c (Set.notMem_empty c)

variable {l : Locator} {root : String}

/-- The files of the project are the same. -/
theorem at_place (h : AgreeOff T F G) (hT : Apart l root T) {layer : Layer} {kind : ArtifactKind}
    {p : RelativePath} (hplace : IsPlace l layer kind p) :
    F (Path.components (p.under root)) = G (Path.components (p.under root)) := h _ (hT layer kind p hplace)

theorem legit (h : AgreeOff T F G) (hT : Apart l root T) (hG : G.Legit l root) : F.Legit l root := by
  intro layer kind p hplace text htext
  rw [h.at_place hT hplace] at htext
  exact hG layer kind p hplace text htext

theorem carry (h : AgreeOff T F G) (hT : Apart l root T) {t : Task} (ht : t.Belongs l) :
    AgreeOff T (t.carry root F) (t.carry root G) := by
  obtain ⟨layer, kind, hplace, -⟩ := ht
  have heq : F (t.place root) = G (t.place root) := h.at_place hT hplace
  intro c hc
  unfold Task.carry
  rw [heq]
  cases t.action.decide builtin (t.look root (G (t.place root))) with
  | error e => exact h c hc
  | ok decided =>
      obtain ⟨outcome, next⟩ := decided
      simp only
      split
      · by_cases hself : c = t.place root
        · rw [hself, Function.update_self, Function.update_self]
        · rw [Function.update_of_ne hself, Function.update_of_ne hself, h c hc]
      · exact h c hc

theorem carryAll (h : AgreeOff T F G) (hT : Apart l root T) {ts : List Task}
    (hts : ∀ t ∈ ts, t.Belongs l) : AgreeOff T (carryAll root F ts) (carryAll root G ts) := by
  induction ts generalizing F G with
  | nil => exact h
  | cons t ts ih =>
      rw [List.forall_mem_cons] at hts
      exact ih (h.carry hT hts.1) hts.2

end AgreeOff

end Files

end Scaffold
