import Mathlib
import Scaffold.Proofs.Carry

/-!
# One file

What is in a file follows from the actions on it, in their order, and not from the tasks on other
files (`written_carryAll`).  So what holds of a file after every action holds after every run, and
an induction on `Written` shows it.

The first use of this is that detection is exact: in a file the detection of a member is found on one
line if an action declared it, and else on none (`Written.countP`).
-/

namespace Scaffold

open Scaffold.Path (components)
open Scaffold.Text

/-- The actions of tasks on the file at a path. -/
def actionsOn (p : RelativePath) (ts : List Task) : List Action :=
  ts.filterMap fun t => if t.path = p then some t.action else none

section

variable {p : RelativePath} {t : Task} {ts ts' : List Task}

@[simp] theorem actionsOn_nil : actionsOn p [] = [] := rfl

@[simp] theorem actionsOn_append :
    actionsOn p (ts ++ ts') = actionsOn p ts ++ actionsOn p ts' := List.filterMap_append

theorem actionsOn_cons_self (h : t.path = p) :
    actionsOn p (t :: ts) = t.action :: actionsOn p ts := by
  simp [actionsOn, h]

theorem actionsOn_cons_of_ne (h : t.path ≠ p) : actionsOn p (t :: ts) = actionsOn p ts := by
  simp [actionsOn, h]

theorem mem_actionsOn {a : Action} : a ∈ actionsOn p ts ↔ ∃ t ∈ ts, t.path = p ∧ t.action = a := by
  simp only [actionsOn, List.mem_filterMap, Option.ite_none_right_eq_some, Option.some.injEq]

theorem actionsOn_eq_nil (h : ∀ t ∈ ts, t.path ≠ p) : actionsOn p ts = [] := by
  rw [actionsOn, List.filterMap_eq_nil_iff]
  intro t ht
  rw [if_neg (h t ht)]

theorem actionsOn_map {α : Type} {xs : List α} {task : α → Task} (h : ∀ x ∈ xs, (task x).path = p) :
    actionsOn p (xs.map task) = xs.map fun x => (task x).action := by
  rw [actionsOn, List.filterMap_map, ← List.filterMap_eq_map']
  exact List.filterMap_congr fun x hx => by simp [h x hx]

theorem actionsOn_flatMap {α : Type} (xs : List α) (g : α → List Task) :
    actionsOn p (xs.flatMap g) = xs.flatMap fun x => actionsOn p (g x) :=
  List.filterMap_flatMap

end

/-- The lines of the file at a path of a project, after actions on it, one after the other. -/
inductive Written (l : Locator) (p : RelativePath) (kind : ArtifactKind) :
    List Action → Option (List String) → Prop
  | untouched : Written l p kind [] none
  | rests {actions : List Action} {a : Action} {current : Option (List String)}
      (hbefore : Written l p kind actions current) (hsuited : a.Suited l p kind)
      (hrests : a.Rests current) : Written l p kind (actions ++ [a]) current
  | yields {actions : List Action} {a : Action} {current : Option (List String)} {ls : List String}
      (hbefore : Written l p kind actions current) (hsuited : a.Suited l p kind)
      (hnot : ¬ a.Rests current) (hyields : a.Yields l kind (current.getD a.base) ls) :
      Written l p kind (actions ++ [a]) (some ls)

/-- A file of a project is written by the actions on it. -/
theorem written_carryAll {l : Locator} (hl : IsProject l.project) (root : String) {ts : List Task}
    (hts : ∀ t ∈ ts, t.Belongs l) {layer : Layer} {kind : ArtifactKind} {p : RelativePath}
    (hp : IsPlace l layer kind p) : Written l p kind (actionsOn p ts)
      ((carryAll root (fun _ => none) ts).linesAt (components (p.under root))) := by
  induction ts using List.reverseRecOn with
  | nil => exact .untouched
  | append_singleton ts t ih =>
      rw [List.forall_mem_append, List.forall_mem_singleton] at hts
      obtain ⟨hts, ht⟩ := hts
      have hbefore := ih hts
      have hF := legit_carryAll hl hts (Files.legit_empty l root)
      rw [carryAll_append, actionsOn_append]
      generalize carryAll root (fun _ => none) ts = F at hbefore hF ⊢
      show Written l p kind _ ((t.carry root F).linesAt _)
      have hbelongs := ht
      obtain ⟨layer', kind', hplace, hsuited⟩ := ht
      by_cases hpath : t.path = p
      · subst hpath
        cases hplace.kind_eq hl hp
        rw [actionsOn_cons_self rfl, actionsOn_nil]
        by_cases hrests : t.Rests root F
        · rw [Task.carry_of_rests hl hbelongs hF hrests]
          exact hbefore.rests hsuited hrests
        · obtain ⟨ls, hcarry, hyields⟩ := Task.carry_of_not_rests hl hplace hsuited hF hrests
          rw [hcarry]
          rw [show components (t.path.under root) = t.place root from rfl,
            Task.linesAt_update hyields.kept]
          exact hbefore.yields hsuited hrests hyields
      · rw [actionsOn_cons_of_ne hpath, actionsOn_nil, List.append_nil]
        by_cases hrests : t.Rests root F
        · rwa [Task.carry_of_rests hl hbelongs hF hrests]
        · obtain ⟨ls, hcarry, -⟩ := Task.carry_of_not_rests hl hplace hsuited hF hrests
          have hne : components (p.under root) ≠ t.place root := fun heq =>
            hpath (hplace.unique hl hp heq.symm).2.2
          rwa [hcarry, Task.linesAt_update_of_ne hne]

namespace Written

variable {l : Locator} {p : RelativePath} {kind : ArtifactKind} {actions : List Action}
  {current : Option (List String)}

/-- The lines are such as tasks leave them. -/
theorem kept (h : Written l p kind actions current) : ∀ ls ∈ current, WellKept l kind ls := by
  induction h with
  | untouched => nofun
  | rests _ _ _ ih => exact ih
  | yields _ _ _ hyields _ =>
      rintro _ ⟨⟩
      exact hyields.kept

/-- A file that nothing was done to is not there. -/
theorem eq_none (h : Written l p kind [] current) : current = none := by
  generalize hactions : ([] : List Action) = actions at h
  cases h with
  | untouched => rfl
  | rests _ _ _ => simp at hactions
  | yields _ _ _ _ => simp at hactions

/-- A file that is made by a declaration has the lines it was made with. -/
theorem base_subset (h : Written l p kind actions current) {d : Declaration} {ctx : Context}
    (hhead : actions.head? = some (.declare d ctx)) :
    ∃ ls, current = some ls ∧ (Action.declare d ctx).base ⊆ ls := by
  induction h with
  | untouched => cases hhead
  | @rests actions a current hbefore hsuited hrests ih =>
      cases actions with
      | cons b rest => exact ih hhead
      | nil =>
          cases hhead
          cases hbefore.eq_none
          obtain ⟨samples, hclean⟩ | ⟨ls, hls, -⟩ := hrests
          · cases hclean
          · cases hls
  | @yields actions a current ls hbefore hsuited hnot hyields ih =>
      refine ⟨ls, rfl, ?_⟩
      cases actions with
      | cons b rest =>
          obtain ⟨before, rfl, hsub⟩ := ih hhead
          exact List.Subset.trans hsub hyields.sublist.subset
      | nil =>
          cases hhead
          cases hbefore.eq_none
          exact hyields.sublist.subset

end Written

/-! ## Detections -/

/-- Decide whether an action declares something with a detection. -/
def Action.declares (detection : String) : Action → Bool
  | .declare d _ => d.detection == detection
  | .file _ _ | .importLine _ | .clean _ | .dependency _ _ _ | .reference _ _ => false

section

variable {l : Locator} {p : RelativePath} {kind : ArtifactKind} {a : Action} {m : Member}

/-- No detection is found in the lines a new file starts with. -/
theorem Action.Suited.base_clear (ha : a.Suited l p kind) (hm : m.WellNamed) (hkind : m.kind = kind) :
    a.base.countP (contains · (m.declaration l).detection) = 0 := by
  have htemplate : ∀ {t : Template} {ctx : Context}, ctx.Suits t → m.kind = t.kind →
      (templateLines t.name ctx).countP (contains · (m.declaration l).detection) = 0 := by
    intro t ctx hctx hk
    rw [templateLines_name, List.countP_eq_zero]
    intro x hx
    obtain ⟨line, hline, rfl⟩ := List.mem_map.1 hx
    simp [Member.template_clear hm hctx hk line hline]
  have hmanifest : m.kind ≠ .manifest := by cases m <;> nofun
  cases ha with
  | file _ hsuits => exact htemplate hsuits hkind
  | @declare m' ctx hm' hpath _ hname =>
      dsimp only [Action.base]
      cases htempl : (m'.declaration l).template with
      | none => rfl
      | some name =>
          obtain ⟨t, rfl, hk, hsuits⟩ := hname name htempl
          exact htemplate hsuits (hkind.trans hk.symm)
  | importLine _ _ | clean => rfl
  | dependency _ _ _ | reference _ _ _ => exact absurd hkind hmanifest

/-- How often a detection is found after an action that had something to do. -/
theorem Action.Yields.countP (hl : IsProject l.project) {current : Option (List String)}
    (hsuited : a.Suited l p kind) (hm : m.WellNamed) (hpath : m.path l = p) (hkind : m.kind = kind)
    (hnot : ¬ a.Rests current) {ls : List String}
    (h : a.Yields l kind (current.getD a.base) ls) :
    ls.countP (contains · (m.declaration l).detection)
      = if a.declares (m.declaration l).detection then 1
        else (current.getD []).countP (contains · (m.declaration l).detection) := by
  have hbase : (current.getD a.base).countP (contains · (m.declaration l).detection)
      = (current.getD []).countP (contains · (m.declaration l).detection) := by
    cases current with
    | none => exact hsuited.base_clear hm hkind
    | some ls => rfl
  have hblank := Member.blank_clear (l := l) hm
  have hadds := h.adds
  have hagain := hsuited
  cases hsuited with
  | file _ _ => exact (congrArg _ hadds).trans hbase
  | clean => exact absurd (.inl ⟨_, rfl⟩) hnot
  | dependency _ _ _ | reference _ _ _ => cases m <;> cases hkind
  | @importLine _ space hspace _ =>
      have himport := Member.import_clear (l := l) hm hspace
      have hspliced := Anchor.put_spliced .afterImports (current.getD [])
        ["using " ++ space ++ ";"] false
      rw [Anchor.indent_afterImports] at hspliced
      rw [show ls = _ from hadds]
      refine (hspliced.countP hblank).trans ?_
      have hindent : Artifact.indentBy "" ("using " ++ space ++ ";") = "using " ++ space ++ ";" :=
        Artifact.indentBy_empty _
      simp [himport, hindent, Action.declares]
  | @declare m' ctx hm' hpath' _ _ =>
      obtain ⟨hmet, -⟩ | ⟨hmet, rfl⟩ := hadds
      · -- a new file has nothing declared, and one that was there would rest
        cases current with
        | some ls => exact absurd (.inr ⟨ls, rfl, hmet⟩) hnot
        | none =>
            obtain ⟨x, hx, hfound⟩ := hmet
            exact absurd hfound (List.countP_eq_zero.1 (hagain.base_clear hm' rfl) x hx)
      · have hplain : ∀ x ∈ current.getD (Action.declare (m'.declaration l) ctx).base, IsPlain x :=
          fun x hx => h.kept.plain x (h.sublist.subset hx)
        have hblock := Member.count_block hl hm hm' (hpath.trans hpath'.symm)
          (Anchor.isIndent_locate hplain (m'.declaration l).anchor)
        rw [(Anchor.put_spliced ..).countP hblank, hblock, hbase]
        by_cases heq : (m.declaration l).detection = (m'.declaration l).detection
        · have hnone : (current.getD []).countP (contains · (m.declaration l).detection) = 0 := by
            rw [← hbase, List.countP_eq_zero]
            exact fun x hx hfound => hmet ⟨x, hx, heq ▸ hfound⟩
          have hdeclares : (Action.declare (m'.declaration l) ctx).declares
              (m.declaration l).detection = true := beq_iff_eq.2 heq.symm
          rw [hnone, if_pos heq, if_pos hdeclares]
        · rw [if_neg heq, if_neg (by simpa [Action.declares] using Ne.symm heq), Nat.add_zero]

/-- What an action declares that rests is found. -/
theorem Action.Rests.countP_pos {current : Option (List String)} {detection : String}
    (h : a.Rests current) (ha : a.declares detection = true) :
    0 < (current.getD []).countP (contains · detection) := by
  cases a with
  | declare d ctx =>
      obtain ⟨samples, hclean⟩ | ⟨ls, rfl, x, hx, hfound⟩ := h
      · cases hclean
      · rw [beq_iff_eq.1 ha] at hfound
        exact List.countP_pos_iff.2 ⟨x, hx, hfound⟩
  | _ => cases ha

/-- Detection is exact: a detection is found on one line if an action declared it, and else on
none. -/
theorem Written.countP (hl : IsProject l.project) {actions : List Action}
    {current : Option (List String)} (h : Written l p kind actions current) (hm : m.WellNamed)
    (hpath : m.path l = p) (hkind : m.kind = kind) :
    (current.getD []).countP (contains · (m.declaration l).detection)
      = if actions.any (Action.declares (m.declaration l).detection) then 1 else 0 := by
  induction h with
  | untouched => rfl
  | @rests actions a current hbefore hsuited hrests ih =>
      rw [List.any_append, List.any_cons, List.any_nil, Bool.or_false]
      cases ha : a.declares (m.declaration l).detection with
      | false => rw [ih, Bool.or_false]
      | true =>
          -- what it declares was declared before
          have hpos := hrests.countP_pos ha
          rw [ih, Bool.or_true, if_pos rfl]
          split at ih
          · exact if_pos ‹_›
          · omega
  | yields hbefore hsuited hnot hyields ih =>
      rw [Option.getD_some, hyields.countP hl hsuited hm hpath hkind hnot, ih, List.any_append,
        List.any_cons, List.any_nil, Bool.or_false]
      cases Action.declares (m.declaration l).detection _ <;> simp

/-- A declaration rests if and only if something with its detection was declared. -/
theorem Written.rests_iff (hl : IsProject l.project) {actions : List Action}
    {current : Option (List String)} (h : Written l p kind actions current) {d : Declaration}
    {ctx : Context} (hsuited : (Action.declare d ctx).Suited l p kind) :
    (Action.declare d ctx).Rests current ↔ actions.any (Action.declares d.detection) = true := by
  cases hsuited with
  | declare hm hpath _ _ =>
      have hcount := h.countP hl hm hpath rfl
      constructor
      · intro hrests
        have hpos := hrests.countP_pos (beq_self_eq_true _)
        by_contra hnot
        rw [hcount, if_neg hnot] at hpos
        exact Nat.lt_irrefl 0 hpos
      · intro hany
        rw [if_pos hany] at hcount
        obtain ⟨x, hx, hfound⟩ := List.countP_pos_iff.1 (by rw [hcount]; exact Nat.one_pos)
        cases current with
        | none => cases hx
        | some ls => exact .inr ⟨ls, rfl, x, hx, hfound⟩

end

/-! ## Entries of manifests -/

/-- The entries of a manifest are those that actions asked for. -/
theorem Written.entry_asked {l : Locator} (hl : IsProject l.project) {p : RelativePath}
    {actions : List Action} {current : Option (List String)} (h : Written l p .manifest actions current)
    {e : Manifest.Entry} (he : Manifest.PlanEntry l e) (hmem : e.line ∈ current.getD []) :
    ∃ a ∈ actions, a.entry? = some e := by
  have hset := Manifest.planEntry_entrySet hl
  induction h with
  | untouched => cases hmem
  | @rests actions a current hbefore hsuited hrests ih =>
      obtain ⟨b, hb, hentry⟩ := ih hmem
      exact ⟨b, List.mem_append_left _ hb, hentry⟩
  | @yields actions a current ls hbefore hsuited hnot hyields ih =>
      have hinert : ∀ {x : String}, Manifest.Inert x → x ≠ e.line := by
        rintro x hx rfl
        exact hset.not_inert he hx
      have hold : ∀ {ctx : Context}, ctx.Suits .manifest →
          e.line ∈ current.getD (templateLines Template.manifest.name ctx) →
          ∃ b ∈ actions ++ [a], b.entry? = some e := by
        intro ctx hctx hline
        cases current with
        | none => exact absurd rfl (hinert (inert_templateLines hctx _ hline))
        | some before =>
            obtain ⟨b, hb, hentry⟩ := ih hline
            exact ⟨b, List.mem_append_left _ hb, hentry⟩
      have hnew : ∀ {e' : Manifest.Entry}, Manifest.PlanEntry l e' → a.entry? = some e' →
          e.line = e'.line → ∃ b ∈ actions ++ [a], b.entry? = some e := by
        intro e' he' hentry hline
        cases hset.line_injective he he' hline
        exact ⟨a, List.mem_append_right _ (List.mem_singleton_self a), hentry⟩
      have hadds := hyields.adds
      generalize hkind : ArtifactKind.manifest = kind at hsuited
      cases hsuited with
      | clean => cases hkind
      | importLine _ hne => exact absurd hkind.symm hne
      | @declare m ctx hm => cases m <;> cases hkind
      | @file t ctx hctx hsuits =>
          rw [show ls = _ from hadds] at hmem
          cases t <;> cases hkind
          exact hold hsuits hmem
      | dependency hentry hctx hsuits =>
          obtain hline | hline | hline := hadds _ hmem
          · exact hold hsuits hline
          · exact hnew hentry rfl hline
          · exact absurd rfl (hinert (Manifest.inert_groupLines _ hline))
      | reference hentry hctx hsuits =>
          obtain hline | hline | hline := hadds _ hmem
          · exact hold hsuits hline
          · exact hnew hentry rfl hline
          · exact absurd rfl (hinert (Manifest.inert_groupLines _ hline))

end Scaffold
