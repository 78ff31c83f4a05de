import Mathlib
import Scaffold.Proofs.Manifest
import Scaffold.Proofs.Member.Distinct
import Scaffold.Proofs.Plan.Manifests
import Scaffold.Proofs.Tree
import Scaffold.Task
import Scaffold.Template.Catalog

/-!
# What a task does to the files

A task that belongs to a project (`Task.Belongs`) looks after a file of a kind, and there is one
thing it makes sure of (`Action.Met`).  Where this holds already the task *rests*: it decides that
nothing changes (`Task.decide_of_rests`).  Otherwise it writes the file once, with all lines that
were there and with what it makes sure of (`Task.decide_of_not_rests`); the file stays one whose
lines the next task can read back (`WellKept`).

`Task.carry` is the effect of a task on the contents of all files.
-/

namespace Scaffold

open Scaffold.Text

/-! ## Templates -/

/-- The built-in templates. -/
def builtin : Templates := ({} : Catalog).resolve

theorem builtin_name (t : Template) (ctx : Context) : builtin t.name ctx = .ok (ctx.render t.source) := by
  have hname : Template.ofName? t.name = some t := by cases t <;> decide
  simp [builtin, Catalog.resolve, Catalog.source?, hname]

/-- The lines a template makes, by its name. -/
def templateLines (name : String) (ctx : Context) : List String :=
  ((Template.ofName? name).map fun t => t.lines.map ctx.fill).getD []

theorem templateLines_name (t : Template) (ctx : Context) :
    templateLines t.name ctx = t.lines.map ctx.fill := by
  have hname : Template.ofName? t.name = some t := by cases t <;> decide
  simp [templateLines, hname]

/-- A new file has the lines of its template. -/
theorem synthesize_name {ctx : Context} (h : ctx.Dotted) (path : String) (t : Template) :
    synthesize builtin path (some t.name) ctx
      = .ok (.ofLines path true (templateLines t.name ctx)) := by
  have hplain : ∀ x ∈ t.lines.map ctx.fill, IsPlain x := by
    intro x hx
    obtain ⟨line, hline, rfl⟩ := List.mem_map.1 hx
    exact isPlain_fill h hline
  rw [synthesize, builtin_name, render_source h, templateLines_name]
  simp only [Except.map, Artifact.parse_unlines hplain]

/-! ## Kept files -/

/-- The lines of a file of a kind that only tasks have written. -/
structure WellKept (l : Locator) (kind : ArtifactKind) (ls : List String) : Prop where
  /-- They are read back from the text. -/
  plain : ∀ x ∈ ls, IsPlain x
  /-- An entry point is made of statements. -/
  entry : kind = .entryPoint → ∀ x ∈ ls, x = "" ∨ EndsStatement x
  /-- A manifest has known entries. -/
  manifest : kind = .manifest → Manifest.Merged (Manifest.PlanEntry l) ls

namespace WellKept

variable {l : Locator} {kind : ArtifactKind} {ls ls' : List String}

theorem nil : WellKept l kind [] := by
  refine ⟨by simp, fun _ => by simp, fun _ => ⟨by simp, fun e _ => ?_⟩⟩
  rw [List.count_nil]
  exact Nat.zero_le 1

/-- A file is well kept if it is there, and so is what it starts with. -/
theorem getD {current : Option (List String)} (hkept : ∀ ls ∈ current, WellKept l kind ls)
    (h : WellKept l kind ls) : WellKept l kind (current.getD ls) := by
  cases current with
  | none => exact h
  | some ls => exact hkept ls rfl

/-- A block keeps a file well. -/
theorem spliced (h : WellKept l kind ls) {indent : String} {block : List String}
    (hs : Spliced indent ls block ls') (hindent : Anchor.IsIndent indent)
    (hkind : kind ≠ .manifest) (hplain : ∀ x ∈ block, IsPlain x)
    (hentry : kind = .entryPoint → ∀ x ∈ block, EndsStatement x) : WellKept l kind ls' := by
  refine ⟨fun x hx => ?_, fun hk x hx => ?_, fun hk => absurd hk hkind⟩
  · obtain hx | rfl | ⟨b, hb, rfl⟩ := hs.mem hx
    · exact h.plain x hx
    · exact isPlain_empty
    · unfold Artifact.indentBy
      split
      · exact isPlain_empty
      · exact hindent.plain.append (hplain b hb)
  · obtain hx | rfl | ⟨b, hb, rfl⟩ := hs.mem hx
    · exact h.entry hk x hx
    · exact .inl rfl
    · unfold Artifact.indentBy
      split
      · exact .inl rfl
      · exact .inr ((hentry hk b hb).append indent)

end WellKept

theorem entryLines_endsStatement {t : Template} (ht : t.kind = .entryPoint) :
    ∀ x ∈ t.lines, Member.isFixedLine x.toList = true ∧ (x = "" ∨ EndsStatement x) := by
  have hcheck : ∀ ls ∈ [Template.entryPointRoutesLines, Template.entryPointControllersLines],
      ∀ x ∈ ls, Member.isFixedLine x.toList = true
        ∧ (x.toList = [] ∨ x.toList.getLast? = some ';') := by
    simp only [Template.entryPointRoutesLines, Template.entryPointControllersLines,
      List.forall_mem_cons, List.not_mem_nil, false_imp_iff, implies_true, and_true]
    repeat rw [String.toList_ofList]
    decide
  intro x hx
  have hx' : Member.isFixedLine x.toList = true ∧ (x.toList = [] ∨ x.toList.getLast? = some ';') := by
    cases t with
    | entryPointRoutes => exact hcheck _ List.mem_cons_self x hx
    | entryPointControllers => exact hcheck _ (List.mem_cons_of_mem _ List.mem_cons_self) x hx
    | _ => cases ht
  exact ⟨hx'.1, hx'.2.imp_left String.toList_eq_nil_iff.1⟩

theorem inert_templateLines {ctx : Context} (h : ctx.Suits .manifest) :
    ∀ x ∈ templateLines Template.manifest.name ctx, Manifest.Inert x := by
  intro x hx
  rw [templateLines_name] at hx
  obtain ⟨line, hline, rfl⟩ := List.mem_map.1 hx
  exact Manifest.inert_fill_manifest h line hline

/-- A new file is well kept. -/
theorem templateLines_wellKept {l : Locator} (hl : IsProject l.project) {t : Template}
    {ctx : Context} (hctx : ctx.Dotted) (hsuits : ctx.Suits t) :
    WellKept l t.kind (templateLines t.name ctx) := by
  rw [templateLines_name]
  refine ⟨fun x hx => ?_, fun hk x hx => ?_, fun hk => ?_⟩
  · obtain ⟨line, hline, rfl⟩ := List.mem_map.1 hx
    exact isPlain_fill hctx hline
  · obtain ⟨line, hline, rfl⟩ := List.mem_map.1 hx
    obtain ⟨hfixed, hends⟩ := entryLines_endsStatement hk line hline
    rw [Member.fill_of_isFixedLine hline hfixed]
    exact hends
  · have ht : t = .manifest := by cases t <;> first | rfl | cases hk
    subst ht
    rw [← templateLines_name]
    refine ⟨fun x hx => .inl (inert_templateLines hsuits x hx), fun e he => ?_⟩
    rw [List.count_eq_zero.2 fun hmem =>
      (Manifest.planEntry_entrySet hl).not_inert he (inert_templateLines hsuits _ hmem)]
    exact Nat.zero_le 1

namespace Action

/-! ## What an action makes sure of -/

/-- The lines a new file starts with. -/
def base : Action → List String
  | .file name ctx => templateLines name ctx
  | .declare d ctx => (d.template.map (templateLines · ctx)).getD []
  | .importLine _ | .clean _ => []
  | .dependency _ _ ctx | .reference _ ctx => templateLines Template.manifest.name ctx

/-- What an action makes sure of, on the lines of a file. -/
def Met : Action → List String → Prop
  | .file _ _, _ | .clean _, _ => True
  | .declare d _, ls => ∃ x ∈ ls, contains x d.detection = true
  | .importLine literal, ls => literal ∈ ls
  | .dependency identity version _, ls => (Manifest.Entry.mk .package identity version).line ∈ ls
  | .reference identity _, ls => (Manifest.Entry.mk .reference identity none).line ∈ ls

/-- What is there stays there when lines are added. -/
theorem Met.mono {a : Action} {ls ls' : List String} (h : a.Met ls) (hsub : ls ⊆ ls') : a.Met ls' := by
  cases a with
  | file name ctx => trivial
  | clean samples => trivial
  | declare d ctx =>
      obtain ⟨x, hx, hc⟩ := h
      exact ⟨x, hsub hx, hc⟩
  | importLine literal => exact hsub h
  | dependency identity version ctx => exact hsub h
  | reference identity ctx => exact hsub h

/-- There is nothing to do for an action in a file. -/
def Rests (a : Action) (current : Option (List String)) : Prop :=
  (∃ samples, a = .clean samples) ∨ ∃ ls, current = some ls ∧ a.Met ls

/-- The entry an action asks a manifest for. -/
def entry? : Action → Option Manifest.Entry
  | .dependency identity version _ => some ⟨.package, identity, version⟩
  | .reference identity _ => some ⟨.reference, identity, none⟩
  | .file _ _ | .declare _ _ | .importLine _ | .clean _ => none

/-- An action adds these lines. -/
def Adds : Action → List String → List String → Prop
  | .file _ _, ls, ls' => ls' = ls
  | .declare d ctx, ls, ls' =>
      (declare d ctx).Met ls ∧ ls' = ls
        ∨ ¬ (declare d ctx).Met ls ∧ ls' = d.anchor.put ls d.block d.separated
  | .importLine literal, ls, ls' => ls' = Anchor.afterImports.put ls [literal] false
  | .dependency identity version _, ls, ls' => ∀ x ∈ ls',
      x ∈ ls ∨ x = (Manifest.Entry.mk .package identity version).line ∨ x ∈ Manifest.groupLines
  | .reference identity _, ls, ls' => ∀ x ∈ ls',
      x ∈ ls ∨ x = (Manifest.Entry.mk .reference identity none).line ∨ x ∈ Manifest.groupLines
  | .clean _, _, _ => True

/-- What comes of the lines an action starts from. -/
structure Yields (l : Locator) (kind : ArtifactKind) (a : Action) (ls ls' : List String) : Prop where
  /-- The file can be read again. -/
  kept : WellKept l kind ls'
  /-- The action has nothing more to do. -/
  met : a.Met ls'
  /-- No line goes out. -/
  sublist : ls.Sublist ls'
  /-- What is added. -/
  adds : a.Adds ls ls'

/-! ## Actions of a project -/

/-- The actions on a kind of file that requests for a project consist of. -/
inductive Suited (l : Locator) (p : RelativePath) : ArtifactKind → Action → Prop
  | file {t : Template} {ctx : Context} (hctx : ctx.Dotted) (hsuits : ctx.Suits t) :
      Suited l p t.kind (.file t.name ctx)
  | declare {m : Member} {ctx : Context} (hm : m.WellNamed) (hpath : m.path l = p)
      (hctx : ctx.Dotted)
      (htemplate : ∀ name ∈ (m.declaration l).template,
        ∃ t : Template, name = t.name ∧ t.kind = m.kind ∧ ctx.Suits t) :
      Suited l p m.kind (.declare (m.declaration l) ctx)
  | importLine {kind : ArtifactKind} {space : String} (hspace : Made isDottedChar space)
      (hkind : kind ≠ .manifest) : Suited l p kind (.importLine ("using " ++ space ++ ";"))
  | clean : Suited l p .entryPoint (.clean Site.weatherSample)
  | dependency {identity : String} {version : Option String} {ctx : Context}
      (hentry : Manifest.PlanEntry l ⟨.package, identity, version⟩) (hctx : ctx.Dotted)
      (hsuits : ctx.Suits .manifest) : Suited l p .manifest (.dependency identity version ctx)
  | reference {identity : String} {ctx : Context}
      (hentry : Manifest.PlanEntry l ⟨.reference, identity, none⟩) (hctx : ctx.Dotted)
      (hsuits : ctx.Suits .manifest) : Suited l p .manifest (.reference identity ctx)

/-! ## Deciding -/

/-- The artifact an action decides on, by the lines of the file.  Of a file that only has to be
there no line is read. -/
def look (path : String) (current : Option (List String)) : Action → Artifact
  | .file _ _ => .ofLines path current.isSome []
  | .declare _ _ | .importLine _ | .clean _ | .dependency _ _ _ | .reference _ _ =>
      .ofLines path current.isSome (current.getD [])

theorem startFrom_present (path : String) (ls : List String) (template : Option String)
    (ctx : Context) :
    startFrom builtin (.ofLines path true ls) template ctx = pure (.ofLines path true ls) := rfl

theorem startFrom_absent {ctx : Context} (h : ctx.Dotted) (path : String) (t : Template) :
    startFrom builtin (.ofLines path false []) (some t.name) ctx
      = pure (.ofLines path true (templateLines t.name ctx)) :=
  synthesize_name h path t

theorem decide_dependency (current : Artifact) (identity : String) (version : Option String)
    (ctx : Context) : (dependency identity version ctx).decide builtin current
      = mergeManifest builtin current ctx (Manifest.Entry.mk .package identity version).merge? := by
  rw [← funext (Manifest.mergeDependency?_eq identity version)]
  rfl

theorem decide_reference (current : Artifact) (identity : String) (ctx : Context) :
    (reference identity ctx).decide builtin current
      = mergeManifest builtin current ctx (Manifest.Entry.mk .reference identity none).merge? := by
  rw [← funext (Manifest.mergeReference?_eq identity)]
  rfl

theorem removeSamples_eq {samples : List (List String)} {a : Artifact}
    (h : ∀ sample ∈ samples, a.removeSequence? sample = none) :
    removeSamples samples a = (false, a) := by
  unfold removeSamples
  induction samples with
  | nil => rfl
  | cons sample samples ih =>
      simp only [List.foldl_cons, h sample List.mem_cons_self]
      exact ih fun s hs => h s (List.mem_cons_of_mem _ hs)

theorem weatherSample_first : ∀ sample ∈ Site.weatherSample, ∃ first rest, sample = first :: rest
    ∧ trim first ≠ "" ∧ (trim first).toList.getLast? ≠ some ';' := by
  have hcheck : ∀ sample ∈ Site.weatherSample, (sample.head?.map String.toList).any (fun first =>
      trimChars first != [] && (trimChars first).getLast? != some ';') = true := by
    simp only [Site.weatherSample, List.forall_mem_cons, List.not_mem_nil, false_imp_iff,
      implies_true, List.head?_cons, Option.map_some, Option.any_some]
    repeat rw [String.toList_ofList]
    decide
  intro sample hsample
  have hfirst := hcheck sample hsample
  cases sample with
  | nil => cases hfirst
  | cons first rest =>
      simp only [List.head?_cons, Option.map_some, Option.any_some, Bool.and_eq_true,
        bne_iff_ne] at hfirst
      refine ⟨first, rest, rfl, ?_, ?_⟩
      · rw [trim, ne_eq, ← String.toList_eq_nil_iff, String.toList_ofList]
        exact hfirst.1
      · rw [trim, String.toList_ofList]
        exact hfirst.2

/-- No sample is in an entry point that is well kept. -/
theorem removeSequence?_weatherSample {l : Locator} {path : String} {b : Bool} {ls : List String}
    (h : WellKept l .entryPoint ls) : ∀ sample ∈ Site.weatherSample,
    (Artifact.ofLines path b ls).removeSequence? sample = none := by
  intro sample hsample
  obtain ⟨first, rest, rfl, hne, hlast⟩ := weatherSample_first sample hsample
  have hnone : Artifact.findSequence? (first :: rest) ls = none := by
    refine findSequence?_eq_none fun line hline heq => ?_
    rcases h.entry rfl line hline with rfl | hends
    · exact hne (heq ▸ rfl)
    · exact hlast (heq ▸ getLast?_trim hends (by decide))
  simp [Artifact.removeSequence?, hnone]

section

variable {l : Locator} {p : RelativePath} {kind : ArtifactKind} {a : Action}

theorem containsText_iff {path : String} {b : Bool} {ls : List String} {d : Declaration}
    {ctx : Context} : (Artifact.ofLines path b ls).containsText d.detection = true
      ↔ (declare d ctx).Met ls := by
  simp [Artifact.containsText, Met]

/-- An entry that is there is not merged again. -/
theorem mergeManifest_rests (hl : IsProject l.project) {e : Manifest.Entry} (he : Manifest.PlanEntry l e)
    {ls : List String} (hls : WellKept l .manifest ls) (hmem : e.line ∈ ls) (path : String)
    (ctx : Context) : mergeManifest builtin (.ofLines path true ls) ctx e.merge?
      = .ok (.unchanged, .ofLines path true ls) := by
  have hedits := Manifest.merge?_of_mem (Manifest.planEntry_entrySet hl) (hls.manifest rfl) he hmem
  simp only [mergeManifest, startFrom_present, pure_bind, Artifact.texts_ofLines, hedits,
    Artifact.isPresent_ofLines, List.isEmpty_nil, Bool.and_self, if_true]
  rfl

/-- Where there is nothing to do nothing is decided. -/
theorem decide_of_rests (hl : IsProject l.project) (ha : a.Suited l p kind)
    {current : Option (List String)} (hkept : ∀ ls ∈ current, WellKept l kind ls)
    (h : a.Rests current) (path : String) :
    a.decide builtin (a.look path current) = .ok (.unchanged, a.look path current) := by
  cases ha with
  | clean =>
      have hls : WellKept l .entryPoint (current.getD []) := .getD hkept .nil
      simp only [Action.decide, look, removeSamples_eq (removeSequence?_weatherSample hls)]
  | file hctx hsuits =>
      obtain ⟨samples, hclean⟩ | ⟨ls, rfl, -⟩ := h
      · cases hclean
      · rfl
  | declare hm hpath hctx htemplate =>
      obtain ⟨samples, hclean⟩ | ⟨ls, rfl, hmet⟩ := h
      · cases hclean
      · simp only [Action.decide, look, Option.isSome_some, Option.getD_some, startFrom_present,
          pure_bind, containsText_iff.2 hmet, if_true, Artifact.isPresent_ofLines]
        rfl
  | @importLine _ space hspace hkind =>
      obtain ⟨samples, hclean⟩ | ⟨ls, rfl, hmet⟩ := h
      · cases hclean
      · have hfound : (Artifact.ofLines path true ls).containsLine ("using " ++ space ++ ";")
            = true := by
          rw [Artifact.containsLine, Artifact.texts_ofLines, List.any_eq_true]
          exact ⟨_, hmet, beq_self_eq_true _⟩
        simp [Action.decide, look, hfound]
  | dependency hentry hctx hsuits =>
      obtain ⟨samples, hclean⟩ | ⟨ls, rfl, hmet⟩ := h
      · cases hclean
      · rw [decide_dependency]
        exact mergeManifest_rests hl hentry (hkept ls rfl) hmet path _
  | reference hentry hctx hsuits =>
      obtain ⟨samples, hclean⟩ | ⟨ls, rfl, hmet⟩ := h
      · cases hclean
      · rw [decide_reference]
        exact mergeManifest_rests hl hentry (hkept ls rfl) hmet path _

/-- Writing a file is a change. -/
theorem changed_changeOutcome (x : Artifact) : (changeOutcome x).changed = true := by
  unfold changeOutcome
  split <;> rfl

/-- An action that is met only by what a file starts with has no file yet. -/
theorem eq_none_of_met {current : Option (List String)} (h : ¬ a.Rests current) {base : List String}
    (hmet : a.Met (current.getD base)) : current = none := by
  cases current with
  | none => rfl
  | some ls => exact absurd (.inr ⟨ls, rfl, hmet⟩) h

/-- A declaration that is not there goes in. -/
theorem insertBlock_yields {m : Member} {ls : List String} (hm : m.WellNamed)
    (hls : WellKept l m.kind ls) {ctx : Context}
    (hnot : ¬ (declare (m.declaration l) ctx).Met ls) (path : String) (b : Bool) :
    ∃ ls', (Artifact.ofLines path b ls).insertBlock (m.declaration l).anchor
        (m.declaration l).block (m.declaration l).separated = .ofLines path b ls'
      ∧ Yields l m.kind (.declare (m.declaration l) ctx) ls ls' := by
  have hspliced := Anchor.put_spliced (m.declaration l).anchor ls (m.declaration l).block
    (m.declaration l).separated
  have hindent := Anchor.isIndent_locate hls.plain (m.declaration l).anchor
  have hkind : m.kind ≠ .manifest := by cases m <;> nofun
  obtain ⟨x, hx, hfound⟩ := Member.exists_contains_block (l := l) hm
    ((m.declaration l).anchor.locate ls).indent
  obtain ⟨line, hline, rfl⟩ := List.mem_map.1 hx
  refine ⟨_, Artifact.insertBlock_ofLines .., ?_, ⟨_, hspliced.mem_of_mem_block hline, hfound⟩,
    hspliced.sublist, .inr ⟨hnot, rfl⟩⟩
  exact hls.spliced hspliced hindent hkind (Member.isPlain_block hm)
    (Member.endsStatement_block hm)

/-- An import that is not there goes in. -/
theorem insertImport_yields {space : String} (hspace : Made isDottedChar space)
    (hkind : kind ≠ .manifest) {ls : List String} (hls : WellKept l kind ls) (path : String)
    (b : Bool) : ∃ ls', (Artifact.ofLines path b ls).insertImport ("using " ++ space ++ ";")
        = .ofLines path b ls'
      ∧ Yields l kind (.importLine ("using " ++ space ++ ";")) ls ls' := by
  have hspliced := Anchor.put_spliced .afterImports ls ["using " ++ space ++ ";"] false
  rw [Anchor.indent_afterImports] at hspliced
  have hplain : IsPlain ("using " ++ space ++ ";") := by
    refine (((Shaped.lit _ : Shaped "" _ _).append (.hole .dotted hspace)).append (.lit _)).isPlain ?_
    repeat rw [String.toList_ofList]
    decide
  have hends : EndsStatement ("using " ++ space ++ ";") :=
    EndsStatement.append (by simp [EndsStatement]) ("using " ++ space)
  refine ⟨_, Artifact.insertBlock_ofLines .., ?_, ?_, hspliced.sublist, rfl⟩
  · exact hls.spliced hspliced Anchor.isIndent_empty hkind (by simpa using hplain)
      fun _ => by simpa using hends
  · have hmem := hspliced.mem_of_mem_block List.mem_cons_self
    rw [Artifact.indentBy_empty] at hmem
    exact hmem

/-- An entry that is not there goes in. -/
theorem mergeManifest_yields (hl : IsProject l.project) {e : Manifest.Entry}
    (he : Manifest.PlanEntry l e) {ctx : Context} (hctx : ctx.Dotted) (hsuits : ctx.Suits .manifest)
    {current : Option (List String)} (hkept : ∀ ls ∈ current, WellKept l .manifest ls)
    (hnot : ∀ ls ∈ current, e.line ∉ ls) (path : String) :
    ∃ outcome ls', mergeManifest builtin (.ofLines path current.isSome (current.getD [])) ctx e.merge?
        = .ok (outcome, .ofLines path true ls')
      ∧ outcome.changed = true ∧ WellKept l .manifest ls' ∧ e.line ∈ ls'
      ∧ (current.getD (templateLines Template.manifest.name ctx)).Sublist ls'
      ∧ ∀ x ∈ ls', x ∈ current.getD (templateLines Template.manifest.name ctx) ∨ x = e.line
        ∨ x ∈ Manifest.groupLines := by
  have hset := Manifest.planEntry_entrySet hl
  have hstart : startFrom builtin (.ofLines path current.isSome (current.getD []))
      (some Template.manifest.name) ctx
      = pure (.ofLines path true (current.getD (templateLines Template.manifest.name ctx))) := by
    cases current with
    | none => exact startFrom_absent hctx path .manifest
    | some ls => rfl
  have hls : WellKept l .manifest (current.getD (templateLines Template.manifest.name ctx)) :=
    .getD hkept (templateLines_wellKept hl hctx hsuits)
  have hfresh : e.line ∉ current.getD (templateLines Template.manifest.name ctx) := by
    cases current with
    | none => exact fun hmem => hset.not_inert he (inert_templateLines hsuits _ hmem)
    | some ls => exact hnot ls rfl
  generalize current.getD (templateLines Template.manifest.name ctx) = ls at *
  obtain ⟨edits, ls', hmerge, hne, hedit, hmerged, hmem, hsub, hfrom⟩ :=
    Manifest.merge?_of_not_mem hset Manifest.inert_groupLines (hls.manifest rfl) he hfresh
  have hsome : edits.isEmpty = false := by simpa using hne
  refine ⟨changeOutcome (.ofLines path current.isSome (current.getD [])), ls', ?_, ?_,
    ⟨fun x hx => ?_, nofun, fun _ => hmerged⟩, hmem, hsub, hfrom⟩
  · simp only [mergeManifest, hstart, pure_bind, Artifact.texts_ofLines, hmerge, hsome,
      Bool.and_false, Bool.false_eq_true, if_false, hedit]
    rfl
  · exact changed_changeOutcome _
  · obtain hx | rfl | hx := hfrom x hx
    · exact hls.plain x hx
    · exact Manifest.planEntry_plain hl he
    · have hgroup : ∀ x ∈ Manifest.groupLines, IsPlain x := by
        simp only [Manifest.groupLines, IsPlain, List.forall_mem_cons, List.not_mem_nil,
          false_imp_iff, implies_true]
        repeat rw [String.toList_ofList]
        decide
      exact hgroup x hx

/-- A declaration is written into the file, or into the template of one that is not there. -/
theorem decide_declare_yields (hl : IsProject l.project) {m : Member} {ctx : Context} (hm : m.WellNamed)
    (hctx : ctx.Dotted)
    (htemplate : ∀ name ∈ (m.declaration l).template,
      ∃ t : Template, name = t.name ∧ t.kind = m.kind ∧ ctx.Suits t)
    {current : Option (List String)} (hkept : ∀ ls ∈ current, WellKept l m.kind ls)
    (h : ¬ (declare (m.declaration l) ctx).Rests current) (path : String) :
    ∃ outcome b ls', (declare (m.declaration l) ctx).decide builtin (.ofLines path current.isSome
        (current.getD [])) = .ok (outcome, .ofLines path b ls')
      ∧ outcome.changed = true
      ∧ Yields l m.kind (.declare (m.declaration l) ctx)
          (current.getD (declare (m.declaration l) ctx).base) ls' := by
  obtain ⟨b, hstart, hls⟩ : ∃ b, startFrom builtin (.ofLines path current.isSome (current.getD []))
        (m.declaration l).template ctx
        = pure (.ofLines path b (current.getD (declare (m.declaration l) ctx).base))
      ∧ WellKept l m.kind (current.getD (declare (m.declaration l) ctx).base) := by
    dsimp only [base]
    cases current with
    | some ls => exact ⟨true, rfl, hkept ls rfl⟩
    | none =>
        cases hname : (m.declaration l).template with
        | none => exact ⟨false, rfl, .nil⟩
        | some name =>
            obtain ⟨t, rfl, hkind, hsuits⟩ := htemplate name hname
            exact ⟨true, startFrom_absent hctx path t,
              hkind ▸ templateLines_wellKept hl hctx hsuits⟩
  simp only [Action.decide, hstart, pure_bind, Artifact.isPresent_ofLines]
  by_cases hmet : (declare (m.declaration l) ctx).Met
      (current.getD (declare (m.declaration l) ctx).base)
  · obtain rfl := eq_none_of_met h hmet
    rw [if_pos (containsText_iff.2 hmet)]
    exact ⟨.created, b, _, rfl, rfl, hls, hmet, .refl _, .inl ⟨hmet, rfl⟩⟩
  · obtain ⟨ls', heq, hyields⟩ := insertBlock_yields hm hls hmet path b
    rw [if_neg fun hfound => hmet (containsText_iff.1 hfound), heq]
    exact ⟨_, b, ls', rfl, changed_changeOutcome (.ofLines path current.isSome (current.getD [])),
      hyields⟩

/-- An import is written into the file. -/
theorem decide_importLine_yields {space : String} (hspace : Made isDottedChar space)
    (hkind : kind ≠ .manifest) {current : Option (List String)}
    (hkept : ∀ ls ∈ current, WellKept l kind ls)
    (h : ¬ (importLine ("using " ++ space ++ ";")).Rests current) (path : String) :
    ∃ outcome b ls', (importLine ("using " ++ space ++ ";")).decide builtin (.ofLines path current.isSome
        (current.getD [])) = .ok (outcome, .ofLines path b ls')
      ∧ outcome.changed = true
      ∧ Yields l kind (.importLine ("using " ++ space ++ ";")) (current.getD []) ls' := by
  obtain ⟨ls', heq, hyields⟩ :=
    insertImport_yields hspace hkind (WellKept.getD hkept .nil) path current.isSome
  have hmissing : (Artifact.ofLines path current.isSome (current.getD [])).containsLine
      ("using " ++ space ++ ";") = false := by
    rw [Artifact.containsLine, Artifact.texts_ofLines, Bool.eq_false_iff, ne_eq, List.any_eq_true]
    rintro ⟨x, hx, hxeq⟩
    rw [beq_iff_eq] at hxeq
    subst hxeq
    obtain rfl := @eq_none_of_met _ _ h [] hx
    cases hx
  refine ⟨_, current.isSome, ls', ?_,
    changed_changeOutcome (.ofLines path current.isSome (current.getD [])), hyields⟩
  simp only [Action.decide, hmissing, Bool.false_eq_true, if_false, heq]

/-- Where there is something to do the file is written, with everything that was in it. -/
theorem decide_of_not_rests (hl : IsProject l.project) (ha : a.Suited l p kind)
    {current : Option (List String)} (hkept : ∀ ls ∈ current, WellKept l kind ls)
    (h : ¬ a.Rests current) (path : String) :
    ∃ outcome b ls', a.decide builtin (a.look path current) = .ok (outcome, .ofLines path b ls')
      ∧ outcome.changed = true ∧ Yields l kind a (current.getD a.base) ls' := by
  have hnot : ∀ ls ∈ current, ¬ a.Met ls := fun ls hls hmet => h (.inr ⟨ls, hls, hmet⟩)
  cases ha with
  | clean => exact absurd (.inl ⟨_, rfl⟩) h
  | @file t ctx hctx hsuits =>
      obtain rfl := @eq_none_of_met _ _ h [] trivial
      refine ⟨.created, true, templateLines t.name ctx, ?_, rfl,
        templateLines_wellKept hl hctx hsuits, trivial, .refl _, rfl⟩
      have hnew := synthesize_name hctx path t
      simp only [Action.decide, look, Option.isSome_none, Artifact.isPresent_ofLines,
        Bool.false_eq_true, if_false, Artifact.path_ofLines, hnew]
      rfl
  | declare hm hpath hctx htemplate => exact decide_declare_yields hl hm hctx htemplate hkept h path
  | importLine hspace hkind => exact decide_importLine_yields hspace hkind hkept h path
  | dependency hentry hctx hsuits =>
      obtain ⟨outcome, ls', heq, hchanged, hkept', hmem, hsub, hfrom⟩ :=
        mergeManifest_yields hl hentry hctx hsuits hkept hnot path
      exact ⟨outcome, true, ls', (decide_dependency ..).trans heq, hchanged, hkept', hmem, hsub, hfrom⟩
  | reference hentry hctx hsuits =>
      obtain ⟨outcome, ls', heq, hchanged, hkept', hmem, hsub, hfrom⟩ :=
        mergeManifest_yields hl hentry hctx hsuits hkept hnot path
      exact ⟨outcome, true, ls', (decide_reference ..).trans heq, hchanged, hkept', hmem, hsub, hfrom⟩

end

/-! ## The year -/

/-- Actions that differ at most in the year that templates could show. -/
inductive Alike : Action → Action → Prop
  | file (name : String) {ctx ctx' : Context} (h : ctx.Alike ctx') :
      Alike (.file name ctx) (.file name ctx')
  | declare (d : Declaration) {ctx ctx' : Context} (h : ctx.Alike ctx') :
      Alike (.declare d ctx) (.declare d ctx')
  | importLine (literal : String) : Alike (.importLine literal) (.importLine literal)
  | clean (samples : List (List String)) : Alike (.clean samples) (.clean samples)
  | dependency (identity : String) (version : Option String) {ctx ctx' : Context}
      (h : ctx.Alike ctx') :
      Alike (.dependency identity version ctx) (.dependency identity version ctx')
  | reference (identity : String) {ctx ctx' : Context} (h : ctx.Alike ctx') :
      Alike (.reference identity ctx) (.reference identity ctx')

/-- The context of the template of an action. -/
def context? : Action → Option Context
  | .file _ ctx | .declare _ ctx | .dependency _ _ ctx | .reference _ ctx => some ctx
  | .importLine _ | .clean _ => none

theorem Suited.dotted {l : Locator} {p : RelativePath} {kind : ArtifactKind} {a : Action}
    (h : a.Suited l p kind) : ∀ ctx ∈ a.context?, ctx.Dotted := by
  cases h with
  | file hctx _ | declare _ _ hctx _ | dependency _ hctx _ | reference _ hctx _ =>
      simpa [context?] using hctx
  | importLine _ _ | clean => simp [context?]

theorem Alike.rests_iff {a b : Action} (h : Alike a b) (current : Option (List String)) :
    a.Rests current ↔ b.Rests current := by
  have hmet : ∀ ls, a.Met ls ↔ b.Met ls := by
    intro ls
    cases h <;> exact .rfl
  have hclean : (∃ samples, a = .clean samples) ↔ ∃ samples, b = .clean samples := by
    cases h <;> simp
  unfold Rests
  simp only [hclean, hmet]

/-- No template shows the year. -/
theorem builtin_alike {a b : Context} (ha : a.Dotted) (hb : b.Dotted) (h : a.Alike b)
    (name : String) : builtin name a = builtin name b := by
  simp only [builtin, Catalog.resolve, Catalog.source?, List.lookup_nil, Option.none_or]
  cases Template.ofName? name with
  | none => rfl
  | some t =>
      simp only [Option.map_some]
      have hlines : t.lines.map a.fill = t.lines.map b.fill :=
        List.map_congr_left fun line hline => Context.fill_alike h hline
      rw [render_source ha, render_source hb, hlines]

/-- What is decided does not depend on the year. -/
theorem Alike.decide_eq {a b : Action} (h : Alike a b) (ha : ∀ ctx ∈ a.context?, ctx.Dotted)
    (hb : ∀ ctx ∈ b.context?, ctx.Dotted) (current : Artifact) :
    a.decide builtin current = b.decide builtin current := by
  have hsynthesize : ∀ {ctx ctx' : Context}, ctx.Dotted → ctx'.Dotted → ctx.Alike ctx' →
      ∀ path name, synthesize builtin path name ctx = synthesize builtin path name ctx' := by
    intro ctx ctx' hctx hctx' halike path name
    cases name with
    | none => rfl
    | some name => simp only [synthesize, builtin_alike hctx hctx' halike name]
  have hstart : ∀ {ctx ctx' : Context}, ctx.Dotted → ctx'.Dotted → ctx.Alike ctx' →
      ∀ name, startFrom builtin current name ctx = startFrom builtin current name ctx' := by
    intro ctx ctx' hctx hctx' halike name
    simp only [startFrom, hsynthesize hctx hctx' halike]
  cases h with
  | file name h =>
      simp only [Action.decide, hsynthesize (ha _ rfl) (hb _ rfl) h]
  | declare d h => simp only [Action.decide, hstart (ha _ rfl) (hb _ rfl) h]
  | importLine literal => rfl
  | clean samples => rfl
  | dependency identity version h =>
      simp only [Action.decide, mergeManifest, hstart (ha _ rfl) (hb _ rfl) h]
  | reference identity h =>
      simp only [Action.decide, mergeManifest, hstart (ha _ rfl) (hb _ rfl) h]

end Action

end Scaffold
