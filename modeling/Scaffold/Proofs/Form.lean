import Mathlib
import Scaffold.Proofs.Firsts
import Scaffold.Proofs.Written

/-!
# Forms

Many kinds of file are filled in one way: a template makes the first lines and the last ones, every
block goes right before the last ones, and imports go among the first ones.  Such a way is a `Form`.
What is between is the blocks of the declarations on the file, the first one of each detection, whole
and in their order (`Written.filled`).
-/

namespace Scaffold

open Scaffold.Text

/-! ## Blocks one below the other -/

/-- How blocks at an anchor are indented: not at all at the end of a file, else by blanks. -/
def Anchor.Indents (anchor : Anchor) (indent : String) : Prop :=
  Anchor.IsIndent indent ∧ (anchor = .endOfFile → indent = "")

/-- Blocks at an anchor, one below the other, indented and set off by blank lines. -/
inductive Stacked (anchor : Anchor) : List (List String) → List String → Prop
  | nil : Stacked anchor [] []
  | snoc {blocks : List (List String)} {ls gap block : List String} {indent : String}
      (h : Stacked anchor blocks ls) (hgap : ∀ x ∈ gap, x = "") (hindent : anchor.Indents indent) :
      Stacked anchor (blocks ++ [block])
        (ls ++ (gap ++ block.map (Artifact.indentBy indent)))

/-- A block at an anchor is whole in some lines. -/
def Whole (anchor : Anchor) (block ls : List String) : Prop :=
  ∃ indent, anchor.Indents indent ∧ block.map (Artifact.indentBy indent) <:+: ls

namespace Stacked

variable {anchor : Anchor} {blocks : List (List String)} {ls : List String}

/-- Every block is whole. -/
theorem whole (h : Stacked anchor blocks ls) : ∀ block ∈ blocks, Whole anchor block ls := by
  induction h with
  | nil => nofun
  | @snoc blocks ls gap block indent h hgap hindent ih =>
      refine List.forall_mem_append.2 ⟨fun b hb => ?_, ?_⟩
      · obtain ⟨i, hi, hinfix⟩ := ih b hb
        exact ⟨i, hi, hinfix.trans (List.prefix_append _ _).isInfix⟩
      · rw [List.forall_mem_singleton, ← List.append_assoc]
        exact ⟨indent, hindent, (List.suffix_append _ _).isInfix⟩

/-- What is read off the lines is read off the blocks. -/
theorem filterMap (h : Stacked anchor blocks ls) {α : Type} {read : String → Option α}
    (hblank : read "" = none)
    (hread : ∀ block ∈ blocks, ∀ indent, Anchor.IsIndent indent →
      (block.map (Artifact.indentBy indent)).filterMap read = block.filterMap read) :
    ls.filterMap read = blocks.flatMap (List.filterMap read) := by
  induction h with
  | nil => rfl
  | @snoc blocks ls gap block indent h hgap hindent ih =>
      rw [List.forall_mem_append, List.forall_mem_singleton] at hread
      have hnone : gap.filterMap read = [] := by
        rw [List.filterMap_eq_nil_iff]
        intro x hx
        rw [hgap x hx, hblank]
      rw [List.filterMap_append, List.filterMap_append, hnone, List.nil_append, ih hread.1,
        hread.2 indent hindent.1, List.flatMap_append, List.flatMap_singleton]

end Stacked

/-- A block at the end of a file stands there as it is. -/
theorem Whole.isInfix {block ls : List String} (h : Whole .endOfFile block ls) : block <:+: ls := by
  obtain ⟨indent, hindent, hinfix⟩ := h
  have hsame : block.map (Artifact.indentBy "") = block :=
    (List.map_congr_left fun x _ => Artifact.indentBy_empty x).trans (List.map_id _)
  rwa [hindent.2 rfl, hsame] at hinfix

/-! ## What is declared -/

/-- What an action declares. -/
def Action.declaration? : Action → Option Declaration
  | .declare d _ => some d
  | .file _ _ | .importLine _ | .clean _ | .dependency _ _ _ | .reference _ _ => none

/-- Decide whether an action makes a file that is not there from a template. -/
def Action.opens : Action → Bool
  | .file _ _ | .declare _ _ => true
  | .importLine _ | .clean _ | .dependency _ _ _ | .reference _ _ => false

/-- What actions declare, the first declaration of each detection. -/
def declared (actions : List Action) : List Declaration :=
  firstsBy Declaration.detection (actions.filterMap Action.declaration?)

theorem any_declared (detection : String) (actions : List Action) :
    (declared actions).any (·.detection == detection) = actions.any (Action.declares detection) := by
  rw [declared, any_firstsBy, List.any_filterMap]
  congr 1
  funext a
  cases a <;> rfl

/-- What is declared after one more action. -/
theorem declared_concat {actions : List Action} {a : Action}
    (h : ∀ d ∈ a.declaration?, actions.any (Action.declares d.detection) = false) :
    declared (actions ++ [a]) = declared actions ++ a.declaration?.toList := by
  rw [declared, List.filterMap_append]
  cases hd : a.declaration? with
  | none => simp [hd, declared]
  | some d =>
      have hnew := h d hd
      rw [← any_declared, declared] at hnew
      simp only [List.filterMap_cons, hd, List.filterMap_nil, firstsBy_concat, hnew, declared,
        Bool.false_eq_true, if_false, Option.toList_some]

theorem declared_concat_of_any {actions : List Action} {a : Action}
    (h : ∀ d ∈ a.declaration?, actions.any (Action.declares d.detection) = true) :
    declared (actions ++ [a]) = declared actions := by
  rw [declared, List.filterMap_append]
  cases hd : a.declaration? with
  | none => simp [hd, declared]
  | some d =>
      have hold := h d hd
      rw [← any_declared, declared] at hold
      simp only [List.filterMap_cons, hd, List.filterMap_nil, firstsBy_concat, hold, declared, if_true]

/-! ## Anchors -/

/-- What goes in at an anchor goes right before the last lines `tail`. -/
def Anchor.Before (anchor : Anchor) (tail : List String) : Prop :=
  ∀ front, (anchor.locate (front ++ tail)).index = front.length
    ∧ (anchor.locate (front ++ tail)).opensImports = false

namespace Anchor

theorem indents_locate {ls : List String} (h : ∀ l ∈ ls, IsPlain l) (anchor : Anchor) :
    anchor.Indents (anchor.locate ls).indent := by
  refine ⟨isIndent_locate h anchor, ?_⟩
  rintro rfl
  rfl

theorem before_endOfFile : Anchor.endOfFile.Before [] := by
  intro front
  rw [List.append_nil]
  exact ⟨rfl, rfl⟩

theorem before_endOfBlock : Anchor.endOfBlock.Before ["\x7d"] := by
  intro front
  have hlast : lastIndex? (fun l => trim l == "\x7d") (front ++ ["\x7d"]) = some front.length := by
    have hone : lastIndex? (fun l => trim l == "\x7d") ["\x7d"] = some 0 := by decide
    rw [lastIndex?_append, hone]
    rfl
  simp only [locate, atLastBrace, hlast, and_self]

theorem before_marker {marker : String} {tail : List String}
    (h : lastIndex? (fun l => trim l == trim marker) tail = some 0) :
    (Anchor.beforeMarker marker).Before tail := by
  intro front
  have hlast : lastIndex? (fun l => trim l == trim marker) (front ++ tail) = some front.length := by
    rw [lastIndex?_append, h]
    rfl
  simp only [locate, hlast, and_self]

/-- A block that goes right before the last lines. -/
theorem Before.put {anchor : Anchor} {tail : List String} (h : anchor.Before tail)
    (front block : List String) (separated : Bool) : ∃ gap, (∀ x ∈ gap, x = "") ∧
      anchor.put (front ++ tail) block separated = front
        ++ (gap ++ block.map (Artifact.indentBy (anchor.locate (front ++ tail)).indent)) ++ tail := by
  obtain ⟨hindex, hopens⟩ := h front
  refine ⟨Artifact.gapBefore (front ++ tail) front.length separated, Artifact.gapBefore_blank, ?_⟩
  have hgap : Artifact.gapAfter (front ++ tail) (anchor.locate (front ++ tail)) = [] := by
    simp [Artifact.gapAfter, hopens]
  rw [Anchor.put, hgap, hindex, List.append_nil, List.take_left', List.drop_left']
  · rfl
  · rfl

/-- An import goes among the first lines, if these have an import and the others have none. -/
theorem put_afterImports {header rest : List String} (hheader : header.any isImportLine = true)
    (hrest : ∀ x ∈ rest, isImportLine x = false) (literal : String) :
    ∃ header', Anchor.afterImports.put (header ++ rest) [literal] false = header' ++ rest
      ∧ header'.any isImportLine = true ∧ ∀ x ∈ header', x ∈ header ∨ x = literal := by
  cases hlast : lastIndex? isImportLine header with
  | none =>
      rw [List.any_eq_true] at hheader
      obtain ⟨x, hx, himport⟩ := hheader
      rw [lastIndex?_eq_none.1 hlast x hx] at himport
      cases himport
  | some i =>
      have hindex : lastIndex? isImportLine (header ++ rest) = some i := by
        rw [lastIndex?_append, lastIndex?_eq_none.2 hrest, hlast]
        rfl
      have hle : i + 1 ≤ header.length := lastIndex?_lt hlast
      have hgap : ∀ texts index, Artifact.gapBefore texts index false = [] := by
        intro texts index
        cases index <;> rfl
      refine ⟨header.take (i + 1) ++ [literal] ++ header.drop (i + 1), ?_, ?_, fun x hx => ?_⟩
      · simp [put, locate, hindex, hgap, Artifact.gapAfter, Artifact.indentBy_empty,
          List.take_append_of_le_length hle, List.drop_append_of_le_length hle]
      · rw [← List.take_append_drop (i + 1) header, List.any_append] at hheader
        simp only [List.any_append, Bool.or_eq_true] at hheader ⊢
        tauto
      · simp only [List.mem_append, List.mem_singleton] at hx
        rcases hx with (hx | rfl) | hx
        · exact .inl (List.mem_of_mem_take hx)
        · exact .inr rfl
        · exact .inl (List.mem_of_mem_drop hx)

end Anchor

/-! ## Forms -/

/-- How a kind of file is filled. -/
structure Form where
  /-- The template that makes the file. -/
  template : Template
  /-- Where blocks go. -/
  anchor : Anchor
  /-- The last lines of the template. -/
  tail : List String
  /-- Whether imports are added. -/
  imports : Bool

/-- No detection of a member is found in a line of a kind of file. -/
def IsClear (l : Locator) (kind : ArtifactKind) (line : String) : Prop :=
  ∀ m : Member, m.WellNamed → m.kind = kind → contains line (m.declaration l).detection = false

namespace Form

/-- The lines of the template are such that files can be filled in this way. -/
structure Sound (form : Form) : Prop where
  before : form.anchor.Before form.tail
  lines : ∃ front, form.template.lines = front ++ form.tail
    ∧ (form.imports = true → ∃ line ∈ front, Member.isFixedLine line.toList = true
      ∧ isImportLine line = true)
  tail : ∀ line ∈ form.tail, Member.isFixedLine line.toList = true
    ∧ (form.imports = true → isImportLine line = false)

/-- An action that fills a file in this way. -/
def Takes (form : Form) : Action → Prop
  | .declare d _ => d.anchor = form.anchor ∧ d.template = some form.template.name
      ∧ (form.imports = true → ∀ indent, Anchor.IsIndent indent →
        ∀ x ∈ d.block, isImportLine (Artifact.indentBy indent x) = false)
  | .importLine _ => form.imports = true
  | .file name _ => name = form.template.name
  | .clean _ | .dependency _ _ _ | .reference _ _ => False

/-- A file that was filled: the blocks of declarations stand between the first lines and the last
ones. -/
structure Filled (form : Form) (l : Locator) (ds : List Declaration) (ls : List String) : Prop where
  parts : ∃ header body, ls = header ++ body ++ form.tail
    ∧ Stacked form.anchor (ds.map Declaration.block) body
    ∧ (∀ x ∈ header ++ form.tail, IsClear l form.template.kind x)
    ∧ (form.imports = true → header.any isImportLine = true
      ∧ ∀ x ∈ body ++ form.tail, isImportLine x = false)

variable {form : Form} {l : Locator} {ds : List Declaration} {ls : List String}

/-- A new file is filled with nothing. -/
theorem Sound.filled_template (hform : form.Sound) {ctx : Context} (hctx : ctx.Suits form.template) :
    form.Filled l [] (templateLines form.template.name ctx) := by
  obtain ⟨front, hlines, himports⟩ := hform.lines
  have hfixed : ∀ line ∈ form.template.lines, Member.isFixedLine line.toList = true →
      ctx.fill line = line := fun line hline h => Member.fill_of_isFixedLine hline h
  have htail : form.tail.map ctx.fill = form.tail := by
    refine (List.map_congr_left fun line hline => ?_).trans (List.map_id _)
    exact hfixed line (hlines ▸ List.mem_append_right _ hline) (hform.tail line hline).1
  have hall : templateLines form.template.name ctx = front.map ctx.fill ++ form.tail := by
    rw [templateLines_name, hlines, List.map_append, htail]
  refine ⟨front.map ctx.fill, [], by rw [hall, List.append_nil], .nil, ?_, fun h => ⟨?_, ?_⟩⟩
  · rw [← hall, templateLines_name, List.forall_mem_map]
    intro line hline m hm hkind
    exact Member.template_clear hm hctx hkind line hline
  · obtain ⟨line, hline, hlineFixed, himport⟩ := himports h
    rw [List.any_eq_true]
    refine ⟨line, ?_, himport⟩
    rw [← hfixed line (hlines ▸ List.mem_append_left _ hline) hlineFixed]
    exact List.mem_map_of_mem hline
  · exact fun x hx => (hform.tail x hx).2 h

/-- A declaration goes below the others. -/
theorem Filled.declare (hform : form.Sound) (h : form.Filled l ds ls) {d : Declaration} {ctx : Context}
    (htakes : form.Takes (.declare d ctx)) (hplain : ∀ x ∈ ls, IsPlain x) :
    form.Filled l (ds ++ [d]) (d.anchor.put ls d.block d.separated) := by
  obtain ⟨header, body, rfl, hstacked, hclear, himports⟩ := h.parts
  obtain ⟨hanchor, -, hquiet⟩ := htakes
  have hindent := Anchor.indents_locate hplain form.anchor
  obtain ⟨gap, hgap, hput⟩ := hform.before.put (header ++ body) d.block d.separated
  rw [hanchor, hput]
  refine ⟨header, _, by rw [List.append_assoc header], ?_, hclear, fun h => ⟨(himports h).1, ?_⟩⟩
  · rw [List.map_append]
    exact hstacked.snoc hgap hindent
  · obtain ⟨-, hbody⟩ := himports h
    rw [List.forall_mem_append] at hbody ⊢
    refine ⟨List.forall_mem_append.2 ⟨hbody.1, List.forall_mem_append.2 ⟨fun x hx => ?_, ?_⟩⟩, hbody.2⟩
    · exact hgap x hx ▸ (by decide)
    · exact List.forall_mem_map.2 (hquiet h _ hindent.1)

/-- An import goes among the first lines. -/
theorem Filled.importLine (h : form.Filled l ds ls) (himport : form.imports = true) {literal : String}
    (hliteral : IsClear l form.template.kind literal) :
    form.Filled l ds (Anchor.afterImports.put ls [literal] false) := by
  obtain ⟨header, body, rfl, hstacked, hclear, himports⟩ := h.parts
  obtain ⟨hheader, hrest⟩ := himports himport
  rw [List.append_assoc]
  obtain ⟨header', hput, hany, hmem⟩ := Anchor.put_afterImports hheader hrest literal
  rw [hput, ← List.append_assoc]
  refine ⟨header', body, rfl, hstacked, ?_, fun _ => ⟨hany, hrest⟩⟩
  rw [List.forall_mem_append] at hclear ⊢
  refine ⟨fun x hx => ?_, hclear.2⟩
  obtain hx | rfl := hmem x hx
  · exact hclear.1 x hx
  · exact hliteral

/-- What is read off a file is read off the blocks in it, if nothing is read off lines without a
detection. -/
theorem Filled.filterMap (h : form.Filled l ds ls) {α : Type} {read : String → Option α}
    (hclear : ∀ x, IsClear l form.template.kind x → read x = none)
    (hread : ∀ D ∈ ds, ∀ indent, Anchor.IsIndent indent →
      (D.block.map (Artifact.indentBy indent)).filterMap read = D.block.filterMap read) :
    ls.filterMap read = ds.flatMap fun D => D.block.filterMap read := by
  obtain ⟨header, body, rfl, hstacked, hclearLines, -⟩ := h.parts
  rw [List.forall_mem_append] at hclearLines
  have hnone : header.filterMap read = [] ∧ form.tail.filterMap read = [] :=
    ⟨List.filterMap_eq_nil_iff.2 fun x hx => hclear x (hclearLines.1 x hx),
      List.filterMap_eq_nil_iff.2 fun x hx => hclear x (hclearLines.2 x hx)⟩
  have hblank : read "" = none := hclear "" fun m hm _ => Member.blank_clear hm
  rw [List.filterMap_append, List.filterMap_append, hnone.1, hnone.2, List.nil_append,
    List.append_nil, hstacked.filterMap hblank (List.forall_mem_map.2 hread), List.flatMap_map]

end Form

/-! ## Files of a form -/

theorem Template.name_injective {t t' : Template} (h : t.name = t'.name) : t = t' := by
  have hname : ∀ t : Template, Template.ofName? t.name = some t := by
    intro t
    cases t <;> decide
  exact Option.some.inj ((hname t).symm.trans (h ▸ hname t'))

section

variable {l : Locator} {p : RelativePath} {form : Form} {actions : List Action} {a : Action}

/-- What an action leaves of a file of a form that it has something to do in. -/
theorem Form.Filled.yields (hform : form.Sound) {kind : ArtifactKind}
    {current : Option (List String)} {ds : List Declaration}
    (hcurrent : ∀ ls ∈ current, form.Filled l ds ls)
    (hnone : current = none → ds = [] ∧ a.opens = true)
    (hsuited : a.Suited l p kind) (htakes : form.Takes a) (hnot : ¬ a.Rests current)
    {ls : List String} (hyields : a.Yields l kind (current.getD a.base) ls) :
    form.Filled l (ds ++ a.declaration?.toList) ls := by
  have hadds := hyields.adds
  have hagain := hsuited
  have hplain : ∀ x ∈ current.getD a.base, IsPlain x := fun x hx =>
    hyields.kept.plain x (hyields.sublist.subset hx)
  cases hsuited with
  | clean | dependency _ _ _ | reference _ _ _ => cases htakes
  | @file t ctx hctx hsuits =>
      -- a file that was there would rest
      cases current with
      | some before => exact absurd (.inr ⟨before, rfl, trivial⟩) hnot
      | none =>
          cases Template.name_injective htakes
          rw [show ls = _ from hadds, (hnone rfl).1]
          exact hform.filled_template hsuits
  | @importLine _ space hspace _ =>
      cases current with
      | none => cases (hnone rfl).2
      | some before =>
          rw [show ls = _ from hadds]
          show form.Filled l (ds ++ []) _
          rw [List.append_nil]
          exact (hcurrent before rfl).importLine htakes fun m hm _ => Member.import_clear hm hspace
  | @declare m ctx hm hpath hctx htemplate =>
      have hbase : form.Filled l ds (current.getD (Action.declare (m.declaration l) ctx).base) := by
        cases current with
        | some before => exact hcurrent before rfl
        | none =>
            obtain ⟨t, hname, hk, hsuits⟩ := htemplate _ htakes.2.1
            cases Template.name_injective hname
            rw [(hnone rfl).1]
            have hnew := hform.filled_template (l := l) hsuits
            simpa [Action.base, htakes.2.1] using hnew
      obtain ⟨hmet, -⟩ | ⟨-, rfl⟩ := hadds
      · -- a new file has nothing declared, and one that was there would rest
        cases current with
        | some before => exact absurd (.inr ⟨before, rfl, hmet⟩) hnot
        | none =>
            obtain ⟨x, hx, hfound⟩ := hmet
            exact absurd hfound (List.countP_eq_zero.1 (hagain.base_clear hm rfl) x hx)
      · exact hbase.declare hform htakes hplain

/-- **A file of a form is filled with what was declared in it**, the first declaration of each
detection, every block whole and in order. -/
theorem Written.filled (hl : IsProject l.project) (hform : form.Sound) {kind : ArtifactKind}
    {current : Option (List String)} (h : Written l p kind actions current)
    (htakes : ∀ a ∈ actions, form.Takes a)
    (hfirst : ∀ a ∈ actions.head?, a.opens = true) :
    (∀ ls ∈ current, form.Filled l (declared actions) ls) ∧ (current = none → actions = []) := by
  induction h with
  | untouched => exact ⟨nofun, fun _ => rfl⟩
  | @rests actions a current hbefore hsuited hrests ih =>
      rw [List.forall_mem_append, List.forall_mem_singleton] at htakes
      have hhead : ∀ a ∈ actions.head?, a.opens = true := fun b hb =>
        hfirst b (List.mem_head?_append_of_mem_head? hb)
      obtain ⟨hfilled, hnone⟩ := ih htakes.1 hhead
      have hthere : current ≠ none := by
        rintro rfl
        obtain ⟨samples, rfl⟩ | ⟨ls, hls, -⟩ := hrests
        · exact htakes.2
        · cases hls
      refine ⟨fun ls hls => ?_, fun h => absurd h hthere⟩
      rw [declared_concat_of_any fun d hd => ?_]
      · exact hfilled ls hls
      · cases a with
        | declare d' ctx =>
            cases hd
            exact (hbefore.rests_iff hl hsuited).1 hrests
        | _ => cases hd
  | @yields actions a current ls hbefore hsuited hnot hyields ih =>
      rw [List.forall_mem_append, List.forall_mem_singleton] at htakes
      have hhead : ∀ a ∈ actions.head?, a.opens = true := fun b hb =>
        hfirst b (List.mem_head?_append_of_mem_head? hb)
      obtain ⟨hfilled, hnone⟩ := ih htakes.1 hhead
      refine ⟨?_, nofun⟩
      rintro _ ⟨⟩
      rw [declared_concat fun d hd => ?_]
      · refine Form.Filled.yields hform hfilled (fun h => ?_) hsuited htakes.2 hnot hyields
        cases hnone h
        exact ⟨rfl, hfirst a rfl⟩
      · cases a with
        | declare d' ctx =>
            cases hd
            rw [Bool.eq_false_iff]
            exact fun hany => hnot ((hbefore.rests_iff hl hsuited).2 hany)
        | _ => cases hd

/-- The blocks of what is declared first are whole. -/
theorem Written.whole (hl : IsProject l.project) (hform : form.Sound) {kind : ArtifactKind}
    {current : Option (List String)} (h : Written l p kind actions current)
    (htakes : ∀ a ∈ actions, form.Takes a) (hfirst : ∀ a ∈ actions.head?, a.opens = true) :
    ∀ D ∈ declared actions, Whole form.anchor D.block (current.getD []) := by
  intro D hD
  obtain ⟨hfilled, hnone⟩ := h.filled hl hform htakes hfirst
  cases current with
  | none =>
      rw [hnone rfl] at hD
      cases hD
  | some ls =>
      obtain ⟨header, body, rfl, hstacked, -, -⟩ := (hfilled ls rfl).parts
      obtain ⟨indent, hindent, hinfix⟩ := hstacked.whole _ (List.mem_map_of_mem hD)
      exact ⟨indent, hindent, hinfix.trans ⟨header, form.tail, rfl⟩⟩

end

end Scaffold
