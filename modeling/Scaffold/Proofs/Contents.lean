import Mathlib
import Scaffold.Proofs.Detection
import Scaffold.Proofs.Form
import Scaffold.Proofs.Plan.Files

/-!
# What files contain after a run

The files of repositories, use cases and exposures have forms (`Member.form?`), and the tasks of
every order fill them (`Order.fills`).  So after a run such a file contains what the orders declared
in it (`Reached.filled`), and the block of what an order declares first is whole in it
(`Reached.whole`).
-/

namespace Scaffold

open Scaffold.Path (components)
open Scaffold.Text

/-! ## Forms of files -/

/-- A line that begins otherwise than an import. -/
theorem isImportLine_of_head {line : String} {c : Char} (h : line.toList.head? = some c)
    (hu : c ≠ 'u') (hg : c ≠ 'g') : isImportLine line = false := by
  obtain ⟨cs, hcs⟩ := List.head?_eq_some_iff.1 h
  simp [isImportLine, hcs, dropStart?, Ne.symm hg, Ne.symm hu]

/-- A line is no import if it is none without its indentation. -/
theorem isImportLine_indentBy {indent line : String} (hindent : Anchor.IsIndent indent)
    (h : isImportLine line = false) : isImportLine (Artifact.indentBy indent line) = false := by
  unfold Artifact.indentBy
  split
  · decide
  · cases hcs : indent.toList with
    | nil => rwa [String.toList_eq_nil_iff.1 hcs, String.empty_append]
    | cons c cs =>
        have hblank := hindent.blank c (hcs ▸ List.mem_cons_self)
        have hu : c ≠ 'u' := by
          rintro rfl
          revert hblank
          decide
        have hg : c ≠ 'g' := by
          rintro rfl
          revert hblank
          decide
        exact isImportLine_of_head (c := c) (by simp [hcs]) hu hg

theorem isImportLine_indentLine (line : String) : isImportLine (indentLine line) = false := by
  unfold indentLine
  split
  · decide
  · exact isImportLine_of_head (c := ' ') (by simp) (by decide) (by decide)

/-- No line of an exposure is an import. -/
theorem isImportLine_exposureBlock (u : UseCase) (style : Exposure) (f : Feature) :
    ∀ x ∈ u.exposureBlock style f, isImportLine x = false := by
  cases style with
  | routes =>
      simp only [UseCase.exposureBlock, UseCase.routeBlock, List.forall_mem_cons, List.not_mem_nil,
        false_imp_iff, implies_true, and_true]
      refine ⟨?_, ?_⟩
      · simp [isImportLine, dropStart?, UseCase.detection, Entrypoint.detection,
          Entrypoint.detectionOf]
      · simp [isImportLine, dropStart?]
  | controllers =>
      simp only [UseCase.exposureBlock, UseCase.controllerBlock, braced, indentBlock, List.map_cons,
        List.map_nil, List.cons_append, List.nil_append, List.forall_mem_cons, List.not_mem_nil,
        false_imp_iff, implies_true, and_true]
      refine ⟨?_, ?_, ?_, ?_, ?_, ?_⟩
      · unfold UseCase.detection Entrypoint.detection Entrypoint.detectionOf
        dsimp only
        split <;> simp [isImportLine, dropStart?]
      · simp [isImportLine, dropStart?]
      · decide
      · exact isImportLine_indentLine _
      · exact isImportLine_indentLine _
      · decide

namespace Form

/-- The interface of a repository. -/
def repositoryContract : Form := ⟨.repositoryContract, .endOfBlock, ["\x7d"], false⟩

/-- The class of a repository. -/
def repositoryImpl : Form := ⟨.repositoryImpl, .endOfBlock, ["\x7d"], false⟩

/-- A type of a use case. -/
def useCase : UseCasePart → Form
  | .request => ⟨.useCaseRequest, .endOfFile, [], false⟩
  | .handler => ⟨.useCaseHandler, .endOfFile, [], false⟩
  | .validator => ⟨.useCaseValidator, .endOfFile, [], false⟩

/-- The exposure of an entity. -/
def exposure : Exposure → Form
  | .routes =>
      ⟨.endpoints, .beforeMarker "return app;", ["        return app;", "    \x7d", "\x7d"], true⟩
  | .controllers => ⟨.controller, .endOfBlock, ["\x7d"], true⟩

theorem sound_repositoryContract : repositoryContract.Sound where
  before := Anchor.before_endOfBlock
  lines := ⟨Template.repositoryContractLines.dropLast, rfl, nofun⟩
  tail := List.forall_mem_singleton.2 ⟨by decide, nofun⟩

theorem sound_repositoryImpl : repositoryImpl.Sound where
  before := Anchor.before_endOfBlock
  lines := ⟨Template.repositoryImplLines.dropLast, rfl, nofun⟩
  tail := List.forall_mem_singleton.2 ⟨by decide, nofun⟩

theorem sound_useCase (part : UseCasePart) : (useCase part).Sound := by
  cases part <;>
    exact ⟨Anchor.before_endOfFile, ⟨_, (List.append_nil _).symm, nofun⟩, nofun⟩

theorem sound_exposure (style : Exposure) : (exposure style).Sound := by
  cases style with
  | routes =>
      refine ⟨Anchor.before_marker (by decide), ⟨Template.endpointsLines.take 10, rfl, fun _ =>
        ⟨"using MediatR;", List.mem_cons_self, by decide, by decide +kernel⟩⟩, ?_⟩
      simp only [exposure, List.forall_mem_cons, List.not_mem_nil, false_imp_iff, implies_true,
        and_true]
      decide
  | controllers =>
      refine ⟨Anchor.before_endOfBlock, ⟨Template.controllerLines.dropLast, rfl, fun _ =>
        ⟨"using MediatR;", List.mem_cons_self, by decide, by decide +kernel⟩⟩, ?_⟩
      exact List.forall_mem_singleton.2 ⟨by decide, fun _ => by decide +kernel⟩

end Form

/-- The form of the file a member is declared in. -/
def Member.form? (style : Exposure) : Member → Option Form
  | .contractMethod .. => some .repositoryContract
  | .implMethod .. => some .repositoryImpl
  | .request .. => some (.useCase .request)
  | .handler .. => some (.useCase .handler)
  | .validator .. => some (.useCase .validator)
  | .exposure .. => some (.exposure style)
  | .property .. | .enumType _ | .constant .. | .dbSet _ | .registration _ | .mapping _
  | .service .. | .context _ | .repository _ | .client _ | .setting _ | .container _ => none

namespace Member

variable {style : Exposure} {m : Member} {form : Form}

theorem form_sound (h : m.form? style = some form) : form.Sound := by
  cases m <;> cases h
  exacts [Form.sound_repositoryContract, Form.sound_repositoryImpl, Form.sound_useCase .request,
    Form.sound_useCase .handler, Form.sound_useCase .validator, Form.sound_exposure style]

theorem form_kind (h : m.form? style = some form) : m.kind ∈ Generation.kinds := by
  cases m <;> cases h <;> simp [Member.kind, Generation.kinds]

end Member

/-! ## Orders fill files -/

namespace Form

/-- Actions that fill a file in some way, where the first one makes the file. -/
structure Fills (form : Form) (actions : List Action) : Prop where
  takes : ∀ a ∈ actions, form.Takes a
  makes : ∀ a ∈ actions.head?, a.opens = true

namespace Fills

variable {form : Form} {actions actions' : List Action}

theorem nil : form.Fills [] := ⟨nofun, nofun⟩

theorem append (h : form.Fills actions) (h' : form.Fills actions') :
    form.Fills (actions ++ actions') := by
  refine ⟨List.forall_mem_append.2 ⟨h.takes, h'.takes⟩, ?_⟩
  cases actions with
  | nil => exact h'.makes
  | cons a rest => exact h.makes

theorem flatMap {α : Type} {xs : List α} {g : α → List Action} (h : ∀ x ∈ xs, form.Fills (g x)) :
    form.Fills (xs.flatMap g) := by
  induction xs with
  | nil => exact nil
  | cons x xs ih =>
      rw [List.forall_mem_cons] at h
      exact h.1.append (ih h.2)

theorem declaration {d : Declaration} {ctx : Context} (h : form.Takes (.declare d ctx)) :
    form.Fills [.declare d ctx] := by
  refine ⟨List.forall_mem_singleton.2 h, ?_⟩
  rintro _ ⟨⟩
  rfl

theorem declarations {α : Type} {xs : List α} {g : α → Declaration} {ctx : α → Context}
    (h : ∀ x ∈ xs, form.Takes (.declare (g x) (ctx x))) :
    form.Fills (xs.map fun x => .declare (g x) (ctx x)) := by
  refine ⟨List.forall_mem_map.2 h, fun a ha => ?_⟩
  obtain ⟨x, -, rfl⟩ := List.mem_map.1 (List.mem_of_mem_head? ha)
  rfl

end Fills

end Form

/-- How a use case is declared in an exposure of either style. -/
theorem Member.declaration_exposure (l : Locator) (f : Feature) (u : UseCase) :
    ∃ separated, (Member.exposure f u).declaration l
      = ⟨u.detection l.style, u.exposureBlock l.style f, (Form.exposure l.style).anchor, separated,
          some (Form.exposure l.style).template.name⟩ := by
  obtain ⟨project, style⟩ := l
  cases style <;> exact ⟨_, rfl⟩

/-- Every order fills the files that have a form. -/
theorem Order.fills {l : Locator} (hl : IsProject l.project) {m : Member} (hm : m.WellNamed)
    {form : Form} (hform : m.form? l.style = some form) {o : Order} (ho : o.WellNamed)
    (provider : Provider) : form.Fills (actionsOn (m.path l) (o.tasks l provider)) := by
  obtain ⟨layer, hp⟩ := m.place (l := l) hm
  rw [Order.actionsOn_tasks hl hp (Member.form_kind hform) ho]
  refine .flatMap fun g hg => ?_
  have hwell := Order.generation_wellNamed ho g (Option.mem_toList.1 hg)
  have hpart : ∀ (part : UseCasePart) (f : Feature) (u : UseCase), f.WellNamed → u.WellNamed →
      (Form.useCase part).Fills (actionsOn ((part.member f u).path l) (g.tasks ⟨l, 0⟩)) := by
    intro part f u hf hu
    rw [Generation.actionsOn_useCase hl hwell part hf hu]
    refine .flatMap fun v _ => ?_
    split
    · cases part <;> exact .declaration ⟨rfl, rfl, nofun⟩
    · exact .nil
  have hmethods : ∀ (part : RepositoryPart) (f : Feature) {form : Form}, f.WellNamed →
      (∀ m, form.Takes (.declare ((part.member g.feature m).declaration l)
        (Site.featureContext ⟨l, 0⟩ g.feature))) →
      form.Fills (actionsOn (part.path l f) (g.tasks ⟨l, 0⟩)) := by
    intro part f form hf htakes
    rw [Generation.actionsOn_repository hl hwell part hf]
    split
    · exact .declarations fun m _ => htakes m
    · exact .nil
  cases m <;> cases hform
  case contractMethod f m => exact hmethods .contract f hm.1 fun _ => ⟨rfl, rfl, nofun⟩
  case implMethod f m => exact hmethods .impl f hm.1 fun _ => ⟨rfl, rfl, nofun⟩
  case request f u => exact hpart .request f u hm.1 hm.2
  case handler f u => exact hpart .handler f u hm.1 hm.2
  case validator f u => exact hpart .validator f u hm.1 hm.2
  case exposure f u =>
    rw [Member.path, Generation.actionsOn_exposure hl hwell hm.1]
    refine .flatMap fun v _ => ?_
    split
    · obtain ⟨separated, hdeclaration⟩ := Member.declaration_exposure l g.feature v
      refine ⟨?_, by rintro _ ⟨⟩; rfl⟩
      rw [List.forall_mem_cons, List.forall_mem_singleton, hdeclaration]
      refine ⟨⟨rfl, rfl, fun _ indent hindent x hx => ?_⟩, ?_⟩
      · exact isImportLine_indentBy hindent (isImportLine_exposureBlock v l.style g.feature x hx)
      · cases l.style <;> rfl
    · exact .nil

/-! ## What runs leave -/

section

variable {T : Set (List Component)} {root : String} {os : List Order} {s : Scene} {d : Descriptor}
  {m : Member} {form : Form}

/-- The orders fill a file of a form. -/
theorem Reached.fills (h : Reached T root os s d) (hm : m.WellNamed)
    (hform : m.form? d.style = some form) :
    form.Fills (actionsOn (m.path d.locator) (tasksOf d os)) := by
  rw [tasksOf, actionsOn_flatMap]
  exact .flatMap fun o ho => o.fills h.project hm hform (h.wellNamed o ho) _

/-- What orders declare in a file of a form is what fills it. -/
theorem Reached.filled (h : Reached T root os s d) (hT : Apart d.locator root T) (hm : m.WellNamed)
    (hform : m.form? d.style = some form) :
    (∀ ls ∈ s.tree.content.linesAt (components ((m.path d.locator).under root)),
      form.Filled d.locator (declared (actionsOn (m.path d.locator) (tasksOf d os))) ls)
    ∧ (s.tree.content.linesAt (components ((m.path d.locator).under root)) = none →
      actionsOn (m.path d.locator) (tasksOf d os) = []) := by
  obtain ⟨layer, hplace⟩ := m.place (l := d.locator) hm
  have hfills := h.fills hm hform
  exact (h.written hT hplace).filled h.project (Member.form_sound hform) hfills.takes hfills.makes

/-- The blocks of a file of a form are whole. -/
theorem Reached.whole (h : Reached T root os s d) (hT : Apart d.locator root T) (hm : m.WellNamed)
    (hform : m.form? d.style = some form) :
    ∀ D ∈ declared (actionsOn (m.path d.locator) (tasksOf d os)),
      Whole form.anchor D.block (s.linesOf root (m.path d.locator)) := by
  obtain ⟨layer, hplace⟩ := m.place (l := d.locator) hm
  have hfills := h.fills hm hform
  exact (h.written hT hplace).whole h.project (Member.form_sound hform) hfills.takes hfills.makes

end

end Scaffold
