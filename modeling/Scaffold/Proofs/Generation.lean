import Mathlib
import Scaffold.Proofs.UseCase

/-!
# Generations

What an order generates of an entity are members of the files of its repository, its use cases and
its exposure (`Generation.members`).  No two of them share a detection in one file, so each is whole
in its file unless an earlier order declared something under the same detection
(`Reached.whole_of_new`).
-/

namespace Scaffold

open Scaffold.Path (components)
open Scaffold.Text

namespace Generation

/-! ## Members -/

/-- What a generation declares. -/
def members (g : Generation) : List Member :=
  g.methods.flatMap (fun m => [.contractMethod g.feature m, .implMethod g.feature m])
    ++ g.useCases.flatMap fun u =>
      [.request g.feature u, .handler g.feature u, .validator g.feature u, .exposure g.feature u]

/-- The members of a generation are told apart by their names. -/
structure Distinct (g : Generation) (style : Exposure) : Prop where
  methods : (g.methods.map RepositoryMethod.name).Nodup
  useCases : (g.useCases.map UseCase.name).Nodup
  exposures : (g.useCases.map (·.detection style)).Nodup

section

variable {g : Generation} {P : Member → Prop}

/-- What holds of methods, types of use cases and exposures holds of all members. -/
theorem forall_members (hmethod : ∀ m ∈ g.methods, ∀ part : RepositoryPart, P (part.member g.feature m))
    (huseCase : ∀ u ∈ g.useCases, ∀ part : UseCasePart, P (part.member g.feature u))
    (hexposure : ∀ u ∈ g.useCases, P (.exposure g.feature u)) : ∀ m ∈ g.members, P m := by
  simp only [members, List.forall_mem_append, List.mem_flatMap, forall_exists_index, and_imp]
  constructor
  · intro M m hm hM
    simp only [List.mem_cons, List.not_mem_nil, or_false] at hM
    obtain rfl | rfl := hM
    exacts [hmethod m hm .contract, hmethod m hm .impl]
  · intro M u hu hM
    simp only [List.mem_cons, List.not_mem_nil, or_false] at hM
    obtain rfl | rfl | rfl | rfl := hM
    exacts [huseCase u hu .request, huseCase u hu .handler, huseCase u hu .validator,
      hexposure u hu]

theorem method_mem_members (part : RepositoryPart) {m : RepositoryMethod} (hm : m ∈ g.methods) :
    part.member g.feature m ∈ g.members := by
  refine List.mem_append_left _ (List.mem_flatMap.2 ⟨m, hm, ?_⟩)
  cases part <;> simp [RepositoryPart.member]

theorem useCase_mem_members (part : UseCasePart) {u : UseCase} (hu : u ∈ g.useCases) :
    part.member g.feature u ∈ g.members := by
  refine List.mem_append_right _ (List.mem_flatMap.2 ⟨u, hu, ?_⟩)
  cases part <;> simp [UseCasePart.member]

theorem exposure_mem_members {u : UseCase} (hu : u ∈ g.useCases) :
    Member.exposure g.feature u ∈ g.members :=
  List.mem_append_right _ (List.mem_flatMap.2 ⟨u, hu, by simp⟩)

theorem members_wellNamed (hg : g.WellNamed) : ∀ m ∈ g.members, m.WellNamed :=
  forall_members (fun m hm part => part.member_wellNamed hg.feature (hg.methods m hm))
    (fun u hu part => part.member_wellNamed hg.feature (hg.useCases u hu))
    fun u hu => ⟨hg.feature, hg.useCases u hu⟩

theorem members_form (style : Exposure) : ∀ m ∈ g.members, (m.form? style).isSome = true :=
  forall_members (fun m _ part => by cases part <;> rfl) (fun u _ part => by cases part <;> rfl)
    fun u _ => rfl

end

/-- What a generation declares in the file of one of its members: the member, and nothing else under
its detection. -/
theorem declarations_on {l : Locator} (hl : IsProject l.project) {g : Generation} (hg : g.WellNamed)
    (hdistinct : g.Distinct l.style) : ∀ M ∈ g.members,
      M.declaration l ∈ (actionsOn (M.path l) (g.tasks ⟨l, 0⟩)).filterMap Action.declaration?
      ∧ ∀ D ∈ (actionsOn (M.path l) (g.tasks ⟨l, 0⟩)).filterMap Action.declaration?,
        D.detection = (M.declaration l).detection → D = M.declaration l := by
  refine forall_members (fun m hm part => ?_) (fun u hu part => ?_) fun u hu => ?_
  · have hon : (actionsOn ((part.member g.feature m).path l) (g.tasks ⟨l, 0⟩)).filterMap
        Action.declaration? = g.methods.map fun m => (part.member g.feature m).declaration l := by
      rw [part.path_member, actionsOn_repository hl hg part hg.feature, if_pos rfl,
        List.filterMap_map, ← List.filterMap_eq_map]
      rfl
    rw [hon]
    refine ⟨List.mem_map_of_mem hm, List.forall_mem_map.2 fun m' hm' hdetection => ?_⟩
    rw [part.detection_member, part.detection_member, ← beq_iff_eq, detection_beq,
      beq_iff_eq] at hdetection
    rw [List.inj_on_of_nodup_map hdistinct.methods hm' hm hdetection]
  · have hon : (actionsOn ((part.member g.feature u).path l) (g.tasks ⟨l, 0⟩)).filterMap
        Action.declaration? = g.useCases.flatMap fun v =>
          if (part.member g.feature v).path l = (part.member g.feature u).path l then
            [(part.member g.feature v).declaration l] else [] := by
      rw [actionsOn_useCase hl hg part hg.feature (hg.useCases u hu), List.filterMap_flatMap]
      refine List.flatMap_congr fun v _ => ?_
      split <;> rfl
    rw [hon]
    refine ⟨List.mem_flatMap.2 ⟨u, hu, by simp⟩, fun D hD _ => ?_⟩
    obtain ⟨v, hv, hD⟩ := List.mem_flatMap.1 hD
    split at hD
    next hpath =>
      rw [List.mem_singleton.1 hD]
      rw [part.path_member, part.path_member] at hpath
      obtain ⟨-, -, hname⟩ := useCaseFile_injective hl hg.feature hg.feature (hg.useCases v hv)
        (hg.useCases u hu) (part.typeName_isName (hg.useCases v hv))
        (part.typeName_isName (hg.useCases u hu)) hpath
      rw [List.inj_on_of_nodup_map hdistinct.useCases hv hu hname]
    · cases hD
  · have hon : (actionsOn ((Member.exposure g.feature u).path l) (g.tasks ⟨l, 0⟩)).filterMap
        Action.declaration? = g.useCases.map fun v => (Member.exposure g.feature v).declaration l := by
      rw [Member.path, actionsOn_exposure hl hg hg.feature, List.filterMap_flatMap,
        List.map_eq_flatMap]
      exact List.flatMap_congr fun v _ => by rw [if_pos rfl]; rfl
    have hdetection : ∀ v, ((Member.exposure g.feature v).declaration l).detection
        = v.detection l.style := by
      intro v
      obtain ⟨separated, hdeclaration⟩ := Member.declaration_exposure l g.feature v
      rw [hdeclaration]
    rw [hon]
    refine ⟨List.mem_map_of_mem hu, List.forall_mem_map.2 fun v hv h => ?_⟩
    rw [hdetection, hdetection] at h
    rw [List.inj_on_of_nodup_map hdistinct.exposures hv hu h]

end Generation

/-! ## Distinct members -/

theorem UseCase.nodup_methods (u : UseCase) : (u.methods.map RepositoryMethod.name).Nodup := by
  unfold UseCase.methods UseCase.behaviour
  cases u.entry with
  | canonical op => cases op <;> decide
  | named verb action =>
      dsimp only
      cases ActionClass.ofVerb verb <;> exact List.nodup_singleton _

/-- The members of what a request orders are told apart by their names. -/
theorem Change.generation_distinct {c : Change} {o : Order} (h : c.Orders o) (style : Exposure) :
    ∀ g ∈ o.generation, g.Distinct style := by
  unfold Change.Orders at h
  cases c with
  | crud r =>
      obtain ⟨a, ha, rfl⟩ := map_eq_ok h
      rintro _ ⟨⟩
      exact ⟨nodup_firstsBy RepositoryMethod.name _,
        nodup_names_fullSet (not_endsInD_plural (CrudRequest.accept_isName ha)),
        nodup_detections_fullSet _ style⟩
  | action r =>
      obtain ⟨a, ha, rfl⟩ := map_eq_ok h
      rintro _ ⟨⟩
      exact ⟨UseCase.nodup_methods _, List.nodup_singleton _, List.nodup_singleton _⟩
  | service r | constant r | enum r =>
      obtain ⟨a, ha, rfl⟩ := map_eq_ok h
      nofun

/-! ## What an order leaves of its members -/

theorem Member.form_anchor {l : Locator} {m : Member} {form : Form} (h : m.form? l.style = some form) :
    (m.declaration l).anchor = form.anchor := by
  cases m <;> cases h
  case exposure f u =>
    obtain ⟨separated, hdeclaration⟩ := Member.declaration_exposure l f u
    rw [hdeclaration]
  all_goals rfl

section

variable {T : Set (List Component)} {root : String} {os : List Order} {o : Order} {s : Scene}
  {d : Descriptor} {g : Generation} {M : Member}

/-- What an order does to the files of its members. -/
theorem Reached.actionsOn_concat (h : Reached T root (os ++ [o]) s d) (hg : o.generation = some g)
    (hM : M ∈ g.members) : actionsOn (M.path d.locator) (tasksOf d (os ++ [o]))
      = actionsOn (M.path d.locator) (tasksOf d os)
        ++ actionsOn (M.path d.locator) (g.tasks ⟨d.locator, 0⟩) := by
  have ho := h.wellNamed o (List.mem_append_right _ (List.mem_singleton_self o))
  have hwell := Order.generation_wellNamed ho g hg
  obtain ⟨form, hform⟩ := Option.isSome_iff_exists.1 (Generation.members_form d.style M hM)
  obtain ⟨layer, hplace⟩ := M.place (l := d.locator) (Generation.members_wellNamed hwell M hM)
  rw [tasksOf_concat, actionsOn_append,
    Order.actionsOn_tasks h.project hplace (Member.form_kind hform) ho, hg, Option.toList_some,
    List.flatMap_singleton]

/-- A member is found on one line. -/
theorem Reached.countP_member (h : Reached T root (os ++ [o]) s d) (hT : Apart d.locator root T)
    (hg : o.generation = some g) (hdistinct : g.Distinct d.style) (hM : M ∈ g.members) :
    (s.linesOf root (M.path d.locator)).countP (contains · (M.declaration d.locator).detection) = 1 := by
  have ho := h.wellNamed o (List.mem_append_right _ (List.mem_singleton_self o))
  have hwell := Order.generation_wellNamed ho g hg
  obtain ⟨hmem, -⟩ := Generation.declarations_on (l := d.locator) h.project hwell hdistinct M hM
  obtain ⟨a, ha, hdeclaration⟩ := List.mem_filterMap.1 hmem
  cases a with
  | declare D ctx =>
      cases hdeclaration
      have hdeclared : Action.declare (M.declaration d.locator) ctx
          ∈ actionsOn (M.path d.locator) (tasksOf d (os ++ [o])) := by
        rw [h.actionsOn_concat hg hM]
        exact List.mem_append_right _ ha
      exact h.countP_of_mem hT (Generation.members_wellNamed hwell M hM) hdeclared
  | _ => cases hdeclaration

/-- The block of a member is whole if no earlier order declared something under its detection. -/
theorem Reached.whole_of_new (h : Reached T root (os ++ [o]) s d) (hT : Apart d.locator root T)
    (hg : o.generation = some g) (hdistinct : g.Distinct d.style) (hM : M ∈ g.members)
    (hnew : (actionsOn (M.path d.locator) (tasksOf d os)).any
      (Action.declares (M.declaration d.locator).detection) = false) :
    Whole (M.declaration d.locator).anchor (M.declaration d.locator).block
      (s.linesOf root (M.path d.locator)) := by
  have ho := h.wellNamed o (List.mem_append_right _ (List.mem_singleton_self o))
  have hwell := Order.generation_wellNamed ho g hg
  obtain ⟨hmem, hunique⟩ := Generation.declarations_on (l := d.locator) h.project hwell hdistinct M hM
  obtain ⟨form, hform⟩ := Option.isSome_iff_exists.1 (Generation.members_form d.style M hM)
  rw [Member.form_anchor (l := d.locator) hform]
  refine h.whole hT (Generation.members_wellNamed hwell M hM) hform _ ?_
  rw [h.actionsOn_concat hg hM, declared, List.filterMap_append]
  refine mem_firstsBy_of_unique (List.mem_append_right _ hmem) fun D hD heq => ?_
  obtain hD | hD := List.mem_append.1 hD
  · rw [← any_declared, declared, any_firstsBy, List.any_eq_false] at hnew
    exact absurd (beq_iff_eq.2 heq) (hnew D hD)
  · exact hunique D hD heq

end

end Scaffold
