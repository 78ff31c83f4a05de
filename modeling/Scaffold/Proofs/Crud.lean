import Mathlib
import Scaffold.Proofs.Action

/-!
# Full generations

What builds on an entity was preceded by a full generation of an entity of its name (`Run.founded`).
So before the first full generation of an entity there is nothing in its files, and afterwards the
files agree with each other: methods and their implementations, handlers and the methods they call,
entrypoints and the requests they construct (`Run.crud_generates`).
-/

namespace Scaffold

open Scaffold.Path (components)
open Scaffold.Text

/-! ## Before the first generation -/

section

variable {w : Surroundings} {T : Set (List Component)} {root : String} {s s' : Scene}
  {history : List Change}

/-- The class of an entity is there only if something touched it. -/
theorem Reached.exists_of_entityType {os : List Order} {d : Descriptor} (h : Reached T root os s d)
    (hT : Apart d.locator root T) {g : Feature} (hg : g.WellNamed)
    (hthere : (s.tree.content (components ((d.locator.entityType g).under root))).isSome = true) :
    ∃ o ∈ os, ∃ f, f.name = g.name ∧ (o = .crud f ∨ ∃ name, o = .enum f name) := by
  have hne : actionsOn (d.locator.entityType g) (tasksOf d os) ≠ [] := by
    intro hnil
    have hwritten := h.written hT (place_entityType (l := d.locator) hg)
    rw [hnil] at hwritten
    have hnone := Option.map_eq_none_iff.1 hwritten.eq_none
    rw [hnone] at hthere
    cases hthere
  rw [tasksOf, actionsOn_flatMap, ne_eq, List.flatMap_eq_nil_iff] at hne
  push Not at hne
  obtain ⟨o, ho, hne⟩ := hne
  exact ⟨o, ho, Order.of_actionsOn_entityType h.project hg (h.wellNamed o ho) _ hne⟩

/-- What builds on an entity was preceded by a full generation of an entity of its name. -/
theorem Run.founded (hw : w.Frank) (hT : ∀ l, Apart l root T) (hwithin : w.Within T)
    (h : Run w root history s) : ∀ o ∈ ordersOf history, ∀ g ∈ o.builtOn,
      ∃ f, .crud f ∈ ordersOf history ∧ f.name = g.name := by
  induction h with
  | init hempty hinit => nofun
  | @done history s s' c options report hrun hmake ih =>
      obtain ⟨d, hreached⟩ := hrun.reached hw hT hwithin
      obtain ⟨o, d', ho, hadmitted, -, -⟩ := hreached.done (hT _) hwithin hmake
      have hold : ∀ o' ∈ ordersOf history, ∀ g ∈ o'.builtOn,
          ∃ f, .crud f ∈ ordersOf history ++ [o] ∧ f.name = g.name := by
        intro o' ho' g hg
        obtain ⟨f, hf, hname⟩ := ih o' ho' g hg
        exact ⟨f, List.mem_append_left _ hf, hname⟩
      rw [ordersOf_append ho, List.forall_mem_append, List.forall_mem_singleton]
      refine ⟨hold, fun g hg => ?_⟩
      obtain ⟨o', ho', f, hname, rfl | ⟨name, rfl⟩⟩ := hreached.exists_of_entityType (hT _)
        (o.builtOn_wellNamed (c.order_wellNamed ho) g hg) (hadmitted.grounded g hg)
      · exact ⟨f, List.mem_append_left _ ho', hname⟩
      · obtain ⟨f', hf', hname'⟩ := hold _ ho' f rfl
        exact ⟨f', hf', hname'.trans hname⟩
  | refused hrun hmake he ih => exact ih

/-- What is generated belongs to the entity of the order. -/
theorem Order.feature_of_generation (o : Order) {g : Generation} (hg : g ∈ o.generation) :
    g.feature ∈ o.feature := by
  cases o with
  | crud _ | action _ _ =>
      cases hg
      rfl
  | service _ _ _ | constant _ _ | enum _ _ => cases hg

/-- Before its first full generation nothing was generated of an entity. -/
theorem Run.generation_ne (hw : w.Frank) (hT : ∀ l, Apart l root T) (hwithin : w.Within T)
    (h : Run w root history s) {f : Feature}
    (hnew : ∀ g, .crud g ∈ ordersOf history → g.name ≠ f.name) :
    ∀ o ∈ ordersOf history, ∀ g ∈ o.generation, g.feature.name ≠ f.name := by
  intro o ho g hg
  cases o with
  | crud f' =>
      cases hg
      exact hnew f' ho
  | action f' r =>
      cases hg
      obtain ⟨f'', hf'', hname⟩ := h.founded hw hT hwithin _ ho f' rfl
      exact hname ▸ hnew f'' hf''
  | service _ _ _ | constant _ _ | enum _ _ => cases hg

end

/-- A generation of an entity of another name and another plural does nothing in the files of an
entity. -/
theorem Generation.actionsOn_other {l : Locator} (hl : IsProject l.project) {g g' : Generation}
    (hg : g.WellNamed) (hg' : g'.WellNamed) (hname : g'.feature.name ≠ g.feature.name)
    (hplural : g'.feature.plural ≠ g.feature.plural) :
    ∀ M ∈ g.members, actionsOn (M.path l) (g'.tasks ⟨l, 0⟩) = [] := by
  refine forall_members (fun m hm part => ?_) (fun u hu part => ?_) fun u hu => ?_
  · rw [part.path_member, actionsOn_repository hl hg' part hg.feature, if_neg hname]
  · rw [actionsOn_useCase hl hg' part hg.feature (hg.useCases u hu), List.flatMap_eq_nil_iff]
    intro v hv
    refine if_neg fun hpath => hplural ?_
    rw [part.path_member, part.path_member] at hpath
    exact (useCaseFile_injective hl hg'.feature hg.feature (hg'.useCases v hv) (hg.useCases u hu)
      (part.typeName_isName (hg'.useCases v hv)) (part.typeName_isName (hg.useCases u hu)) hpath).1
  · rw [Member.path, actionsOn_exposure hl hg' hg.feature, List.flatMap_eq_nil_iff]
    intro v _
    refine if_neg fun hpath => ?_
    have hsame := exposure_injective hl hg'.feature hg.feature hpath
    split at hsame
    · exact hname hsame
    · exact hplural hsame

/-! ## Consistent files -/

/-- The methods of a full generation. -/
def crudMethods : List RepositoryMethod :=
  [.getById, ⟨"GetAll", .listAll⟩, ⟨"GetPaged", .listPage⟩, ⟨"Add", .insert⟩, ⟨"Update", .modify⟩,
   ⟨"Delete", .remove⟩]

/-- The files of an entity are complete and agree with each other. -/
structure Consistent (root : String) (s : Scene) (d : Descriptor) (f : Feature) : Prop where
  /-- The interface and the class show the six methods, under the same signatures. -/
  methods : ∀ part : RepositoryPart, (s.linesOf root (part.path d.locator f)).filterMap readMethod?
    = crudMethods.map (·.text f.name)
  /-- The class has the body of every method. -/
  bodies : ∀ m ∈ crudMethods,
    Whole .endOfBlock (m.implBlock f) (s.linesOf root (d.locator.repositoryImpl f))
  /-- Every use case has its request. -/
  requests : ∀ u ∈ UseCase.fullSet f,
    u.requestBlock f.name <:+: s.linesOf root (d.locator.useCaseRequest f u)
  /-- The request is in the namespace of the use case. -/
  namespaces : ∀ u ∈ UseCase.fullSet f,
    ("namespace " ++ u.namespaceOf d.name f ++ ";") ∈ s.linesOf root (d.locator.useCaseRequest f u)
  /-- Every use case has its handler. -/
  handlers : ∀ u ∈ UseCase.fullSet f,
    u.handlerBlock f <:+: s.linesOf root (d.locator.useCaseHandler f u)
  /-- Every use case has its validator. -/
  validators : ∀ u ∈ UseCase.fullSet f,
    u.validatorBlock <:+: s.linesOf root (d.locator.useCaseValidator f u)
  /-- Handlers call methods of the interface, with arguments of the types of their parameters. -/
  calls : ∀ u ∈ UseCase.fullSet f, ∀ call ∈ (u.handlerBlock f).filterMap readCall?,
    ∃ t ∈ (s.linesOf root (d.locator.repositoryContract f)).filterMap readMethod?,
      t.name = call.method
      ∧ call.arguments.map (argumentType f.name ((u.requestBlock f.name).flatMap readParameters))
        = (readParameters t.signature).map fun parameter => some parameter.2
  /-- Every use case is exposed once, by its own block. -/
  exposed : ∀ u ∈ UseCase.fullSet f,
    (s.linesOf root (d.locator.exposure f)).countP (contains · (u.detection d.style)) = 1
    ∧ Whole (Form.exposure d.style).anchor (u.exposureBlock d.style f)
      (s.linesOf root (d.locator.exposure f))
  /-- The block constructs the request with as many arguments as its record has fields. -/
  arguments : ∀ u ∈ UseCase.fullSet f, ∃ arguments,
    (∃ x ∈ u.exposureBlock d.style f,
      contains x ("new " ++ u.requestType ++ "(" ++ arguments ++ ")") = true)
    ∧ (items arguments).length = ((u.requestBlock f.name).flatMap readParameters).length
  /-- The exposure imports the namespace of every request. -/
  imports : ∀ u ∈ UseCase.fullSet f,
    ("using " ++ u.namespaceOf d.name f ++ ";") ∈ s.linesOf root (d.locator.exposure f)
  /-- The database context has one set of the entity. -/
  dbSet : (s.linesOf root d.locator.dbContext).countP (contains · (Detection.dbSet f.name)) = 1
  /-- The database context is registered once. -/
  context : (s.linesOf root (d.locator.wiring .infrastructure)).countP
    (contains · Site.contextRegistration) = 1
  /-- The repository is registered once. -/
  repository : (s.linesOf root (d.locator.wiring .infrastructure)).countP
    (contains · (Detection.repositoryRegistration f)) = 1
  /-- The entry point makes every registration once. -/
  registrations : ∀ line ∈ Site.entryRegistrations ⟨d.locator, 0⟩,
    (s.linesOf root d.locator.entryPoint).countP (contains · line) = 1
  /-- The entry point maps the entity once. -/
  mapping : (s.linesOf root d.locator.entryPoint).countP
    (contains · (Site.entryMapping ⟨d.locator, 0⟩ f)) = 1

section

variable {T : Set (List Component)} {root : String} {os : List Order} {s : Scene} {d : Descriptor}
  {f : Feature}

theorem methods_fullSet {u : UseCase} (hu : u ∈ UseCase.fullSet f) :
    ∀ m ∈ u.methods, m ∈ crudMethods := by
  have hall : ∀ op ∈ Operation.fullSet, ∀ m ∈ (op.behaviour "").methods, m ∈ crudMethods := by
    decide
  obtain ⟨op, hop, rfl⟩ := List.mem_map.1 hu
  exact hall op hop

/-- A list of one thing over and over begins with it. -/
theorem head?_eq_of_forall {α : Type} {xs : List α} {x : α} (hx : x ∈ xs) (h : ∀ y ∈ xs, y = x) :
    xs.head? = some x := by
  cases xs with
  | nil => cases hx
  | cons y ys => rw [List.head?_cons, h y List.mem_cons_self]

/-- The file of a request starts with the namespace of its use case. -/
theorem namespace_mem_template (l : Locator) (u : UseCase) :
    ("namespace " ++ u.namespaceOf l.project f ++ ";")
      ∈ templateLines Template.useCaseRequest.name (UseCasePart.context l f u) := by
  have hfill : (UseCasePart.context l f u).fill ("namespace " ++ Template.space ++ ";")
      = "namespace " ++ u.namespaceOf l.project f ++ ";" := by
    have hread : Piece.read 0 ("namespace " ++ Template.space ++ ";").toList
        = "namespace ".toList.map Piece.char ++ [.slot "NAMESPACE".toList, .char ';'] := by
      decide
    have hvalue : (UseCasePart.context l f u).value "NAMESPACE".toList
        = some (u.namespaceOf l.project f).toList := by
      rw [Context.value, String.ofList_toList, UseCasePart.context, Context.set,
        Context.lookup_assign, if_pos rfl, Option.map_some]
    refine String.toList_injective ?_
    rw [Context.fill, hread, String.toList_ofList, List.flatMap_append, List.flatMap_map]
    simp only [Context.fillPiece, List.flatMap_cons, hvalue]
    simp
  rw [templateLines_name, ← hfill]
  refine List.mem_map_of_mem ?_
  simp [Template.lines, Template.useCaseRequestLines]

/-- Some of the tasks of a full generation. -/
theorem mem_crud_tasks {t : Task}
    (ht : t ∈ Site.persistence ⟨d.locator, 0⟩ f d.theProvider
      ∨ t ∈ (UseCase.fullSet f).flatMap (Site.exposure ⟨d.locator, 0⟩ f)
      ∨ t ∈ Site.entryPoint ⟨d.locator, 0⟩ f
      ∨ t ∈ Site.infrastructureWiring ⟨d.locator, 0⟩ f d.theProvider) :
    t ∈ (Order.crud f).tasks d.locator d.theProvider := by
  simp only [Order.tasks, Order.plan, Site.crudPlan, List.mem_append]
  tauto

/-- What a full generation declares in a shared file is found once. -/
theorem Reached.countP_crud (h : Reached T root (os ++ [.crud f]) s d)
    (hT : Apart d.locator root T) {m : Member} (hm : m.WellNamed) {t : Task} {ctx : Context}
    (ht : t ∈ (Order.crud f).tasks d.locator d.theProvider) (hpath : t.path = m.path d.locator)
    (haction : t.action = .declare (m.declaration d.locator) ctx) :
    (s.linesOf root (m.path d.locator)).countP (contains · (m.declaration d.locator).detection) = 1 := by
  have hmem := List.mem_append_right (tasksOf d os) ht
  rw [← tasksOf_concat] at hmem
  exact h.countP_of_mem hT hm (mem_actionsOn.2 ⟨t, hmem, hpath, haction⟩)

/-- A full generation of an entity of which nothing was generated before, and of which no other has
the plural. -/
structure FirstGeneration (T : Set (List Component)) (root : String) (os : List Order) (s : Scene)
    (d : Descriptor) (f : Feature) : Prop where
  reached : Reached T root (os ++ [.crud f]) s d
  apart : Apart d.locator root T
  distinct : Generation.Distinct ⟨f, crudMethods, UseCase.fullSet f⟩ d.style
  others : ∀ o ∈ os, ∀ g ∈ o.generation, g.feature.name ≠ f.name ∧ g.feature.plural ≠ f.plural

namespace FirstGeneration

/-- What a full generation brings, as what its order generates. -/
theorem generation : (Order.crud f).generation = some ⟨f, crudMethods, UseCase.fullSet f⟩ := rfl

theorem feature_wellNamed (h : FirstGeneration T root os s d f) : f.WellNamed :=
  h.reached.wellNamed _ (List.mem_append_right _ (List.mem_singleton_self _))

theorem wellNamed (h : FirstGeneration T root os s d f) :
    Generation.WellNamed ⟨f, crudMethods, UseCase.fullSet f⟩ :=
  Order.generation_wellNamed (o := .crud f) h.feature_wellNamed _ generation

theorem useCase_wellNamed (h : FirstGeneration T root os s d f) :
    ∀ u ∈ UseCase.fullSet f, u.WellNamed :=
  Site.fullSet_wellNamed h.feature_wellNamed

/-- Nothing was done to the files of the entity before. -/
theorem actionsOn_before (h : FirstGeneration T root os s d f) :
    ∀ M ∈ Generation.members ⟨f, crudMethods, UseCase.fullSet f⟩,
      actionsOn (M.path d.locator) (tasksOf d os) = [] := by
  intro M hM
  obtain ⟨form, hform⟩ := Option.isSome_iff_exists.1 (Generation.members_form d.style M hM)
  obtain ⟨layer, hplace⟩ := M.place (l := d.locator) (Generation.members_wellNamed h.wellNamed M hM)
  rw [tasksOf, actionsOn_flatMap, List.flatMap_eq_nil_iff]
  intro o ho
  have hos := h.reached.wellNamed o (List.mem_append_left _ ho)
  rw [Order.actionsOn_tasks h.reached.project hplace (Member.form_kind hform) hos,
    List.flatMap_eq_nil_iff]
  intro g hgeneration
  rw [Option.mem_toList] at hgeneration
  obtain ⟨hname, hplural⟩ := h.others o ho g hgeneration
  exact Generation.actionsOn_other h.reached.project h.wellNamed
    (Order.generation_wellNamed hos g hgeneration) hname hplural M hM

/-- Every member of the generation stands in its file as a whole. -/
theorem whole (h : FirstGeneration T root os s d f) :
    ∀ M ∈ Generation.members ⟨f, crudMethods, UseCase.fullSet f⟩,
      Whole (M.declaration d.locator).anchor (M.declaration d.locator).block
        (s.linesOf root (M.path d.locator)) := by
  intro M hM
  refine h.reached.whole_of_new h.apart generation h.distinct hM ?_
  rw [h.actionsOn_before M hM]
  rfl

/-- The generations of the entity's name are this one. -/
theorem generationsOf_eq (h : FirstGeneration T root os s d f) :
    generationsOf f.name (os ++ [.crud f]) = [⟨f, crudMethods, UseCase.fullSet f⟩] := by
  have hothers : (os.filterMap Order.generation).filter (·.feature.name = f.name) = [] := by
    rw [List.filter_eq_nil_iff]
    intro g hg
    obtain ⟨o, ho, hgeneration⟩ := List.mem_filterMap.1 hg
    simpa using (h.others o ho g hgeneration).1
  rw [generationsOf, List.filterMap_append, List.filter_append, hothers]
  simp [generation]

/-- Both files of the repository show the methods of a full generation. -/
theorem methods (h : FirstGeneration T root os s d f) (part : RepositoryPart) :
    (s.linesOf root (part.path d.locator f)).filterMap readMethod?
      = crudMethods.map (·.text f.name) := by
  rw [h.reached.methods h.apart h.feature_wellNamed part, methodsOf, h.generationsOf_eq,
    List.flatMap_singleton, firstsBy_of_nodup, List.map_map]
  · rfl
  · rw [List.map_map]
    exact h.distinct.methods

/-- What is done to the file of a request first makes sure of the request, with the variables of its
use case. -/
theorem head?_actionsOn_request (h : FirstGeneration T root os s d f) {u : UseCase}
    (hu : u ∈ UseCase.fullSet f) :
    (actionsOn (d.locator.useCaseRequest f u) (tasksOf d (os ++ [.crud f]))).head?
      = some (.declare ((Member.request f u).declaration d.locator)
        (UseCasePart.context d.locator f u)) := by
  have hmember := Generation.useCase_mem_members (g := ⟨f, crudMethods, UseCase.fullSet f⟩)
    .request hu
  have hactions := h.reached.actionsOn_concat generation hmember
  rw [h.actionsOn_before _ hmember, List.nil_append, Generation.actionsOn_useCase h.reached.project
    h.wellNamed .request h.feature_wellNamed (h.useCase_wellNamed u hu)] at hactions
  have hself : Action.declare ((Member.request f u).declaration d.locator)
        (UseCasePart.context d.locator f u)
      ∈ actionsOn (d.locator.useCaseRequest f u) (tasksOf d (os ++ [.crud f])) :=
    hactions ▸ List.mem_flatMap.2 ⟨u, hu, by simp [UseCasePart.member]⟩
  refine head?_eq_of_forall hself fun a ha => ?_
  obtain ⟨v, hv, hmem⟩ := List.mem_flatMap.1 (hactions ▸ ha)
  split at hmem
  · next hpath =>
      have hname := (useCaseFile_injective h.reached.project h.feature_wellNamed h.feature_wellNamed
        (h.useCase_wellNamed v hv) (h.useCase_wellNamed u hu)
        (UseCase.requestType_isName (h.useCase_wellNamed v hv))
        (UseCase.requestType_isName (h.useCase_wellNamed u hu)) hpath).2.2
      rw [List.mem_singleton] at hmem
      rw [hmem, List.inj_on_of_nodup_map h.distinct.useCases hv hu hname]
      rfl
  · cases hmem

/-- The file of a request has the namespace of its use case. -/
theorem namespace_mem (h : FirstGeneration T root os s d f) {u : UseCase}
    (hu : u ∈ UseCase.fullSet f) :
    ("namespace " ++ u.namespaceOf d.name f ++ ";")
      ∈ s.linesOf root (d.locator.useCaseRequest f u) := by
  have hplace := place_useCaseRequest (l := d.locator) h.feature_wellNamed (h.useCase_wellNamed u hu)
  obtain ⟨ls, hls, hbase⟩ := (h.reached.written h.apart hplace).base_subset
    (h.head?_actionsOn_request hu)
  rw [Scene.linesOf, hls]
  exact hbase (namespace_mem_template d.locator u)

/-- Every use case is exposed once, by its own block. -/
theorem exposed (h : FirstGeneration T root os s d f) {u : UseCase} (hu : u ∈ UseCase.fullSet f) :
    (s.linesOf root (d.locator.exposure f)).countP (contains · (u.detection d.style)) = 1
    ∧ Whole (Form.exposure d.style).anchor (u.exposureBlock d.style f)
      (s.linesOf root (d.locator.exposure f)) := by
  have hmember := Generation.exposure_mem_members (g := ⟨f, crudMethods, UseCase.fullSet f⟩) hu
  have hcount := h.reached.countP_member h.apart generation h.distinct hmember
  have hwhole := h.whole _ hmember
  obtain ⟨separated, hdeclaration⟩ := Member.declaration_exposure d.locator f u
  rw [hdeclaration] at hcount hwhole
  exact ⟨hcount, hwhole⟩

/-- The exposure imports the namespace of every request. -/
theorem import_mem (h : FirstGeneration T root os s d f) {u : UseCase}
    (hu : u ∈ UseCase.fullSet f) :
    ("using " ++ u.namespaceOf d.name f ++ ";") ∈ s.linesOf root (d.locator.exposure f) := by
  have htask : Site.importLine (d.locator.exposure f) ("using " ++ u.namespaceOf d.name f ++ ";")
      ∈ (Order.crud f).tasks d.locator d.theProvider :=
    mem_crud_tasks (.inr (.inl (List.mem_flatMap.2
      ⟨u, hu, List.mem_cons_of_mem _ List.mem_cons_self⟩)))
  obtain ⟨samples, hclean⟩ | ⟨ls, hls, hmem⟩ := h.reached.rests h.apart _
    (List.mem_append_right _ (List.mem_singleton_self _)) _ htask
  · cases hclean
  · rw [Scene.linesOf, show s.tree.content.linesAt (components ((d.locator.exposure f).under root))
      = some ls from hls]
    exact hmem

end FirstGeneration

/-- The registrations of an entry point are members of it. -/
theorem registration_wellNamed {l : Locator} {line : String}
    (hline : line ∈ Site.entryRegistrations ⟨l, 0⟩) : (Member.registration line).WellNamed := by
  revert hline
  unfold Site.entryRegistrations Member.WellNamed Member.registrations
  dsimp only
  cases l.style <;> simp
  tauto

/-- After the first full generation of an entity its files are consistent. -/
theorem Reached.consistent (h : Reached T root (os ++ [.crud f]) s d) (hT : Apart d.locator root T)
    (hdistinct : Generation.Distinct ⟨f, crudMethods, UseCase.fullSet f⟩ d.style)
    (hfirst : ∀ o ∈ os, ∀ g ∈ o.generation,
      g.feature.name ≠ f.name ∧ g.feature.plural ≠ f.plural) : Consistent root s d f := by
  have hgenerated : FirstGeneration T root os s d f := ⟨h, hT, hdistinct, hfirst⟩
  have hf := hgenerated.feature_wellNamed
  have husecases := hgenerated.useCase_wellNamed
  have hwhole := hgenerated.whole
  have hcrud := fun {t} => mem_crud_tasks (d := d) (f := f) (t := t)
  refine {
    methods := hgenerated.methods
    bodies := fun m hm => hwhole _ (Generation.method_mem_members .impl hm)
    requests := fun u hu => (hwhole _ (Generation.useCase_mem_members .request hu)).isInfix
    namespaces := fun u hu => hgenerated.namespace_mem hu
    handlers := fun u hu => (hwhole _ (Generation.useCase_mem_members .handler hu)).isInfix
    validators := fun u hu => (hwhole _ (Generation.useCase_mem_members .validator hu)).isInfix
    calls := fun u hu call hcall => ?_
    exposed := fun u hu => hgenerated.exposed hu
    arguments := fun u hu => u.arguments_match (husecases u hu) d.style f
    imports := fun u hu => hgenerated.import_mem hu
    dbSet := h.countP_crud hT (m := .dbSet f) hf (hcrud (.inl List.mem_cons_self)) rfl rfl
    context := ?_
    repository := ?_
    registrations := fun line hline => ?_
    mapping := ?_ }
  · obtain ⟨m, hm, hname, htypes⟩ := u.calls_match hf (husecases u hu) call hcall
    refine ⟨m.text f.name, ?_, hname, htypes⟩
    rw [show d.locator.repositoryContract f = RepositoryPart.contract.path d.locator f from rfl,
      hgenerated.methods .contract]
    exact List.mem_map_of_mem (methods_fullSet hu m hm)
  · exact h.countP_crud hT (m := .context d.theProvider) trivial (hcrud (.inr (.inr (.inr
      (List.mem_append_left _ (List.mem_cons_of_mem _ List.mem_cons_self)))))) rfl rfl
  · exact h.countP_crud hT (m := .repository f) hf (hcrud (.inr (.inr (.inr (List.mem_append_left _
      (List.mem_cons_of_mem _ (List.mem_cons_of_mem _ List.mem_cons_self))))))) rfl rfl
  · exact h.countP_crud hT (registration_wellNamed hline) (hcrud (.inr (.inr (.inl
      (List.mem_append_left _ (List.mem_append_left _ (List.mem_append_left _ (List.mem_append_right _
        (List.mem_map_of_mem hline))))))))) rfl rfl
  · exact h.countP_crud hT (m := .mapping f) hf (hcrud (.inr (.inr (.inl (List.mem_append_left _
      (List.mem_append_left _ (List.mem_append_right _ List.mem_cons_self))))))) rfl rfl

variable {w : Surroundings} {history : List Change} {s' : Scene}

end

end Scaffold
