import Mathlib
import Scaffold.Proofs.Change
import Scaffold.Proofs.Written

/-!
# Which tasks touch which files

Every group of tasks lies in files of a few kinds (`Site.layerGraph_lies` and its siblings), so most
of a plan does not touch a given file.  Repositories, use cases and exposures are only touched by
the *generation* of an order, its methods and its use cases (`Order.actionsOn_tasks`), and what it
does to one of their files is a list of declarations (`Generation.actionsOn_repository` and its
siblings).
-/

namespace Scaffold

open Scaffold.Text

/-- The file of a task is of one of some kinds. -/
def Task.LiesIn (l : Locator) (kinds : List ArtifactKind) (t : Task) : Prop :=
  ∃ layer, ∃ kind ∈ kinds, IsPlace l layer kind t.path

section

variable {l : Locator} {p : RelativePath} {ts : List Task} {layer : Layer} {kind : ArtifactKind}
  {kinds : List ArtifactKind}

/-- Tasks on files of other kinds leave a file alone. -/
theorem actionsOn_of_lies (hl : IsProject l.project) (hp : IsPlace l layer kind p)
    (hts : ∀ t ∈ ts, t.LiesIn l kinds) (hkind : kind ∉ kinds) : actionsOn p ts = [] := by
  refine actionsOn_eq_nil fun t ht hpath => ?_
  obtain ⟨layer', kind', hmem, hplace⟩ := hts t ht
  cases hp.kind_eq hl (hpath ▸ hplace)
  exact hkind hmem

theorem lies {t : Task} (h : IsPlace l layer kind t.path) (hkind : kind ∈ kinds) : t.LiesIn l kinds :=
  ⟨layer, kind, hkind, h⟩

theorem Task.LiesIn.mono {t : Task} {kinds' : List ArtifactKind} (h : t.LiesIn l kinds)
    (hsub : kinds ⊆ kinds') :
    t.LiesIn l kinds' := by
  obtain ⟨layer, kind, hkind, hplace⟩ := h
  exact ⟨layer, kind, hsub hkind, hplace⟩

/-- A task on a file of another kind has another place. -/
theorem Task.LiesIn.place_ne {t : Task} (h : t.LiesIn l kinds) (hl : IsProject l.project)
    (hp : IsPlace l layer kind p) (hkind : kind ∉ kinds) (root : String) :
    Path.components (p.under root) ≠ t.place root := by
  intro heq
  obtain ⟨layer', kind', hmem, hplace⟩ := h
  obtain ⟨-, rfl, -⟩ := hp.unique hl hplace heq
  exact hkind hmem

end

namespace Site

/-! ## Groups of tasks -/

section

variable {s : Site} {f : Feature} {u : UseCase} {kinds : List ArtifactKind}

theorem package_lies (hs : IsProject s.project) {layer : Layer} (hlayer : layer ≠ .root)
    (hkinds : .manifest ∈ kinds) (identity version : String) :
    (s.package layer identity version).LiesIn s.locator kinds :=
  lies (place_manifest hs hlayer) hkinds

theorem reference_lies (hs : IsProject s.project) {source : Layer} (hsource : source ≠ .root)
    (hkinds : .manifest ∈ kinds) (target : Layer) :
    (s.reference source target).LiesIn s.locator kinds :=
  lies (place_manifest hs hsource) hkinds

theorem applicationLayer_lies (hs : IsProject s.project) :
    ∀ t ∈ s.applicationLayer, t.LiesIn s.locator [.manifest, .wiring] := by
  simp only [applicationLayer, List.forall_mem_cons, List.not_mem_nil, false_imp_iff, implies_true,
    and_true]
  exact ⟨package_lies hs (by decide) (by simp) _ _, package_lies hs (by decide) (by simp) _ _,
    lies (place_wiring (.inl rfl)) (by simp)⟩

theorem layerGraph_lies (hs : IsProject s.project) :
    ∀ t ∈ s.layerGraph, t.LiesIn s.locator [.manifest] := by
  simp only [layerGraph, List.forall_mem_cons, List.not_mem_nil, false_imp_iff, implies_true,
    and_true]
  exact ⟨lies (place_manifest hs (by decide : Layer.domain ≠ .root)) (by simp),
    reference_lies hs (by decide) (by simp) _, reference_lies hs (by decide) (by simp) _,
    reference_lies hs (by decide) (by simp) _, reference_lies hs (by decide) (by simp) _⟩

theorem entity_lies (hf : f.WellNamed) : ∀ t ∈ [s.entityType f, s.persistenceMapping f],
    t.LiesIn s.locator [.entityType, .persistenceMapping] := by
  simp only [List.forall_mem_cons, List.not_mem_nil, false_imp_iff, implies_true, and_true]
  exact ⟨lies (place_entityType hf) (by simp), lies (place_persistenceMapping hf) (by simp)⟩

theorem persistence_lies (hs : IsProject s.project) (f : Feature) (provider : Provider) :
    ∀ t ∈ s.persistence f provider, t.LiesIn s.locator [.dbContext, .manifest] := by
  simp only [persistence, List.forall_mem_cons, List.not_mem_nil, false_imp_iff, implies_true,
    and_true]
  exact ⟨lies place_dbContext (by simp), lies place_dbContext (by simp),
    package_lies hs (by decide) (by simp) _ _, package_lies hs (by decide) (by simp) _ _⟩

theorem repository_lies (hf : f.WellNamed) (methods : List RepositoryMethod) :
    ∀ t ∈ s.repository f methods, t.LiesIn s.locator [.repositoryContract, .repositoryImpl] := by
  simp only [repository, List.forall_mem_append, List.forall_mem_map]
  exact ⟨fun _ _ => lies (place_repositoryContract hf) (by simp),
    fun _ _ => lies (place_repositoryImpl hf) (by simp)⟩

theorem useCase_lies (hf : f.WellNamed) (hu : u.WellNamed) : ∀ t ∈ s.useCase f u,
    t.LiesIn s.locator [.useCaseRequest, .useCaseHandler, .useCaseValidator] := by
  simp only [useCase, List.forall_mem_cons, List.not_mem_nil, false_imp_iff, implies_true,
    and_true]
  exact ⟨lies (place_useCaseRequest hf hu) (by simp), lies (place_useCaseHandler hf hu) (by simp),
    lies (place_useCaseValidator hf hu) (by simp)⟩

theorem exposure_lies (hf : f.WellNamed) (u : UseCase) :
    ∀ t ∈ s.exposure f u, t.LiesIn s.locator [.exposure] := by
  simp only [exposure, List.forall_mem_cons, List.not_mem_nil, false_imp_iff, implies_true,
    and_true]
  exact ⟨lies (place_exposure hf) (by simp), lies (place_exposure hf) (by simp)⟩

theorem entryPoint_lies (hs : IsProject s.project) (f : Feature) :
    ∀ t ∈ s.entryPoint f, t.LiesIn s.locator [.entryPoint, .manifest] := by
  have hentry : ∀ t : Task, t.path = s.locator.entryPoint →
      t.LiesIn s.locator [.entryPoint, .manifest] :=
    fun t ht => lies (ht ▸ place_entryPoint) (by simp)
  simp only [entryPoint, List.forall_mem_append, List.forall_mem_cons, List.forall_mem_map,
    List.not_mem_nil, false_imp_iff, implies_true, and_true]
  exact ⟨⟨⟨⟨⟨hentry _ rfl, hentry _ rfl⟩, fun _ _ => hentry _ rfl⟩, hentry _ rfl⟩,
    fun _ _ => hentry _ rfl⟩, package_lies hs (by decide) (by simp) _ _⟩

theorem infrastructureWiring_lies (f : Feature) (provider : Provider) :
    ∀ t ∈ s.infrastructureWiring f provider, t.LiesIn s.locator [.wiring] := by
  have hwiring : ∀ t : Task, t.path = s.locator.wiring .infrastructure →
      t.LiesIn s.locator [.wiring] :=
    fun t ht => lies (ht ▸ place_wiring (.inr rfl)) (by simp)
  simp only [infrastructureWiring, List.forall_mem_append, List.forall_mem_cons, List.forall_mem_map,
    List.not_mem_nil, false_imp_iff, implies_true, and_true]
  exact ⟨⟨hwiring _ rfl, hwiring _ rfl, hwiring _ rfl⟩, fun _ _ => hwiring _ rfl⟩

theorem service_lies {p : Placement} (hp : p.WellNamed) {name : String} (hname : IsName name)
    (lifetime : Lifetime) :
    ∀ t ∈ s.service p name lifetime, t.LiesIn s.locator [.serviceContract, .wiring] := by
  have hwiring : ∀ t : Task, t.path = s.locator.wiring p.wiringLayer →
      t.LiesIn s.locator [.serviceContract, .wiring] :=
    fun t ht => lies (ht ▸ place_wiring (by cases p <;> simp [Placement.wiringLayer])) (by simp)
  have himpl := place_serviceImpl (l := s.locator) hp hname
  simp only [service, List.forall_mem_append, List.forall_mem_cons, List.not_mem_nil,
    false_imp_iff, implies_true, and_true]
  refine ⟨⟨lies (place_serviceContract hp hname) (by simp), lies himpl (by simp), hwiring _ rfl,
    hwiring _ rfl⟩, ?_⟩
  split
  · rintro _ ⟨⟩
  · exact List.forall_mem_singleton.2 (hwiring _ rfl)

theorem servicePlan_lies (hs : IsProject s.project) {p : Placement} (hp : p.WellNamed)
    {name : String} (hname : IsName name) (lifetime : Lifetime) :
    ∀ t ∈ s.servicePlan p name lifetime,
      t.LiesIn s.locator [.serviceContract, .wiring, .manifest, .environment, .compose] := by
  refine List.forall_mem_append.2 ⟨fun t ht => (service_lies hp hname lifetime t ht).mono (by simp), ?_⟩
  cases p with
  | featureLocal f => rintro _ ⟨⟩
  | shared => rintro _ ⟨⟩
  | external e =>
      have hwiring : IsPlace s.locator .infrastructure .wiring (s.locator.wiring .infrastructure) :=
        place_wiring (.inr rfl)
      simp only [externalSystem, List.forall_mem_cons, List.not_mem_nil, false_imp_iff,
        implies_true, and_true]
      exact ⟨package_lies hs (by decide) (by simp) _ _, lies hwiring (by simp), lies hwiring (by simp),
        lies place_environment (by simp), lies place_compose (by simp)⟩

theorem constantPlan_lies {f : Option Feature} (hf : ∀ g ∈ f, g.WellNamed) (name : String) :
    ∀ t ∈ s.constantPlan f name, t.LiesIn s.locator [.constants] :=
  List.forall_mem_singleton.2 (lies (place_constants hf) (by simp))

theorem enumPlan_lies (hf : f.WellNamed) {name : String} (hname : IsName name) :
    ∀ t ∈ s.enumPlan f name, t.LiesIn s.locator [.enumType, .entityType] := by
  simp only [enumPlan, List.forall_mem_cons, List.not_mem_nil, false_imp_iff, implies_true,
    and_true]
  exact ⟨lies (place_enumType hname) (by simp), lies (place_entityType hf) (by simp),
    lies (place_entityType hf) (by simp)⟩

end

end Site

/-! ## Generations -/

/-- What an order brings to the repository, the use cases and the exposure of an entity. -/
structure Generation where
  /-- The entity. -/
  feature : Feature
  /-- The methods of its repository. -/
  methods : List RepositoryMethod
  /-- Its use cases. -/
  useCases : List UseCase

/-- What an order generates of an entity. -/
def Order.generation : Order → Option Generation
  | .crud f => some ⟨f, Site.distinctMethods (UseCase.fullSet f), UseCase.fullSet f⟩
  | .action f r => some ⟨f, (r.useCase f).methods, [r.useCase f]⟩
  | .service _ _ _ | .constant _ _ | .enum _ _ => none

namespace Generation

/-- A generation under good names. -/
structure WellNamed (g : Generation) : Prop where
  feature : g.feature.WellNamed
  methods : ∀ m ∈ g.methods, IsName m.name
  useCases : ∀ u ∈ g.useCases, u.WellNamed

/-- The tasks of a generation. -/
def tasks (s : Site) (g : Generation) : List Task :=
  s.repository g.feature g.methods
    ++ g.useCases.flatMap (s.useCase g.feature)
    ++ g.useCases.flatMap (s.exposure g.feature)

end Generation

theorem Order.generation_wellNamed {o : Order} (ho : o.WellNamed) :
    ∀ g ∈ o.generation, g.WellNamed := by
  cases o with
  | crud f =>
      rintro _ ⟨⟩
      refine ⟨ho, fun m hm => ?_, Site.fullSet_wellNamed ho⟩
      obtain ⟨u, hu, hmem⟩ := Site.mem_distinctMethods hm
      exact Site.methods_isName (Site.fullSet_wellNamed ho u hu) m hmem
  | action f r =>
      rintro _ ⟨⟩
      have hu := useCase_wellNamed ho.1 ho.2
      exact ⟨ho.1, Site.methods_isName hu, List.forall_mem_singleton.2 hu⟩
  | service _ _ _ | constant _ _ | enum _ _ => nofun

/-- The two types of a repository. -/
inductive RepositoryPart where
  | contract | impl
deriving Repr, DecidableEq

namespace RepositoryPart

/-- A method as a member of the type. -/
def member (f : Feature) (m : RepositoryMethod) : RepositoryPart → Member
  | .contract => .contractMethod f m
  | .impl => .implMethod f m

/-- The file of the type. -/
def path (l : Locator) (f : Feature) : RepositoryPart → RelativePath
  | .contract => l.repositoryContract f
  | .impl => l.repositoryImpl f

/-- The kind of that file. -/
def kind : RepositoryPart → ArtifactKind
  | .contract => .repositoryContract
  | .impl => .repositoryImpl

/-- The layer of the type. -/
def layer : RepositoryPart → Layer
  | .contract => .application
  | .impl => .infrastructure

end RepositoryPart

/-- The kinds of file a generation touches. -/
def Generation.kinds : List ArtifactKind :=
  [.repositoryContract, .repositoryImpl, .useCaseRequest, .useCaseHandler, .useCaseValidator,
   .exposure]

section

variable {l : Locator} (hl : IsProject l.project) {layer : Layer} {kind : ArtifactKind}
  {p : RelativePath}

include hl

/-- In the files of an entity the tasks of a full generation and of an action come down to the classes
of the entity and to what is generated. -/
theorem actionsOn_entityPlans (hp : IsPlace l layer kind p)
    (hkind : kind ∉ [ArtifactKind.manifest, .dbContext, .wiring, .entryPoint]) (f : Feature)
    (provider : Provider) :
    actionsOn p (Site.crudPlan ⟨l, 0⟩ f provider)
        = actionsOn p [Site.entityType ⟨l, 0⟩ f, Site.persistenceMapping ⟨l, 0⟩ f]
          ++ actionsOn p (Generation.tasks ⟨l, 0⟩
            ⟨f, Site.distinctMethods (UseCase.fullSet f), UseCase.fullSet f⟩)
      ∧ ∀ u, actionsOn p (Site.actionPlan ⟨l, 0⟩ f u provider)
        = actionsOn p (Generation.tasks ⟨l, 0⟩ ⟨f, u.methods, [u]⟩) := by
  have hnone : ∀ {ts : List Task} {kinds : List ArtifactKind}, (∀ t ∈ ts, t.LiesIn l kinds) →
      (∀ k ∈ kinds, k ∈ [ArtifactKind.manifest, .dbContext, .wiring, .entryPoint]) →
      actionsOn p ts = [] :=
    fun hts hkinds => actionsOn_of_lies hl hp hts fun hmem => hkind (hkinds kind hmem)
  have hgraph := hnone (Site.layerGraph_lies (s := ⟨l, 0⟩) hl) (by decide)
  have hpersistence := hnone (Site.persistence_lies (s := ⟨l, 0⟩) hl f provider) (by decide)
  have hlayer := hnone (Site.applicationLayer_lies (s := ⟨l, 0⟩) hl) (by decide)
  have hentry := hnone (Site.entryPoint_lies (s := ⟨l, 0⟩) hl f) (by decide)
  have hwiring := hnone (Site.infrastructureWiring_lies (s := ⟨l, 0⟩) f provider) (by decide)
  simp only [Site.crudPlan, Site.actionPlan, Generation.tasks, actionsOn_append, hgraph,
    hpersistence, hlayer, hentry, hwiring, List.nil_append, List.append_nil, List.append_assoc,
    List.flatMap_singleton, implies_true, and_self]

/-- Only the generation of an order touches repositories, use cases and exposures. -/
theorem Order.actionsOn_tasks (hp : IsPlace l layer kind p) (hkind : kind ∈ Generation.kinds)
    {o : Order} (ho : o.WellNamed) (provider : Provider) : actionsOn p (o.tasks l provider)
      = o.generation.toList.flatMap fun g => actionsOn p (g.tasks ⟨l, 0⟩) := by
  have hnone : ∀ {ts : List Task} {kinds : List ArtifactKind}, (∀ t ∈ ts, t.LiesIn l kinds) →
      (∀ k ∈ kinds, k ∉ Generation.kinds) → actionsOn p ts = [] :=
    fun hts hkinds => actionsOn_of_lies hl hp hts fun hmem => hkinds kind hmem hkind
  have hother : kind ∉ [ArtifactKind.manifest, .dbContext, .wiring, .entryPoint] := by
    revert hkind
    cases kind <;> decide
  cases o with
  | crud f =>
      rw [Order.tasks, Order.plan, (actionsOn_entityPlans hl hp hother f provider).1,
        hnone (Site.entity_lies (s := ⟨l, 0⟩) ho) (by decide), List.nil_append]
      exact (List.flatMap_singleton _ _).symm
  | action f r =>
      rw [Order.tasks, Order.plan, (actionsOn_entityPlans hl hp hother f provider).2]
      exact (List.flatMap_singleton _ _).symm
  | service q name lifetime =>
      exact hnone (Site.servicePlan_lies (s := ⟨l, 0⟩) hl ho.1 ho.2 lifetime) (by decide)
  | constant f name => exact hnone (Site.constantPlan_lies (s := ⟨l, 0⟩) ho.1 name) (by decide)
  | enum f name => exact hnone (Site.enumPlan_lies (s := ⟨l, 0⟩) ho.1 ho.2) (by decide)

omit hl in
theorem Generation.tasks_lies {g : Generation} (hg : g.WellNamed) :
    ∀ t ∈ g.tasks ⟨l, 0⟩, t.LiesIn l Generation.kinds := by
  have hmono : ∀ {t : Task} {kinds : List ArtifactKind}, t.LiesIn l kinds →
      (∀ k ∈ kinds, k ∈ Generation.kinds) → t.LiesIn l Generation.kinds :=
    fun ⟨layer, kind, hmem, hplace⟩ hkinds => ⟨layer, kind, hkinds kind hmem, hplace⟩
  simp only [tasks, List.forall_mem_append, List.mem_flatMap, forall_exists_index, and_imp]
  exact ⟨⟨fun t ht => hmono (Site.repository_lies (s := ⟨l, 0⟩) hg.feature _ t ht) (by decide),
    fun t u hu ht => hmono (Site.useCase_lies (s := ⟨l, 0⟩) hg.feature (hg.useCases u hu) t ht)
      (by decide)⟩,
    fun t u hu ht => hmono (Site.exposure_lies (s := ⟨l, 0⟩) hg.feature u t ht) (by decide)⟩

/-- The class of an entity is touched by full generations of entities of its name and by what adds
enums to them. -/
theorem Order.of_actionsOn_entityType {g : Feature} (hg : g.WellNamed) {o : Order} (ho : o.WellNamed)
    (provider : Provider) (h : actionsOn (l.entityType g) (o.tasks l provider) ≠ []) :
    ∃ f, f.name = g.name ∧ (o = .crud f ∨ ∃ name, o = .enum f name) := by
  have hp := place_entityType (l := l) hg
  have hnone : ∀ {ts : List Task} {kinds : List ArtifactKind}, (∀ t ∈ ts, t.LiesIn l kinds) →
      .entityType ∉ kinds → actionsOn (l.entityType g) ts = [] :=
    fun hts hkinds => actionsOn_of_lies hl hp hts hkinds
  have hgeneration : ∀ {o : Order} {g' : Generation}, o.WellNamed → o.generation = some g' →
      actionsOn (l.entityType g) (g'.tasks ⟨l, 0⟩) = [] := fun ho hg' =>
    hnone (Generation.tasks_lies (l := l) (Order.generation_wellNamed ho _ hg')) (by decide)
  obtain ⟨a, ha⟩ := List.exists_mem_of_ne_nil _ h
  cases o with
  | crud f =>
      rw [Order.tasks, Order.plan, (actionsOn_entityPlans hl hp (by decide) f provider).1,
        hgeneration (o := .crud f) ho rfl, List.append_nil] at ha
      obtain ⟨t, ht, hpath, -⟩ := mem_actionsOn.1 ha
      simp only [List.mem_cons, List.not_mem_nil, or_false] at ht
      obtain rfl | rfl := ht
      · exact ⟨f, entityType_injective hl ho hg hpath, .inl rfl⟩
      · have hother := place_persistenceMapping (l := l) ho
        rw [show l.persistenceMapping f = l.entityType g from hpath] at hother
        cases hother.kind_eq hl hp
  | action f r =>
      rw [Order.tasks, Order.plan, (actionsOn_entityPlans hl hp (by decide) f provider).2,
        hgeneration (o := .action f r) ho rfl] at ha
      cases ha
  | service q name lifetime =>
      rw [Order.tasks, Order.plan,
        hnone (Site.servicePlan_lies (s := ⟨l, 0⟩) hl ho.1 ho.2 lifetime) (by decide)] at ha
      cases ha
  | constant f name =>
      rw [Order.tasks, Order.plan, hnone (Site.constantPlan_lies (s := ⟨l, 0⟩) ho.1 name) (by decide)]
        at ha
      cases ha
  | enum f name =>
      obtain ⟨t, ht, hpath, -⟩ := mem_actionsOn.1 ha
      simp only [Order.tasks, Order.plan, Site.enumPlan, List.mem_cons, List.not_mem_nil,
        or_false] at ht
      obtain rfl | rfl | rfl := ht
      · have hother := place_enumType (l := l) ho.2
        rw [show l.enumType name = l.entityType g from hpath] at hother
        cases hother.kind_eq hl hp
      · exact ⟨f, entityType_injective hl ho.1 hg hpath, .inr ⟨name, rfl⟩⟩
      · exact ⟨f, entityType_injective hl ho.1 hg hpath, .inr ⟨name, rfl⟩⟩

namespace Generation

variable {g : Generation} (hg : g.WellNamed)

include hg

theorem repository_elsewhere (hp : IsPlace l layer kind p)
    (hkind : kind ∉ [ArtifactKind.repositoryContract, .repositoryImpl]) :
    actionsOn p (Site.repository ⟨l, 0⟩ g.feature g.methods) = [] :=
  actionsOn_of_lies hl hp (Site.repository_lies (s := ⟨l, 0⟩) hg.feature _) hkind

theorem useCases_elsewhere (hp : IsPlace l layer kind p)
    (hkind : kind ∉ [ArtifactKind.useCaseRequest, .useCaseHandler, .useCaseValidator]) :
    actionsOn p (g.useCases.flatMap (Site.useCase ⟨l, 0⟩ g.feature)) = [] := by
  refine actionsOn_of_lies hl hp (fun t ht => ?_) hkind
  obtain ⟨u, hu, ht⟩ := List.mem_flatMap.1 ht
  exact Site.useCase_lies (s := ⟨l, 0⟩) hg.feature (hg.useCases u hu) t ht

theorem exposures_elsewhere (hp : IsPlace l layer kind p) (hkind : kind ∉ [ArtifactKind.exposure]) :
    actionsOn p (g.useCases.flatMap (Site.exposure ⟨l, 0⟩ g.feature)) = [] := by
  refine actionsOn_of_lies hl hp (fun t ht => ?_) hkind
  obtain ⟨u, hu, ht⟩ := List.mem_flatMap.1 ht
  exact Site.exposure_lies (s := ⟨l, 0⟩) hg.feature u t ht

variable {f : Feature} (hf : f.WellNamed)

include hf

/-- What a generation does to an exposure. -/
theorem actionsOn_exposure : actionsOn (l.exposure f) (g.tasks ⟨l, 0⟩)
    = g.useCases.flatMap fun u => if l.exposure g.feature = l.exposure f then
        [.declare ((Member.exposure g.feature u).declaration l)
          (Site.featureContext ⟨l, 0⟩ g.feature),
         .importLine ("using " ++ u.namespaceOf l.project g.feature ++ ";")]
      else [] := by
  have hp := place_exposure (l := l) hf
  rw [tasks, actionsOn_append, actionsOn_append, repository_elsewhere hl hg hp (by decide),
    useCases_elsewhere hl hg hp (by decide), List.nil_append, List.nil_append, actionsOn_flatMap]
  refine List.flatMap_congr fun u hu => ?_
  split
  next hpath =>
    rw [Site.exposure, actionsOn_cons_self hpath, actionsOn_cons_self hpath]
    rfl
  next hpath => exact actionsOn_eq_nil (by simpa [Site.exposure, Site.importLine] using hpath)

end Generation

/-! ### The files of repositories -/

namespace RepositoryPart

omit hl in
theorem path_member (part : RepositoryPart) (f : Feature) (m : RepositoryMethod) :
    (part.member f m).path l = part.path l f := by
  cases part <;> rfl

omit hl in
theorem member_wellNamed (part : RepositoryPart) {f : Feature} (hf : f.WellNamed)
    {m : RepositoryMethod} (hm : IsName m.name) : (part.member f m).WellNamed := by
  cases part <;> exact ⟨hf, hm⟩

omit hl in
theorem place (part : RepositoryPart) {f : Feature} (hf : f.WellNamed) :
    IsPlace l part.layer part.kind (part.path l f) := by
  cases part with
  | contract => exact place_repositoryContract hf
  | impl => exact place_repositoryImpl hf

theorem path_eq_iff (part : RepositoryPart) {f g : Feature} (hf : f.WellNamed) (hg : g.WellNamed) :
    part.path l f = part.path l g ↔ f.name = g.name := by
  cases part with
  | contract =>
      refine ⟨repositoryContract_injective hl hf hg, fun h => ?_⟩
      simp only [path, Locator.repositoryContract, Feature.repositoryContract, h]
  | impl =>
      refine ⟨repositoryImpl_injective hl hf hg, fun h => ?_⟩
      simp only [path, Locator.repositoryImpl, Feature.repositoryImpl, h]

end RepositoryPart

/-- What a generation declares on a file of a repository. -/
theorem Generation.actionsOn_repository {g : Generation} (hg : g.WellNamed) (part : RepositoryPart)
    {f : Feature} (hf : f.WellNamed) : actionsOn (part.path l f) (g.tasks ⟨l, 0⟩)
      = if g.feature.name = f.name then g.methods.map fun m =>
          .declare ((part.member g.feature m).declaration l) (Site.featureContext ⟨l, 0⟩ g.feature)
        else [] := by
  have hp := part.place (l := l) hf
  -- the methods go to two files, and only one of them is of the kind of `part`
  have htask : ∀ part' : RepositoryPart, actionsOn (part.path l f) (g.methods.map fun m =>
        ⟨m.name ++ "Async", part'.path l g.feature,
          .declare ((part'.member g.feature m).declaration l) (Site.featureContext ⟨l, 0⟩ g.feature)⟩)
      = if part' = part ∧ g.feature.name = f.name then g.methods.map fun m =>
          .declare ((part.member g.feature m).declaration l) (Site.featureContext ⟨l, 0⟩ g.feature)
        else [] := by
    intro part'
    split
    next h =>
      obtain ⟨rfl, hname⟩ := h
      exact actionsOn_map fun m _ => (part'.path_eq_iff hl hg.feature hf).2 hname
    next h =>
      refine actionsOn_eq_nil (List.forall_mem_map.2 fun m _ hpath => h ?_)
      have hp' := part'.place (l := l) hg.feature
      rw [show part'.path l g.feature = part.path l f from hpath] at hp'
      have hkind := hp.kind_eq hl hp'
      have hpart : part' = part := by
        cases part <;> cases part' <;> first | rfl | cases hkind
      subst hpart
      exact ⟨rfl, (part'.path_eq_iff hl hg.feature hf).1 hpath⟩
  have hkinds : part.kind ∉ [ArtifactKind.useCaseRequest, .useCaseHandler, .useCaseValidator]
      ∧ part.kind ∉ [ArtifactKind.exposure] := by
    cases part <;> decide
  have htasks : Site.repository ⟨l, 0⟩ g.feature g.methods
      = (g.methods.map fun m => ⟨m.name ++ "Async", RepositoryPart.contract.path l g.feature,
          .declare ((RepositoryPart.contract.member g.feature m).declaration l)
            (Site.featureContext ⟨l, 0⟩ g.feature)⟩)
        ++ g.methods.map fun m => ⟨m.name ++ "Async", RepositoryPart.impl.path l g.feature,
          .declare ((RepositoryPart.impl.member g.feature m).declaration l)
            (Site.featureContext ⟨l, 0⟩ g.feature)⟩ := rfl
  rw [tasks, actionsOn_append, actionsOn_append, useCases_elsewhere hl hg hp hkinds.1,
    exposures_elsewhere hl hg hp hkinds.2, htasks, actionsOn_append, htask, htask, List.append_nil,
    List.append_nil]
  cases part <;> simp

/-! ### The files of use cases -/

/-- The three types of a use case. -/
inductive UseCasePart where
  | request | handler | validator
deriving Repr, DecidableEq

namespace UseCasePart

/-- The type of a use case as a member of its file. -/
def member (f : Feature) (u : UseCase) : UseCasePart → Member
  | .request => .request f u
  | .handler => .handler f u
  | .validator => .validator f u

/-- The name of the type. -/
def typeName (u : UseCase) : UseCasePart → String
  | .request => u.requestType
  | .handler => u.handlerType
  | .validator => u.validatorType

omit hl in
theorem path_member (part : UseCasePart) (f : Feature) (u : UseCase) :
    (part.member f u).path l = l.useCaseFile f u (part.typeName u) := by
  cases part <;> rfl

omit hl in
theorem typeName_isName (part : UseCasePart) {u : UseCase} (hu : u.WellNamed) :
    IsName (part.typeName u) := by
  have hrequest := UseCase.requestType_isName hu
  cases part with
  | request => exact hrequest
  | handler => exact hrequest.append (by decide)
  | validator => exact hrequest.append (by decide)

omit hl in
theorem member_wellNamed (part : UseCasePart) {f : Feature} (hf : f.WellNamed) {u : UseCase}
    (hu : u.WellNamed) : (part.member f u).WellNamed := by
  cases part <;> exact ⟨hf, hu⟩

omit hl in
theorem kind_mem (part : UseCasePart) (f : Feature) (u : UseCase) : (part.member f u).kind
    ∈ [ArtifactKind.useCaseRequest, .useCaseHandler, .useCaseValidator] := by
  cases part <;> simp [member, Member.kind]

omit hl in
theorem kind_injective {part part' : UseCasePart} {f g : Feature} {u v : UseCase}
    (h : (part.member f u).kind = (part'.member g v).kind) : part = part' := by
  cases part <;> cases part' <;> first | rfl | cases h

/-- The context of the templates of a use case. -/
def context (l : Locator) (f : Feature) (u : UseCase) : Context :=
  (Site.featureContext ⟨l, 0⟩ f).set "NAMESPACE" (u.namespaceOf l.project f)

/-- What the tasks of a use case do to the file of a type of another. -/
theorem actionsOn_useCase (part : UseCasePart) {f g : Feature} (hf : f.WellNamed) (hg : g.WellNamed)
    {u v : UseCase} (hu : u.WellNamed) (hv : v.WellNamed) :
    actionsOn ((part.member f u).path l) (Site.useCase ⟨l, 0⟩ g v)
      = if (part.member g v).path l = (part.member f u).path l then
          [.declare ((part.member g v).declaration l) (context l g v)]
        else [] := by
  obtain ⟨layer, hp⟩ := (part.member f u).place (l := l) (part.member_wellNamed hf hu)
  -- the tasks are one for each part, and only the one for `part` lies in a file of its kind
  have htask : ∀ (part' : UseCasePart) (what : String), actionsOn ((part.member f u).path l)
      [⟨what, (part'.member g v).path l, .declare ((part'.member g v).declaration l) (context l g v)⟩]
      = if part' = part ∧ (part.member g v).path l = (part.member f u).path l then
          [.declare ((part.member g v).declaration l) (context l g v)]
        else [] := by
    intro part' what
    split
    next h =>
      obtain ⟨rfl, hpath⟩ := h
      exact actionsOn_cons_self hpath
    next h =>
      refine actionsOn_eq_nil (List.forall_mem_singleton.2 fun hpath => h ?_)
      obtain ⟨layer', hp'⟩ := (part'.member g v).place (l := l) (part'.member_wellNamed hg hv)
      rw [show (part'.member g v).path l = _ from hpath] at hp'
      cases kind_injective (hp'.kind_eq hl hp)
      exact ⟨rfl, hpath⟩
  have htasks : Site.useCase ⟨l, 0⟩ g v
      = [⟨ArtifactKind.spelling .useCaseRequest, (UseCasePart.request.member g v).path l,
          .declare ((UseCasePart.request.member g v).declaration l) (context l g v)⟩]
        ++ ([⟨ArtifactKind.spelling .useCaseHandler, (UseCasePart.handler.member g v).path l,
          .declare ((UseCasePart.handler.member g v).declaration l) (context l g v)⟩]
        ++ [⟨ArtifactKind.spelling .useCaseValidator, (UseCasePart.validator.member g v).path l,
          .declare ((UseCasePart.validator.member g v).declaration l) (context l g v)⟩]) := rfl
  rw [htasks, actionsOn_append, actionsOn_append, htask, htask, htask]
  cases part <;> simp

end UseCasePart

/-- What a generation does to a file of a use case. -/
theorem Generation.actionsOn_useCase {g : Generation} (hg : g.WellNamed) (part : UseCasePart)
    {f : Feature} (hf : f.WellNamed) {u : UseCase} (hu : u.WellNamed) :
    actionsOn ((part.member f u).path l) (g.tasks ⟨l, 0⟩)
      = g.useCases.flatMap fun v =>
          if (part.member g.feature v).path l = (part.member f u).path l then
            [.declare ((part.member g.feature v).declaration l) (UseCasePart.context l g.feature v)]
          else [] := by
  obtain ⟨layer, hp⟩ := (part.member f u).place (l := l) (part.member_wellNamed hf hu)
  have hkind := part.kind_mem f u
  generalize (part.member f u).kind = kind at hp hkind
  have hrepository : kind ∉ [ArtifactKind.repositoryContract, .repositoryImpl] := by
    revert hkind
    cases kind <;> decide
  have hexposure : kind ∉ [ArtifactKind.exposure] := by
    revert hkind
    cases kind <;> decide
  rw [tasks, actionsOn_append, actionsOn_append, repository_elsewhere hl hg hp hrepository,
    exposures_elsewhere hl hg hp hexposure, List.nil_append, List.append_nil, actionsOn_flatMap]
  exact List.flatMap_congr fun v hv => part.actionsOn_useCase hl hf hg.feature hu (hg.useCases v hv)

end

end Scaffold
