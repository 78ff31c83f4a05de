import Mathlib
import Scaffold.Proofs.Carry
import Scaffold.Proofs.Firsts

/-!
# The tasks of plans

Every task of a plan belongs to the project (`crudPlan_belongs` and its siblings): its file has its
place, what it declares is a member with good names, and the contexts of its templates have a value
for every variable the template shows.  Plans that are made in different years differ in nothing
that a template shows (`crudPlan_alike`).
-/

namespace Scaffold

open Scaffold.Text

/-! ## Contexts -/

/-- A context that has values for variables, and only values that can be filled in. -/
structure Context.Ready (ctx : Context) (names : List String) : Prop where
  /-- Everything that is filled in is dotted. -/
  dotted : ctx.Dotted
  /-- The variables have values. -/
  holds : ∀ name ∈ names, ∃ v, ctx.get? name = some v
    ∧ ∀ c ∈ v.toList, (slotKind name.toList).has c = true

namespace Context.Ready

variable {ctx : Context} {names : List String}

/-- The context suits the templates that show no other variables. -/
theorem suits (h : ctx.Ready names) {t : Template} (hslots : t.slots ⊆ names) : ctx.Suits t :=
  suits_of_slots fun name hname => h.holds name (hslots hname)

theorem set (h : ctx.Ready names) {name value : String} (hname : IsSlotName name.toList)
    (hvalue : ∀ c ∈ value.toList, (slotKind name.toList).has c = true) :
    (ctx.set name value).Ready (name :: names) := by
  have hmade : Made isDottedChar value := by
    intro c hc
    have hhas := hvalue c hc
    unfold slotKind at hhas
    split at hhas
    · simp [isDottedChar, (show c.isAlphanum = true from hhas)]
    · exact hhas
  refine ⟨h.dotted.set hname hmade, fun key hkey => ?_⟩
  unfold Context.get? Context.set
  rw [lookup_assign]
  split
  next heq => exact ⟨value, rfl, heq ▸ hvalue⟩
  next hne => exact h.holds key ((List.mem_cons.1 hkey).resolve_left hne)

/-- A variable that is a name. -/
theorem setName (h : ctx.Ready names) {name value : String}
    (hname : IsSlotName name.toList ∧ slotKind name.toList = .name) (hvalue : IsName value) :
    (ctx.set name value).Ready (name :: names) := by
  refine h.set hname.1 fun c hc => ?_
  rw [hname.2]
  exact hvalue.2 c hc

/-- A variable that is dotted. -/
theorem setDotted (h : ctx.Ready names) {name value : String}
    (hname : IsSlotName name.toList ∧ slotKind name.toList = .dotted)
    (hvalue : Made isDottedChar value) : (ctx.set name value).Ready (name :: names) := by
  refine h.set hname.1 fun c hc => ?_
  rw [hname.2]
  exact hvalue c hc

end Context.Ready

namespace Site

variable {s : Site} {f : Feature} {u : UseCase}

theorem context_ready (hs : IsProject s.project) : s.context.Ready ["PROJECT_NAME"] := by
  refine ⟨Context.ofProject_dotted s.year hs, ?_⟩
  have hkind : slotKind "PROJECT_NAME".toList = .dotted := by decide
  intro name hname
  rw [List.mem_singleton.1 hname, hkind]
  exact ⟨s.project, rfl, hs.dotted⟩

/-- The variables of the templates that belong to an entity. -/
def featureNames : List String :=
  ["ENTITY_PLURAL_KEBAB", "ENTITY_PLURAL", "ENTITY_CAMEL", "ENTITY", "PROJECT_NAME"]

theorem featureContext_ready (hs : IsProject s.project) (hf : f.WellNamed) :
    (s.featureContext f).Ready featureNames :=
  ((((context_ready hs).setName (by decide) hf.name).setDotted (by decide)
    hf.name.camelCase.dotted).setName (by decide) hf.plural).setDotted (by decide)
    hf.plural.kebabCase.2.kebab_dotted

theorem manifestContext_ready (hs : IsProject s.project) (layer : Layer) :
    (s.manifestContext layer).Ready ["MODULE_NAME", "SDK", "PROJECT_NAME"] := by
  refine ((context_ready hs).setDotted (by decide) ?_).setDotted (by decide)
    (Manifest.moduleName_dotted hs layer)
  cases layer <;> decide

theorem namespaceOf_dotted (hs : IsProject s.project) (hf : f.WellNamed) (hu : u.WellNamed) :
    Made isDottedChar (u.namespaceOf s.project f) := by
  refine Made.joinWith (by decide) ?_
  have hfolder : Made isDottedChar u.kind.folder := by cases u.kind <;> decide
  simp only [List.forall_mem_cons, List.not_mem_nil, false_imp_iff, implies_true, and_true]
  exact ⟨hs.dotted, by decide, by decide, hf.plural.2.dotted, hfolder, hu.name.2.dotted⟩

theorem contractNamespace_dotted (hs : IsProject s.project) {p : Placement} (hp : p.WellNamed) :
    Made isDottedChar (p.contractNamespace s.project) := by
  cases p with
  | featureLocal f =>
      refine Made.joinWith (by decide) ?_
      simp only [List.forall_mem_cons, List.not_mem_nil, false_imp_iff, implies_true, and_true]
      exact ⟨hs.dotted, by decide, by decide, (hp f rfl).plural.2.dotted, by decide⟩
  | shared | external _ =>
      refine Made.joinWith (by decide) ?_
      simp only [List.forall_mem_cons, List.not_mem_nil, false_imp_iff, implies_true, and_true]
      exact ⟨hs.dotted, by decide, by decide, by decide⟩

theorem implNamespace_dotted (hs : IsProject s.project) {p : Placement} (hp : p.WellNamed) :
    Made isDottedChar (p.implNamespace s.project) := by
  cases p with
  | featureLocal f => exact contractNamespace_dotted hs hp
  | shared => exact contractNamespace_dotted hs hp
  | external system =>
      refine Made.joinWith (by decide) ?_
      have hfolder : Made isDottedChar system.folder := by cases system <;> decide
      simp only [List.forall_mem_cons, List.not_mem_nil, false_imp_iff, implies_true, and_true]
      exact ⟨hs.dotted, by decide, hfolder⟩

/-! ## Single tasks -/

section

variable {l : Locator} {names : List String} {ctx : Context}

theorem file_belongs {layer : Layer} {t : Template} {p : RelativePath}
    (hplace : IsPlace l layer t.kind p) (hctx : ctx.Ready names) (hslots : t.slots ⊆ names)
    (what : String) : (file what p t ctx).Belongs l :=
  ⟨layer, t.kind, hplace, .file hctx.dotted (hctx.suits hslots)⟩

theorem member_belongs {m : Member} (hm : m.WellNamed) (hctx : ctx.Ready names)
    (htemplate : ∀ name ∈ (m.declaration l).template,
      ∃ t : Template, name = t.name ∧ t.kind = m.kind ∧ t.slots ⊆ names) (what : String) :
    (Task.mk what (m.path l) (.declare (m.declaration l) ctx)).Belongs l := by
  obtain ⟨layer, hplace⟩ := m.place (l := l) hm
  refine ⟨layer, m.kind, hplace, .declare hm rfl hctx.dotted fun name hname => ?_⟩
  obtain ⟨t, ht, hkind, hslots⟩ := htemplate name hname
  exact ⟨t, ht, hkind, hctx.suits hslots⟩

theorem import_belongs {layer : Layer} {kind : ArtifactKind} {p : RelativePath}
    (hplace : IsPlace l layer kind p) (hkind : kind ≠ .manifest) {space : String}
    (hspace : Made isDottedChar space) : (importLine p ("using " ++ space ++ ";")).Belongs l :=
  ⟨layer, kind, hplace, .importLine hspace hkind⟩

/-- An import of a namespace of the project. -/
theorem projectImport_belongs (hs : IsProject s.project) {layer : Layer} {kind : ArtifactKind}
    {p : RelativePath} (hplace : IsPlace l layer kind p) (hkind : kind ≠ .manifest)
    {space ending : String} (hspace : Made isDottedChar space) (hending : ending = space ++ ";") :
    (importLine p ("using " ++ s.project ++ ending)).Belongs l := by
  have himport := import_belongs hplace hkind (hs.dotted.append hspace)
  rwa [← String.append_assoc, String.append_assoc, ← hending] at himport

theorem package_belongs (hs : IsProject s.project) {layer : Layer} (hlayer : layer ≠ .root)
    {identity version : String}
    (hentry : Manifest.packageEntry identity version ∈ Manifest.packages) :
    (s.package layer identity version).Belongs s.locator :=
  have hctx := manifestContext_ready hs layer
  ⟨layer, .manifest, place_manifest hs hlayer,
    .dependency (.inl hentry) hctx.dotted (hctx.suits (by decide))⟩

theorem reference_belongs (hs : IsProject s.project) {source : Layer} (hsource : source ≠ .root)
    (target : Layer) : (s.reference source target).Belongs s.locator :=
  have hctx := manifestContext_ready hs source
  ⟨source, .manifest, place_manifest hs hsource,
    .reference (.inr ⟨target, rfl⟩) hctx.dotted (hctx.suits (by decide))⟩

end

/-! ## Groups of tasks -/

section

variable (hs : IsProject s.project)

include hs

theorem layerGraph_belongs : ∀ t ∈ s.layerGraph, t.Belongs s.locator := by
  simp only [layerGraph, List.forall_mem_cons, List.not_mem_nil, false_imp_iff, implies_true,
    and_true]
  exact ⟨file_belongs (place_manifest hs (by decide)) (manifestContext_ready hs .domain) (by decide) _,
    reference_belongs hs (by decide) _, reference_belongs hs (by decide) _,
    reference_belongs hs (by decide) _, reference_belongs hs (by decide) _⟩

theorem entityType_belongs (hf : f.WellNamed) : (s.entityType f).Belongs s.locator :=
  file_belongs (place_entityType hf) (featureContext_ready hs hf) (by decide) _

theorem persistenceMapping_belongs (hf : f.WellNamed) :
    (s.persistenceMapping f).Belongs s.locator :=
  file_belongs (place_persistenceMapping hf) (featureContext_ready hs hf) (by decide) _

theorem persistence_belongs (hf : f.WellNamed) (provider : Provider) :
    ∀ t ∈ s.persistence f provider, t.Belongs s.locator := by
  have himport := projectImport_belongs hs (place_dbContext (l := s.locator)) (by decide)
    (by decide : Made isDottedChar ".Domain.Entities")
    (by decide : ".Domain.Entities;" = ".Domain.Entities" ++ ";")
  simp only [persistence, List.forall_mem_cons, List.not_mem_nil, false_imp_iff, implies_true,
    and_true]
  refine ⟨member_belongs (m := .dbSet f) hf (featureContext_ready hs hf) ?_ _, himport,
    package_belongs hs (by decide) ?_, package_belongs hs (by decide) ?_⟩
  · rintro _ ⟨⟩
    exact ⟨.dbContext, rfl, rfl, by decide⟩
  · simp [Manifest.packages]
  · cases provider <;> simp [Manifest.packages, Provider.all]

theorem repository_belongs (hf : f.WellNamed) {methods : List RepositoryMethod}
    (hmethods : ∀ m ∈ methods, IsName m.name) :
    ∀ t ∈ s.repository f methods, t.Belongs s.locator := by
  have hctx := featureContext_ready hs hf
  simp only [repository, List.forall_mem_append, List.forall_mem_map]
  constructor
  · intro m hm
    refine member_belongs (m := .contractMethod f m) ⟨hf, hmethods m hm⟩ hctx ?_ _
    rintro _ ⟨⟩
    exact ⟨.repositoryContract, rfl, rfl, by decide⟩
  · intro m hm
    refine member_belongs (m := .implMethod f m) ⟨hf, hmethods m hm⟩ hctx ?_ _
    rintro _ ⟨⟩
    exact ⟨.repositoryImpl, rfl, rfl, by decide⟩

theorem applicationLayer_belongs : ∀ t ∈ s.applicationLayer, t.Belongs s.locator := by
  simp only [applicationLayer, List.forall_mem_cons, List.not_mem_nil, false_imp_iff, implies_true,
    and_true]
  refine ⟨package_belongs hs (by decide) ?_, package_belongs hs (by decide) ?_,
    file_belongs (place_wiring (.inl rfl)) (context_ready hs) (by decide) _⟩
  · simp [Manifest.packages]
  · simp [Manifest.packages]

theorem useCase_belongs (hf : f.WellNamed) (hu : u.WellNamed) :
    ∀ t ∈ s.useCase f u, t.Belongs s.locator := by
  have hctx := (featureContext_ready hs hf).setDotted
    (by decide : IsSlotName "NAMESPACE".toList ∧ slotKind "NAMESPACE".toList = .dotted)
    (namespaceOf_dotted hs hf hu)
  simp only [useCase, List.forall_mem_cons, List.not_mem_nil, false_imp_iff, implies_true,
    and_true]
  refine ⟨member_belongs (m := .request f u) ⟨hf, hu⟩ hctx ?_ _,
    member_belongs (m := .handler f u) ⟨hf, hu⟩ hctx ?_ _,
    member_belongs (m := .validator f u) ⟨hf, hu⟩ hctx ?_ _⟩
  · rintro _ ⟨⟩
    exact ⟨.useCaseRequest, rfl, rfl, by decide⟩
  · rintro _ ⟨⟩
    exact ⟨.useCaseHandler, rfl, rfl, by decide⟩
  · rintro _ ⟨⟩
    exact ⟨.useCaseValidator, rfl, rfl, by decide⟩

theorem exposure_belongs (hf : f.WellNamed) (hu : u.WellNamed) :
    ∀ t ∈ s.exposure f u, t.Belongs s.locator := by
  simp only [exposure, List.forall_mem_cons, List.not_mem_nil, false_imp_iff, implies_true,
    and_true]
  refine ⟨member_belongs (m := .exposure f u) ⟨hf, hu⟩ (featureContext_ready hs hf) ?_ _,
    import_belongs (place_exposure hf) (by decide) (namespaceOf_dotted hs hf hu)⟩
  intro name hname
  unfold Member.declaration exposureDeclaration at hname
  cases hstyle : s.locator.style with
  | routes =>
      simp only [hstyle, Option.mem_def, Option.some.injEq] at hname
      exact ⟨.endpoints, hname.symm, rfl, by decide⟩
  | controllers =>
      simp only [hstyle, Option.mem_def, Option.some.injEq] at hname
      exact ⟨.controller, hname.symm, rfl, by decide⟩

theorem entryPoint_belongs (hf : f.WellNamed) : ∀ t ∈ s.entryPoint f, t.Belongs s.locator := by
  have hentry : s.entryTemplate.kind = .entryPoint ∧ s.entryTemplate.slots ⊆ ["PROJECT_NAME"] := by
    unfold entryTemplate
    cases s.locator.style <;> exact ⟨rfl, by decide⟩
  have hplace : IsPlace s.locator .api s.entryTemplate.kind s.locator.entryPoint := by
    rw [hentry.1]
    exact place_entryPoint
  have hctx := context_ready hs
  simp only [entryPoint, List.forall_mem_append, List.forall_mem_cons, List.forall_mem_map,
    List.not_mem_nil, false_imp_iff, implies_true, and_true]
  refine ⟨⟨⟨⟨⟨file_belongs hplace hctx hentry.2 _, .api, .entryPoint, place_entryPoint, .clean⟩,
    fun line hline => ?_⟩, ?_⟩, fun literal hliteral => ?_⟩, package_belongs hs (by decide) ?_⟩
  · refine member_belongs (m := .registration line) ?_ hctx ?_ _
    · unfold entryRegistrations at hline
      cases hstyle : s.locator.style <;>
        simp only [hstyle, List.append_nil, List.cons_append, List.nil_append, List.mem_cons,
          List.not_mem_nil, or_false] at hline <;>
        simp only [Member.WellNamed, Member.registrations, List.mem_cons, List.not_mem_nil,
          or_false] <;>
        tauto
    · rintro _ ⟨⟩
      exact ⟨s.entryTemplate, rfl, hentry.1, hentry.2⟩
  · refine member_belongs (m := .mapping f) hf hctx ?_ _
    rintro _ ⟨⟩
    exact ⟨s.entryTemplate, rfl, hentry.1, hentry.2⟩
  · have hgiven : ∀ {space ending : String}, Made isDottedChar space → ending = space ++ ";" →
        (importLine s.locator.entryPoint ("using " ++ s.project ++ ending)).Belongs s.locator :=
      projectImport_belongs hs place_entryPoint (by decide)
    have happlication := hgiven (by decide : Made isDottedChar ".Application")
      (by decide : ".Application;" = ".Application" ++ ";")
    have hinfrastructure := hgiven (by decide : Made isDottedChar ".Infrastructure")
      (by decide : ".Infrastructure;" = ".Infrastructure" ++ ";")
    have hendpoints := hgiven (by decide : Made isDottedChar ".Api.Endpoints")
      (by decide : ".Api.Endpoints;" = ".Api.Endpoints" ++ ";")
    unfold entryImports at hliteral
    cases hstyle : s.locator.style <;>
      simp only [hstyle, List.append_nil, List.cons_append, List.nil_append, List.mem_cons,
        List.not_mem_nil, or_false] at hliteral
    · rcases hliteral with rfl | rfl | rfl <;> assumption
    · rcases hliteral with rfl | rfl <;> assumption
  · simp [Manifest.packages]

theorem wiringImports_belong : ∀ t ∈ s.wiringImports.map (importLine (s.locator.wiring .infrastructure)),
    t.Belongs s.locator := by
  have hplace := place_wiring (l := s.locator) (.inr (rfl : Layer.infrastructure = .infrastructure))
  have hgiven : ∀ {space ending : String}, Made isDottedChar space → ending = space ++ ";" →
      (importLine (s.locator.wiring .infrastructure) ("using " ++ s.project ++ ending)).Belongs
        s.locator :=
    projectImport_belongs hs hplace (by decide)
  simp only [wiringImports, List.map_cons, List.map_nil, List.forall_mem_cons, List.not_mem_nil,
    false_imp_iff, implies_true, and_true]
  refine ⟨?_, hgiven (by decide : Made isDottedChar ".Application.Interfaces.Repositories")
      (by decide), hgiven (by decide : Made isDottedChar ".Infrastructure.Persistence") (by decide),
    hgiven (by decide : Made isDottedChar ".Infrastructure.Repositories") (by decide)⟩
  have himport := import_belongs hplace (by decide)
    (by decide : Made isDottedChar "Microsoft.EntityFrameworkCore")
  rwa [show "using " ++ "Microsoft.EntityFrameworkCore" ++ ";"
    = "using Microsoft.EntityFrameworkCore;" by decide] at himport

theorem infrastructureWiring_belongs (hf : f.WellNamed) (provider : Provider) :
    ∀ t ∈ s.infrastructureWiring f provider, t.Belongs s.locator := by
  have hplace := place_wiring (l := s.locator) (.inr (rfl : Layer.infrastructure = .infrastructure))
  have hctx := context_ready hs
  simp only [infrastructureWiring, List.forall_mem_append, List.forall_mem_cons, List.not_mem_nil,
    false_imp_iff, implies_true, and_true]
  refine ⟨⟨file_belongs hplace hctx (by decide) _,
    member_belongs (m := .context provider) trivial hctx ?_ _,
    member_belongs (m := .repository f) hf hctx ?_ _⟩, wiringImports_belong hs⟩
  · rintro _ ⟨⟩
    exact ⟨.infrastructureWiring, rfl, rfl, by decide⟩
  · rintro _ ⟨⟩
    exact ⟨.infrastructureWiring, rfl, rfl, by decide⟩

theorem service_belongs {p : Placement} (hp : p.WellNamed) {name : String} (hname : IsName name)
    (lifetime : Lifetime) : ∀ t ∈ s.service p name lifetime, t.Belongs s.locator := by
  have hcontract := contractNamespace_dotted hs hp
  have himpl := implNamespace_dotted hs hp
  have hlayer : p.wiringLayer = .application ∨ p.wiringLayer = .infrastructure := by
    cases p <;> simp [Placement.wiringLayer]
  have hspace : IsSlotName "NAMESPACE".toList ∧ slotKind "NAMESPACE".toList = .dotted := by decide
  have hctx : (s.serviceContext p name).Ready
      ["CONTRACT_NAMESPACE", "NAMESPACE", "SERVICE_NAME", "PROJECT_NAME"] :=
    (((context_ready hs).setName (by decide) hname).setDotted hspace himpl).setDotted (by decide)
      hcontract
  have himplPlace := place_serviceImpl (l := s.locator) hp hname
  have himplKind : p.implTemplate.kind = .serviceContract
      ∧ p.implTemplate.slots ⊆ ["CONTRACT_NAMESPACE", "NAMESPACE", "SERVICE_NAME", "PROJECT_NAME"] := by
    cases p with
    | featureLocal f => exact ⟨rfl, (by decide : Template.serviceImpl.slots ⊆ _)⟩
    | shared => exact ⟨rfl, by decide⟩
    | external system => cases system <;> exact ⟨rfl, by decide⟩
  simp only [service, List.forall_mem_append, List.forall_mem_cons, List.not_mem_nil,
    false_imp_iff, implies_true, and_true]
  refine ⟨⟨file_belongs (place_serviceContract hp hname) (hctx.setDotted hspace hcontract)
      (by decide) _, file_belongs (himplKind.1 ▸ himplPlace) hctx himplKind.2 _, ?_,
    import_belongs (place_wiring hlayer) (by decide) hcontract⟩, ?_⟩
  · refine member_belongs (m := .service p name lifetime) ⟨hp, hname⟩ (context_ready hs) ?_ _
    rintro _ ⟨⟩
    refine ⟨p.wiringTemplate, rfl, ?_, ?_⟩
    · cases p <;> rfl
    · cases p <;> simp only [Placement.wiringTemplate] <;> decide
  · split
    · simp
    · simp only [List.forall_mem_cons, List.not_mem_nil, false_imp_iff, implies_true, and_true]
      exact import_belongs (place_wiring hlayer) (by decide) himpl

theorem externalSystem_belongs (e : ExternalSystem) :
    ∀ t ∈ s.externalSystem e, t.Belongs s.locator := by
  have hplace := place_wiring (l := s.locator) (.inr (rfl : Layer.infrastructure = .infrastructure))
  have hctx := context_ready hs
  simp only [externalSystem, List.forall_mem_cons, List.not_mem_nil, false_imp_iff, implies_true,
    and_true]
  refine ⟨package_belongs hs (by decide) ?_, member_belongs (m := .client e) trivial hctx ?_ _, ?_,
    member_belongs (m := .setting e) trivial hctx nofun _,
    member_belongs (m := .container e) trivial hctx ?_ _⟩
  · cases e <;> simp [Manifest.packages]
  · rintro _ ⟨⟩
    exact ⟨.infrastructureWiring, rfl, rfl, by decide⟩
  · have himport : ∃ space, Made isDottedChar space ∧ e.clientImport = "using " ++ space ++ ";" := by
      cases e
      · exact ⟨"StackExchange.Redis", by decide, by decide⟩
      · exact ⟨"RabbitMQ.Client", by decide, by decide⟩
    obtain ⟨space, hspace, heq⟩ := himport
    rw [heq]
    exact import_belongs hplace (by decide) hspace
  · rintro _ ⟨⟩
    exact ⟨.compose, rfl, rfl, by decide⟩

end

/-! ## Names of use cases -/

theorem canonical_wellNamed (hf : f.WellNamed) (op : Operation) : (UseCase.canonical f op).WellNamed := by
  refine ⟨?_, nofun⟩
  cases op
  · exact (IsName.prepend (by decide) hf.name).append (by decide)
  · exact IsName.prepend (by decide) hf.plural
  · exact (IsName.prepend (by decide) hf.plural).append (by decide)
  all_goals exact IsName.prepend (by decide) hf.name

theorem fullSet_wellNamed (hf : f.WellNamed) : ∀ u ∈ UseCase.fullSet f, u.WellNamed := by
  intro u hu
  obtain ⟨op, -, rfl⟩ := List.mem_map.1 hu
  exact canonical_wellNamed hf op

theorem methods_isName (hu : u.WellNamed) : ∀ m ∈ u.methods, IsName m.name := by
  have hentry := hu.action
  unfold UseCase.methods UseCase.behaviour
  cases heq : u.entry with
  | canonical op => cases op <;> simp [Operation.behaviour, RepositoryMethod.getById] <;> decide
  | named verb action =>
      have haction := hentry verb action heq
      simp only [ActionClass.behaviour]
      cases ActionClass.ofVerb verb <;> simpa using haction

/-- The methods that are kept are the first ones of each name. -/
theorem distinctMethods_eq (useCases : List UseCase) : distinctMethods useCases
    = firstsBy RepositoryMethod.name (useCases.flatMap (·.methods)) := rfl

theorem mem_distinctMethods {useCases : List UseCase} {m : RepositoryMethod}
    (hm : m ∈ distinctMethods useCases) : ∃ u ∈ useCases, m ∈ u.methods :=
  List.mem_flatMap.1 (mem_of_mem_firstsBy (distinctMethods_eq useCases ▸ hm))

/-! ## Plans -/

section

variable (hs : IsProject s.project)

include hs

theorem crudPlan_belongs (hf : f.WellNamed) (provider : Provider) :
    ∀ t ∈ s.crudPlan f provider, t.Belongs s.locator := by
  have husecases := fullSet_wellNamed hf
  have hmethods : ∀ m ∈ distinctMethods (UseCase.fullSet f), IsName m.name := by
    intro m hm
    obtain ⟨u, hu, hmem⟩ := mem_distinctMethods hm
    exact methods_isName (husecases u hu) m hmem
  simp only [crudPlan, List.forall_mem_append, List.forall_mem_cons, List.not_mem_nil,
    false_imp_iff, implies_true, and_true, List.mem_flatMap, forall_exists_index, and_imp]
  exact ⟨⟨⟨⟨⟨⟨⟨⟨layerGraph_belongs hs, entityType_belongs hs hf, persistenceMapping_belongs hs hf⟩,
    persistence_belongs hs hf provider⟩, repository_belongs hs hf hmethods⟩,
    applicationLayer_belongs hs⟩, fun t u hu => useCase_belongs hs hf (husecases u hu) t⟩,
    fun t u hu => exposure_belongs hs hf (husecases u hu) t⟩, entryPoint_belongs hs hf⟩,
    infrastructureWiring_belongs hs hf provider⟩

theorem actionPlan_belongs (hf : f.WellNamed) (hu : u.WellNamed) (provider : Provider) :
    ∀ t ∈ s.actionPlan f u provider, t.Belongs s.locator := by
  simp only [actionPlan, List.forall_mem_append]
  exact ⟨⟨⟨⟨⟨⟨⟨layerGraph_belongs hs, persistence_belongs hs hf provider⟩,
    repository_belongs hs hf (methods_isName hu)⟩, applicationLayer_belongs hs⟩,
    useCase_belongs hs hf hu⟩, exposure_belongs hs hf hu⟩, entryPoint_belongs hs hf⟩,
    infrastructureWiring_belongs hs hf provider⟩

theorem servicePlan_belongs {p : Placement} (hp : p.WellNamed) {name : String} (hname : IsName name)
    (lifetime : Lifetime) : ∀ t ∈ s.servicePlan p name lifetime, t.Belongs s.locator := by
  simp only [servicePlan, List.forall_mem_append]
  refine ⟨service_belongs hs hp hname lifetime, ?_⟩
  cases p with
  | external e => exact externalSystem_belongs hs e
  | featureLocal f => simp
  | shared => simp

theorem constantPlan_belongs {f : Option Feature} (hf : ∀ g ∈ f, g.WellNamed) {name : String}
    (hname : IsName name) : ∀ t ∈ s.constantPlan f name, t.Belongs s.locator := by
  have hclass : IsName (constantsClass f) := by
    cases f with
    | none => exact (by decide : IsName "AppConstants")
    | some f => exact (hf f rfl).name.append (by decide)
  simp only [constantPlan, List.forall_mem_cons, List.not_mem_nil, false_imp_iff, implies_true,
    and_true]
  refine member_belongs (m := .constant f name) ⟨hf, hname⟩
    ((context_ready hs).setName (by decide) hclass) ?_ _
  rintro _ ⟨⟩
  exact ⟨.constants, rfl, rfl, by decide⟩

theorem enumPlan_belongs (hf : f.WellNamed) {name : String} (hname : IsName name) :
    ∀ t ∈ s.enumPlan f name, t.Belongs s.locator := by
  simp only [enumPlan, List.forall_mem_cons, List.not_mem_nil, false_imp_iff, implies_true,
    and_true]
  refine ⟨member_belongs (m := .enumType name) hname
      ((context_ready hs).setDotted (by decide) hname.2.dotted) ?_ _,
    projectImport_belongs hs (place_entityType hf) (by decide)
      (by decide : Made isDottedChar ".Domain.Enums") (by decide),
    member_belongs (m := .property f name) ⟨hf, hname⟩ (featureContext_ready hs hf) nofun _⟩
  rintro _ ⟨⟩
  exact ⟨.enumType, rfl, rfl, by decide⟩

end

/-! ## The year -/

section

variable (l : Locator) (y y' : Nat)

theorem context_alike : (Site.mk l y).context.Alike (Site.mk l y').context :=
  Context.ofProject_alike y y' l.project

theorem featureContext_alike (f : Feature) :
    ((Site.mk l y).featureContext f).Alike ((Site.mk l y').featureContext f) :=
  (context_alike l y y').withFeature f

theorem manifestContext_alike (layer : Layer) :
    ((Site.mk l y).manifestContext layer).Alike ((Site.mk l y').manifestContext layer) :=
  ((context_alike l y y').set _ _).set _ _

theorem layerGraph_alike :
    List.Forall₂ Task.Alike (Site.mk l y).layerGraph (Site.mk l y').layerGraph := by
  have hctx := manifestContext_alike l y y'
  simp only [layerGraph, List.forall₂_cons, List.Forall₂.nil, and_true]
  exact ⟨⟨rfl, rfl, .file _ (hctx _)⟩, ⟨rfl, rfl, .reference _ (hctx _)⟩,
    ⟨rfl, rfl, .reference _ (hctx _)⟩, ⟨rfl, rfl, .reference _ (hctx _)⟩,
    ⟨rfl, rfl, .reference _ (hctx _)⟩⟩

theorem persistence_alike (f : Feature) (provider : Provider) : List.Forall₂ Task.Alike
    ((Site.mk l y).persistence f provider) ((Site.mk l y').persistence f provider) := by
  have hctx := manifestContext_alike l y y'
  simp only [persistence, List.forall₂_cons, List.Forall₂.nil, and_true]
  exact ⟨⟨rfl, rfl, .declare _ (featureContext_alike l y y' f)⟩, ⟨rfl, rfl, .importLine _⟩,
    ⟨rfl, rfl, .dependency _ _ (hctx _)⟩, ⟨rfl, rfl, .dependency _ _ (hctx _)⟩⟩

theorem repository_alike (f : Feature) (methods : List RepositoryMethod) :
    List.Forall₂ Task.Alike ((Site.mk l y).repository f methods)
      ((Site.mk l y').repository f methods) := by
  have hctx := featureContext_alike l y y' f
  refine List.rel_append ?_ ?_ <;>
  · rw [List.forall₂_map_left_iff, List.forall₂_map_right_iff, List.forall₂_same]
    exact fun m _ => ⟨rfl, rfl, .declare _ hctx⟩

theorem applicationLayer_alike :
    List.Forall₂ Task.Alike (Site.mk l y).applicationLayer (Site.mk l y').applicationLayer := by
  have hctx := manifestContext_alike l y y'
  simp only [applicationLayer, List.forall₂_cons, List.Forall₂.nil, and_true]
  exact ⟨⟨rfl, rfl, .dependency _ _ (hctx _)⟩, ⟨rfl, rfl, .dependency _ _ (hctx _)⟩,
    ⟨rfl, rfl, .file _ (context_alike l y y')⟩⟩

theorem useCase_alike (f : Feature) (u : UseCase) :
    List.Forall₂ Task.Alike ((Site.mk l y).useCase f u) ((Site.mk l y').useCase f u) := by
  have hctx := (featureContext_alike l y y' f).set "NAMESPACE" (u.namespaceOf l.project f)
  simp only [useCase, List.forall₂_cons, List.Forall₂.nil, and_true]
  exact ⟨⟨rfl, rfl, .declare _ hctx⟩, ⟨rfl, rfl, .declare _ hctx⟩, ⟨rfl, rfl, .declare _ hctx⟩⟩

theorem exposure_alike (f : Feature) (u : UseCase) :
    List.Forall₂ Task.Alike ((Site.mk l y).exposure f u) ((Site.mk l y').exposure f u) := by
  simp only [exposure, List.forall₂_cons, List.Forall₂.nil, and_true]
  exact ⟨⟨rfl, rfl, .declare _ (featureContext_alike l y y' f)⟩, ⟨rfl, rfl, .importLine _⟩⟩

theorem imports_alike (path : RelativePath) (literals : List String) :
    List.Forall₂ Task.Alike (literals.map (importLine path)) (literals.map (importLine path)) := by
  rw [List.forall₂_map_left_iff, List.forall₂_map_right_iff, List.forall₂_same]
  exact fun literal _ => ⟨rfl, rfl, .importLine literal⟩

theorem entryPoint_alike (f : Feature) :
    List.Forall₂ Task.Alike ((Site.mk l y).entryPoint f) ((Site.mk l y').entryPoint f) := by
  have hctx := context_alike l y y'
  refine List.rel_append (List.rel_append (List.rel_append (List.rel_append ?_ ?_) ?_)
    (imports_alike _ _)) ?_
  · exact .cons ⟨rfl, rfl, .file _ hctx⟩ (.cons ⟨rfl, rfl, .clean _⟩ .nil)
  · rw [List.forall₂_map_left_iff, List.forall₂_map_right_iff]
    exact List.forall₂_same.2 fun line _ => ⟨rfl, rfl, .declare _ hctx⟩
  · exact .cons ⟨rfl, rfl, .declare _ hctx⟩ .nil
  · exact .cons ⟨rfl, rfl, .dependency _ _ (manifestContext_alike l y y' _)⟩ .nil

theorem infrastructureWiring_alike (f : Feature) (provider : Provider) :
    List.Forall₂ Task.Alike ((Site.mk l y).infrastructureWiring f provider)
      ((Site.mk l y').infrastructureWiring f provider) := by
  have hctx := context_alike l y y'
  exact List.rel_append (.cons ⟨rfl, rfl, .file _ hctx⟩ (.cons ⟨rfl, rfl, .declare _ hctx⟩
    (.cons ⟨rfl, rfl, .declare _ hctx⟩ .nil))) (imports_alike _ _)

theorem crudPlan_alike (f : Feature) (provider : Provider) : List.Forall₂ Task.Alike
    ((Site.mk l y).crudPlan f provider) ((Site.mk l y').crudPlan f provider) := by
  have hctx := featureContext_alike l y y' f
  have hentity : List.Forall₂ Task.Alike
      [(Site.mk l y).entityType f, (Site.mk l y).persistenceMapping f]
      [(Site.mk l y').entityType f, (Site.mk l y').persistenceMapping f] :=
    .cons ⟨rfl, rfl, .file _ hctx⟩ (.cons ⟨rfl, rfl, .file _ hctx⟩ .nil)
  have huseCases : ∀ {plan plan' : UseCase → List Task},
      (∀ u, List.Forall₂ Task.Alike (plan u) (plan' u)) → ∀ us : List UseCase,
      List.Forall₂ Task.Alike (us.flatMap plan) (us.flatMap plan') := by
    intro plan plan' h us
    induction us with
    | nil => exact .nil
    | cons u us ih => exact List.rel_append (h u) ih
  exact List.rel_append (List.rel_append (List.rel_append (List.rel_append (List.rel_append
    (List.rel_append (List.rel_append (List.rel_append (layerGraph_alike l y y') hentity)
    (persistence_alike l y y' f provider)) (repository_alike l y y' f _))
    (applicationLayer_alike l y y')) (huseCases (useCase_alike l y y' f) _))
    (huseCases (exposure_alike l y y' f) _)) (entryPoint_alike l y y' f))
    (infrastructureWiring_alike l y y' f provider)

theorem actionPlan_alike (f : Feature) (u : UseCase) (provider : Provider) :
    List.Forall₂ Task.Alike ((Site.mk l y).actionPlan f u provider)
      ((Site.mk l y').actionPlan f u provider) :=
  List.rel_append (List.rel_append (List.rel_append (List.rel_append (List.rel_append
    (List.rel_append (List.rel_append (layerGraph_alike l y y') (persistence_alike l y y' f provider))
    (repository_alike l y y' f _)) (applicationLayer_alike l y y')) (useCase_alike l y y' f u))
    (exposure_alike l y y' f u)) (entryPoint_alike l y y' f))
    (infrastructureWiring_alike l y y' f provider)

theorem servicePlan_alike (p : Placement) (name : String) (lifetime : Lifetime) :
    List.Forall₂ Task.Alike ((Site.mk l y).servicePlan p name lifetime)
      ((Site.mk l y').servicePlan p name lifetime) := by
  have hctx := context_alike l y y'
  have hservice : ((Site.mk l y).serviceContext p name).Alike ((Site.mk l y').serviceContext p name) :=
    ((hctx.set _ _).set _ _).set _ _
  refine List.rel_append (List.rel_append ?_ ?_) ?_
  · exact .cons ⟨rfl, rfl, .file _ (hservice.set _ _)⟩ (.cons ⟨rfl, rfl, .file _ hservice⟩
      (.cons ⟨rfl, rfl, .declare _ hctx⟩ (.cons ⟨rfl, rfl, .importLine _⟩ .nil)))
  · show List.Forall₂ _ (if p.implNamespace l.project == p.contractNamespace l.project then _ else _)
      (if p.implNamespace l.project == p.contractNamespace l.project then _ else _)
    split
    · exact .nil
    · exact .cons ⟨rfl, rfl, .importLine _⟩ .nil
  · cases p with
    | featureLocal f => exact .nil
    | shared => exact .nil
    | external e =>
        exact .cons ⟨rfl, rfl, .dependency _ _ (manifestContext_alike l y y' _)⟩
          (.cons ⟨rfl, rfl, .declare _ hctx⟩ (.cons ⟨rfl, rfl, .importLine _⟩
          (.cons ⟨rfl, rfl, .declare _ hctx⟩ (.cons ⟨rfl, rfl, .declare _ hctx⟩ .nil))))

theorem constantPlan_alike (f : Option Feature) (name : String) : List.Forall₂ Task.Alike
    ((Site.mk l y).constantPlan f name) ((Site.mk l y').constantPlan f name) :=
  .cons ⟨rfl, rfl, .declare _ ((context_alike l y y').set _ _)⟩ .nil

theorem enumPlan_alike (f : Feature) (name : String) : List.Forall₂ Task.Alike
    ((Site.mk l y).enumPlan f name) ((Site.mk l y').enumPlan f name) :=
  .cons ⟨rfl, rfl, .declare _ ((context_alike l y y').set _ _)⟩ (.cons ⟨rfl, rfl, .importLine _⟩
    (.cons ⟨rfl, rfl, .declare _ (featureContext_alike l y y' f)⟩ .nil))

end

end Site

end Scaffold
