import Mathlib
import Scaffold.Proofs.Contents

/-!
# The wiring of the infrastructure

The registrations of the infrastructure are a file of a form (`Form.infrastructureWiring`), and every
order fills it (`Order.actionsOn_wiring`, `Order.fills_registrations`).  What registers the database
context is declared under the provider the order is carried out with (`Order.context_eq`), and among
the packages of the providers the order asks for that one's only (`Order.eq_of_package_mem`).
-/

namespace Scaffold

open Scaffold.Path (components)
open Scaffold.Text

/-! ## The form -/

namespace Form

/-- The registrations of the infrastructure. -/
def infrastructureWiring : Form :=
  ⟨.infrastructureWiring, .beforeMarker Site.returnServices,
    ["        return services;", "    \x7d", "\x7d"], true⟩

theorem sound_infrastructureWiring : infrastructureWiring.Sound := by
  refine ⟨Anchor.before_marker (by decide),
    ⟨Template.infrastructureWiringLines.take 9, rfl, fun _ =>
      ⟨"using Microsoft.Extensions.Configuration;", List.mem_cons_self, by decide,
        by decide⟩⟩, ?_⟩
  simp only [infrastructureWiring, List.forall_mem_cons, List.not_mem_nil, false_imp_iff,
    implies_true, and_true]
  decide

/-- The first actions of those that fill a file fill it. -/
theorem Fills.of_isPrefix {form : Form} {actions actions' : List Action} (h : form.Fills actions)
    (hpre : actions' <+: actions) : form.Fills actions' := by
  refine ⟨fun a ha => h.takes a (hpre.subset ha), fun a ha => h.makes a ?_⟩
  obtain ⟨rest, rfl⟩ := hpre
  rw [List.head?_append, ha]
  rfl

/-- A registration that is no import. -/
theorem takes_registration {d : Declaration} {ctx : Context}
    (hanchor : d.anchor = .beforeMarker Site.returnServices)
    (htemplate : d.template = some Template.infrastructureWiring.name)
    (hblock : ∀ x ∈ d.block, isImportLine x = false) :
    infrastructureWiring.Takes (.declare d ctx) :=
  ⟨hanchor, htemplate, fun _ _ hindent x hx => isImportLine_indentBy hindent (hblock x hx)⟩

end Form

/-! ## What orders do to it -/

/-- What a service of an external system does to the registrations of the infrastructure. -/
def Site.externalRegistrations (s : Site) (e : ExternalSystem) (name : String) (lifetime : Lifetime) :
    List Action :=
  let p : Placement := .external e
  [.declare ((Member.service p name lifetime).declaration s.locator) s.context,
   .importLine ("using " ++ p.contractNamespace s.project ++ ";")]
    ++ (if p.implNamespace s.project == p.contractNamespace s.project then []
        else [.importLine ("using " ++ p.implNamespace s.project ++ ";")])
    ++ [.declare ((Member.client e).declaration s.locator) s.context, .importLine e.clientImport]

/-- What an entity with a repository does to the registrations of the infrastructure. -/
def Site.entityRegistrations (s : Site) (f : Feature) (provider : Provider) : List Action :=
  [.file Template.infrastructureWiring.name s.context,
   .declare ((Member.context provider).declaration s.locator) s.context,
   .declare ((Member.repository f).declaration s.locator) s.context]
    ++ s.wiringImports.map .importLine

/-- What an order does to the registrations of the infrastructure. -/
def Order.registrations (s : Site) (provider : Provider) : Order → List Action
  | .crud f | .action f _ => s.entityRegistrations f provider
  | .service (.external e) name lifetime => s.externalRegistrations e name lifetime
  | .service .shared _ _ | .service (.featureLocal _) _ _ | .constant _ _ | .enum _ _ => []

section

variable {l : Locator} (hl : IsProject l.project)

include hl

/-- Files of other layers and kinds are not the registrations of the infrastructure. -/
theorem ne_infrastructureWiring {layer : Layer} {kind : ArtifactKind} {p : RelativePath}
    (hp : IsPlace l layer kind p) (hother : layer ≠ .infrastructure ∨ kind ≠ .wiring) :
    p ≠ l.wiring .infrastructure := by
  rintro rfl
  have hwiring := place_wiring (l := l) (.inr rfl : Layer.infrastructure = _ ∨ _)
  exact hother.elim (· (hp.layer_eq hl hwiring)) (· (hp.kind_eq hl hwiring))

/-- The application layer has registrations of its own. -/
theorem actionsOn_applicationLayer :
    actionsOn (l.wiring .infrastructure) (Site.applicationLayer ⟨l, 0⟩) = [] := by
  have happlication : Layer.application ≠ .infrastructure := by decide
  have hmanifest := ne_infrastructureWiring hl
    (place_manifest hl (by decide : Layer.application ≠ .root)) (.inl happlication)
  have hwiring := ne_infrastructureWiring hl (place_wiring (.inl rfl)) (.inl happlication)
  refine actionsOn_eq_nil ?_
  simp only [Site.applicationLayer, List.forall_mem_cons, List.not_mem_nil, false_imp_iff,
    implies_true, and_true]
  exact ⟨hmanifest, hmanifest, hwiring⟩

theorem actionsOn_servicePlan {p : Placement} (hp : p.WellNamed) {name : String} (hname : IsName name)
    (lifetime : Lifetime) (provider : Provider) :
    actionsOn (l.wiring .infrastructure) (Site.servicePlan ⟨l, 0⟩ p name lifetime)
      = (Order.service p name lifetime).registrations ⟨l, 0⟩ provider := by
  have hcontract := ne_infrastructureWiring hl (place_serviceContract hp hname) (.inr (by decide))
  have himpl := ne_infrastructureWiring hl (place_serviceImpl hp hname) (.inr (by decide))
  have hservice : ∀ ts, actionsOn (l.wiring .infrastructure)
      (Site.service ⟨l, 0⟩ p name lifetime ++ ts) = actionsOn (l.wiring .infrastructure)
        ((Site.service ⟨l, 0⟩ p name lifetime).drop 2 ++ ts) := fun ts =>
    (actionsOn_cons_of_ne hcontract).trans (actionsOn_cons_of_ne himpl)
  cases p with
  | shared | featureLocal f =>
      have hwiring := ne_infrastructureWiring hl (place_wiring (.inl rfl))
        (.inl (by decide : Layer.application ≠ .infrastructure))
      refine (hservice []).trans (actionsOn_eq_nil ?_)
      simp [Site.service, Placement.implNamespace, Site.importLine, Placement.wiringLayer, hwiring]
  | external e =>
      have hmanifest := ne_infrastructureWiring hl
        (place_manifest hl (by decide : Layer.infrastructure ≠ .root)) (.inr (by decide))
      have henvironment := ne_infrastructureWiring hl place_environment (.inr (by decide))
      have hcompose := ne_infrastructureWiring hl place_compose (.inr (by decide))
      have hexternal : actionsOn (l.wiring .infrastructure) (Site.externalSystem ⟨l, 0⟩ e)
          = [.declare ((Member.client e).declaration l) (Site.context ⟨l, 0⟩),
             .importLine e.clientImport] := by
        simp [actionsOn, Site.externalSystem, Site.package, Site.importLine, Member.declaration,
          hmanifest, henvironment, hcompose]
      refine (hservice _).trans ?_
      rw [actionsOn_append, hexternal]
      refine congrArg (· ++ _) ?_
      refine (actionsOn_cons_self rfl).trans (congrArg _ ((actionsOn_cons_self rfl).trans
        (congrArg _ ?_)))
      show actionsOn _ (if _ then _ else _) = if _ then _ else _
      split
      · rfl
      · exact actionsOn_cons_self rfl

omit hl in
theorem actionsOn_infrastructureWiring (f : Feature) (provider : Provider) :
    actionsOn (l.wiring .infrastructure) (Site.infrastructureWiring ⟨l, 0⟩ f provider)
      = Site.entityRegistrations ⟨l, 0⟩ f provider := by
  refine ((congrArg _ (List.map_id _).symm).trans (actionsOn_map ?_)).trans rfl
  simp [Site.infrastructureWiring, Site.file, Site.importLine]

theorem Order.actionsOn_wiring {o : Order} (ho : o.WellNamed) (provider : Provider) :
    actionsOn (l.wiring .infrastructure) (o.tasks l provider) = o.registrations ⟨l, 0⟩ provider := by
  have hplace := place_wiring (l := l) (.inr rfl : Layer.infrastructure = _ ∨ _)
  have hnone : ∀ {ts : List Task} {kinds : List ArtifactKind}, (∀ t ∈ ts, t.LiesIn l kinds) →
      .wiring ∉ kinds → actionsOn (l.wiring .infrastructure) ts = [] :=
    fun hts hkinds => actionsOn_of_lies hl hplace hts hkinds
  have hgraph := hnone (Site.layerGraph_lies (s := ⟨l, 0⟩) hl) (by decide)
  have hgenerated : ∀ {f : Feature} (us : List UseCase) (ms : List RepositoryMethod), f.WellNamed →
      (∀ u ∈ us, u.WellNamed) → actionsOn (l.wiring .infrastructure) (Site.repository ⟨l, 0⟩ f ms) = []
        ∧ actionsOn (l.wiring .infrastructure) (us.flatMap (Site.useCase ⟨l, 0⟩ f)) = []
        ∧ actionsOn (l.wiring .infrastructure) (us.flatMap (Site.exposure ⟨l, 0⟩ f)) = [] := by
    intro f us ms hf hus
    refine ⟨hnone (Site.repository_lies (s := ⟨l, 0⟩) hf ms) (by decide), ?_, ?_⟩
    · rw [actionsOn_flatMap, List.flatMap_eq_nil_iff]
      exact fun u hu => hnone (Site.useCase_lies (s := ⟨l, 0⟩) hf (hus u hu)) (by decide)
    · rw [actionsOn_flatMap, List.flatMap_eq_nil_iff]
      exact fun u _ => hnone (Site.exposure_lies (s := ⟨l, 0⟩) hf u) (by decide)
  have hpersistence := fun f =>
    hnone (Site.persistence_lies (s := ⟨l, 0⟩) hl f provider) (by decide)
  have hentry := fun f => hnone (Site.entryPoint_lies (s := ⟨l, 0⟩) hl f) (by decide)
  have hwiring := fun f => actionsOn_infrastructureWiring (l := l) f provider
  cases o with
  | crud f =>
      obtain ⟨hmethods, htypes, hexposed⟩ := hgenerated (UseCase.fullSet f)
        (Site.distinctMethods (UseCase.fullSet f)) ho (Site.fullSet_wellNamed ho)
      simp only [Order.tasks, Order.plan, Site.crudPlan, actionsOn_append, hgraph,
        hnone (Site.entity_lies (s := ⟨l, 0⟩) ho) (by decide), hpersistence, hmethods,
        actionsOn_applicationLayer hl, htypes, hexposed, hentry, hwiring, List.nil_append]
      rfl
  | action f r =>
      obtain ⟨hmethods, htypes, hexposed⟩ := hgenerated [r.useCase f] (r.useCase f).methods ho.1
        (List.forall_mem_singleton.2 (useCase_wellNamed ho.1 ho.2))
      rw [List.flatMap_singleton] at htypes hexposed
      simp only [Order.tasks, Order.plan, Site.actionPlan, actionsOn_append, hgraph, hpersistence,
        hmethods, actionsOn_applicationLayer hl, htypes, hexposed, hentry, hwiring, List.nil_append]
      rfl
  | service p name lifetime => exact actionsOn_servicePlan hl ho.1 ho.2 lifetime provider
  | constant f name => exact hnone (Site.constantPlan_lies (s := ⟨l, 0⟩) ho.1 name) (by decide)
  | enum f name => exact hnone (Site.enumPlan_lies (s := ⟨l, 0⟩) ho.1 ho.2) (by decide)

end

/-- Every order fills the registrations of the infrastructure. -/
theorem Order.fills_registrations (s : Site) (provider : Provider) (o : Order) :
    Form.infrastructureWiring.Fills (o.registrations s provider) := by
  have hservices : ∀ {line : String}, line.toList.head? = some 's' → isImportLine line = false :=
    fun h => isImportLine_of_head h (by decide) (by decide)
  have hentity : ∀ f, Form.infrastructureWiring.Fills (s.entityRegistrations f provider) := by
    intro f
    refine ⟨?_, by rintro _ ⟨⟩; rfl⟩
    simp only [Site.entityRegistrations, List.forall_mem_append, List.forall_mem_map,
      List.forall_mem_cons, List.not_mem_nil, false_imp_iff, implies_true, and_true]
    refine ⟨⟨rfl, Form.takes_registration rfl rfl ?_, Form.takes_registration rfl rfl ?_⟩,
      fun _ _ => rfl⟩
    · simp only [Member.declaration]
      cases provider <;> decide
    · refine List.forall_mem_singleton.2 (hservices ?_)
      unfold Detection.repositoryRegistration
      simp
  cases o with
  | crud f => exact hentity f
  | action f r => exact hentity f
  | service p name lifetime =>
      cases p with
      | shared => exact .nil
      | featureLocal f => exact .nil
      | external e =>
          refine ⟨?_, by rintro _ ⟨⟩; rfl⟩
          simp only [registrations, Site.externalRegistrations, List.forall_mem_append,
            List.forall_mem_cons, List.not_mem_nil, false_imp_iff, implies_true, and_true]
          refine ⟨⟨⟨Form.takes_registration rfl rfl ?_, rfl⟩, ?_⟩,
            Form.takes_registration rfl rfl ?_, rfl⟩
          · exact List.forall_mem_singleton.2 (hservices (by simp))
          · split
            · nofun
            · exact List.forall_mem_singleton.2 rfl
          · simp only [Member.declaration]
            cases e <;> decide
  | constant f name => exact .nil
  | enum f name => exact .nil

theorem repositoryRegistration_ne_context (f : Feature) :
    Detection.repositoryRegistration f ≠ Site.contextRegistration := by
  unfold Detection.repositoryRegistration Site.contextRegistration
  rw [Ne, ← String.toList_inj]
  simp

/-- What is registered under the detection of the database context is the context under the
provider of the order. -/
theorem Order.context_eq (s : Site) (provider : Provider) (o : Order) :
    ∀ d ∈ (o.registrations s provider).filterMap Action.declaration?,
      d.detection = Site.contextRegistration → d = (Member.context provider).declaration s.locator := by
  have hentity : ∀ f, ∀ d ∈ (s.entityRegistrations f provider).filterMap Action.declaration?,
      d.detection = Site.contextRegistration →
        d = (Member.context provider).declaration s.locator := by
    intro f
    have himports : (s.wiringImports.map Action.importLine).filterMap Action.declaration? = [] :=
      List.filterMap_eq_nil_iff.2 (List.forall_mem_map.2 fun _ _ => rfl)
    rw [Site.entityRegistrations, List.filterMap_append, himports, List.append_nil]
    exact List.forall_mem_cons.2 ⟨fun _ => rfl, List.forall_mem_singleton.2 fun h =>
      absurd h (repositoryRegistration_ne_context f)⟩
  cases o with
  | crud f => exact hentity f
  | action f r => exact hentity f
  | service p name lifetime =>
      cases p with
      | shared => nofun
      | featureLocal f => nofun
      | external e =>
          intro d hd hdetection
          have hservice : Detection.serviceRegistration name ≠ Site.contextRegistration := by
            rw [Ne, ← String.toList_inj]
            simp [Detection.serviceRegistration, Site.contextRegistration]
          have hclient : e.clientDetection ≠ Site.contextRegistration := by cases e <;> decide
          have hmember : d = (Member.service (.external e) name lifetime).declaration s.locator
              ∨ d = (Member.client e).declaration s.locator := by
            simp only [registrations, Site.externalRegistrations] at hd
            split at hd <;> simpa [Action.declaration?, eq_comm (b := d)] using hd
          obtain rfl | rfl := hmember
          · exact absurd hdetection hservice
          · exact absurd hdetection hclient
  | constant f name => nofun
  | enum f name => nofun

/-! ## Packages -/

/-- The package an action asks for. -/
def Action.package? : Action → Option String
  | .dependency identity _ _ => some identity
  | .file _ _ | .declare _ _ | .importLine _ | .clean _ | .reference _ _ => none

theorem Action.package?_of_entry? {a : Action} {e : Manifest.Entry} (h : a.entry? = some e)
    (hkind : e.kind = .package) : a.package? = some e.identity := by
  cases a with
  | dependency identity version ctx =>
      cases h
      rfl
  | reference identity ctx =>
      cases h
      cases hkind
  | file _ _ | declare _ _ | importLine _ | clean _ => cases h

/-- The packages tasks ask for. -/
def packagesOf (ts : List Task) : List String := ts.filterMap fun t => t.action.package?

/-- The packages an order asks for. -/
def Order.packages (provider : Provider) : Order → List String
  | .crud _ | .action _ _ =>
      ["Microsoft.EntityFrameworkCore", provider.package, "MediatR", "FluentValidation",
       "Microsoft.EntityFrameworkCore.Design"]
  | .service (.external e) _ _ => [e.package]
  | .service .shared _ _ | .service (.featureLocal _) _ _ | .constant _ _ | .enum _ _ => []

theorem Order.packagesOf_tasks (l : Locator) (provider : Provider) (o : Order) :
    packagesOf (o.tasks l provider) = o.packages provider := by
  have hnone : ∀ {ts : List Task}, (∀ t ∈ ts, t.action.package? = none) → packagesOf ts = [] :=
    fun h => List.filterMap_eq_nil_iff.2 h
  have happend : ∀ ts ts', packagesOf (ts ++ ts') = packagesOf ts ++ packagesOf ts' :=
    fun _ _ => List.filterMap_append
  have hrepository : ∀ f ms, packagesOf (Site.repository ⟨l, 0⟩ f ms) = [] := by
    intro f ms
    refine hnone (List.forall_mem_append.2 ⟨?_, ?_⟩) <;> exact List.forall_mem_map.2 fun _ _ => rfl
  have huseCases : ∀ f (us : List UseCase), packagesOf (us.flatMap (Site.useCase ⟨l, 0⟩ f)) = []
      ∧ packagesOf (us.flatMap (Site.exposure ⟨l, 0⟩ f)) = [] := by
    intro f us
    unfold packagesOf
    rw [List.filterMap_flatMap, List.filterMap_flatMap]
    exact ⟨List.flatMap_eq_nil_iff.2 fun _ _ => rfl, List.flatMap_eq_nil_iff.2 fun _ _ => rfl⟩
  have hentry : ∀ f, packagesOf (Site.entryPoint ⟨l, 0⟩ f)
      = ["Microsoft.EntityFrameworkCore.Design"] := by
    intro f
    rw [Site.entryPoint, happend, happend, happend, happend,
      hnone (List.forall_mem_map.2 fun _ _ => rfl), hnone (List.forall_mem_map.2 fun _ _ => rfl)]
    rfl
  cases o with
  | crud f =>
      rw [Order.tasks, Order.plan, Site.crudPlan]
      simp only [happend, hrepository, huseCases, hentry]
      rfl
  | action f r =>
      rw [Order.tasks, Order.plan, Site.actionPlan]
      simp only [happend, hrepository, hentry]
      rfl
  | service p name lifetime =>
      have himport : packagesOf (if (p.implNamespace l.project == p.contractNamespace l.project) = true
          then [] else [Site.importLine (l.wiring p.wiringLayer)
            ("using " ++ p.implNamespace l.project ++ ";")]) = [] := by
        split <;> rfl
      have hservice : packagesOf (Site.service ⟨l, 0⟩ p name lifetime) = [] :=
        (happend _ _).trans (congrArg _ himport)
      refine (happend _ _).trans ?_
      rw [hservice]
      cases p <;> rfl
  | constant f name => rfl
  | enum f name => rfl

/-- Among the packages of the providers an order asks for that of the provider it is carried out
with. -/
theorem Order.eq_of_package_mem {o : Order} {provider provider' : Provider}
    (h : provider'.package ∈ o.packages provider) : provider' = provider := by
  have hentity : ∀ f, provider'.package ∈ (Order.crud f).packages provider →
      provider' = provider := by
    intro f
    cases provider' <;> cases provider <;> simp [packages, Provider.package]
  cases o with
  | crud f => exact hentity f h
  | action f r => exact hentity f h
  | service p name lifetime =>
      cases p with
      | shared => cases h
      | featureLocal f => cases h
      | external e =>
          revert h
          cases provider' <;> cases e <;> simp [packages, Provider.package, ExternalSystem.package]
  | constant f name => cases h
  | enum f name => cases h

end Scaffold
