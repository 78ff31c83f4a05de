import Mathlib
import Scaffold.Proofs.Crud
import Scaffold.Proofs.Replay
import Scaffold.Proofs.Twins
import Scaffold.Proofs.Wiring

/-!
# Files that entities share

Three files have a line for every entity that something is generated of (`SharedFile`).  To such a
file every order does the same but for this line (`Order.actionsOn_shared`), and no other order
declares such a line.  So the lines of two entities come to stand in the order of the requests, and
everything else in the file is as it would be the other way round (`SharedFile.exchange`).

In all other files a full generation has nothing of its own that another one of an entity under
other names meets (`crudPlan_exchange`).
-/

namespace Scaffold

open Scaffold.Path (components)
open Scaffold.Text

/-- A file with a line for every entity. -/
inductive SharedFile where
  | dbContext | entryPoint | wiring
deriving Repr, DecidableEq

namespace SharedFile

/-! ## What is in them -/

/-- Where the file is. -/
def path (l : Locator) : SharedFile → RelativePath
  | .dbContext => l.dbContext
  | .entryPoint => l.entryPoint
  | .wiring => l.wiring .infrastructure

/-- The kind of the file. -/
def kind : SharedFile → ArtifactKind
  | .dbContext => .dbContext
  | .entryPoint => .entryPoint
  | .wiring => .wiring

/-- The layer of the file. -/
def layer : SharedFile → Layer
  | .dbContext | .wiring => .infrastructure
  | .entryPoint => .api

/-- What an entity has in the file. -/
def member (f : Feature) : SharedFile → Member
  | .dbContext => .dbSet f
  | .entryPoint => .mapping f
  | .wiring => .repository f

/-- The line of an entity. -/
def line (l : Locator) (f : Feature) : SharedFile → String
  | .dbContext => dbSetLine f
  | .entryPoint => (Site.mk l 0).entryMapping f
  | .wiring => Detection.repositoryRegistration f

/-- Where these lines go. -/
def anchor : SharedFile → Anchor
  | .dbContext => .endOfBlock
  | .entryPoint => .beforeMarker "app.Run();"
  | .wiring => .beforeMarker Site.returnServices

/-- Whether a blank line sets them off. -/
def separated : SharedFile → Bool
  | .dbContext => true
  | .entryPoint | .wiring => false

/-- The context of the template of the file. -/
def context (l : Locator) (f : Feature) : SharedFile → Context
  | .dbContext => Site.featureContext ⟨l, 0⟩ f
  | .entryPoint | .wiring => Site.context ⟨l, 0⟩

/-- What is made sure of before the line of an entity. -/
def opening (l : Locator) (provider : Provider) : SharedFile → List Action
  | .dbContext => []
  | .entryPoint => [.file (Site.mk l 0).entryTemplate.name (Site.context ⟨l, 0⟩), .clean Site.weatherSample]
      ++ (Site.mk l 0).entryRegistrations.map fun line =>
        .declare ((Member.registration line).declaration l) (Site.context ⟨l, 0⟩)
  | .wiring => [.file Template.infrastructureWiring.name (Site.context ⟨l, 0⟩),
      .declare ((Member.context provider).declaration l) (Site.context ⟨l, 0⟩)]

/-- The imports of the file. -/
def imports (l : Locator) : SharedFile → List String
  | .dbContext => ["using " ++ l.project ++ ".Domain.Entities;"]
  | .entryPoint => (Site.mk l 0).entryImports
  | .wiring => (Site.mk l 0).wiringImports

/-- What makes sure of the line of an entity. -/
def own (l : Locator) (f : Feature) (shared : SharedFile) : Action :=
  .declare ((shared.member f).declaration l) (shared.context l f)

/-- What is done for an entity. -/
def actions (l : Locator) (provider : Provider) (f : Feature) (shared : SharedFile) : List Action :=
  shared.opening l provider ++ [shared.own l f] ++ (shared.imports l).map .importLine

section

variable {l : Locator} {f g : Feature} {provider : Provider}

theorem place (shared : SharedFile) : IsPlace l shared.layer shared.kind (shared.path l) := by
  cases shared
  exacts [place_dbContext, place_entryPoint, place_wiring (.inr rfl)]

theorem member_wellNamed (hf : f.WellNamed) (shared : SharedFile) : (shared.member f).WellNamed := by
  cases shared <;> exact hf

theorem member_kind (f : Feature) (shared : SharedFile) : (shared.member f).kind = shared.kind := by
  cases shared <;> rfl

/-- How the line of an entity is declared. -/
theorem declaration_member (l : Locator) (f : Feature) (shared : SharedFile) :
    ((shared.member f).declaration l).block = [shared.line l f]
      ∧ ((shared.member f).declaration l).anchor = shared.anchor
      ∧ ((shared.member f).declaration l).separated = shared.separated := by
  cases shared <;> exact ⟨rfl, rfl, rfl⟩

theorem mem_actions {a : Action} {shared : SharedFile} : a ∈ shared.actions l provider f
    ↔ a ∈ shared.opening l provider ∨ a = shared.own l f ∨ ∃ x ∈ shared.imports l, .importLine x = a := by
  simp [actions]

/-! ## The lines of entities -/

theorem marked (shared : SharedFile) : shared.anchor.Marked := by
  cases shared with
  | dbContext => nofun
  | entryPoint | wiring =>
      rintro _ ⟨⟩
      decide

/-- No marker has the letters of an import. -/
theorem import_marker (shared : SharedFile) :
    ∀ marker, shared.anchor = .beforeMarker marker → 'g' ∉ marker.toList := by
  cases shared with
  | dbContext => nofun
  | entryPoint | wiring =>
      rintro _ ⟨⟩
      decide

theorem entryMapping_head (l : Locator) (f : Feature) :
    ((Site.mk l 0).entryMapping f).toList.head? = some 'a' := by
  unfold Site.entryMapping
  cases l.style with
  | routes => exact head?_toList_append (head?_toList_append (by decide) _) _
  | controllers => exact (by decide : "app.MapControllers();".toList.head? = some 'a')

theorem admits (l : Locator) (f : Feature) (shared : SharedFile) :
    shared.anchor.Admits (shared.line l f) := by
  have hhead : ∀ {line : String} {c : Char}, line.toList.head? = some c → c ≠ 'u' → c ≠ 'g' → c ≠ '\t' →
      isImportLine line = false ∧ isTabbed line = false := fun h hu hg ht =>
    ⟨isImportLine_of_head h hu hg, isTabbed_of_head h ht⟩
  cases shared with
  | dbContext =>
      have hfirst : (dbSetLine f).toList.head? = some 'p' := by
        unfold dbSetLine
        repeat refine head?_toList_append ?_ _
        decide
      obtain ⟨himport, htab⟩ := hhead hfirst (by decide) (by decide) (by decide)
      refine ⟨EndsStatement.append (by simp [EndsStatement]) _, himport, htab, ?_⟩
      rintro _ ⟨⟩
  | entryPoint =>
      obtain ⟨hends, hmap⟩ : EndsStatement ((Site.mk l 0).entryMapping f)
          ∧ 'M' ∈ ((Site.mk l 0).entryMapping f).toList := by
        unfold Site.entryMapping
        cases l.style with
        | routes =>
            refine ⟨EndsStatement.append (by simp [EndsStatement]) _, ?_⟩
            simp only [Detection.endpointMapping, String.toList_append, List.mem_append]
            exact .inl (.inl (by decide))
        | controllers => 
            exact ⟨by simp [EndsStatement], (by decide : 'M' ∈ "app.MapControllers();".toList)⟩
      obtain ⟨himport, htab⟩ := hhead (entryMapping_head l f) (by decide) (by decide) (by decide)
      refine ⟨hends, himport, htab, ?_⟩
      rintro _ ⟨⟩
      exact ⟨'M', hmap, by decide, by decide⟩
  | wiring =>
      have hfirst : (Detection.repositoryRegistration f).toList.head? = some 's' := by
        unfold Detection.repositoryRegistration
        repeat refine head?_toList_append ?_ _
        decide
      have hadd : 'A' ∈ (Detection.repositoryRegistration f).toList := by
        unfold Detection.repositoryRegistration
        simp only [String.toList_append, List.mem_append]
        exact .inl (.inl (.inl (.inl (by decide))))
      obtain ⟨himport, htab⟩ := hhead hfirst (by decide) (by decide) (by decide)
      refine ⟨EndsStatement.append (by simp [EndsStatement]) _, himport, htab, ?_⟩
      rintro _ ⟨⟩
      exact ⟨'A', hadd, by decide, by decide⟩

/-- The template of the database context shows the project only. -/
theorem slot_dbContextLines : ∀ line ∈ Template.dbContextLines, ∀ name,
    .slot name ∈ Piece.read 0 line.toList → name = "PROJECT_NAME".toList := by
  have hread : ∀ line ∈ Template.dbContextLines,
      isWellRead ["PROJECT_NAME".toList] line.toList = true := by
    simp only [Template.dbContextLines, Template.project, slot, List.forall_mem_cons, String.toList_append,
      List.not_mem_nil, false_imp_iff, implies_true]
    (repeat rw [String.toList_ofList])
    decide +kernel
  intro line hline name hname
  exact List.mem_singleton.1 ((isWellRead_iff (hread line hline)).2.2.1 name hname).1

/-- The database context starts the same for every entity. -/
theorem base_own (l : Locator) (f g : Feature) (shared : SharedFile) :
    (shared.own l f).base = (shared.own l g).base := by
  cases shared with
  | dbContext =>
      have hvalue : ∀ f, (Site.featureContext ⟨l, 0⟩ f).environment.lookup "PROJECT_NAME"
          = some l.project := by
        intro f
        simp [Site.featureContext, Site.context, Context.withFeature, Context.set, Context.lookup_assign,
          Context.ofProject, Site.project]
      show templateLines Template.dbContext.name _ = templateLines Template.dbContext.name _
      rw [templateLines_name, templateLines_name]
      refine List.map_congr_left fun line hline => Context.fill_congr fun name hname => ?_
      rw [slot_dbContextLines line hline name hname, Context.value, Context.value, String.ofList_toList]
      exact congrArg (Option.map String.toList) ((hvalue f).trans (hvalue g).symm)
  | entryPoint | wiring => rfl

/-- Entities of different names have different lines, or the file has one line for all of them. -/
theorem actions_eq_of_detection (hf : f.WellNamed) (hg : g.WellNamed) (hname : f.name ≠ g.name)
    (shared : SharedFile) (h : ((shared.member f).declaration l).detection
      = ((shared.member g).declaration l).detection) :
    shared.actions l provider f = shared.actions l provider g := by
  cases shared with
  | dbContext =>
      refine absurd ?_ hname
      change Detection.dbSet f.name = Detection.dbSet g.name at h
      rwa [Detection.dbSet, Detection.dbSet, String.append_left_inj, String.append_right_inj] at h
  | entryPoint =>
      obtain ⟨project, style⟩ := l
      cases style with
      | routes =>
          refine absurd ?_ hname
          change Detection.endpointMapping f.name = Detection.endpointMapping g.name at h
          rwa [Detection.endpointMapping, Detection.endpointMapping, String.append_left_inj,
            String.append_right_inj] at h
      | controllers => rfl
  | wiring =>
      refine absurd ?_ hname
      have hread : ∀ {f : Feature}, f.WellNamed →
          (Detection.repositoryRegistration f).toList.takeWhile (· != ',')
            = ("services.AddScoped<" ++ f.repositoryContract).toList := by
        intro f hf
        have hline : (Detection.repositoryRegistration f).toList
            = ("services.AddScoped<" ++ f.repositoryContract).toList
              ++ ',' :: (" " ++ f.repositoryImpl ++ ">();").toList := by
          unfold Detection.repositoryRegistration
          simp
        have hnot : ',' ∉ ("services.AddScoped<" ++ f.repositoryContract).toList := by
          simp only [Feature.repositoryContract, String.toList_append, List.mem_append, not_or]
          exact ⟨by decide, ⟨by decide, fun hc => absurd (hf.name.2 _ hc) (by decide)⟩, by decide⟩
        rw [hline, takeWhile_append_stop _ (fun c hc => bne_iff_ne.2 (ne_of_mem_of_not_mem hc hnot))
          (by decide)]
      have heq := (hread hf).symm.trans
        ((congrArg (fun s : String => s.toList.takeWhile (· != ',')) h).trans
        (hread hg))
      rwa [String.toList_inj, String.append_right_inj, Feature.repositoryContract,
        Feature.repositoryContract,
        String.append_left_inj, String.append_right_inj] at heq

end

end SharedFile

/-! ## What orders do to them -/

/-- Files of different kinds lie in different places. -/
theorem IsPlace.ne {l : Locator} (hl : IsProject l.project) {layer layer' : Layer}
    {kind kind' : ArtifactKind} {p p' : RelativePath} (hp : IsPlace l layer kind p)
    (hp' : IsPlace l layer' kind' p') (hkind : kind ≠ kind') : p ≠ p' := by
  rintro rfl
  exact hkind (hp.kind_eq hl hp')

/-- The kinds of file that belong to no entity. -/
def commonKinds : List ArtifactKind := [.manifest, .dbContext, .wiring, .entryPoint]

section

variable {l : Locator} (hl : IsProject l.project) {layer : Layer} {kind : ArtifactKind}
  {p : RelativePath} {f g : Feature} {provider : Provider}

include hl

/-- In the files that belong to no entity the tasks of a full generation and of an action are those
for layers, persistence, the entry point and the registrations. -/
theorem actionsOn_commonPlans (hp : IsPlace l layer kind p) (hkind : kind ∈ commonKinds) (hf : f.WellNamed)
    (provider : Provider) :
    actionsOn p (Site.crudPlan ⟨l, 0⟩ f provider)
        = actionsOn p (Site.layerGraph ⟨l, 0⟩) ++ actionsOn p (Site.persistence ⟨l, 0⟩ f provider)
          ++ actionsOn p (Site.applicationLayer ⟨l, 0⟩) ++ actionsOn p (Site.entryPoint ⟨l, 0⟩ f)
          ++ actionsOn p (Site.infrastructureWiring ⟨l, 0⟩ f provider)
      ∧ ∀ u : UseCase, u.WellNamed → actionsOn p (Site.actionPlan ⟨l, 0⟩ f u provider)
        = actionsOn p (Site.layerGraph ⟨l, 0⟩) ++ actionsOn p (Site.persistence ⟨l, 0⟩ f provider)
          ++ actionsOn p (Site.applicationLayer ⟨l, 0⟩) ++ actionsOn p (Site.entryPoint ⟨l, 0⟩ f)
          ++ actionsOn p (Site.infrastructureWiring ⟨l, 0⟩ f provider) := by
  have hnone : ∀ {ts : List Task} {kinds : List ArtifactKind}, (∀ t ∈ ts, t.LiesIn l kinds) →
      (∀ k ∈ kinds, k ∉ commonKinds) → actionsOn p ts = [] :=
    fun hts hkinds => actionsOn_of_lies hl hp hts fun hmem => hkinds kind hmem hkind
  have hentity := hnone (Site.entity_lies (s := ⟨l, 0⟩) hf) (by decide)
  have hmethods := fun ms => hnone (Site.repository_lies (s := ⟨l, 0⟩) hf ms) (by decide)
  have huseCase := fun {u : UseCase} (hu : u.WellNamed) =>
    hnone (Site.useCase_lies (s := ⟨l, 0⟩) hf hu) (by decide)
  have hexposure := fun u => hnone (Site.exposure_lies (s := ⟨l, 0⟩) hf u) (by decide)
  have huseCases : actionsOn p ((UseCase.fullSet f).flatMap (Site.useCase ⟨l, 0⟩ f)) = [] := by
    rw [actionsOn_flatMap, List.flatMap_eq_nil_iff]
    exact fun u hu => huseCase (Site.fullSet_wellNamed hf u hu)
  have hexposures : actionsOn p ((UseCase.fullSet f).flatMap (Site.exposure ⟨l, 0⟩ f)) = [] := by
    rw [actionsOn_flatMap, List.flatMap_eq_nil_iff]
    exact fun u _ => hexposure u
  refine ⟨?_, fun u hu => ?_⟩
  · simp only [Site.crudPlan, actionsOn_append, hentity, hmethods, huseCases, hexposures, List.append_nil]
  · simp only [Site.actionPlan, actionsOn_append, hmethods, huseCase hu, hexposure, List.append_nil]

theorem actionsOn_persistence (f : Feature) (provider : Provider) :
    actionsOn l.dbContext (Site.persistence ⟨l, 0⟩ f provider)
      = SharedFile.dbContext.actions l provider f := by
  have hmanifest : l.manifest .infrastructure ≠ l.dbContext :=
    (place_manifest hl (by decide)).ne hl place_dbContext (by decide)
  refine (actionsOn_cons_self rfl).trans (congrArg _ ((actionsOn_cons_self rfl).trans (congrArg _ ?_)))
  exact (actionsOn_cons_of_ne hmanifest).trans (actionsOn_cons_of_ne hmanifest)

theorem actionsOn_entryPoint (f : Feature) (provider : Provider) :
    actionsOn l.entryPoint (Site.entryPoint ⟨l, 0⟩ f) = SharedFile.entryPoint.actions l provider f := by
  have hmanifest : l.manifest .api ≠ l.entryPoint :=
    (place_manifest hl (by decide)).ne hl place_entryPoint (by decide)
  have hpackage : actionsOn l.entryPoint
      [Site.package ⟨l, 0⟩ .api "Microsoft.EntityFrameworkCore.Design" "9.0.0"] = [] :=
    actionsOn_cons_of_ne hmanifest
  have hfile : actionsOn l.entryPoint [Site.file "entry point" l.entryPoint (Site.mk l 0).entryTemplate
        (Site.context ⟨l, 0⟩), ⟨"sample endpoint", l.entryPoint, .clean Site.weatherSample⟩]
      = [.file (Site.mk l 0).entryTemplate.name (Site.context ⟨l, 0⟩), .clean Site.weatherSample] :=
    (actionsOn_cons_self rfl).trans (congrArg _ (actionsOn_cons_self rfl))
  have hmapping : actionsOn l.entryPoint [Site.lineBefore "app.Run();" ((Site.mk l 0).entryMapping f)
        l.entryPoint (Site.mk l 0).entryTemplate (Site.context ⟨l, 0⟩)]
      = [SharedFile.entryPoint.own l f] := actionsOn_cons_self rfl
  rw [Site.entryPoint]
  simp only [actionsOn_append]
  have hregistrations : actionsOn l.entryPoint ((Site.mk l 0).entryRegistrations.map fun line =>
        Site.lineBefore "var app = builder.Build();" line l.entryPoint (Site.mk l 0).entryTemplate
          (Site.context ⟨l, 0⟩))
      = (Site.mk l 0).entryRegistrations.map fun line =>
        .declare ((Member.registration line).declaration l) (Site.context ⟨l, 0⟩) :=
    actionsOn_map fun _ _ => rfl
  have himports : actionsOn l.entryPoint ((Site.mk l 0).entryImports.map (Site.importLine l.entryPoint))
      = (Site.mk l 0).entryImports.map .importLine := actionsOn_map fun _ _ => rfl
  rw [hpackage, hfile, hmapping, hregistrations, himports, List.append_nil]
  rfl

/-- To a shared file every order that generates something of an entity does the same but for its
line. -/
theorem Order.actionsOn_shared (shared : SharedFile) {o : Order} (ho : o.WellNamed) (provider : Provider)
    {made : Generation} (hmade : o.generation = some made) :
    actionsOn (shared.path l) (o.tasks l provider) = shared.actions l provider made.feature := by
  have hplans : ∀ {f : Feature}, f.WellNamed →
      actionsOn (shared.path l) (Site.crudPlan ⟨l, 0⟩ f provider) = shared.actions l provider f
        ∧ ∀ u : UseCase, u.WellNamed → actionsOn (shared.path l) (Site.actionPlan ⟨l, 0⟩ f u provider)
          = shared.actions l provider f := by
    intro f hf
    have hnone : ∀ {ts : List Task} {kinds : List ArtifactKind}, (∀ t ∈ ts, t.LiesIn l kinds) →
        shared.kind ∉ kinds → actionsOn (shared.path l) ts = [] :=
      fun hts hkinds => actionsOn_of_lies hl shared.place hts hkinds
    have hplan := actionsOn_commonPlans hl shared.place (by cases shared <;> decide) hf provider
    have hgraph := hnone (Site.layerGraph_lies (s := ⟨l, 0⟩) hl) (by cases shared <;> decide)
    have hlayer : actionsOn (shared.path l) (Site.applicationLayer ⟨l, 0⟩) = [] := by
      cases shared with
      | dbContext | entryPoint => exact hnone (Site.applicationLayer_lies (s := ⟨l, 0⟩) hl) (by decide)
      | wiring => exact actionsOn_applicationLayer hl
    rw [hgraph, hlayer] at hplan
    have hall : actionsOn (shared.path l) (Site.persistence ⟨l, 0⟩ f provider)
        ++ actionsOn (shared.path l) (Site.entryPoint ⟨l, 0⟩ f)
        ++ actionsOn (shared.path l) (Site.infrastructureWiring ⟨l, 0⟩ f provider)
        = shared.actions l provider f := by
      have hpersistence := fun h => hnone (Site.persistence_lies (s := ⟨l, 0⟩) hl f provider) h
      have hentry := fun h => hnone (Site.entryPoint_lies (s := ⟨l, 0⟩) hl f) h
      have hwiring := fun h => hnone (Site.infrastructureWiring_lies (s := ⟨l, 0⟩) f provider) h
      cases shared with
      | dbContext =>
          rw [hentry (by decide), hwiring (by decide), List.append_nil, List.append_nil]
          exact actionsOn_persistence hl f provider
      | entryPoint =>
          rw [hpersistence (by decide), hwiring (by decide), List.append_nil, List.nil_append]
          exact actionsOn_entryPoint hl f provider
      | wiring =>
          rw [hpersistence (by decide), hentry (by decide), List.nil_append]
          exact (actionsOn_infrastructureWiring f provider).trans rfl
    simp only [List.nil_append, List.append_nil] at hplan
    exact ⟨hplan.1.trans hall, fun u hu => (hplan.2 u hu).trans hall⟩
  cases o with
  | crud f =>
      cases hmade
      exact (hplans ho).1
  | action f r =>
      cases hmade
      exact (hplans ho.1).2 _ (useCase_wellNamed ho.1 ho.2)
  | service _ _ _ | constant _ _ | enum _ _ => cases hmade

/-- Nothing else declares the line of an entity. -/
theorem Order.not_declares_shared (shared : SharedFile) {o : Order} (ho : o.WellNamed)
    (provider : Provider)
    (hnone : o.generation = none) (f : Feature) :
    (actionsOn (shared.path l) (o.tasks l provider)).any
      (Action.declares ((shared.member f).declaration l).detection) = false := by
  have hempty : ∀ {ts : List Task} {kinds : List ArtifactKind}, (∀ t ∈ ts, t.LiesIn l kinds) →
      shared.kind ∉ kinds → (actionsOn (shared.path l) ts).any
        (Action.declares ((shared.member f).declaration l).detection) = false := by
    intro ts kinds hts hkinds
    rw [actionsOn_of_lies hl shared.place hts hkinds]
    rfl
  cases o with
  | crud f | action f r => cases hnone
  | constant f name =>
      exact hempty (Site.constantPlan_lies (s := ⟨l, 0⟩) ho.1 name) (by cases shared <;> decide)
  | enum f name => exact hempty (Site.enumPlan_lies (s := ⟨l, 0⟩) ho.1 ho.2) (by cases shared <;> decide)
  | service p name lifetime =>
      cases shared with
      | dbContext | entryPoint =>
          exact hempty (Site.servicePlan_lies (s := ⟨l, 0⟩) hl ho.1 ho.2 lifetime) (by decide)
      | wiring =>
          rw [SharedFile.path, Order.actionsOn_wiring hl ho provider]
          cases p with
          | shared | featureLocal _ => rfl
          | external e =>
              have hservice : Detection.serviceRegistration name ≠ Detection.repositoryRegistration f := by
                unfold Detection.serviceRegistration Detection.repositoryRegistration
                rw [Ne, ← String.toList_inj]
                simp
              have hclient : e.clientDetection ≠ Detection.repositoryRegistration f := by
                unfold Detection.repositoryRegistration
                rw [Ne, ← String.toList_inj]
                cases e <;> simp [ExternalSystem.clientDetection]
              simp only [Order.registrations, Site.externalRegistrations, List.any_append,
                Bool.or_eq_false_iff]
              refine ⟨⟨?_, ?_⟩, ?_⟩
              · simp [Action.declares, SharedFile.member, Member.declaration, hservice]
              · split <;> simp [Action.declares]
              · simp [Action.declares, SharedFile.member, Member.declaration, hclient]

end

namespace SharedFile

section

variable {l : Locator} (hl : IsProject l.project) {f g : Feature} (provider : Provider)
  {shared : SharedFile} (root : String) {X Y : List Action}

include hl

theorem suited_actions (hf : f.WellNamed) (provider : Provider) (shared : SharedFile) :
    ∀ a ∈ shared.actions l provider f, a.Suited l (shared.path l) shared.kind := by
  rw [← Order.actionsOn_shared hl shared (o := .crud f) hf provider rfl]
  exact suited_of_mem_actionsOn hl shared.place (Order.tasks_belong (o := .crud f) hl hf provider)

/-- Imports are of namespaces. -/
theorem imports_spec (hf : f.WellNamed) (shared : SharedFile) : ∀ x ∈ shared.imports l,
    ∃ space, Made isDottedChar space ∧ x = "using " ++ space ++ ";" := by
  intro x hx
  have hsuited := suited_actions hl hf .postgres shared (.importLine x)
    (mem_actions.2 (.inr (.inr ⟨x, hx, rfl⟩)))
  generalize shared.kind = kind at hsuited
  cases hsuited with
  | importLine hspace _ => exact ⟨_, hspace, rfl⟩

omit hl in
/-- What comes before the line of an entity declares no such line. -/
theorem opening_declares (provider : Provider) (g : Feature) (shared : SharedFile) :
    (shared.opening l provider).any (Action.declares ((shared.member g).declaration l).detection)
      = false := by
  cases shared with
  | dbContext => rfl
  | entryPoint =>
      have hregistration : ∀ line ∈ (Site.mk l 0).entryRegistrations,
          line ≠ (Site.mk l 0).entryMapping g := by
        have hlines : ∀ line ∈ (Site.mk l 0).entryRegistrations, line.toList.head? = some 'b' := by
          unfold Site.entryRegistrations
          cases l.style <;> simp
        rintro line hline rfl
        have hboth := (entryMapping_head l g).symm.trans (hlines _ hline)
        cases hboth
      rw [opening, List.any_append, Bool.or_eq_false_iff]
      refine ⟨rfl, ?_⟩
      rw [List.any_map, List.any_eq_false]
      intro line hline
      simpa [Action.declares, Member.declaration, member] using hregistration line hline
  | wiring =>
      simp [opening, Action.declares, Member.declaration, member,
        (repositoryRegistration_ne_context g).symm]

omit hl in
theorem actions_declares (shared : SharedFile) : (shared.actions l provider f).any
      (Action.declares ((shared.member g).declaration l).detection)
    = (((shared.member f).declaration l).detection == ((shared.member g).declaration l).detection) := by
  rw [actions, List.any_append, List.any_append, opening_declares, Bool.false_or]
  simp [own, Action.declares]

/-- The lines of a shared file before the line of an entity goes in. -/
def openLines (l : Locator) (root : String) (provider : Provider) (X : List Action) (f : Feature)
    (shared : SharedFile) : List String :=
  (replayed root (shared.path l) (X ++ shared.opening l provider)).getD (shared.own l f).base

/-- The lines of a shared file with the line of an entity. -/
def withLine (l : Locator) (root : String) (provider : Provider) (X : List Action) (f : Feature)
    (shared : SharedFile) : List String :=
  importAll (shared.imports l) (shared.anchor.put (shared.openLines l root provider X f)
    [shared.line l f] shared.separated)

/-- A new entity gets its line. -/
theorem replayed_new (hX : ∀ a ∈ X, a.Suited l (shared.path l) shared.kind) (hf : f.WellNamed)
    (hnew : X.any (Action.declares ((shared.member f).declaration l).detection) = false) :
    replayed root (shared.path l) (X ++ shared.opening l provider ++ [shared.own l f])
        = some (shared.anchor.put (shared.openLines l root provider X f)
          [shared.line l f] shared.separated)
      ∧ replayed root (shared.path l) (X ++ shared.actions l provider f)
        = some (shared.withLine l root provider X f) := by
  have hsuited := suited_actions hl hf provider shared
  have hopening : ∀ a ∈ X ++ shared.opening l provider, a.Suited l (shared.path l) shared.kind :=
    List.forall_mem_append.2 ⟨hX, fun a ha => hsuited a (mem_actions.2 (.inl ha))⟩
  have hown := hsuited (shared.own l f) (mem_actions.2 (.inr (.inl rfl)))
  have himports : ∀ x ∈ shared.imports l, (Action.importLine x).Suited l (shared.path l) shared.kind :=
    fun x hx => hsuited _ (mem_actions.2 (.inr (.inr ⟨x, hx, rfl⟩)))
  have hnew' : (X ++ shared.opening l provider).any
      (Action.declares ((shared.member f).declaration l).detection) = false := by
    rw [List.any_append, hnew, opening_declares, Bool.or_false]
  obtain ⟨hblock, hanchor, hseparated⟩ := shared.declaration_member l f
  have hdeclare := replayed_declare hl root shared.place hopening hown
    (shared.member_wellNamed hf) (shared.member_kind f) hnew'
  rw [hblock, hanchor, hseparated] at hdeclare
  refine ⟨hdeclare, ?_⟩
  rw [actions, ← List.append_assoc, ← List.append_assoc]
  exact replayed_imports hl root shared.place
    (List.forall_mem_append.2 ⟨hopening, List.forall_mem_singleton.2 hown⟩) himports hdeclare

/-- A second new entity gets its line at the place that is found then. -/
theorem replayed_second (hX : ∀ a ∈ X, a.Suited l (shared.path l) shared.kind) (hf : f.WellNamed)
    (hg : g.WellNamed)
    (hnewf : X.any (Action.declares ((shared.member f).declaration l).detection) = false)
    (hnewg : X.any (Action.declares ((shared.member g).declaration l).detection) = false)
    (hne : ((shared.member f).declaration l).detection ≠ ((shared.member g).declaration l).detection) :
    replayed root (shared.path l) (X ++ shared.actions l provider f ++ shared.actions l provider g)
      = some (shared.anchor.put (shared.withLine l root provider X f)
        [shared.line l g] shared.separated) := by
  obtain ⟨-, hfirst⟩ := replayed_new hl provider root hX hf hnewf
  have hsuitedf := suited_actions hl hf provider shared
  have hsuitedg := suited_actions hl hg provider shared
  have hfront : ∀ a ∈ X ++ shared.actions l provider f, a.Suited l (shared.path l) shared.kind :=
    List.forall_mem_append.2 ⟨hX, hsuitedf⟩
  have hnew : (X ++ shared.actions l provider f).any
      (Action.declares ((shared.member g).declaration l).detection) = false := by
    rw [List.any_append, hnewg, actions_declares, Bool.false_or, beq_eq_false_iff_ne]
    exact hne
  -- what comes before the second line was done for the first one, and so were the imports
  have hopening := replay_again hl root shared.place hfront
    fun a (ha : a ∈ shared.opening l provider) => List.mem_append_right _ (mem_actions.2 (.inl ha))
  obtain ⟨hsecond, -⟩ := replayed_new hl provider root hfront hg hnew
  have hlines : shared.openLines l root provider (X ++ shared.actions l provider f) g
      = shared.withLine l root provider X f := by
    rw [openLines, replayed, hopening, ← replayed, hfirst, Option.getD_some]
  have hstep : ∀ a ∈ X ++ shared.actions l provider f ++ shared.opening l provider ++ [shared.own l g],
      a.Suited l (shared.path l) shared.kind := by
    refine List.forall_mem_append.2 ⟨List.forall_mem_append.2 ⟨hfront, fun a ha => ?_⟩, ?_⟩
    · exact hsuitedg a (mem_actions.2 (.inl ha))
    · exact List.forall_mem_singleton.2 (hsuitedg _ (mem_actions.2 (.inr (.inl rfl))))
  have hdone : ∀ a ∈ (shared.imports l).map Action.importLine,
      a ∈ X ++ shared.actions l provider f ++ shared.opening l provider ++ [shared.own l g] :=
    List.forall_mem_map.2 fun x hx => List.mem_append_left _ (List.mem_append_left _
      (List.mem_append_right _ (mem_actions.2 (.inr (.inr ⟨x, hx, rfl⟩)))))
  have himports := replay_again hl root shared.place hstep hdone
  have hsplit : X ++ shared.actions l provider f ++ shared.actions l provider g
      = X ++ shared.actions l provider f ++ shared.opening l provider ++ [shared.own l g]
        ++ (shared.imports l).map .importLine := by
    rw [actions, actions, ← List.append_assoc, ← List.append_assoc]
  rw [hsplit, replayed, himports, ← replayed, hsecond, hlines]

/-- The lines with one entity or the other are the same but for the line of the entity, and a second
line goes in where the first one did. -/
theorem twins_withLine (hX : ∀ a ∈ X, a.Suited l (shared.path l) shared.kind) (hf : f.WellNamed)
    (hnewf : X.any (Action.declares ((shared.member f).declaration l).detection) = false) :
    ∃ indent, (∀ h : Feature, (shared.anchor.locate (shared.withLine l root provider X h)).indent = indent)
      ∧ shared.anchor.Alike (Artifact.indentBy indent (shared.line l f))
        (Artifact.indentBy indent (shared.line l g))
      ∧ Twins (Artifact.indentBy indent (shared.line l f)) (Artifact.indentBy indent (shared.line l g))
        (shared.withLine l root provider X f) (shared.withLine l root provider X g) := by
  have hsame : ∀ h : Feature,
      shared.openLines l root provider X h = shared.openLines l root provider X f :=
    fun h => congrArg _ (shared.base_own l h f)
  obtain ⟨hput, -⟩ := replayed_new hl provider root hX hf hnewf
  have hplain : ∀ x ∈ shared.openLines l root provider X f, IsPlain x := by
    have hsuited := suited_actions hl hf provider shared
    have hkept := (written_replayed hl root shared.place (List.forall_mem_append.2
      ⟨List.forall_mem_append.2 ⟨hX, fun a ha => hsuited a (mem_actions.2 (.inl ha))⟩,
        List.forall_mem_singleton.2
          (hsuited (shared.own l f) (mem_actions.2 (.inr (.inl rfl))))⟩)).kept _ hput
    exact fun x hx => hkept.plain x ((Anchor.put_spliced ..).sublist.subset hx)
  have himports := imports_spec hl hf shared
  have halike := Anchor.Admits.alike (shared.admits l f) (shared.admits l g)
    (Anchor.isIndent_locate hplain shared.anchor)
  refine ⟨_, fun h => ?_, halike, ?_⟩
  · rw [withLine, hsame h, Anchor.indent_locate_importAll shared.marked shared.import_marker
      fun z hz => (himports z hz).imp fun _ hspace => hspace.2]
    exact Anchor.indent_locate_put shared.marked
      (List.forall_mem_singleton.2 ((shared.admits l h).bears _))
  · rw [withLine, withLine, hsame g]
    refine Twins.importAll (Anchor.twins_put ..) halike.afterImports fun z hz => ?_
    obtain ⟨space, hspace, rfl⟩ := himports z hz
    exact isImportLine_import hspace

/-- What was done for an entity before need not be done again. -/
theorem replay_known (hX : ∀ a ∈ X, a.Suited l (shared.path l) shared.kind) (hf : f.WellNamed)
    (hknown : X.any (Action.declares ((shared.member f).declaration l).detection) = true)
    (hrest : ∀ a ∈ shared.actions l provider f, a ≠ shared.own l f → a ∈ X) :
    replay root (shared.path l) (X ++ shared.actions l provider f) = replay root (shared.path l) X := by
  have hsuited := suited_actions hl hf provider shared
  refine replay_rests hl root shared.place (List.forall_mem_append.2 ⟨hX, hsuited⟩) fun a ha => ?_
  by_cases hown : a = shared.own l f
  · subst hown
    exact ((written_replayed hl root shared.place hX).rests_iff hl (hsuited _ ha)).2 hknown
  · exact rests_replayed hl root shared.place hX a (hrest a ha hown)

end

end SharedFile

/-! ## Two entities -/

section

variable {l : Locator} (hl : IsProject l.project) {f g : Feature} {provider : Provider}
  {shared : SharedFile} {root : String} {os : List Order}

include hl

/-- If an entity has its line, all that is done for an entity was done. -/
theorem Order.shared_known (hos : ∀ o ∈ os, o.WellNamed) (f : Feature) (provider : Provider)
    (shared : SharedFile)
    (hknown : (actionsOn (shared.path l) (os.flatMap (Order.tasks l provider))).any
      (Action.declares ((shared.member f).declaration l).detection) = true) :
    ∀ a ∈ shared.actions l provider f, a ≠ shared.own l f →
      a ∈ actionsOn (shared.path l) (os.flatMap (Order.tasks l provider)) := by
  rw [actionsOn_flatMap, List.any_flatMap, List.any_eq_true] at hknown
  obtain ⟨o, ho, hany⟩ := hknown
  cases hgeneration : o.generation with
  | none =>
      rw [Order.not_declares_shared hl shared (hos o ho) provider hgeneration f] at hany
      cases hany
  | some made =>
      intro a ha hown
      rw [actionsOn_flatMap, List.mem_flatMap]
      refine ⟨o, ho, ?_⟩
      rw [Order.actionsOn_shared hl shared (hos o ho) provider hgeneration, SharedFile.mem_actions]
      obtain hopening | rfl | himport := SharedFile.mem_actions.1 ha
      · exact .inl hopening
      · exact absurd rfl hown
      · exact .inr (.inr himport)

/-- **The lines of two entities in a shared file.**  In whichever order they are made sure of, the
lines of the file are the same up to their order. -/
theorem SharedFile.exchange (hos : ∀ o ∈ os, o.WellNamed) (hf : f.WellNamed) (hg : g.WellNamed)
    (hname : f.name ≠ g.name) (provider : Provider) (shared : SharedFile) (root : String) :
    ∃ ls ls', replayed root (shared.path l)
      (actionsOn (shared.path l) (os.flatMap (Order.tasks l provider))
          ++ shared.actions l provider f ++ shared.actions l provider g) = some ls
      ∧ replayed root (shared.path l) (actionsOn (shared.path l) (os.flatMap (Order.tasks l provider))
          ++ shared.actions l provider g ++ shared.actions l provider f) = some ls'
      ∧ ls.Perm ls' := by
  have hX : ∀ a ∈ actionsOn (shared.path l) (os.flatMap (Order.tasks l provider)),
      a.Suited l (shared.path l) shared.kind := by
    refine suited_of_mem_actionsOn hl shared.place fun t ht => ?_
    obtain ⟨o, ho, ht⟩ := List.mem_flatMap.1 ht
    exact Order.tasks_belong hl (hos o ho) provider t ht
  have hrest := fun f => Order.shared_known hl hos f provider shared
  generalize actionsOn (shared.path l) (os.flatMap (Order.tasks l provider)) = X at hX hrest
  have hsuitedf := suited_actions hl hf provider shared
  have hsuitedg := suited_actions hl hg provider shared
  -- it is enough that both ways leave the same
  have hequal : replay root (shared.path l)
      (X ++ shared.actions l provider f ++ shared.actions l provider g)
        = replay root (shared.path l) (X ++ shared.actions l provider g ++ shared.actions l provider f) →
      ∃ ls ls', replayed root (shared.path l)
          (X ++ shared.actions l provider f ++ shared.actions l provider g) = some ls
        ∧ replayed root (shared.path l)
          (X ++ shared.actions l provider g ++ shared.actions l provider f) = some ls'
        ∧ ls.Perm ls' := by
    intro heq
    have hrests := rests_replayed hl root shared.place
      (List.forall_mem_append.2 ⟨List.forall_mem_append.2 ⟨hX, hsuitedf⟩, hsuitedg⟩) (shared.own l g)
      (List.mem_append_right _ (mem_actions.2 (.inr (.inl rfl))))
    obtain ⟨samples, hclean⟩ | ⟨ls, hls, -⟩ := hrests
    · cases hclean
    · exact ⟨ls, ls, hls, (congrArg (Option.map lines) heq).symm.trans hls, .refl ls⟩
  -- an entity that has its line already leaves nothing to do before and after the other one
  have habsorb : ∀ {f g : Feature}, f.WellNamed → g.WellNamed →
      X.any (Action.declares ((shared.member f).declaration l).detection) = true →
      replay root (shared.path l) (X ++ shared.actions l provider f ++ shared.actions l provider g)
        = replay root (shared.path l)
          (X ++ shared.actions l provider g ++ shared.actions l provider f) := by
    intro f g hf hg hknown
    have hbefore := replay_known hl provider root hX hf hknown (hrest f hknown)
    have hX' : ∀ a ∈ X ++ shared.actions l provider g, a.Suited l (shared.path l) shared.kind :=
      List.forall_mem_append.2 ⟨hX, suited_actions hl hg provider shared⟩
    have hafter := replay_known hl provider root hX' hf (by rw [List.any_append, hknown, Bool.true_or])
      fun a ha hown => List.mem_append_left _ (hrest f hknown a ha hown)
    exact (replay_append_congr root hbefore _).trans hafter.symm
  by_cases hknownf : X.any (Action.declares ((shared.member f).declaration l).detection) = true
  · exact hequal (habsorb hf hg hknownf)
  by_cases hknowng : X.any (Action.declares ((shared.member g).declaration l).detection) = true
  · exact hequal (habsorb hg hf hknowng).symm
  by_cases hdetection : ((shared.member f).declaration l).detection
    = ((shared.member g).declaration l).detection
  · refine hequal ?_
    rw [actions_eq_of_detection hf hg hname shared hdetection]
  rw [Bool.not_eq_true] at hknownf hknowng
  refine ⟨_, _, replayed_second hl provider root hX hf hg hknownf hknowng hdetection,
    replayed_second hl provider root hX hg hf hknowng hknownf (Ne.symm hdetection), ?_⟩
  obtain ⟨indent, hindent, halike, htwins⟩ := twins_withLine (g := g) hl provider root hX hf
    hknownf
  rw [← hindent f] at halike htwins
  exact htwins.put_perm halike shared.separated

/-! ## Elsewhere -/

omit hl in
theorem actionsOn_persistence_of_ne {p : RelativePath} (hp : p ≠ l.dbContext) (f g : Feature)
    (provider : Provider) : actionsOn p (Site.persistence ⟨l, 0⟩ f provider)
      = actionsOn p (Site.persistence ⟨l, 0⟩ g provider) :=
  (actionsOn_cons_of_ne hp.symm).trans (actionsOn_cons_of_ne hp.symm).symm

omit hl in
theorem actionsOn_entryPoint_of_ne {p : RelativePath} (hp : p ≠ l.entryPoint) (f g : Feature) :
    actionsOn p (Site.entryPoint ⟨l, 0⟩ f) = actionsOn p (Site.entryPoint ⟨l, 0⟩ g) := by
  have hmapping : ∀ f, actionsOn p [Site.lineBefore "app.Run();" ((Site.mk l 0).entryMapping f)
      l.entryPoint (Site.mk l 0).entryTemplate (Site.context ⟨l, 0⟩)] = [] :=
    fun f => actionsOn_cons_of_ne hp.symm
  rw [Site.entryPoint, Site.entryPoint]
  simp only [actionsOn_append]
  rw [hmapping f, hmapping g]

omit hl in
theorem actionsOn_infrastructureWiring_of_ne {p : RelativePath} (hp : p ≠ l.wiring .infrastructure)
    (f : Feature) (provider : Provider) :
    actionsOn p (Site.infrastructureWiring ⟨l, 0⟩ f provider) = [] := by
  refine actionsOn_eq_nil fun t ht hpath => hp ?_
  have hall : ∀ t ∈ Site.infrastructureWiring ⟨l, 0⟩ f provider, t.path = l.wiring .infrastructure := by
    simp [Site.infrastructureWiring, Site.file, Site.importLine]
  exact hpath.symm.trans (hall t ht)

omit hl in
/-- The tasks of a generation are on files of its members. -/
theorem Generation.exists_member {made : Generation} {t : Task} (ht : t ∈ made.tasks ⟨l, 0⟩) :
    ∃ M ∈ made.members, t.path = M.path l := by
  simp only [tasks, Site.repository, List.mem_append, List.mem_map, List.mem_flatMap] at ht
  obtain (((⟨m, hm, rfl⟩ | ⟨m, hm, rfl⟩) | ⟨u, hu, ht⟩) | ⟨u, hu, ht⟩) := ht
  · exact ⟨_, method_mem_members .contract hm, rfl⟩
  · exact ⟨_, method_mem_members .impl hm, rfl⟩
  · simp only [Site.useCase, Site.useCaseType, List.mem_cons, List.not_mem_nil, or_false] at ht
    obtain rfl | rfl | rfl := ht
    · exact ⟨_, useCase_mem_members .request hu, rfl⟩
    · exact ⟨_, useCase_mem_members .handler hu, rfl⟩
    · exact ⟨_, useCase_mem_members .validator hu, rfl⟩
  · simp only [Site.exposure, List.mem_cons, List.not_mem_nil, or_false] at ht
    obtain rfl | rfl := ht <;> exact ⟨_, exposure_mem_members hu, rfl⟩

/-- Everything that is generated for an entity. -/
def Generation.full (f : Feature) : Generation :=
  ⟨f, Site.distinctMethods (UseCase.fullSet f), UseCase.fullSet f⟩

omit hl in
theorem Generation.wellNamed_full (hf : f.WellNamed) : (Generation.full f).WellNamed :=
  Order.generation_wellNamed (o := .crud f) hf _ rfl

/-- What a full generation does to the files of its entity. -/
def ownActions (l : Locator) (p : RelativePath) (f : Feature) : List Action :=
  actionsOn p [Site.entityType ⟨l, 0⟩ f, Site.persistenceMapping ⟨l, 0⟩ f]
    ++ actionsOn p ((Generation.full f).tasks ⟨l, 0⟩)

/-- In a file of a member the full generation of another entity has nothing to do. -/
theorem ownActions_of_member (hf : f.WellNamed) (hg : g.WellNamed) (hname : f.name ≠ g.name)
    (hplural : f.plural ≠ g.plural) {M : Member} (hM : M ∈ (Generation.full f).members) :
    ownActions l (M.path l) g = [] := by
  have hwell := Generation.wellNamed_full hf
  obtain ⟨form, hform⟩ := Option.isSome_iff_exists.1 (Generation.members_form l.style M hM)
  have hkinds := Member.form_kind hform
  obtain ⟨layer, hplace⟩ := M.place (l := l) (Generation.members_wellNamed hwell M hM)
  have hentity := actionsOn_of_lies hl hplace (Site.entity_lies (s := ⟨l, 0⟩) hg) (by
    revert hkinds
    cases M.kind <;> decide)
  rw [ownActions, hentity,
    Generation.actionsOn_other hl hwell (Generation.wellNamed_full hg) hname.symm hplural.symm M hM]
  rfl

omit hl in
/-- A full generation touches the files of its entity and those of its members. -/
theorem ownActions_cases (l : Locator) (p : RelativePath) (f : Feature) :
    ownActions l p f = [] ∨ p = l.entityType f ∨ p = l.persistenceMapping f
      ∨ ∃ M ∈ (Generation.full f).members, p = M.path l := by
  by_cases hmember : ∃ M ∈ (Generation.full f).members, p = M.path l
  · exact .inr (.inr (.inr hmember))
  by_cases hentity : p = l.entityType f
  · exact .inr (.inl hentity)
  by_cases hmapping : p = l.persistenceMapping f
  · exact .inr (.inr (.inl hmapping))
  refine .inl (List.append_eq_nil_iff.2
    ⟨actionsOn_eq_nil ?_, actionsOn_eq_nil fun t ht hpath => hmember ?_⟩)
  · simpa [Site.entityType, Site.persistenceMapping, Site.file] using
      ⟨Ne.symm hentity, Ne.symm hmapping⟩
  · obtain ⟨M, hM, hpath'⟩ := Generation.exists_member ht
    exact ⟨M, hM, hpath.symm.trans hpath'⟩

/-- Two full generations of entities under different names touch different files of entities. -/
theorem ownActions_apart (hf : f.WellNamed) (hg : g.WellNamed) (hname : f.name ≠ g.name)
    (hplural : f.plural ≠ g.plural) (p : RelativePath) :
    ownActions l p f = [] ∨ ownActions l p g = [] := by
  have hkinds := (place_entityType (l := l) hf).ne hl (place_persistenceMapping (l := l) hg) (by decide)
  have hkinds' := (place_entityType (l := l) hg).ne hl (place_persistenceMapping (l := l) hf) (by decide)
  obtain hnil | hf' | hf' | ⟨M, hM, rfl⟩ := ownActions_cases l p f
  · exact .inl hnil
  · obtain hnil | hg' | hg' | ⟨M, hM, rfl⟩ := ownActions_cases l p g
    · exact .inr hnil
    · exact absurd (entityType_injective hl hf hg (hf'.symm.trans hg')) hname
    · exact absurd (hf'.symm.trans hg') hkinds
    · exact .inl (ownActions_of_member hl hg hf hname.symm hplural.symm hM)
  · obtain hnil | hg' | hg' | ⟨M, hM, rfl⟩ := ownActions_cases l p g
    · exact .inr hnil
    · exact absurd (hg'.symm.trans hf') hkinds'
    · exact absurd (persistenceMapping_injective hl hf hg (hf'.symm.trans hg')) hname
    · exact .inl (ownActions_of_member hl hg hf hname.symm hplural.symm hM)
  · exact .inr (ownActions_of_member hl hf hg hname hplural hM)

/-- In all other files the order of two full generations makes no difference. -/
theorem crudPlan_exchange {p : RelativePath} {layer : Layer} {kind : ArtifactKind}
    (hp : IsPlace l layer kind p) (hother : ∀ shared : SharedFile, p ≠ shared.path l) (hf : f.WellNamed)
    (hg : g.WellNamed) (hname : f.name ≠ g.name) (hplural : f.plural ≠ g.plural) (provider : Provider) :
    actionsOn p (Site.crudPlan ⟨l, 0⟩ f provider) ++ actionsOn p (Site.crudPlan ⟨l, 0⟩ g provider)
      = actionsOn p (Site.crudPlan ⟨l, 0⟩ g provider)
        ++ actionsOn p (Site.crudPlan ⟨l, 0⟩ f provider) := by
  by_cases hkind : kind ∈ commonKinds
  · have hsame : actionsOn p (Site.crudPlan ⟨l, 0⟩ f provider)
        = actionsOn p (Site.crudPlan ⟨l, 0⟩ g provider) := by
      rw [(actionsOn_commonPlans hl hp hkind hf provider).1,
        (actionsOn_commonPlans hl hp hkind hg provider).1,
        actionsOn_persistence_of_ne (hother .dbContext) f g,
        actionsOn_entryPoint_of_ne (hother .entryPoint) f g,
        actionsOn_infrastructureWiring_of_ne (hother .wiring) f,
        actionsOn_infrastructureWiring_of_ne (hother .wiring) g]
    rw [hsame]
  · rw [(actionsOn_entityPlans hl hp hkind f provider).1, (actionsOn_entityPlans hl hp hkind g provider).1]
    change ownActions l p f ++ ownActions l p g = ownActions l p g ++ ownActions l p f
    obtain hnil | hnil := ownActions_apart hl hf hg hname hplural p <;> simp [hnil]

end

end Scaffold
