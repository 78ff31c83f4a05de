import Mathlib
import Scaffold.Proofs.Change
import Scaffold.Proofs.UseCase

/-!
# The inventory of a project

An `Item` is an artifact that requests address, under the names it belongs to.  An artifact that is
found at its path is taken as generated, so two items at one path are one for every later request.

Most items lie apart.  The exceptions are the pairs in `Collision`, and no others
(`Locator.pathOf_eq_iff`): a path shows of an entity only its singular or only its plural, the shared
constants are those of an entity `App`, an interface is called like the implementation of a service
with an `I` before its name, and the interfaces of all external systems are in one folder.
-/

namespace Scaffold

open Scaffold.Text

/-! ## Items -/

/-- An artifact that requests address. -/
inductive Item where
  | entityType (f : Feature)
  | enumType (name : String)
  | constants (f : Option Feature)
  | persistenceMapping (f : Feature)
  | dbContext
  | repositoryContract (f : Feature)
  | repositoryImpl (f : Feature)
  | useCaseRequest (f : Feature) (op : Operation)
  | useCaseHandler (f : Feature) (op : Operation)
  | useCaseValidator (f : Feature) (op : Operation)
  | serviceContract (p : Placement) (name : String)
  | serviceImpl (p : Placement) (name : String)
  | exposure (f : Feature)
  | entryPoint
  | wiring (layer : Layer)
  | manifest (layer : Layer)
  | environment
  | compose
deriving DecidableEq

/-- Where an item lies. -/
def Locator.pathOf (l : Locator) : Item → RelativePath
  | .entityType f => l.entityType f
  | .enumType name => l.enumType name
  | .constants f => l.constants f
  | .persistenceMapping f => l.persistenceMapping f
  | .dbContext => l.dbContext
  | .repositoryContract f => l.repositoryContract f
  | .repositoryImpl f => l.repositoryImpl f
  | .useCaseRequest f op => l.useCaseRequest f (.canonical f op)
  | .useCaseHandler f op => l.useCaseHandler f (.canonical f op)
  | .useCaseValidator f op => l.useCaseValidator f (.canonical f op)
  | .serviceContract p name => l.serviceContract p name
  | .serviceImpl p name => l.serviceImpl p name
  | .exposure f => l.exposure f
  | .entryPoint => l.entryPoint
  | .wiring layer => l.wiring layer
  | .manifest layer => l.manifest layer
  | .environment => l.environment
  | .compose => l.compose

namespace Item

/-- The kind of an item. -/
def kind : Item → ArtifactKind
  | .entityType _ => .entityType
  | .enumType _ => .enumType
  | .constants _ => .constants
  | .persistenceMapping _ => .persistenceMapping
  | .dbContext => .dbContext
  | .repositoryContract _ => .repositoryContract
  | .repositoryImpl _ => .repositoryImpl
  | .useCaseRequest _ _ => .useCaseRequest
  | .useCaseHandler _ _ => .useCaseHandler
  | .useCaseValidator _ _ => .useCaseValidator
  | .serviceContract _ _ => .serviceContract
  | .serviceImpl _ _ => .serviceImpl
  | .exposure _ => .exposure
  | .entryPoint => .entryPoint
  | .wiring _ => .wiring
  | .manifest _ => .manifest
  | .environment => .environment
  | .compose => .compose

/-- The kind an item is read as at its place: an implementation is read as an interface. -/
def family (a : Item) : ArtifactKind :=
  match a.kind with
  | .serviceImpl => .serviceContract
  | kind => kind

/-- An item under good names, in a layer that has it. -/
def WellNamed : Item → Prop
  | .entityType f | .persistenceMapping f | .repositoryContract f | .repositoryImpl f
  | .exposure f => f.WellNamed
  | .useCaseRequest f _ | .useCaseHandler f _ | .useCaseValidator f _ =>
      f.WellNamed ∧ ¬ EndsInD f.plural
  | .enumType name => IsName name
  | .constants f => ∀ g ∈ f, g.WellNamed
  | .serviceContract p name | .serviceImpl p name => p.WellNamed ∧ IsName name
  | .wiring layer => layer = .application ∨ layer = .infrastructure
  | .manifest layer => layer ≠ .root
  | .dbContext | .entryPoint | .environment | .compose => True

end Item

/-! ## Acceptance -/

/-- An entity under a name that requests accept, with its English plural. -/
def Feature.Accepted (f : Feature) : Prop :=
  ∃ field raw entity, normalizeIdentifier field raw = .ok entity
    ∧ f = featureOf Plural.english entity

/-- An item of an accepted request: under accepted names, in a layer that has it. -/
def Item.Accepted : Item → Prop
  | .entityType f | .persistenceMapping f | .repositoryContract f | .repositoryImpl f
  | .exposure f => f.Accepted
  | .useCaseRequest f op | .useCaseHandler f op | .useCaseValidator f op =>
      f.Accepted ∧ op ∈ Operation.fullSet
  | .enumType name => ∃ field raw, normalizeIdentifier field raw = .ok name
  | .constants f => ∀ g ∈ f, g.Accepted
  | .serviceContract p name | .serviceImpl p name =>
      ∃ r lifetime, (Change.service r).order Plural.english = .ok (.service p name lifetime)
  | .wiring layer => layer = .application ∨ layer = .infrastructure
  | .manifest layer => layer ≠ .root
  | .dbContext | .entryPoint | .environment | .compose => True

theorem Feature.Accepted.wellNamed {f : Feature} (h : f.Accepted) :
    f.WellNamed ∧ ¬ EndsInD f.plural := by
  obtain ⟨field, raw, entity, haccept, rfl⟩ := h
  have hentity := normalizeIdentifier_isName haccept
  exact ⟨ofNames_wellNamed hentity, not_endsInD_plural hentity⟩

theorem Item.Accepted.wellNamed {a : Item} (h : a.Accepted) : a.WellNamed := by
  cases a with
  | enumType name =>
      obtain ⟨field, raw, haccept⟩ := h
      exact normalizeIdentifier_isName haccept
  | constants f => exact fun g hg => (h g hg).wellNamed.1
  | useCaseRequest f op => exact h.1.wellNamed
  | useCaseHandler f op => exact h.1.wellNamed
  | useCaseValidator f op => exact h.1.wellNamed
  | serviceContract p name =>
      obtain ⟨r, lifetime, horder⟩ := h
      exact Change.order_wellNamed horder
  | serviceImpl p name =>
      obtain ⟨r, lifetime, horder⟩ := h
      exact Change.order_wellNamed horder
  | entityType f => exact (Feature.Accepted.wellNamed h).1
  | persistenceMapping f => exact (Feature.Accepted.wellNamed h).1
  | repositoryContract f => exact (Feature.Accepted.wellNamed h).1
  | repositoryImpl f => exact (Feature.Accepted.wellNamed h).1
  | exposure f => exact (Feature.Accepted.wellNamed h).1
  | _ => exact h

/-! ## Collisions -/

/-- The items of an entity whose paths show no more of it than the singular. -/
inductive BySingular (style : Exposure) : (Feature → Item) → Prop where
  | entityType : BySingular style .entityType
  | constants : BySingular style fun f => .constants (some f)
  | persistenceMapping : BySingular style .persistenceMapping
  | repositoryContract : BySingular style .repositoryContract
  | repositoryImpl : BySingular style .repositoryImpl
  | exposure (h : style = .routes) : BySingular style .exposure

/-- The items of an entity whose paths show no more of it than the plural. -/
inductive ByPlural (style : Exposure) : (Feature → Item) → Prop where
  | useCaseRequest {op : Operation} (h : op = .readAll ∨ op = .readPage) :
      ByPlural style (.useCaseRequest · op)
  | useCaseHandler {op : Operation} (h : op = .readAll ∨ op = .readPage) :
      ByPlural style (.useCaseHandler · op)
  | useCaseValidator {op : Operation} (h : op = .readAll ∨ op = .readPage) :
      ByPlural style (.useCaseValidator · op)
  | serviceContract (name : String) :
      ByPlural style fun f => .serviceContract (.featureLocal f) name
  | serviceImpl (name : String) : ByPlural style fun f => .serviceImpl (.featureLocal f) name
  | exposure (h : style = .controllers) : ByPlural style .exposure

/-- Services whose files lie in one folder, interfaces and implementations alike. -/
inductive Placement.Beside : Placement → Placement → Prop where
  | shared : Beside .shared .shared
  | featureLocal {f g : Feature} (h : f.plural = g.plural) :
      Beside (.featureLocal f) (.featureLocal g)

/-- Items that may differ and lie at one path. -/
inductive Collision (style : Exposure) : Item → Item → Prop where
  /-- Entities with one singular. -/
  | singular {make : Feature → Item} {f g : Feature} (hmake : BySingular style make)
      (h : f.name = g.name) : Collision style (make f) (make g)
  /-- Entities with one plural. -/
  | plural {make : Feature → Item} {f g : Feature} (hmake : ByPlural style make)
      (h : f.plural = g.plural) : Collision style (make f) (make g)
  /-- The shared constants are in the class that an entity `App` has. -/
  | app {f : Feature} (h : f.name = "App") : Collision style (.constants (some f)) (.constants none)
  /-- An interface starts with an `I`, and so may the name of a service. -/
  | interface {p q : Placement} (h : p.Beside q) (name : String) :
      Collision style (.serviceContract p name) (.serviceImpl q ("I" ++ name))
  /-- The interface of an external service does not show the system. -/
  | external (e e' : ExternalSystem) (name : String) :
      Collision style (.serviceContract (.external e) name) (.serviceContract (.external e') name)

/-! ## Apart or together -/

section

variable {l : Locator}

/-- An item has its place. -/
theorem Item.place (hl : IsProject l.project) {a : Item} (ha : a.WellNamed) :
    ∃ layer, IsPlace l layer a.family (l.pathOf a) := by
  cases a with
  | entityType f => exact ⟨_, place_entityType ha⟩
  | enumType name => exact ⟨_, place_enumType ha⟩
  | constants f => exact ⟨_, place_constants ha⟩
  | persistenceMapping f => exact ⟨_, place_persistenceMapping ha⟩
  | dbContext => exact ⟨_, place_dbContext⟩
  | repositoryContract f => exact ⟨_, place_repositoryContract ha⟩
  | repositoryImpl f => exact ⟨_, place_repositoryImpl ha⟩
  | useCaseRequest f op => exact ⟨_, place_useCaseRequest ha.1 (Site.canonical_wellNamed ha.1 op)⟩
  | useCaseHandler f op => exact ⟨_, place_useCaseHandler ha.1 (Site.canonical_wellNamed ha.1 op)⟩
  | useCaseValidator f op => exact ⟨_, place_useCaseValidator ha.1 (Site.canonical_wellNamed ha.1 op)⟩
  | serviceContract p name => exact ⟨_, place_serviceContract ha.1 ha.2⟩
  | serviceImpl p name => exact ⟨_, place_serviceImpl ha.1 ha.2⟩
  | exposure f => exact ⟨_, place_exposure ha⟩
  | entryPoint => exact ⟨_, place_entryPoint⟩
  | wiring layer => exact ⟨_, place_wiring ha⟩
  | manifest layer => exact ⟨_, place_manifest hl ha⟩
  | environment => exact ⟨_, place_environment⟩
  | compose => exact ⟨_, place_compose⟩

/-- The owner of a class of constants as its file shows it. -/
theorem constants_eq (l : Locator) (f : Option Feature) :
    l.constants f = l.file .domain ["Constants", f.elim "App" Feature.name ++ "Constants.cs"] := by
  cases f <;> rfl

variable {f g : Feature} {op op' : Operation} {p q : Placement} {n m : String}

theorem constants_injective (hl : IsProject l.project) {f g : Option Feature}
    (hf : ∀ h ∈ f, h.WellNamed) (hg : ∀ h ∈ g, h.WellNamed) (h : l.constants f = l.constants g) :
    f.elim "App" Feature.name = g.elim "App" Feature.name := by
  have hname : ∀ {f : Option Feature}, (∀ h ∈ f, h.WellNamed) → IsName (f.elim "App" Feature.name) := by
    intro f hf
    cases f with
    | none => exact (by decide : IsName "App")
    | some f => exact (hf f rfl).name
  rw [constants_eq, constants_eq] at h
  exact named_injective hl .domain ["Constants"] "" "Constants.cs" (by decide) (hname hf) (hname hg)
    (by simpa using h)

/-- A file of a canonical use case tells the operation, and the entity as far as it shows it. -/
theorem canonicalFile_injective (hl : IsProject l.project) (hf : f.WellNamed ∧ ¬ EndsInD f.plural)
    (hg : g.WellNamed) {type type' : String} (htype : IsName type) (htype' : IsName type')
    (h : l.useCaseFile f (.canonical f op) type = l.useCaseFile g (.canonical g op') type') :
    op = op' ∧ (f = g ∨ f.plural = g.plural ∧ (op = .readAll ∨ op = .readPage)) := by
  obtain ⟨hplural, -, hname⟩ := useCaseFile_injective hl hf.1 hg (Site.canonical_wellNamed hf.1 op)
    (Site.canonical_wellNamed hg op') htype htype' h
  obtain ⟨hop, hshown⟩ := canonical_name_injective hplural hf.2 hname
  refine ⟨hop, ?_⟩
  rcases hshown with hread | hread | hsingular
  · exact .inr ⟨hplural, .inl hread⟩
  · exact .inr ⟨hplural, .inr hread⟩
  · cases f
    cases g
    cases hsingular
    cases hplural
    exact .inl rfl

/-! ### Services -/

/-- A folder of interfaces tells the placement, but not the external system and of an entity only
the plural. -/
theorem folder_injective (h : p.folder = q.folder) :
    p.Beside q ∨ ∃ e e', p = .external e ∧ q = .external e' := by
  cases p with
  | featureLocal f =>
      cases q with
      | featureLocal g =>
          simp only [Placement.folder, List.cons.injEq, true_and, and_true] at h
          exact .inl (.featureLocal h)
      | shared => simp [Placement.folder] at h
      | external e' => simp [Placement.folder] at h
  | shared =>
      cases q with
      | featureLocal g => simp [Placement.folder] at h
      | shared => exact .inl .shared
      | external e' => simp [Placement.folder] at h
  | external e =>
      cases q with
      | featureLocal g => simp [Placement.folder] at h
      | shared => simp [Placement.folder] at h
      | external e' => exact .inr ⟨e, e', rfl, rfl⟩

/-- In the application layer implementations lie beside their interfaces. -/
theorem implFolder_of_application (h : q.wiringLayer = .application) : q.implFolder = q.folder := by
  cases q with
  | external system => cases h
  | _ => rfl

theorem serviceContract_injective (hl : IsProject l.project) (hp : p.WellNamed) (hq : q.WellNamed)
    (hn : IsName n) (hm : IsName m) (h : l.serviceContract p n = l.serviceContract q m) :
    p.folder = q.folder ∧ n = m := by
  rw [serviceContract_eq, serviceContract_eq] at h
  obtain ⟨hfolder, hfile⟩ := file_injective hl hp.folder hq.folder
    ((IsName.prepend (by decide) hn).isFile (by decide))
    ((IsName.prepend (by decide) hm).isFile (by decide)) h
  rw [String.append_left_inj, String.append_right_inj] at hfile
  exact ⟨hfolder, hfile⟩

theorem serviceImpl_injective (hl : IsProject l.project) (hp : p.WellNamed) (hq : q.WellNamed)
    (hn : IsName n) (hm : IsName m) (h : l.serviceImpl p n = l.serviceImpl q m) :
    (p = q ∨ p.Beside q) ∧ n = m := by
  have hlayer : p.wiringLayer = q.wiringLayer :=
    (place_serviceImpl hp hn).layer_eq hl (h ▸ place_serviceImpl hq hm)
  rw [serviceImpl_eq, serviceImpl_eq, hlayer] at h
  obtain ⟨hfolder, hfile⟩ := file_injective hl hp.implFolder hq.implFolder (hn.isFile (by decide))
    (hm.isFile (by decide)) h
  refine ⟨?_, (String.append_left_inj _).1 hfile⟩
  by_cases happ : q.wiringLayer = .application
  · rw [implFolder_of_application (hlayer.trans happ), implFolder_of_application happ] at hfolder
    obtain hbeside | ⟨e, e', rfl, rfl⟩ := folder_injective hfolder
    · exact .inr hbeside
    · cases happ
  · cases q with
    | external e' =>
        cases p with
        | external e =>
            left
            revert hfolder
            cases e <;> cases e' <;> first
              | exact fun _ => rfl
              | exact fun h => absurd h (by decide)
        | _ => cases hlayer
    | _ => exact absurd rfl happ

theorem serviceContract_eq_impl (hl : IsProject l.project) (hp : p.WellNamed) (hq : q.WellNamed)
    (hn : IsName n) (hm : IsName m) (h : l.serviceContract p n = l.serviceImpl q m) :
    p.Beside q ∧ m = "I" ++ n := by
  have hlayer : .application = q.wiringLayer :=
    (place_serviceContract hp hn).layer_eq hl (h ▸ place_serviceImpl hq hm)
  rw [serviceContract_eq, serviceImpl_eq, ← hlayer, implFolder_of_application hlayer.symm] at h
  obtain ⟨hfolder, hfile⟩ := file_injective hl hp.folder hq.folder
    ((IsName.prepend (by decide) hn).isFile (by decide)) (hm.isFile (by decide)) h
  refine ⟨?_, ((String.append_left_inj _).1 hfile).symm⟩
  obtain hbeside | ⟨e, e', rfl, rfl⟩ := folder_injective hfolder
  · exact hbeside
  · cases hlayer

/-! ### The inventory -/

/-- Items at one path are one item, or collide. -/
theorem Item.collide (hl : IsProject l.project) {a b : Item} (ha : a.WellNamed) (hb : b.WellNamed)
    (h : l.pathOf a = l.pathOf b) : a = b ∨ Collision l.style a b ∨ Collision l.style b a := by
  obtain ⟨layer, hplace⟩ := Item.place hl ha
  obtain ⟨layer', hplace'⟩ := Item.place hl hb
  have hfamily := hplace.kind_eq hl (h ▸ hplace')
  have hnames := fun {f : Feature} {op : Operation} (hf : f.WellNamed ∧ ¬ EndsInD f.plural) =>
    UseCase.requestType_isName (Site.canonical_wellNamed hf.1 op)
  -- Items of two families are apart; what is left are the families one by one.
  cases a <;> cases b <;> try (cases hfamily; done)
  case entityType.entityType f g =>
    exact .inr (.inl (.singular .entityType (entityType_injective hl ha hb h)))
  case enumType.enumType name name' => rw [enumType_injective hl ha hb h]; exact .inl rfl
  case constants.constants f g =>
    have hname := constants_injective hl ha hb h
    match f, g with
    | none, none => exact .inl rfl
    | none, some g => exact .inr (.inr (.app hname.symm))
    | some f, none => exact .inr (.inl (.app hname))
    | some f, some g => exact .inr (.inl (.singular .constants hname))
  case persistenceMapping.persistenceMapping f g =>
    exact .inr (.inl (.singular .persistenceMapping (persistenceMapping_injective hl ha hb h)))
  case repositoryContract.repositoryContract f g =>
    exact .inr (.inl (.singular .repositoryContract (repositoryContract_injective hl ha hb h)))
  case repositoryImpl.repositoryImpl f g =>
    exact .inr (.inl (.singular .repositoryImpl (repositoryImpl_injective hl ha hb h)))
  case useCaseRequest.useCaseRequest f op g op' =>
    obtain ⟨rfl, rfl | ⟨hplural, hop⟩⟩ :=
      canonicalFile_injective hl ha hb.1 (hnames ha) (hnames hb) h
    · exact .inl rfl
    · exact .inr (.inl (.plural (.useCaseRequest hop) hplural))
  case useCaseHandler.useCaseHandler f op g op' =>
    obtain ⟨rfl, rfl | ⟨hplural, hop⟩⟩ := canonicalFile_injective hl ha hb.1
      ((hnames ha).append (by decide)) ((hnames hb).append (by decide)) h
    · exact .inl rfl
    · exact .inr (.inl (.plural (.useCaseHandler hop) hplural))
  case useCaseValidator.useCaseValidator f op g op' =>
    obtain ⟨rfl, rfl | ⟨hplural, hop⟩⟩ := canonicalFile_injective hl ha hb.1
      ((hnames ha).append (by decide)) ((hnames hb).append (by decide)) h
    · exact .inl rfl
    · exact .inr (.inl (.plural (.useCaseValidator hop) hplural))
  case serviceContract.serviceContract p n q m =>
    obtain ⟨hfolder, rfl⟩ := serviceContract_injective hl ha.1 hb.1 ha.2 hb.2 h
    obtain (- | hplural) | ⟨e, e', rfl, rfl⟩ := folder_injective hfolder
    · exact .inl rfl
    · exact .inr (.inl (.plural (.serviceContract n) hplural))
    · exact .inr (.inl (.external e e' n))
  case serviceContract.serviceImpl p n q m =>
    obtain ⟨hbeside, rfl⟩ := serviceContract_eq_impl hl ha.1 hb.1 ha.2 hb.2 h
    exact .inr (.inl (.interface hbeside n))
  case serviceImpl.serviceContract p n q m =>
    obtain ⟨hbeside, rfl⟩ := serviceContract_eq_impl hl hb.1 ha.1 hb.2 ha.2 h.symm
    exact .inr (.inr (.interface hbeside m))
  case serviceImpl.serviceImpl p n q m =>
    obtain ⟨rfl | (- | hplural), rfl⟩ := serviceImpl_injective hl ha.1 hb.1 ha.2 hb.2 h
    · exact .inl rfl
    · exact .inl rfl
    · exact .inr (.inl (.plural (.serviceImpl n) hplural))
  case exposure.exposure f g =>
    have hshown := exposure_injective hl ha hb h
    cases hstyle : l.style with
    | routes =>
        rw [hstyle] at hshown
        exact .inr (.inl (.singular (.exposure rfl) hshown))
    | controllers =>
        rw [hstyle] at hshown
        exact .inr (.inl (.plural (.exposure rfl) hshown))
  case wiring.wiring layer layer' =>
    have hwiring : l.wiring layer = l.wiring layer' := h
    have hlayer := (place_wiring (l := l) ha).layer_eq hl (hwiring ▸ place_wiring hb)
    exact .inl (congrArg _ hlayer)
  case manifest.manifest layer layer' =>
    have hmanifest : l.manifest layer = l.manifest layer' := h
    have hlayer := (place_manifest hl ha).layer_eq hl (hmanifest ▸ place_manifest hl hb)
    exact .inl (congrArg _ hlayer)
  all_goals exact .inl rfl

/-- Items that collide lie at one path. -/
theorem Collision.path_eq {a b : Item} (h : Collision l.style a b) : l.pathOf a = l.pathOf b := by
  cases h with
  | @singular make f g hmake h =>
      cases hmake with
      | entityType => simp [Locator.pathOf, Locator.entityType, h]
      | constants => simp [Locator.pathOf, Locator.constants, h]
      | persistenceMapping => simp [Locator.pathOf, Locator.persistenceMapping, h]
      | repositoryContract =>
          simp [Locator.pathOf, Locator.repositoryContract, Feature.repositoryContract, h]
      | repositoryImpl => simp [Locator.pathOf, Locator.repositoryImpl, Feature.repositoryImpl, h]
      | exposure hstyle => simp [Locator.pathOf, Locator.exposure, hstyle, h]
  | @plural make f g hmake h =>
      have hname : ∀ {op : Operation}, op = .readAll ∨ op = .readPage →
          UseCase.canonical f op = UseCase.canonical g op := by
        rintro op (rfl | rfl) <;> simp [UseCase.canonical, h]
      cases hmake with
      | useCaseRequest hop =>
          simp [Locator.pathOf, Locator.useCaseRequest, Locator.useCaseFile, hname hop, h]
      | useCaseHandler hop =>
          simp [Locator.pathOf, Locator.useCaseHandler, Locator.useCaseFile, hname hop, h]
      | useCaseValidator hop =>
          simp [Locator.pathOf, Locator.useCaseValidator, Locator.useCaseFile, hname hop, h]
      | serviceContract name => simp [Locator.pathOf, Locator.serviceContract, h]
      | serviceImpl name => simp [Locator.pathOf, Locator.serviceImpl, h]
      | exposure hstyle => simp [Locator.pathOf, Locator.exposure, hstyle, h]
  | app h => simp [Locator.pathOf, constants_eq, h]
  | @interface p q h name =>
      rw [Locator.pathOf, Locator.pathOf, serviceContract_eq, serviceImpl_eq]
      cases h with
      | shared => rfl
      | featureLocal h => simp only [Placement.folder, Placement.implFolder, h]; rfl
  | external e e' name => rfl

end

/-- **Two artifacts share a path exactly if they collide.** -/
theorem Locator.pathOf_eq_iff {raw project : String} (hproject : acceptProjectName raw = .ok project)
    (style : Exposure) {a b : Item} (ha : a.Accepted) (hb : b.Accepted) :
    (Locator.mk project style).pathOf a = (Locator.mk project style).pathOf b
      ↔ a = b ∨ Collision style a b ∨ Collision style b a := by
  constructor
  · exact Item.collide (acceptProjectName_isProject hproject) ha.wellNamed hb.wellNamed
  · rintro (rfl | h | h)
    · rfl
    · exact Collision.path_eq (l := ⟨project, style⟩) h
    · exact (Collision.path_eq (l := ⟨project, style⟩) h).symm

/-- An interface and the implementation of the service that has its name are one path. -/
theorem Locator.pathOf_eq_iff_mail : acceptProjectName "Acme" = .ok "Acme"
    ∧ (Item.serviceContract .shared "Mail").Accepted ∧ (Item.serviceImpl .shared "IMail").Accepted
    ∧ (Locator.mk "Acme" .routes).pathOf (.serviceContract .shared "Mail")
      = (Locator.mk "Acme" .routes).pathOf (.serviceImpl .shared "IMail") :=
  have hproject : acceptProjectName "Acme" = .ok "Acme" := by decide
  have hcontract : (Item.serviceContract .shared "Mail").Accepted :=
    ⟨⟨some "Mail", none, none, .scoped⟩, .scoped, rfl⟩
  have himpl : (Item.serviceImpl .shared "IMail").Accepted :=
    ⟨⟨some "IMail", none, none, .scoped⟩, .scoped, rfl⟩
  ⟨hproject, hcontract, himpl,
    (Locator.pathOf_eq_iff hproject .routes hcontract himpl).2 (.inr (.inl (.interface .shared "Mail")))⟩

/-- Of every sort of collision there are accepted items that differ and lie at one path. -/
theorem collisions_occur : acceptProjectName "Acme" = .ok "Acme" ∧ ∀ pair ∈ ([
    (.serviceContract .shared "Mail", .serviceImpl .shared "IMail"),
    (.constants (some ⟨"App", "Apps"⟩), .constants none),
    (.entityType ⟨"Ab", "ABs"⟩, .entityType ⟨"Ab", "Abs"⟩),
    (.serviceImpl (.featureLocal ⟨"Bus", "Buses"⟩) "Mail",
      .serviceImpl (.featureLocal ⟨"Buse", "Buses"⟩) "Mail"),
    (.serviceContract (.external .cache) "Mail", .serviceContract (.external .broker) "Mail")]
      : List (Item × Item)),
    pair.1.Accepted ∧ pair.2.Accepted ∧ pair.1 ≠ pair.2
      ∧ (Locator.mk "Acme" .routes).pathOf pair.1 = (Locator.mk "Acme" .routes).pathOf pair.2 := by
  refine ⟨by decide, ?_⟩
  simp only [List.forall_mem_cons, List.not_mem_nil, false_imp_iff, implies_true, and_true]
  refine ⟨⟨?_, ?_, by decide, by decide⟩, ⟨?_, nofun, by decide, by decide⟩,
    ⟨?_, ?_, by decide, by decide⟩, ⟨?_, ?_, by decide, by decide⟩, ?_, ?_, by decide, by decide⟩
  · exact ⟨⟨some "Mail", none, none, .scoped⟩, .scoped, rfl⟩
  · exact ⟨⟨some "IMail", none, none, .scoped⟩, .scoped, rfl⟩
  · rintro _ ⟨⟩
    exact ⟨"entity", "app", "App", rfl, rfl⟩
  · exact ⟨"entity", "a_b", "AB", rfl, rfl⟩
  · exact ⟨"entity", "ab", "Ab", rfl, rfl⟩
  · exact ⟨⟨some "Mail", some "bus", none, .scoped⟩, .scoped, rfl⟩
  · exact ⟨⟨some "Mail", some "buse", none, .scoped⟩, .scoped, rfl⟩
  · exact ⟨⟨some "Mail", none, some .cache, .scoped⟩, .scoped, rfl⟩
  · exact ⟨⟨some "Mail", none, some .broker, .scoped⟩, .scoped, rfl⟩

end Scaffold
