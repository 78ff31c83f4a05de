import Mathlib
import Scaffold.Plan.Entity
import Scaffold.Plan.Scalar
import Scaffold.Plan.Service
import Scaffold.Proofs.Artifact
import Scaffold.Proofs.Locator
import Scaffold.Proofs.Text.Shape

/-!
# Members

Templates are empty shells; what requests declare in them are *members*: a property, a method,
a registration.  A member belongs to one kind of file.  Its detection is a fixed text around
the name of the member (`Member.needle`), and its block begins with the line that holds the
detection.

Every line of a block has a shape, and on the shapes it is checked that the detections of the
members of one kind of file are found nowhere else (`Member.block_spec`): not in the lines that
follow the first one, not in the first line of another sort of member, and in the first line of
the same sort only under the same name.
-/

namespace Scaffold

open Scaffold.Text

/-- What requests declare in the files of a project. -/
inductive Member where
  | property (f : Feature) (name : String)
  | enumType (name : String)
  | constant (f : Option Feature) (name : String)
  | dbSet (f : Feature)
  | contractMethod (f : Feature) (m : RepositoryMethod)
  | implMethod (f : Feature) (m : RepositoryMethod)
  | request (f : Feature) (u : UseCase)
  | handler (f : Feature) (u : UseCase)
  | validator (f : Feature) (u : UseCase)
  | exposure (f : Feature) (u : UseCase)
  | registration (line : String)
  | mapping (f : Feature)
  | service (p : Placement) (name : String) (lifetime : Lifetime)
  | context (provider : Provider)
  | repository (f : Feature)
  | client (e : ExternalSystem)
  | setting (e : ExternalSystem)
  | container (e : ExternalSystem)

namespace Member

/-- The file a member is declared in. -/
def path (l : Locator) : Member → RelativePath
  | .property f _ => l.entityType f
  | .enumType name => l.enumType name
  | .constant f _ => l.constants f
  | .dbSet _ => l.dbContext
  | .contractMethod f _ => l.repositoryContract f
  | .implMethod f _ => l.repositoryImpl f
  | .request f u => l.useCaseRequest f u
  | .handler f u => l.useCaseHandler f u
  | .validator f u => l.useCaseValidator f u
  | .exposure f _ => l.exposure f
  | .registration _ | .mapping _ => l.entryPoint
  | .service p _ _ => l.wiring p.wiringLayer
  | .context _ | .repository _ | .client _ => l.wiring .infrastructure
  | .setting _ => l.environment
  | .container _ => l.compose

/-- The kind of that file. -/
def kind : Member → ArtifactKind
  | .property .. => .entityType
  | .enumType _ => .enumType
  | .constant .. => .constants
  | .dbSet _ => .dbContext
  | .contractMethod .. => .repositoryContract
  | .implMethod .. => .repositoryImpl
  | .request .. => .useCaseRequest
  | .handler .. => .useCaseHandler
  | .validator .. => .useCaseValidator
  | .exposure .. => .exposure
  | .registration _ | .mapping _ => .entryPoint
  | .service .. | .context _ | .repository _ | .client _ => .wiring
  | .setting _ => .environment
  | .container _ => .compose

/-- How a member is declared. -/
def declaration (l : Locator) : Member → Declaration
  | .property _ name =>
      ⟨Detection.property name name, [propertyLine name name], .endOfBlock, false, none⟩
  | .enumType name =>
      ⟨Detection.enumDeclaration name, enumBlock name, .endOfFile, true, some Template.enumType.name⟩
  | .constant _ name =>
      ⟨Detection.constant name, [constantLine name], .endOfBlock, false,
        some Template.constants.name⟩
  | .dbSet f =>
      ⟨Detection.dbSet f.name, [dbSetLine f], .endOfBlock, true, some Template.dbContext.name⟩
  | .contractMethod f m =>
      ⟨m.detection, m.contractBlock f.name, .endOfBlock, false,
        some Template.repositoryContract.name⟩
  | .implMethod f m =>
      ⟨m.detection, m.implBlock f, .endOfBlock, true, some Template.repositoryImpl.name⟩
  | .request f u =>
      ⟨Detection.useCaseRequest u.requestType, u.requestBlock f.name, .endOfFile, true,
        some Template.useCaseRequest.name⟩
  | .handler f u =>
      ⟨Detection.useCaseClass u.handlerType, u.handlerBlock f, .endOfFile, true,
        some Template.useCaseHandler.name⟩
  | .validator _ u =>
      ⟨Detection.useCaseClass u.validatorType, u.validatorBlock, .endOfFile, true,
        some Template.useCaseValidator.name⟩
  | .exposure f u => Site.exposureDeclaration u l.style f
  | .registration line =>
      ⟨line, [line], .beforeMarker "var app = builder.Build();", false,
        some (Site.mk l 0).entryTemplate.name⟩
  | .mapping f =>
      ⟨(Site.mk l 0).entryMapping f, [(Site.mk l 0).entryMapping f], .beforeMarker "app.Run();",
        false, some (Site.mk l 0).entryTemplate.name⟩
  | .service p name lifetime =>
      ⟨Detection.serviceRegistration name,
        ["services." ++ lifetime.registration ++ Detection.serviceRegistration name],
        .beforeMarker Site.returnServices, false, some p.wiringTemplate.name⟩
  | .context provider =>
      ⟨Site.contextRegistration, Site.contextRegistrationBlock provider,
        .beforeMarker Site.returnServices, false, some Template.infrastructureWiring.name⟩
  | .repository f =>
      ⟨Detection.repositoryRegistration f, [Detection.repositoryRegistration f],
        .beforeMarker Site.returnServices, false, some Template.infrastructureWiring.name⟩
  | .client e =>
      ⟨e.clientDetection, e.clientBlock, .beforeMarker Site.returnServices, false,
        some Template.infrastructureWiring.name⟩
  | .setting e =>
      ⟨e.variableName ++ "=", [e.variableName ++ "=" ++ e.variableValue], .endOfFile, false, none⟩
  | .container e =>
      ⟨e.composeDetection, e.composeBlock, .endOfFile, false, some Template.compose.name⟩

/-- The registrations an entry point can have. -/
def registrations : List String :=
  ["builder.Services.AddApplication();",
   "builder.Services.AddInfrastructure(builder.Configuration);",
   "builder.Services.AddControllers();"]

/-- A member with good names. -/
def WellNamed : Member → Prop
  | .property f name => f.WellNamed ∧ IsName name
  | .enumType name => IsName name
  | .constant f name => (∀ g ∈ f, g.WellNamed) ∧ IsName name
  | .dbSet f | .mapping f | .repository f => f.WellNamed
  | .contractMethod f m | .implMethod f m => f.WellNamed ∧ IsName m.name
  | .request f u | .handler f u | .validator f u | .exposure f u => f.WellNamed ∧ u.WellNamed
  | .registration line => line ∈ registrations
  | .service p name _ => p.WellNamed ∧ IsName name
  | .context _ | .client _ | .setting _ | .container _ => True

/-- A member is declared in a file of its kind. -/
theorem place {l : Locator} {m : Member} (hm : m.WellNamed) :
    ∃ layer, IsPlace l layer m.kind (m.path l) := by
  cases m with
  | property f name => exact ⟨_, place_entityType hm.1⟩
  | enumType name => exact ⟨_, place_enumType hm⟩
  | constant f name => exact ⟨_, place_constants hm.1⟩
  | dbSet f => exact ⟨_, place_dbContext⟩
  | contractMethod f m => exact ⟨_, place_repositoryContract hm.1⟩
  | implMethod f m => exact ⟨_, place_repositoryImpl hm.1⟩
  | request f u => exact ⟨_, place_useCaseRequest hm.1 hm.2⟩
  | handler f u => exact ⟨_, place_useCaseHandler hm.1 hm.2⟩
  | validator f u => exact ⟨_, place_useCaseValidator hm.1 hm.2⟩
  | exposure f u => exact ⟨_, place_exposure hm.1⟩
  | registration line => exact ⟨_, place_entryPoint⟩
  | mapping f => exact ⟨_, place_entryPoint⟩
  | service p name lifetime =>
      refine ⟨_, place_wiring ?_⟩
      cases p <;> simp [Placement.wiringLayer]
  | context provider => exact ⟨_, place_wiring (.inr rfl)⟩
  | repository f => exact ⟨_, place_wiring (.inr rfl)⟩
  | client e => exact ⟨_, place_wiring (.inr rfl)⟩
  | setting e => exact ⟨_, place_environment⟩
  | container e => exact ⟨_, place_compose⟩

/-! ## Detections -/

/-- A verb and a route as a style writes them. -/
def exposed (style : Exposure) (e : Entrypoint) : String :=
  match style with
  | .routes => e.verb.token ++ "(\"" ++ e.route.path ++ "\""
  | .controllers =>
      if e.route.template.isEmpty then e.verb.token
      else e.verb.token ++ "(\"" ++ e.route.template ++ "\")"

/-- The name a detection is about. -/
def label (l : Locator) : Member → String
  | .property _ name | .enumType name | .constant _ name | .service _ name _ => name
  | .dbSet f | .mapping f | .repository f => f.name
  | .contractMethod _ m | .implMethod _ m => m.name
  | .request _ u => u.requestType
  | .handler _ u => u.handlerType
  | .validator _ u => u.validatorType
  | .exposure _ u => exposed l.style u.entry
  | .registration _ | .context _ | .client _ | .setting _ | .container _ => ""

/-- The shape of a detection. -/
def needle (l : Locator) : Member → List Atom
  | .property .. =>
      fixed " ".toList ++ [.var .name] ++ fixed " ".toList ++ [.var .name] ++ fixed " \x7b".toList
  | .enumType _ => fixed "enum ".toList ++ [.var .name]
  | .constant .. => fixed "const string ".toList ++ [.var .name] ++ fixed " ".toList
  | .dbSet _ => fixed "DbSet<".toList ++ [.var .name] ++ fixed "> ".toList
  | .contractMethod .. | .implMethod .. =>
      fixed " ".toList ++ [.var .name] ++ fixed "Async(".toList
  | .request .. => fixed "record ".toList ++ [.var .name] ++ fixed "(".toList
  | .handler .. | .validator .. => fixed "class ".toList ++ [.var .name] ++ fixed " ".toList
  | .exposure .. =>
      match l.style with
      | .routes => fixed "group.Map".toList ++ [.var .route] ++ fixed ",".toList
      | .controllers => fixed "[Http".toList ++ [.var .route] ++ fixed "]".toList
  | .registration line => fixed line.toList
  | .mapping _ =>
      match l.style with
      | .routes => fixed "app.Map".toList ++ [.var .name] ++ fixed "Endpoints();".toList
      | .controllers => fixed "app.MapControllers();".toList
  | .service .. =>
      fixed "<I".toList ++ [.var .name] ++ fixed "Service, ".toList ++ [.var .name]
        ++ fixed "Service>();".toList
  | .context _ => fixed "services.AddDbContext<AppDbContext>(".toList
  | .repository _ =>
      fixed "services.AddScoped<I".toList ++ [.var .name] ++ fixed "Repository, ".toList
        ++ [.var .name] ++ fixed "Repository>();".toList
  | .client .cache => fixed "AddSingleton<IConnectionMultiplexer>".toList
  | .client .broker => fixed "AddSingleton<IConnectionFactory>".toList
  | .setting .cache => fixed "REDIS_CONNECTION=".toList
  | .setting .broker => fixed "RABBITMQ_HOST=".toList
  | .container .cache => fixed "  redis:".toList
  | .container .broker => fixed "  rabbitmq:".toList

/-- The shapes of the detections that are looked for in a kind of file. -/
def needles : ArtifactKind → List (List Atom)
  | .entityType =>
      [fixed " ".toList ++ [.var .name] ++ fixed " ".toList ++ [.var .name] ++ fixed " \x7b".toList]
  | .enumType => [fixed "enum ".toList ++ [.var .name]]
  | .constants => [fixed "const string ".toList ++ [.var .name] ++ fixed " ".toList]
  | .dbContext => [fixed "DbSet<".toList ++ [.var .name] ++ fixed "> ".toList]
  | .repositoryContract | .repositoryImpl =>
      [fixed " ".toList ++ [.var .name] ++ fixed "Async(".toList]
  | .useCaseRequest => [fixed "record ".toList ++ [.var .name] ++ fixed "(".toList]
  | .useCaseHandler | .useCaseValidator =>
      [fixed "class ".toList ++ [.var .name] ++ fixed " ".toList]
  | .exposure =>
      [fixed "group.Map".toList ++ [.var .route] ++ fixed ",".toList,
       fixed "[Http".toList ++ [.var .route] ++ fixed "]".toList]
  | .entryPoint =>
      [fixed "builder.Services.AddApplication();".toList,
       fixed "builder.Services.AddInfrastructure(builder.Configuration);".toList,
       fixed "builder.Services.AddControllers();".toList,
       fixed "app.Map".toList ++ [.var .name] ++ fixed "Endpoints();".toList,
       fixed "app.MapControllers();".toList]
  | .wiring =>
      [fixed "<I".toList ++ [.var .name] ++ fixed "Service, ".toList ++ [.var .name]
         ++ fixed "Service>();".toList,
       fixed "services.AddDbContext<AppDbContext>(".toList,
       fixed "services.AddScoped<I".toList ++ [.var .name] ++ fixed "Repository, ".toList
         ++ [.var .name] ++ fixed "Repository>();".toList,
       fixed "AddSingleton<IConnectionMultiplexer>".toList,
       fixed "AddSingleton<IConnectionFactory>".toList]
  | .environment => [fixed "REDIS_CONNECTION=".toList, fixed "RABBITMQ_HOST=".toList]
  | .compose => [fixed "  redis:".toList, fixed "  rabbitmq:".toList]
  | .persistenceMapping | .serviceContract | .serviceImpl | .manifest => []

theorem needle_mem_needles {l : Locator} {m : Member} (hm : m.WellNamed) :
    m.needle l ∈ needles m.kind := by
  obtain ⟨project, style⟩ := l
  cases m with
  | exposure f u => cases style with
    | routes => exact .head _
    | controllers => exact .tail _ (.head _)
  | mapping f => cases style with
    | routes => exact .tail _ (.tail _ (.tail _ (.head _)))
    | controllers => exact .tail _ (.tail _ (.tail _ (.tail _ (.head _))))
  | registration line =>
      simp only [WellNamed, registrations, List.mem_cons, List.not_mem_nil, or_false] at hm
      rcases hm with rfl | rfl | rfl
      · exact .head _
      · exact .tail _ (.head _)
      · exact .tail _ (.tail _ (.head _))
  | context p => exact .tail _ (.head _)
  | repository f => exact .tail _ (.tail _ (.head _))
  | client e => cases e with
    | cache => exact .tail _ (.tail _ (.tail _ (.head _)))
    | broker => exact .tail _ (.tail _ (.tail _ (.tail _ (.head _))))
  | setting e => cases e with
    | cache => exact .head _
    | broker => exact .tail _ (.head _)
  | container e => cases e with
    | cache => exact .head _
    | broker => exact .tail _ (.head _)
  | _ => exact .head _

end Member

end Scaffold
