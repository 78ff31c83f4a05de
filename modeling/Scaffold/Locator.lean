import Scaffold.Path
import Scaffold.UseCase

/-!
# Where artifacts live

The fixed layout of a generated solution: for every kind of artifact its path below the
root, from the project name, the exposure style and the names the artifact belongs to.
-/

namespace Scaffold

open Scaffold.Text

/-! ## Service placement -/

/-- Where the two files of a service are put. -/
inductive Placement where
  /-- Beside the use cases of an entity. -/
  | featureLocal (f : Feature)
  /-- In the common services of the application layer. -/
  | shared
  /-- Interface in the application layer, implementation in the infrastructure. -/
  | external (system : ExternalSystem)
deriving Repr, DecidableEq

namespace Placement

/-- The layer whose wiring registers the service. -/
def wiringLayer : Placement → Layer
  | .external _ => .infrastructure
  | .featureLocal _ | .shared => .application

/-- The namespace of the interface. -/
def contractNamespace (project : String) : Placement → String
  | .featureLocal f => joinWith "." [project, "Application", "Features", f.plural, "Services"]
  | .shared => joinWith "." [project, "Application", "Common", "Services"]
  | .external _ => joinWith "." [project, "Application", "Common", "Interfaces"]

/-- The namespace of the implementation. -/
def implNamespace (project : String) : Placement → String
  | .external system => joinWith "." [project, "Infrastructure", system.folder]
  | p => p.contractNamespace project

end Placement

/-! ## The locator -/

/-- The layout of one project. -/
structure Locator where
  /-- The project name. -/
  project : String
  /-- The exposure style. -/
  style : Exposure
deriving Repr, DecidableEq

namespace Locator

/-- The module of a layer, `Acme.Domain`; none for files at the root. -/
def moduleName (l : Locator) : Layer → String
  | .root => ""
  | layer => l.project ++ "." ++ layer.spelling

/-- A file of a layer below its module's directory. -/
def file (l : Locator) (layer : Layer) (rest : List String) : RelativePath :=
  match layer with
  | .root => .ofSegments rest
  | _ => .ofSegments ("src" :: l.moduleName layer :: rest)

/-- The directory of a layer's module. -/
def moduleDir (l : Locator) (layer : Layer) : RelativePath := l.file layer []

/-- The directory new migrations are written to. -/
def migrationsDir (l : Locator) : RelativePath := l.file .infrastructure ["Migrations"]

/-! ### Domain -/

/-- The class of an entity. -/
def entityType (l : Locator) (f : Feature) : RelativePath :=
  l.file .domain ["Entities", f.name ++ ".cs"]

/-- An enum. -/
def enumType (l : Locator) (name : String) : RelativePath := l.file .domain ["Enums", name ++ ".cs"]

/-- The constants of an entity, or the shared ones. -/
def constants (l : Locator) (f : Option Feature) : RelativePath :=
  l.file .domain ["Constants", match f with
    | some f => f.name ++ "Constants.cs"
    | none => "AppConstants.cs"]

/-! ### Application -/

/-- The repository interface of an entity. -/
def repositoryContract (l : Locator) (f : Feature) : RelativePath :=
  l.file .application ["Interfaces", "Repositories", f.repositoryContract ++ ".cs"]

/-- The file of a type that belongs to a use case. -/
def useCaseFile (l : Locator) (f : Feature) (u : UseCase) (type : String) : RelativePath :=
  l.file .application ["Features", f.plural, u.kind.folder, u.name, type ++ ".cs"]

/-- The request record of a use case. -/
def useCaseRequest (l : Locator) (f : Feature) (u : UseCase) : RelativePath :=
  l.useCaseFile f u u.requestType

/-- The handler of a use case. -/
def useCaseHandler (l : Locator) (f : Feature) (u : UseCase) : RelativePath :=
  l.useCaseFile f u u.handlerType

/-- The validator of a use case. -/
def useCaseValidator (l : Locator) (f : Feature) (u : UseCase) : RelativePath :=
  l.useCaseFile f u u.validatorType

/-- The file of a use case by kind; other kinds of artifact are not use-case files. -/
def useCase (l : Locator) (f : Feature) (u : UseCase) :
    ArtifactKind → Except RequestError RelativePath
  | .useCaseRequest => .ok (l.useCaseRequest f u)
  | .useCaseHandler => .ok (l.useCaseHandler f u)
  | .useCaseValidator => .ok (l.useCaseValidator f u)
  | other => .error (.unknownValue "use-case artifact" other.spelling)

/-- The folder of a service's interface, by placement. -/
def serviceContract (l : Locator) (p : Placement) (name : String) : RelativePath :=
  let file := "I" ++ name ++ "Service.cs"
  match p with
  | .featureLocal f => l.file .application ["Features", f.plural, "Services", file]
  | .shared => l.file .application ["Common", "Services", file]
  | .external _ => l.file .application ["Common", "Interfaces", file]

/-- The implementation of a service. -/
def serviceImpl (l : Locator) (p : Placement) (name : String) : RelativePath :=
  let file := name ++ "Service.cs"
  match p with
  | .featureLocal f => l.file .application ["Features", f.plural, "Services", file]
  | .shared => l.file .application ["Common", "Services", file]
  | .external system => l.file .infrastructure [system.folder, file]

/-- The service registrations of a layer. -/
def wiring (l : Locator) (layer : Layer) : RelativePath := l.file layer ["DependencyInjection.cs"]

/-! ### Infrastructure -/

/-- The persistence mapping of an entity. -/
def persistenceMapping (l : Locator) (f : Feature) : RelativePath :=
  l.file .infrastructure ["Persistence", "Configurations", f.name ++ "Configuration.cs"]

/-- The database context. -/
def dbContext (l : Locator) : RelativePath :=
  l.file .infrastructure ["Persistence", "AppDbContext.cs"]

/-- The repository class of an entity. -/
def repositoryImpl (l : Locator) (f : Feature) : RelativePath :=
  l.file .infrastructure ["Repositories", f.repositoryImpl ++ ".cs"]

/-! ### Api -/

/-- The route table or the controller of an entity. -/
def exposure (l : Locator) (f : Feature) : RelativePath :=
  match l.style with
  | .routes => l.file .api ["Endpoints", f.name ++ "Endpoints.cs"]
  | .controllers => l.file .api ["Controllers", f.plural ++ "Controller.cs"]

/-- The program's entry point. -/
def entryPoint (l : Locator) : RelativePath := l.file .api ["Program.cs"]

/-! ### Manifests and files at the root -/

/-- The manifest of a layer's module. -/
def manifest (l : Locator) (layer : Layer) : RelativePath :=
  l.file layer [l.moduleName layer ++ ".csproj"]

/-- A layer's manifest as another manifest refers to it. -/
def projectReference (l : Locator) (layer : Layer) : String :=
  "..\\" ++ l.moduleName layer ++ "\\" ++ l.moduleName layer ++ ".csproj"

/-- The environment file. -/
def environment (l : Locator) : RelativePath := l.file .root [".env"]

/-- The compose file. -/
def compose (l : Locator) : RelativePath := l.file .root ["docker-compose.yml"]

/-! ### Look-up by layer and kind -/

/-- The path of an artifact that layer, kind and feature determine.  Use cases, enums and
services need further names and are refused here. -/
def locate (l : Locator) (f : Option Feature) (layer : Layer) (kind : ArtifactKind) :
    Except RequestError RelativePath :=
  let withFeature (path : Feature → RelativePath) : Except RequestError RelativePath :=
    match f with
    | some f => .ok (path f)
    | none => .error (.missingField "entity")
  match layer, kind with
  | .domain, .entityType => withFeature l.entityType
  | .domain, .constants => .ok (l.constants f)
  | .infrastructure, .persistenceMapping => withFeature l.persistenceMapping
  | .infrastructure, .dbContext => .ok l.dbContext
  | .application, .repositoryContract => withFeature l.repositoryContract
  | .infrastructure, .repositoryImpl => withFeature l.repositoryImpl
  | .api, .exposure => withFeature l.exposure
  | .api, .entryPoint => .ok l.entryPoint
  | .application, .wiring | .infrastructure, .wiring => .ok (l.wiring layer)
  | .root, .environment => .ok l.environment
  | .root, .compose => .ok l.compose
  | .domain, .manifest | .application, .manifest | .infrastructure, .manifest | .api, .manifest =>
      .ok (l.manifest layer)
  | layer, kind =>
      .error (.unknownValue "artifact location" (kind.spelling ++ " in layer '" ++ layer.spelling ++ "'"))

end Locator

end Scaffold
