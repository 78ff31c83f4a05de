import Scaffold.Error
import Scaffold.Text.Case

/-!
# Vocabulary

The enumerated words of a request and of the generated solution: exposure styles,
persistence providers, HTTP verbs, layers, service lifetimes, external systems and kinds
of artifact.  Each has one canonical spelling; those a user types have a reader that also
takes the usual other names, in any ASCII case.
-/

namespace Scaffold

open Scaffold.Text (asciiLower asciiUpper)

/-! ## Exposure styles -/

/-- How capabilities become callable from outside. -/
inductive Exposure where
  /-- A route table per entity. -/
  | routes
  /-- A controller per entity. -/
  | controllers
deriving Repr, DecidableEq, Inhabited

/-- The canonical spelling of an exposure style. -/
def Exposure.spelling : Exposure → String
  | .routes => "routes"
  | .controllers => "controllers"

/-- Read an exposure style. -/
def Exposure.parse (s : String) : Except RequestError Exposure :=
  match asciiLower s with
  | "routes" | "minimal" | "minimal-api" => .ok .routes
  | "controllers" | "controller" | "mvc" => .ok .controllers
  | other => .error (.unknownValue "exposure style" other)

/-! ## Persistence providers -/

/-- The database behind the persistence layer. -/
inductive Provider where
  | postgres | sqlServer | sqlite
deriving Repr, DecidableEq

namespace Provider

/-- Every provider, in the order they are offered. -/
def all : List Provider := [.postgres, .sqlServer, .sqlite]

/-- The canonical spelling of a provider. -/
def spelling : Provider → String
  | .postgres => "postgres"
  | .sqlServer => "sqlserver"
  | .sqlite => "sqlite"

/-- The package that carries the provider. -/
def package : Provider → String
  | .postgres => "Npgsql.EntityFrameworkCore.PostgreSQL"
  | .sqlServer => "Microsoft.EntityFrameworkCore.SqlServer"
  | .sqlite => "Microsoft.EntityFrameworkCore.Sqlite"

/-- The version of that package. -/
def packageVersion : Provider → String
  | .postgres => "9.0.2"
  | .sqlServer | .sqlite => "9.0.0"

/-- The call on the options builder that selects the provider. -/
def useMethod : Provider → String
  | .postgres => "UseNpgsql"
  | .sqlServer => "UseSqlServer"
  | .sqlite => "UseSqlite"

/-- Read a provider. -/
def parse (s : String) : Except RequestError Provider :=
  match asciiLower s with
  | "postgres" | "postgresql" | "npgsql" | "pg" => .ok .postgres
  | "sqlserver" | "mssql" | "sql-server" => .ok .sqlServer
  | "sqlite" => .ok .sqlite
  | other => .error (.unknownValue "persistence provider" other)

end Provider

/-! ## Verbs -/

/-- The HTTP verb of a requested action. -/
inductive Verb where
  | get | post | put | delete | patch
deriving Repr, DecidableEq, Inhabited

namespace Verb

/-- The canonical spelling of a verb. -/
def spelling : Verb → String
  | .get => "GET"
  | .post => "POST"
  | .put => "PUT"
  | .delete => "DELETE"
  | .patch => "PATCH"

/-- The verb as it stands in generated names, `MapGet` or `[HttpGet]`. -/
def token : Verb → String
  | .get => "Get"
  | .post => "Post"
  | .put => "Put"
  | .delete => "Delete"
  | .patch => "Patch"

/-- Decide whether the verb only reads. -/
def isQuery : Verb → Bool
  | .get => true
  | _ => false

/-- Read a verb. -/
def parse (s : String) : Except RequestError Verb :=
  match asciiUpper s with
  | "GET" => .ok .get
  | "POST" => .ok .post
  | "PUT" => .ok .put
  | "DELETE" => .ok .delete
  | "PATCH" => .ok .patch
  | other => .error (.unknownValue "HTTP verb" other)

end Verb

/-! ## Layers -/

/-- A layer of the generated solution.  `root` stands for files beside the layers. -/
inductive Layer where
  | domain | application | infrastructure | api | root
deriving Repr, DecidableEq

namespace Layer

/-- Every layer. -/
def all : List Layer := [.domain, .application, .infrastructure, .api, .root]

/-- The layer's part of a module name; nothing for `root`. -/
def spelling : Layer → String
  | .domain => "Domain"
  | .application => "Application"
  | .infrastructure => "Infrastructure"
  | .api => "Api"
  | .root => ""

end Layer

/-! ## Service lifetimes -/

/-- How long a registered service lives. -/
inductive Lifetime where
  | scoped | transient | singleton
deriving Repr, DecidableEq, Inhabited

namespace Lifetime

/-- The canonical spelling of a lifetime. -/
def spelling : Lifetime → String
  | .scoped => "scoped"
  | .transient => "transient"
  | .singleton => "singleton"

/-- The call that registers a service with this lifetime. -/
def registration : Lifetime → String
  | .scoped => "AddScoped"
  | .transient => "AddTransient"
  | .singleton => "AddSingleton"

/-- Read a lifetime. -/
def parse (s : String) : Except RequestError Lifetime :=
  match asciiLower s with
  | "scoped" => .ok .scoped
  | "transient" => .ok .transient
  | "singleton" => .ok .singleton
  | other => .error (.unknownValue "service lifetime" other)

end Lifetime

/-! ## External systems -/

/-- A container as the compose file names it. -/
structure Container where
  /-- The service name in the compose file. -/
  name : String
  /-- The image it runs. -/
  image : String
deriving Repr, DecidableEq

/-- A system outside the solution that a service can stand for. -/
inductive ExternalSystem where
  | cache | broker
deriving Repr, DecidableEq

namespace ExternalSystem

/-- The canonical spelling of an external system. -/
def spelling : ExternalSystem → String
  | .cache => "cache"
  | .broker => "broker"

/-- The service name used when a request gives none. -/
def defaultName : ExternalSystem → String
  | .cache => "Cache"
  | .broker => "MessageBus"

/-- The infrastructure folder of the implementation. -/
def folder : ExternalSystem → String
  | .cache => "Caching"
  | .broker => "Messaging"

/-- The client package. -/
def package : ExternalSystem → String
  | .cache => "StackExchange.Redis"
  | .broker => "RabbitMQ.Client"

/-- The version of the client package. -/
def packageVersion : ExternalSystem → String
  | .cache => "2.8.16"
  | .broker => "7.0.0"

/-- The container that runs the system. -/
def container : ExternalSystem → Container
  | .cache => ⟨"redis", "redis:7-alpine"⟩
  | .broker => ⟨"rabbitmq", "rabbitmq:3-management"⟩

/-- The port mapping of the container. -/
def ports : ExternalSystem → String
  | .cache => "6379:6379"
  | .broker => "5672:5672"

/-- The environment variable the generated code reads. -/
def variableName : ExternalSystem → String
  | .cache => "REDIS_CONNECTION"
  | .broker => "RABBITMQ_HOST"

/-- The value that variable starts with. -/
def variableValue : ExternalSystem → String
  | .cache => "localhost:6379"
  | .broker => "localhost"

/-- Read an external system. -/
def parse (s : String) : Except RequestError ExternalSystem :=
  match asciiLower s with
  | "cache" | "redis" => .ok .cache
  | "broker" | "queue" | "rabbitmq" | "messaging" => .ok .broker
  | other => .error (.unknownValue "external system" other)

end ExternalSystem

/-! ## Kinds of artifact -/

/-- What a generated text file is for. -/
inductive ArtifactKind where
  | entityType | enumType | constants
  | persistenceMapping | dbContext | repositoryContract | repositoryImpl
  | useCaseRequest | useCaseHandler | useCaseValidator
  | serviceContract | serviceImpl
  | exposure | entryPoint | wiring
  | manifest | environment | compose
deriving Repr, DecidableEq

/-- The canonical spelling of a kind of artifact. -/
def ArtifactKind.spelling : ArtifactKind → String
  | .entityType => "entity-type"
  | .enumType => "enum"
  | .constants => "constants"
  | .persistenceMapping => "persistence-mapping"
  | .dbContext => "db-context"
  | .repositoryContract => "repository-contract"
  | .repositoryImpl => "repository-impl"
  | .useCaseRequest => "use-case-request"
  | .useCaseHandler => "use-case-handler"
  | .useCaseValidator => "use-case-validator"
  | .serviceContract => "service-contract"
  | .serviceImpl => "service-impl"
  | .exposure => "exposure"
  | .entryPoint => "entry-point"
  | .wiring => "dependency-wiring"
  | .manifest => "manifest"
  | .environment => "environment"
  | .compose => "compose"

/-- Every kind of artifact. -/
def ArtifactKind.all : List ArtifactKind :=
  [.entityType, .enumType, .constants, .persistenceMapping, .dbContext, .repositoryContract,
   .repositoryImpl, .useCaseRequest, .useCaseHandler, .useCaseValidator, .serviceContract,
   .serviceImpl, .exposure, .entryPoint, .wiring, .manifest, .environment, .compose]

end Scaffold
