import Scaffold.Locator
import Scaffold.Task

/-!
# Plans

The tasks of a request follow from the layout of the project, the entity and the use cases;
no file is looked at to make them.  This module has the groups of tasks that several
requests share.
-/

namespace Scaffold

open Scaffold.Text

/-- What every plan for a project starts from. -/
structure Site where
  /-- The layout of the project. -/
  locator : Locator
  /-- The year, for templates that show it. -/
  year : Nat
deriving Repr, DecidableEq

namespace Site

/-- The project name. -/
def project (s : Site) : String := s.locator.project

/-- The variables of a template that belongs to no entity. -/
def context (s : Site) : Context := .ofProject s.year s.project

/-- The variables of a template that belongs to an entity. -/
def featureContext (s : Site) (f : Feature) : Context := s.context.withFeature f

/-- The variables of the manifest of a layer. -/
def manifestContext (s : Site) (layer : Layer) : Context :=
  let sdk := match layer with
    | .api => "Microsoft.NET.Sdk.Web"
    | _ => "Microsoft.NET.Sdk"
  (s.context.set "SDK" sdk).set "MODULE_NAME" (s.locator.moduleName layer)

/-! ## Single tasks -/

/-- Make sure of a file. -/
def file (what : String) (path : RelativePath) (template : Template) (ctx : Context) : Task :=
  ⟨what, path, .file template.name ctx⟩

/-- Make sure of an import line. -/
def importLine (path : RelativePath) (literal : String) : Task := ⟨literal, path, .importLine literal⟩

/-- Make sure of a line that is its own detection, before a marker. -/
def lineBefore (marker line : String) (path : RelativePath) (template : Template) (ctx : Context) :
    Task :=
  ⟨line, path,
    .declare ⟨line, [line], .beforeMarker marker, false, some template.name⟩ ctx⟩

/-- Make sure that a layer depends on a package. -/
def package (s : Site) (layer : Layer) (identity version : String) : Task :=
  ⟨"package " ++ identity ++ " " ++ version, s.locator.manifest layer,
    .dependency identity (some version) (s.manifestContext layer)⟩

/-- Make sure that a layer refers to another. -/
def reference (s : Site) (source target : Layer) : Task :=
  ⟨"reference " ++ s.locator.moduleName target, s.locator.manifest source,
    .reference (s.locator.projectReference target) (s.manifestContext source)⟩

/-! ## Layers -/

/-- The manifests of the layers and their references to each other. -/
def layerGraph (s : Site) : List Task :=
  [file "domain manifest" (s.locator.manifest .domain) .manifest (s.manifestContext .domain),
   s.reference .application .domain,
   s.reference .infrastructure .application,
   s.reference .api .infrastructure,
   s.reference .api .application]

/-! ## Entities and persistence -/

/-- The class of an entity. -/
def entityType (s : Site) (f : Feature) : Task :=
  file "entity type" (s.locator.entityType f) .entity (s.featureContext f)

/-- The persistence mapping of an entity. -/
def persistenceMapping (s : Site) (f : Feature) : Task :=
  file "persistence mapping" (s.locator.persistenceMapping f) .persistenceMapping
    (s.featureContext f)

/-- The set of an entity in the database context, and the packages behind it. -/
def persistence (s : Site) (f : Feature) (provider : Provider) : List Task :=
  let path := s.locator.dbContext
  [⟨"db set", path,
     .declare ⟨Detection.dbSet f.name, [dbSetLine f], .endOfBlock, true, some Template.dbContext.name⟩
       (s.featureContext f)⟩,
   importLine path ("using " ++ s.project ++ ".Domain.Entities;"),
   s.package .infrastructure "Microsoft.EntityFrameworkCore" "9.0.0",
   s.package .infrastructure provider.package provider.packageVersion]

/-! ## Repositories -/

/-- A method on the repository interface. -/
def contractMethod (s : Site) (f : Feature) (m : RepositoryMethod) : Task :=
  ⟨m.name ++ "Async", s.locator.repositoryContract f,
    .declare ⟨m.detection, m.contractBlock f.name, .endOfBlock, false,
      some Template.repositoryContract.name⟩ (s.featureContext f)⟩

/-- A method on the repository class. -/
def implMethod (s : Site) (f : Feature) (m : RepositoryMethod) : Task :=
  ⟨m.name ++ "Async", s.locator.repositoryImpl f,
    .declare ⟨m.detection, m.implBlock f, .endOfBlock, true, some Template.repositoryImpl.name⟩
      (s.featureContext f)⟩

/-- The methods on the interface, then those on the class. -/
def repository (s : Site) (f : Feature) (methods : List RepositoryMethod) : List Task :=
  methods.map (s.contractMethod f) ++ methods.map (s.implMethod f)

/-! ## Use cases -/

/-- The packages and the registrations of the application layer. -/
def applicationLayer (s : Site) : List Task :=
  [s.package .application "MediatR" "12.4.1",
   s.package .application "FluentValidation" "11.11.0",
   file "application wiring" (s.locator.wiring .application) .applicationWiring s.context]

/-- A type of a use case, in a file of its own. -/
def useCaseType (s : Site) (f : Feature) (u : UseCase) (kind : ArtifactKind) (path : RelativePath)
    (detection : String) (block : List String) (template : Template) : Task :=
  ⟨kind.spelling, path,
    .declare ⟨detection, block, .endOfFile, true, some template.name⟩
      ((s.featureContext f).set "NAMESPACE" (u.namespaceOf s.project f))⟩

/-- Request, handler and validator of a use case. -/
def useCase (s : Site) (f : Feature) (u : UseCase) : List Task :=
  [s.useCaseType f u .useCaseRequest (s.locator.useCaseRequest f u)
     (Detection.useCaseRequest u.requestType) (u.requestBlock f.name) .useCaseRequest,
   s.useCaseType f u .useCaseHandler (s.locator.useCaseHandler f u)
     (Detection.useCaseClass u.handlerType) (u.handlerBlock f) .useCaseHandler,
   s.useCaseType f u .useCaseValidator (s.locator.useCaseValidator f u)
     (Detection.useCaseClass u.validatorType) u.validatorBlock .useCaseValidator]

/-! ## Exposure -/

/-- How a use case is declared in the exposure of its entity. -/
def exposureDeclaration (u : UseCase) (style : Exposure) (f : Feature) : Declaration :=
  match style with
  | .routes =>
      ⟨u.detection .routes, u.routeBlock f, .beforeMarker "return app;", false,
        some Template.endpoints.name⟩
  | .controllers =>
      ⟨u.detection .controllers, u.controllerBlock, .endOfBlock, true,
        some Template.controller.name⟩

/-- The entrypoint of a use case and the import of its namespace. -/
def exposure (s : Site) (f : Feature) (u : UseCase) : List Task :=
  let path := s.locator.exposure f
  [⟨u.verb.spelling ++ " " ++ u.name, path,
     .declare (exposureDeclaration u s.locator.style f) (s.featureContext f)⟩,
   importLine path ("using " ++ u.namespaceOf s.project f ++ ";")]

/-! ## The entry point -/

/-- The sample code a new web project comes with. -/
def weatherSample : List (List String) :=
  [["var summaries = new[]", "\x7b",
    "\"Freezing\", \"Bracing\", \"Chilly\", \"Cool\", \"Mild\", \"Warm\", \"Balmy\", \"Hot\", \"Sweltering\", \"Scorching\"",
    "\x7d;", ""],
   ["app.MapGet(\"/weatherforecast\", () =>", "\x7b",
    "var forecast =  Enumerable.Range(1, 5).Select(index =>", "new WeatherForecast", "(",
    "DateOnly.FromDateTime(DateTime.Now.AddDays(index)),", "Random.Shared.Next(-20, 55),",
    "summaries[Random.Shared.Next(summaries.Length)]", "))", ".ToArray();", "return forecast;",
    "\x7d)", ".WithName(\"GetWeatherForecast\");", ""],
   ["record WeatherForecast(DateOnly Date, int TemperatureC, string? Summary)", "\x7b",
    "public int TemperatureF => 32 + (int)(TemperatureC / 0.5556);", "\x7d"]]

/-- The template of the entry point. -/
def entryTemplate (s : Site) : Template :=
  match s.locator.style with
  | .routes => .entryPointRoutes
  | .controllers => .entryPointControllers

/-- The registrations before the application is built. -/
def entryRegistrations (s : Site) : List String :=
  ["builder.Services.AddApplication();",
   "builder.Services.AddInfrastructure(builder.Configuration);"] ++
    match s.locator.style with
    | .routes => []
    | .controllers => ["builder.Services.AddControllers();"]

/-- The line that maps the entrypoints of an entity. -/
def entryMapping (s : Site) (f : Feature) : String :=
  match s.locator.style with
  | .routes => Detection.endpointMapping f.name
  | .controllers => "app.MapControllers();"

/-- The namespaces the entry point imports. -/
def entryImports (s : Site) : List String :=
  ["using " ++ s.project ++ ".Application;", "using " ++ s.project ++ ".Infrastructure;"] ++
    match s.locator.style with
    | .routes => ["using " ++ s.project ++ ".Api.Endpoints;"]
    | .controllers => []

/-- The entry point without its sample, with the registrations and the mapping. -/
def entryPoint (s : Site) (f : Feature) : List Task :=
  let path := s.locator.entryPoint
  [file "entry point" path s.entryTemplate s.context,
   ⟨"sample endpoint", path, .clean weatherSample⟩]
    ++ s.entryRegistrations.map
        (lineBefore "var app = builder.Build();" · path s.entryTemplate s.context)
    ++ [lineBefore "app.Run();" (s.entryMapping f) path s.entryTemplate s.context]
    ++ s.entryImports.map (importLine path)
    ++ [s.package .api "Microsoft.EntityFrameworkCore.Design" "9.0.0"]

/-! ## Wiring of the infrastructure -/

/-- The text whose presence proves that the database context is registered. -/
def contextRegistration : String := "services.AddDbContext<AppDbContext>("

/-- The registration of the database context under a provider. -/
def contextRegistrationBlock (provider : Provider) : List String :=
  [contextRegistration ++ "options =>",
   "    options." ++ provider.useMethod
     ++ "(configuration.GetConnectionString(\"DefaultConnection\")));"]

/-- The marker registrations go before. -/
def returnServices : String := "return services;"

/-- The namespaces the infrastructure wiring imports. -/
def wiringImports (s : Site) : List String :=
  ["using Microsoft.EntityFrameworkCore;",
   "using " ++ s.project ++ ".Application.Interfaces.Repositories;",
   "using " ++ s.project ++ ".Infrastructure.Persistence;",
   "using " ++ s.project ++ ".Infrastructure.Repositories;"]

/-- The registrations of the database context and of a repository. -/
def infrastructureWiring (s : Site) (f : Feature) (provider : Provider) : List Task :=
  let path := s.locator.wiring .infrastructure
  let declare (what detection : String) (block : List String) : Task :=
    ⟨what, path, .declare ⟨detection, block, .beforeMarker returnServices, false,
      some Template.infrastructureWiring.name⟩ s.context⟩
  [file "infrastructure wiring" path .infrastructureWiring s.context,
   declare "db context registration" contextRegistration (contextRegistrationBlock provider),
   declare "repository registration" (Detection.repositoryRegistration f)
     [Detection.repositoryRegistration f]]
    ++ s.wiringImports.map (importLine path)

end Site

end Scaffold
