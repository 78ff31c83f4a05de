import Scaffold.Template.Context

/-!
# Built-in templates

Each template is the empty shell of one kind of file: imports, namespace and the enclosing
type.  Members are never part of a template; they are declared afterwards.  So a template
holds no detection text.
-/

namespace Scaffold

/-! ## Names -/

/-- The templates the library asks for. -/
inductive Template where
  | manifest | entity | enumType | constants | persistenceMapping | dbContext
  | repositoryContract | repositoryImpl | useCaseRequest | useCaseHandler | useCaseValidator
  | applicationWiring | infrastructureWiring | endpoints | controller
  | entryPointRoutes | entryPointControllers
  | serviceContract | serviceImpl | serviceCacheImpl | serviceBrokerImpl | compose
deriving Repr, DecidableEq

namespace Template

/-- Every template, in the order they are listed. -/
def all : List Template :=
  [.manifest, .entity, .enumType, .constants, .persistenceMapping, .dbContext,
   .repositoryContract, .repositoryImpl, .useCaseRequest, .useCaseHandler, .useCaseValidator,
   .applicationWiring, .infrastructureWiring, .endpoints, .controller,
   .entryPointRoutes, .entryPointControllers,
   .serviceContract, .serviceImpl, .serviceCacheImpl, .serviceBrokerImpl, .compose]

/-- The name a template is asked for and overridden by. -/
def name : Template → String
  | .manifest => "manifest"
  | .entity => "entity"
  | .enumType => "enum"
  | .constants => "constants"
  | .persistenceMapping => "persistence_mapping"
  | .dbContext => "db_context"
  | .repositoryContract => "repository_contract"
  | .repositoryImpl => "repository_impl"
  | .useCaseRequest => "use_case.request"
  | .useCaseHandler => "use_case.handler"
  | .useCaseValidator => "use_case.validator"
  | .applicationWiring => "application_di"
  | .infrastructureWiring => "infrastructure_di"
  | .endpoints => "endpoints"
  | .controller => "controller"
  | .entryPointRoutes => "entry_point.routes"
  | .entryPointControllers => "entry_point.controllers"
  | .serviceContract => "service.contract"
  | .serviceImpl => "service.impl"
  | .serviceCacheImpl => "service.cache.impl"
  | .serviceBrokerImpl => "service.broker.impl"
  | .compose => "compose"

/-- The template of a name. -/
def ofName? (name : String) : Option Template := all.find? (·.name == name)

/-! ## Sources -/

/-! ### Slots -/

/-- The project name. -/
def project : String := slot "PROJECT_NAME"

/-- The entity name. -/
def entityName : String := slot "ENTITY"

/-- The plural of the entity name. -/
def entityPlural : String := slot "ENTITY_PLURAL"

/-- The plural of the entity name in kebab case. -/
def entityPluralKebab : String := slot "ENTITY_PLURAL_KEBAB"

/-- The namespace of the file. -/
def space : String := slot "NAMESPACE"

/-- The namespace of a service interface. -/
def contractSpace : String := slot "CONTRACT_NAMESPACE"

/-- The service name. -/
def service : String := slot "SERVICE_NAME"

/-- The kit a module is built with. -/
def sdk : String := slot "SDK"

/-- The module name. -/
def moduleName : String := slot "MODULE_NAME"

/-- The name of a class of constants. -/
def className : String := slot "CLASS_NAME"

/-! ### Lines -/

/-- A module manifest. -/
def manifestLines : List String :=
  ["<Project Sdk=\"" ++ sdk ++ "\">", "", "  <PropertyGroup>",
   "    <TargetFramework>net9.0</TargetFramework>",
   "    <ImplicitUsings>enable</ImplicitUsings>", "    <Nullable>enable</Nullable>",
   "    <RootNamespace>" ++ moduleName ++ "</RootNamespace>", "  </PropertyGroup>", "",
   "</Project>"]

/-- An entity class. -/
def entityLines : List String :=
  ["namespace " ++ project ++ ".Domain.Entities;", "", "public class " ++ entityName, "\x7b",
   "    public Guid Id \x7b get; set; \x7d",
   "    public DateTime CreatedAt \x7b get; set; \x7d = DateTime.UtcNow;",
   "    public DateTime? UpdatedAt \x7b get; set; \x7d", "\x7d"]

/-- The file of an enum. -/
def enumTypeLines : List String :=
  ["namespace " ++ project ++ ".Domain.Enums;"]

/-- A class of constants. -/
def constantsLines : List String :=
  ["namespace " ++ project ++ ".Domain.Constants;", "", "public static class " ++ className,
   "\x7b", "\x7d"]

/-- The persistence mapping of an entity. -/
def persistenceMappingLines : List String :=
  ["using Microsoft.EntityFrameworkCore;",
   "using Microsoft.EntityFrameworkCore.Metadata.Builders;",
   "using " ++ project ++ ".Domain.Entities;", "",
   "namespace " ++ project ++ ".Infrastructure.Persistence.Configurations;", "",
   "public class " ++ entityName ++ "Configuration : IEntityTypeConfiguration<" ++ entityName ++ ">",
   "\x7b", "    public void Configure(EntityTypeBuilder<" ++ entityName ++ "> builder)",
   "    \x7b", "        builder.ToTable(\"" ++ entityPlural ++ "\");",
   "        builder.HasKey(x => x.Id);",
   "        builder.Property(x => x.CreatedAt).IsRequired();", "    \x7d", "\x7d"]

/-- The database context. -/
def dbContextLines : List String :=
  ["using Microsoft.EntityFrameworkCore;", "",
   "namespace " ++ project ++ ".Infrastructure.Persistence;", "",
   "public class AppDbContext : DbContext", "\x7b",
   "    public AppDbContext(DbContextOptions<AppDbContext> options)", "        : base(options)",
   "    \x7b", "    \x7d", "",
   "    protected override void OnModelCreating(ModelBuilder modelBuilder)", "    \x7b",
   "        modelBuilder.ApplyConfigurationsFromAssembly(typeof(AppDbContext).Assembly);",
   "        base.OnModelCreating(modelBuilder);", "    \x7d", "\x7d"]

/-- A repository interface. -/
def repositoryContractLines : List String :=
  ["using " ++ project ++ ".Domain.Entities;", "",
   "namespace " ++ project ++ ".Application.Interfaces.Repositories;", "",
   "public interface I" ++ entityName ++ "Repository", "\x7b", "\x7d"]

/-- A repository class. -/
def repositoryImplLines : List String :=
  ["using Microsoft.EntityFrameworkCore;",
   "using " ++ project ++ ".Application.Interfaces.Repositories;",
   "using " ++ project ++ ".Domain.Entities;",
   "using " ++ project ++ ".Infrastructure.Persistence;", "",
   "namespace " ++ project ++ ".Infrastructure.Repositories;", "",
   "public class " ++ entityName ++ "Repository : I" ++ entityName ++ "Repository", "\x7b",
   "    private readonly AppDbContext _context;", "",
   "    public " ++ entityName ++ "Repository(AppDbContext context)", "    \x7b",
   "        _context = context;", "    \x7d", "\x7d"]

/-- The file of a request record. -/
def useCaseRequestLines : List String :=
  ["using MediatR;", "using " ++ project ++ ".Domain.Entities;", "",
   "namespace " ++ space ++ ";"]

/-- The file of a handler. -/
def useCaseHandlerLines : List String :=
  ["using MediatR;", "using " ++ project ++ ".Application.Interfaces.Repositories;",
   "using " ++ project ++ ".Domain.Entities;", "", "namespace " ++ space ++ ";"]

/-- The file of a validator. -/
def useCaseValidatorLines : List String :=
  ["using FluentValidation;", "", "namespace " ++ space ++ ";"]

/-- The registrations of the application layer. -/
def applicationWiringLines : List String :=
  ["using System.Reflection;", "using FluentValidation;",
   "using Microsoft.Extensions.DependencyInjection;", "",
   "namespace " ++ project ++ ".Application;", "", "public static class DependencyInjection",
   "\x7b",
   "    public static IServiceCollection AddApplication(this IServiceCollection services)",
   "    \x7b",
   "        services.AddMediatR(cfg => cfg.RegisterServicesFromAssembly(Assembly.GetExecutingAssembly()));",
   "        services.AddValidatorsFromAssembly(Assembly.GetExecutingAssembly());", "",
   "        return services;", "    \x7d", "\x7d"]

/-- The registrations of the infrastructure. -/
def infrastructureWiringLines : List String :=
  ["using Microsoft.Extensions.Configuration;",
   "using Microsoft.Extensions.DependencyInjection;", "",
   "namespace " ++ project ++ ".Infrastructure;", "", "public static class DependencyInjection",
   "\x7b",
   "    public static IServiceCollection AddInfrastructure(this IServiceCollection services, IConfiguration configuration)",
   "    \x7b", "        return services;", "    \x7d", "\x7d"]

/-- A route table. -/
def endpointsLines : List String :=
  ["using MediatR;", "", "namespace " ++ project ++ ".Api.Endpoints;", "",
   "public static class " ++ entityName ++ "Endpoints", "\x7b",
   "    public static IEndpointRouteBuilder Map" ++ entityName ++ "Endpoints(this IEndpointRouteBuilder app)",
   "    \x7b", "        var group = app.MapGroup(\"/api/" ++ entityPluralKebab ++ "\");", "",
   "        return app;", "    \x7d", "\x7d"]

/-- A controller. -/
def controllerLines : List String :=
  ["using MediatR;", "using Microsoft.AspNetCore.Mvc;", "",
   "namespace " ++ project ++ ".Api.Controllers;", "", "[ApiController]",
   "[Route(\"api/" ++ entityPluralKebab ++ "\")]",
   "public class " ++ entityPlural ++ "Controller : ControllerBase", "\x7b",
   "    private readonly ISender _sender;", "",
   "    public " ++ entityPlural ++ "Controller(ISender sender)", "    \x7b",
   "        _sender = sender;", "    \x7d", "\x7d"]

/-- The entry point of a solution with route tables. -/
def entryPointRoutesLines : List String :=
  ["var builder = WebApplication.CreateBuilder(args);", "", "var app = builder.Build();", "",
   "app.UseHttpsRedirection();", "", "app.Run();"]

/-- The entry point of a solution with controllers. -/
def entryPointControllersLines : List String :=
  ["var builder = WebApplication.CreateBuilder(args);", "", "var app = builder.Build();", "",
   "app.UseHttpsRedirection();", "app.UseAuthorization();", "", "app.Run();"]

/-- A service interface. -/
def serviceContractLines : List String :=
  ["namespace " ++ space ++ ";", "", "public interface I" ++ service ++ "Service", "\x7b",
   "\x7d"]

/-- A service class. -/
def serviceImplLines : List String :=
  ["namespace " ++ space ++ ";", "",
   "public class " ++ service ++ "Service : I" ++ service ++ "Service", "\x7b", "\x7d"]

/-- A service class over a cache. -/
def serviceCacheImplLines : List String :=
  ["using StackExchange.Redis;", "using " ++ contractSpace ++ ";", "",
   "namespace " ++ space ++ ";", "",
   "public class " ++ service ++ "Service : I" ++ service ++ "Service", "\x7b",
   "    private readonly IDatabase _database;", "",
   "    public " ++ service ++ "Service(IConnectionMultiplexer connection)", "    \x7b",
   "        _database = connection.GetDatabase();", "    \x7d", "\x7d"]

/-- A service class over a message broker. -/
def serviceBrokerImplLines : List String :=
  ["using RabbitMQ.Client;", "using " ++ contractSpace ++ ";", "", "namespace " ++ space ++ ";",
   "", "public class " ++ service ++ "Service : I" ++ service ++ "Service", "\x7b",
   "    private readonly IConnectionFactory _connectionFactory;", "",
   "    public " ++ service ++ "Service(IConnectionFactory connectionFactory)", "    \x7b",
   "        _connectionFactory = connectionFactory;", "    \x7d", "\x7d"]

/-- The compose file. -/
def composeLines : List String :=
  ["services:"]

/-! ### The table -/

/-- The lines of a template. -/
def lines : Template → List String
  | .manifest => manifestLines
  | .entity => entityLines
  | .enumType => enumTypeLines
  | .constants => constantsLines
  | .persistenceMapping => persistenceMappingLines
  | .dbContext => dbContextLines
  | .repositoryContract => repositoryContractLines
  | .repositoryImpl => repositoryImplLines
  | .useCaseRequest => useCaseRequestLines
  | .useCaseHandler => useCaseHandlerLines
  | .useCaseValidator => useCaseValidatorLines
  | .applicationWiring => applicationWiringLines
  | .infrastructureWiring => infrastructureWiringLines
  | .endpoints => endpointsLines
  | .controller => controllerLines
  | .entryPointRoutes => entryPointRoutesLines
  | .entryPointControllers => entryPointControllersLines
  | .serviceContract => serviceContractLines
  | .serviceImpl => serviceImplLines
  | .serviceCacheImpl => serviceCacheImplLines
  | .serviceBrokerImpl => serviceBrokerImplLines
  | .compose => composeLines

/-- The text of a template before its slots are filled. -/
def source (t : Template) : String := String.join (t.lines.map (· ++ "\n"))

end Template

end Scaffold
