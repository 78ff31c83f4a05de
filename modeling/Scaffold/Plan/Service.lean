import Scaffold.Plan.Basic
import Scaffold.Request

/-!
# Plans for services

A service is an interface, an implementation and a registration.  One that stands for an
external system also brings its client, an environment variable and a container.
-/

namespace Scaffold

/-- The template of a service's implementation. -/
def Placement.implTemplate : Placement → Template
  | .external .cache => .serviceCacheImpl
  | .external .broker => .serviceBrokerImpl
  | .featureLocal _ | .shared => .serviceImpl

/-- The template of the wiring that registers a service. -/
def Placement.wiringTemplate : Placement → Template
  | .external _ => .infrastructureWiring
  | .featureLocal _ | .shared => .applicationWiring

namespace ExternalSystem

/-- The text whose presence proves that the client is registered. -/
def clientDetection : ExternalSystem → String
  | .cache => "AddSingleton<IConnectionMultiplexer>"
  | .broker => "AddSingleton<IConnectionFactory>"

/-- The configured value of the system's variable, or its default. -/
def configured (e : ExternalSystem) : String :=
  "configuration[\"" ++ e.variableName ++ "\"] ?? \"" ++ e.variableValue ++ "\""

/-- The registration of the client. -/
def clientBlock (e : ExternalSystem) : List String :=
  ["services." ++ e.clientDetection ++ "(_ =>",
   match e with
   | .cache => "    ConnectionMultiplexer.Connect(" ++ e.configured ++ "));"
   | .broker => "    new ConnectionFactory \x7b HostName = " ++ e.configured ++ " \x7d);"]

/-- The import of the client's namespace. -/
def clientImport : ExternalSystem → String
  | .cache => "using StackExchange.Redis;"
  | .broker => "using RabbitMQ.Client;"

/-- The line that names the container in the compose file. -/
def composeDetection (e : ExternalSystem) : String := "  " ++ e.container.name ++ ":"

/-- The container in the compose file. -/
def composeBlock (e : ExternalSystem) : List String :=
  [e.composeDetection, "    image: " ++ e.container.image, "    ports:",
   "      - \"" ++ e.ports ++ "\""]

end ExternalSystem

namespace Site

/-- The variables of the templates of a service. -/
def serviceContext (s : Site) (p : Placement) (name : String) : Context :=
  ((s.context.set "SERVICE_NAME" name).set "NAMESPACE" (p.implNamespace s.project)).set
    "CONTRACT_NAMESPACE" (p.contractNamespace s.project)

/-- Interface, implementation and registration of a service. -/
def service (s : Site) (p : Placement) (name : String) (lifetime : Lifetime) : List Task :=
  let wiring := s.locator.wiring p.wiringLayer
  let ctx := s.serviceContext p name
  let contractSpace := p.contractNamespace s.project
  let implSpace := p.implNamespace s.project
  [file "service contract" (s.locator.serviceContract p name) .serviceContract
     (ctx.set "NAMESPACE" contractSpace),
   file "service implementation" (s.locator.serviceImpl p name) p.implTemplate ctx,
   ⟨"service registration", wiring,
     .declare ⟨Detection.serviceRegistration name,
       ["services." ++ lifetime.registration ++ Detection.serviceRegistration name],
       .beforeMarker returnServices, false, some p.wiringTemplate.name⟩ s.context⟩,
   importLine wiring ("using " ++ contractSpace ++ ";")]
    ++ if implSpace == contractSpace then [] else [importLine wiring ("using " ++ implSpace ++ ";")]

/-- Client, environment variable and container of an external system. -/
def externalSystem (s : Site) (e : ExternalSystem) : List Task :=
  let wiring := s.locator.wiring .infrastructure
  [s.package .infrastructure e.package e.packageVersion,
   ⟨"client registration", wiring,
     .declare ⟨e.clientDetection, e.clientBlock, .beforeMarker returnServices, false,
       some Template.infrastructureWiring.name⟩ s.context⟩,
   importLine wiring e.clientImport,
   ⟨"environment entry", s.locator.environment,
     .declare ⟨e.variableName ++ "=", [e.variableName ++ "=" ++ e.variableValue], .endOfFile, false,
       none⟩ s.context⟩,
   ⟨"compose service", s.locator.compose,
     .declare ⟨e.composeDetection, e.composeBlock, .endOfFile, false, some Template.compose.name⟩
       s.context⟩]

/-- The tasks of a service. -/
def servicePlan (s : Site) (p : Placement) (name : String) (lifetime : Lifetime) : List Task :=
  s.service p name lifetime ++
    match p with
    | .external e => s.externalSystem e
    | .featureLocal _ | .shared => []

end Site

end Scaffold
