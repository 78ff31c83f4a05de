import Scaffold.Repository

/-!
# Use cases

A use case carries one entrypoint through every layer: a request record, its handler and
validator, the repository methods the handler calls and the lines that expose it.  All of
these follow from its name and its entrypoint, never from the content of a file, so the
same request always yields the same blocks.
-/

namespace Scaffold

open Scaffold.Text

/-! ## Kinds and parameters -/

/-- Whether a use case changes anything. -/
inductive UseCaseKind where
  | command | query
deriving Repr, DecidableEq

namespace UseCaseKind

/-- The end of the request's type name. -/
def suffix : UseCaseKind → String
  | .command => "Command"
  | .query => "Query"

/-- The folder below the feature. -/
def folder : UseCaseKind → String
  | .command => "Commands"
  | .query => "Queries"

end UseCaseKind

/-- The fields of a request record. -/
inductive RequestFields where
  | none | id | paging
deriving Repr, DecidableEq

namespace RequestFields

/-- The fields as the record declares them. -/
def declaration : RequestFields → String
  | .none => ""
  | .id => "Guid Id"
  | .paging => "int Page, int PageSize"

/-- The rules a validator checks them by. -/
def rules : RequestFields → List String
  | .none => []
  | .id => ["RuleFor(x => x.Id).NotEmpty();"]
  | .paging =>
      ["RuleFor(x => x.Page).GreaterThan(0);",
       "RuleFor(x => x.PageSize).InclusiveBetween(1, 100);"]

/-- The parameters of a route's handler. -/
def routeParameters : RequestFields → String
  | .none => ""
  | .id => "Guid id, "
  | .paging => "int? page, int? pageSize, "

/-- The arguments a route constructs the request with. -/
def routeArguments : RequestFields → String
  | .none => ""
  | .id => "id"
  | .paging => "page ?? 1, pageSize ?? 20"

/-- The parameters of a controller's method. -/
def controllerParameters : RequestFields → String
  | .none => ""
  | .id => "Guid id, "
  | .paging => "[FromQuery] int page = 1, [FromQuery] int pageSize = 20, "

/-- The arguments a controller constructs the request with. -/
def controllerArguments : RequestFields → String
  | .none => ""
  | .id => "id"
  | .paging => "page, pageSize"

end RequestFields

/-! ## Behaviour -/

/-- What a use case takes, returns, needs of the repository and does. -/
structure Behaviour where
  /-- The fields of the request. -/
  fields : RequestFields
  /-- What the handler returns. -/
  response : Response
  /-- The repository methods the handler calls. -/
  methods : List RepositoryMethod
  /-- The statements of the handler. -/
  body : List String

/-- The handler statement that returns what one repository call returns. -/
def returnCall (method arguments : String) : String :=
  "return await _repository." ++ method ++ "Async(" ++ arguments ++ "cancellationToken);"

/-- The behaviour of a canonical operation on an entity. -/
def Operation.behaviour (entity : String) : Operation → Behaviour
  | .readOne => ⟨.id, .single, [.getById], [returnCall "GetById" "request.Id, "]⟩
  | .readAll => ⟨.none, .list, [⟨"GetAll", .listAll⟩], [returnCall "GetAll" ""]⟩
  | .readPage =>
      ⟨.paging, .list, [⟨"GetPaged", .listPage⟩],
       [returnCall "GetPaged" "request.Page, request.PageSize, "]⟩
  | .create =>
      ⟨.none, .identifier, [⟨"Add", .insert⟩],
       ["var entity = new " ++ entity, "\x7b", "    Id = Guid.NewGuid(),",
        "    CreatedAt = DateTime.UtcNow,", "\x7d;", "", returnCall "Add" "entity, "]⟩
  | .update | .patch =>
      ⟨.id, .flag, [.getById, ⟨"Update", .modify⟩],
       ["var entity = await _repository.GetByIdAsync(request.Id, cancellationToken);",
        "if (entity is null)", "\x7b", "    return false;", "\x7d", "",
        "entity.UpdatedAt = DateTime.UtcNow;", returnCall "Update" "entity, "]⟩
  | .delete => ⟨.id, .flag, [⟨"Delete", .remove⟩], [returnCall "Delete" "request.Id, "]⟩

/-- The behaviour of a named action, which calls the repository method of its name. -/
def ActionClass.behaviour (action : String) : ActionClass → Behaviour
  | .query => ⟨.id, .single, [⟨action, .findOne⟩], [returnCall action "request.Id, "]⟩
  | .resourceCommand => ⟨.id, .flag, [⟨action, .touch⟩], [returnCall action "request.Id, "]⟩
  | .collectionCommand => ⟨.none, .count, [⟨action, .saveAll⟩], [returnCall action ""]⟩

/-! ## Use cases -/

/-- An entrypoint under the name its types are generated with. -/
structure UseCase where
  /-- The name the types start with. -/
  name : String
  /-- The capability it carries. -/
  entry : Entrypoint
deriving Repr, DecidableEq

namespace UseCase

/-- A canonical operation, named after the entity. -/
def canonical (f : Feature) (op : Operation) : UseCase :=
  let name := match op with
    | .readOne => "Get" ++ f.name ++ "ById"
    | .readAll => "GetAll" ++ f.plural
    | .readPage => "Get" ++ f.plural ++ "Paged"
    | .create => "Create" ++ f.name
    | .update => "Update" ++ f.name
    | .delete => "Delete" ++ f.name
    | .patch => "Patch" ++ f.name
  ⟨name, .canonical op⟩

/-- A single action that takes the canonical route of its verb. -/
def canonicalAction (f : Feature) (action : String) (verb : Verb) : UseCase :=
  ⟨action ++ f.name, .canonical (.ofVerb verb)⟩

/-- A single action on a route of its own. -/
def namedAction (f : Feature) (action : String) (verb : Verb) : UseCase :=
  ⟨action ++ f.name, .named verb action⟩

/-- The use cases of a full generation. -/
def fullSet (f : Feature) : List UseCase := Operation.fullSet.map (canonical f)

/-- The verb of a use case. -/
def verb (u : UseCase) : Verb := u.entry.verb

/-- Reading verbs make queries, all others commands. -/
def kind (u : UseCase) : UseCaseKind := if u.verb.isQuery then .query else .command

/-- The behaviour of a use case of an entity. -/
def behaviour (u : UseCase) (entity : String) : Behaviour :=
  match u.entry with
  | .canonical op => op.behaviour entity
  | .named verb action => (ActionClass.ofVerb verb).behaviour action

/-- The fields of the request record. -/
def fields (u : UseCase) : RequestFields := (u.behaviour "").fields

/-- The repository methods the handler calls. -/
def methods (u : UseCase) : List RepositoryMethod := (u.behaviour "").methods

/-- What the handler returns. -/
def response (u : UseCase) : Response := (u.behaviour "").response

/-- The request record, `GetInvoiceByIdQuery`. -/
def requestType (u : UseCase) : String := u.name ++ u.kind.suffix

/-- The handler class. -/
def handlerType (u : UseCase) : String := u.requestType ++ "Handler"

/-- The validator class. -/
def validatorType (u : UseCase) : String := u.requestType ++ "Validator"

/-- The namespace of the use case's folder. -/
def namespaceOf (u : UseCase) (project : String) (f : Feature) : String :=
  joinWith "." [project, "Application", "Features", f.plural, u.kind.folder, u.name]

/-- The text whose presence on a line proves that the use case is exposed. -/
def detection (u : UseCase) (style : Exposure) : String := u.entry.detection style

/-! ### The application layer -/

/-- The request record. -/
def requestBlock (u : UseCase) (entity : String) : List String :=
  ["public record " ++ u.requestType ++ "(" ++ u.fields.declaration ++ ") : IRequest<"
    ++ u.response.typeName entity ++ ">;"]

/-- The handler class. -/
def handlerBlock (u : UseCase) (f : Feature) : List String :=
  let response := u.response.typeName f.name
  braced ("public class " ++ u.handlerType ++ " : IRequestHandler<" ++ u.requestType ++ ", "
      ++ response ++ ">")
    (["private readonly " ++ f.repositoryContract ++ " _repository;", ""]
      ++ braced ("public " ++ u.handlerType ++ "(" ++ f.repositoryContract ++ " repository)")
        ["_repository = repository;"]
      ++ [""]
      ++ braced ("public async Task<" ++ response ++ "> Handle(" ++ u.requestType
          ++ " request, CancellationToken cancellationToken)")
        (u.behaviour f.name).body)

/-- The validator class. -/
def validatorBlock (u : UseCase) : List String :=
  braced ("public class " ++ u.validatorType ++ " : AbstractValidator<" ++ u.requestType ++ ">")
    (braced ("public " ++ u.validatorType ++ "()") u.fields.rules)

/-! ### The exposure -/

/-- Send the request with the given arguments. -/
def send (u : UseCase) (sender arguments : String) : String :=
  "await " ++ sender ++ ".Send(new " ++ u.requestType ++ "(" ++ arguments ++ "), ct)"

/-- The lines of a route table; the first holds the detection. -/
def routeBlock (u : UseCase) (f : Feature) : List String :=
  let sent := u.send "sender" u.fields.routeArguments
  let result := match u.response with
    | .single => sent ++ " is \x7b \x7d found ? Results.Ok(found) : Results.NotFound()"
    | .list | .count => "Results.Ok(" ++ sent ++ ")"
    | .identifier => "Results.Created(\"/api/" ++ kebabCase f.plural ++ "\", " ++ sent ++ ")"
    | .flag => sent ++ " ? Results.NoContent() : Results.NotFound()"
  [u.detection .routes ++ " async (" ++ u.fields.routeParameters
     ++ "ISender sender, CancellationToken ct) =>",
   "    " ++ result ++ ");"]

/-- The method of a controller; its attribute line is the detection. -/
def controllerBlock (u : UseCase) : List String :=
  let result := match u.response with
    | .single => "result is null ? NotFound() : Ok(result)"
    | .list | .count => "Ok(result)"
    | .identifier => "Created(string.Empty, result)"
    | .flag => "result ? NoContent() : NotFound()"
  u.detection .controllers ::
    braced ("public async Task<IActionResult> " ++ u.name ++ "(" ++ u.fields.controllerParameters
        ++ "CancellationToken ct)")
      ["var result = " ++ u.send "_sender" u.fields.controllerArguments ++ ";",
       "return " ++ result ++ ";"]

/-- The lines that expose the use case in a style. -/
def exposureBlock (u : UseCase) (style : Exposure) (f : Feature) : List String :=
  match style with
  | .routes => u.routeBlock f
  | .controllers => u.controllerBlock

end UseCase

/-! ## Small declarations -/

/-- The set of an entity in the database context. -/
def dbSetLine (f : Feature) : String :=
  "public DbSet<" ++ f.name ++ "> " ++ f.plural ++ " => Set<" ++ f.name ++ ">();"

/-- A text constant that holds its own name. -/
def constantLine (name : String) : String :=
  "public const string " ++ name ++ " = \"" ++ name ++ "\";"

/-- An enum with one member. -/
def enumBlock (name : String) : List String := braced ("public enum " ++ name) ["None = 0,"]

/-- A property that can be read and set. -/
def propertyLine (type name : String) : String :=
  "public " ++ type ++ " " ++ name ++ " \x7b get; set; \x7d"

end Scaffold
