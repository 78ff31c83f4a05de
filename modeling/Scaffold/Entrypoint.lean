import Scaffold.Vocabulary
import Scaffold.Feature
import Scaffold.Text.Search

/-!
# Entrypoints

An entrypoint is one capability that can be called from outside: a canonical operation on
an entity, or a named action.  Its verb and its route decide how it looks in generated
code, and the *detection* is the text whose presence on a line proves that it is there.
Generation and conflict detection both read it, so they cannot disagree on what counts.
-/

namespace Scaffold

open Scaffold.Text

/-! ## Routes -/

/-- The route parameter that names one resource. -/
def idSegment : String := "\x7bid:guid\x7d"

/-- The path of an entrypoint below the group of its entity. -/
structure Route where
  /-- A fixed segment, in kebab case. -/
  segment : Option String
  /-- Whether the identifier of one resource follows. -/
  hasId : Bool
deriving Repr, DecidableEq

namespace Route

/-- The whole collection. -/
def collection : Route := ⟨none, false⟩

/-- One resource. -/
def resource : Route := ⟨none, true⟩

/-- The segments joined by slashes; empty for the collection. -/
def template (r : Route) : String :=
  joinWith "/" (r.segment.toList ++ if r.hasId then [idSegment] else [])

/-- The template behind a leading slash. -/
def path (r : Route) : String := "/" ++ r.template

end Route

/-! ## Canonical operations -/

/-- The operations every entity can have. -/
inductive Operation where
  | readOne | readAll | readPage | create | update | delete | patch
deriving Repr, DecidableEq

namespace Operation

/-- Every operation. -/
def all : List Operation := [.readOne, .readAll, .readPage, .create, .update, .delete, .patch]

/-- The operations of a full generation, in order. -/
def fullSet : List Operation := [.readOne, .readAll, .readPage, .create, .update, .delete]

/-- The canonical spelling of an operation. -/
def spelling : Operation → String
  | .readOne => "read-one"
  | .readAll => "read-all"
  | .readPage => "read-page"
  | .create => "create"
  | .update => "update"
  | .delete => "delete"
  | .patch => "patch"

/-- The verb that calls an operation. -/
def verb : Operation → Verb
  | .readOne | .readAll | .readPage => .get
  | .create => .post
  | .update => .put
  | .delete => .delete
  | .patch => .patch

/-- The route of an operation. -/
def route : Operation → Route
  | .readAll | .create => .collection
  | .readPage => ⟨some "paged", false⟩
  | .readOne | .update | .delete | .patch => .resource

/-- The operation a verb stands for when an action takes its canonical route. -/
def ofVerb : Verb → Operation
  | .get => .readOne
  | .post => .create
  | .put => .update
  | .delete => .delete
  | .patch => .patch

theorem verb_ofVerb (v : Verb) : (ofVerb v).verb = v := by cases v <;> rfl

end Operation

/-! ## Named actions -/

/-- What a named action addresses. -/
inductive ActionClass where
  /-- Reads one resource. -/
  | query
  /-- Changes the whole collection. -/
  | collectionCommand
  /-- Changes one resource. -/
  | resourceCommand
deriving Repr, DecidableEq

namespace ActionClass

/-- The class of the actions with a verb. -/
def ofVerb : Verb → ActionClass
  | .get => .query
  | .post => .collectionCommand
  | .put | .delete | .patch => .resourceCommand

/-- Decide whether the route names one resource. -/
def targetsResource : ActionClass → Bool
  | .collectionCommand => false
  | .query | .resourceCommand => true

/-- The route of a named action: its name in kebab case. -/
def route (c : ActionClass) (action : String) : Route :=
  ⟨some (kebabCase action), c.targetsResource⟩

end ActionClass

/-! ## Entrypoints -/

/-- One capability that can be called from outside. -/
inductive Entrypoint where
  | canonical (op : Operation)
  | named (verb : Verb) (action : String)
deriving Repr, DecidableEq

namespace Entrypoint

/-- The verb of an entrypoint. -/
def verb : Entrypoint → Verb
  | .canonical op => op.verb
  | .named verb _ => verb

/-- The route of an entrypoint. -/
def route : Entrypoint → Route
  | .canonical op => op.route
  | .named verb action => (ActionClass.ofVerb verb).route action

/-- The text whose presence on a line proves that a verb is exposed at a route. -/
def detectionOf (style : Exposure) (verb : Verb) (route : Route) : String :=
  match style with
  | .routes => "group.Map" ++ verb.token ++ "(\"" ++ route.path ++ "\","
  | .controllers =>
      if route.template.isEmpty then "[Http" ++ verb.token ++ "]"
      else "[Http" ++ verb.token ++ "(\"" ++ route.template ++ "\")]"

/-- The text whose presence on a line proves that the entrypoint is exposed. -/
def detection (style : Exposure) (e : Entrypoint) : String :=
  detectionOf style e.verb e.route

/-- How the entrypoint is written in a conflict report. -/
def key (style : Exposure) (e : Entrypoint) : String :=
  joinWith "/" <| [ArtifactKind.exposure.spelling, style.spelling, e.verb.spelling] ++
    match e with
    | .canonical op => [op.spelling, "crud"]
    | .named _ action => [action, "custom"]

end Entrypoint

/-! ## Detections of other declarations

Each ends in a delimiter, so that a longer name is not taken for a shorter one; an enum
declaration is the one exception, as its line ends with the name. -/

/-- Decide whether some line of a text contains `needle`. -/
def lineContains (content needle : String) : Bool := (lines content).any (contains · needle)

namespace Detection

/-- A repository method, in the interface or the class. -/
def repositoryMethod (method : String) : String := " " ++ method ++ "Async("

/-- The registration of a repository. -/
def repositoryRegistration (f : Feature) : String :=
  "services.AddScoped<" ++ f.repositoryContract ++ ", " ++ f.repositoryImpl ++ ">();"

/-- The registration of a service, under any lifetime. -/
def serviceRegistration (name : String) : String :=
  "<I" ++ name ++ "Service, " ++ name ++ "Service>();"

/-- The set of an entity in the database context. -/
def dbSet (entity : String) : String := "DbSet<" ++ entity ++ "> "

/-- The line that maps the route table of an entity. -/
def endpointMapping (entity : String) : String := "app.Map" ++ entity ++ "Endpoints();"

/-- A request record. -/
def useCaseRequest (type : String) : String := "record " ++ type ++ "("

/-- A handler or validator class. -/
def useCaseClass (type : String) : String := "class " ++ type ++ " "

/-- A text constant. -/
def constant (name : String) : String := "const string " ++ name ++ " "

/-- An enum declaration. -/
def enumDeclaration (name : String) : String := "enum " ++ name

/-- A property of a given type. -/
def property (type name : String) : String := " " ++ type ++ " " ++ name ++ " \x7b"

end Detection

example : Entrypoint.detection .routes (.canonical .readOne)
    = "group.MapGet(\"/\x7bid:guid\x7d\"," := by decide
example : Entrypoint.detection .controllers (.named .post "ApproveAll")
    = "[HttpPost(\"approve-all\")]" := by decide

end Scaffold
