/-!
# Errors

Three families, by when they can arise.  A `RequestError` is found before anything is
touched: the request is malformed or asks for what is already there.  A `RunError` comes
from the surroundings while a request is carried out.  What is left is configuration and
internal faults.

Each error is its cause; wording, advice and category are functions of the cause.
-/

namespace Scaffold

/-! ## The families -/

/-- A request that is refused before anything is touched. -/
inductive RequestError where
  /-- A field that must be given is absent or blank. -/
  | missingField (field : String)
  /-- A name that cannot be used where it was given. -/
  | invalidIdentifier (field value reason : String)
  /-- A word outside an enumeration, or a question outside a table. -/
  | unknownValue (kind value : String)
  /-- A path that should be relative starts at the file system's root. -/
  | absolutePath (path : String)
  /-- The capability asked for is already in an artifact. -/
  | alreadyPresent (capability artifact signature : String)
deriving Repr, DecidableEq

/-- A failure of the surroundings while a request is carried out. -/
inductive RunError where
  /-- No project descriptor at the root. -/
  | projectNotInitialized (root : String)
  /-- A descriptor is already there. -/
  | projectExists (root : String)
  /-- A feature the request builds on does not exist yet. -/
  | prerequisiteMissing (what path : String)
  /-- An external tool is not installed. -/
  | toolMissing (tool : String)
  /-- An external command did not succeed. -/
  | commandFailed (command : String) (code : Option Int) (output : String)
  /-- A file operation failed. -/
  | filesystem (path reason : String)
  /-- No template of that name. -/
  | templateNotFound (name : String)
  /-- The directory of template overrides cannot be read. -/
  | templateLoad (reason : String)
  /-- The descriptor or a user record cannot be read or written. -/
  | stateStore (path reason : String)
  /-- A question to the user has no answer. -/
  | selectionCancelled (prompt : String)
  /-- The store is in use elsewhere. -/
  | storeLocked
deriving Repr, DecidableEq

/-- Every error of the library. -/
inductive Error where
  | request (cause : RequestError)
  | run (cause : RunError)
  | configuration (message : String)
  | internal (message : String)
deriving Repr, DecidableEq

instance : Coe RequestError Error := ⟨.request⟩
instance : Coe RunError Error := ⟨.run⟩

/-- The kinds of error a reader of the output tells apart. -/
inductive ErrorCategory where
  | validation | conflict | notFound | externalTool | configuration | internal
deriving Repr, DecidableEq

/-! ## Wording -/

/-- An exit code as it is written in messages; a process that was killed has none. -/
def exitCodeText : Option Int → String
  | some code => s!"Some({code})"
  | none => "None"

/-- The sentence a refused request is reported with. -/
def RequestError.message : RequestError → String
  | .missingField field => s!"Required field missing: {field}"
  | .invalidIdentifier field value reason => s!"Invalid identifier '{value}' for {field}: {reason}"
  | .unknownValue kind value => s!"Unknown {kind} '{value}'"
  | .absolutePath path => s!"Absolute paths not allowed: {path}"
  | .alreadyPresent capability artifact _ => s!"{capability} already exists in {artifact}"

/-- The sentence a failure is reported with. -/
def RunError.message : RunError → String
  | .projectNotInitialized root => s!"No layerkit project found at {root}"
  | .projectExists root => s!"Project already initialized at {root}"
  | .prerequisiteMissing what path => s!"{what} not found: expected {path}"
  | .toolMissing tool => s!"External tool '{tool}' was not found"
  | .commandFailed command code _ => "`" ++ command ++ "` failed with exit code " ++ exitCodeText code
  | .filesystem path reason => s!"Filesystem error at {path}: {reason}"
  | .templateNotFound name => s!"Template '{name}' not found"
  | .templateLoad reason => s!"Template loading failed: {reason}"
  | .stateStore path reason => s!"State store error at {path}: {reason}"
  | .selectionCancelled prompt => s!"Selection cancelled: {prompt}"
  | .storeLocked => "In-memory store lock poisoned"

/-- The sentence an error is reported with. -/
def Error.message : Error → String
  | .request cause => cause.message
  | .run cause => cause.message
  | .configuration message => s!"Configuration error: {message}"
  | .internal message => s!"Internal error: {message}. This is a bug, please report it."

/-! ## Advice -/

/-- What the user can do about a refused request. -/
def RequestError.suggestions : RequestError → List String
  | .missingField field =>
      [s!"Provide a value for '{field}'", "Use --help for usage information"]
  | .invalidIdentifier _ value reason =>
      [s!"'{value}' cannot be used as a type name: {reason}",
       "Use letters and digits only, starting with a letter",
       "Examples: Invoice, OrderLine, Approve"]
  | .unknownValue kind _ =>
      [s!"Check the accepted values for {kind}", "Use --help to list them"]
  | .alreadyPresent capability artifact signature =>
      [s!"{capability} is already exposed by {artifact}",
       s!"Matched signature: {signature}",
       "Choose a different action name or HTTP verb",
       "No files were changed"]
  | .absolutePath _ => ["See documentation for more details"]

/-- What the user can do about a failure. -/
def RunError.suggestions : RunError → List String
  | .projectNotInitialized root =>
      [s!"No layerkit.yaml in {root}",
       "Run: layerkit init <ProjectName> inside the solution root",
       "Or point at the project with --root <path>"]
  | .projectExists root =>
      [s!"{root} already carries a layerkit.yaml", "Use layerkit status to inspect it"]
  | .prerequisiteMissing what _ =>
      [s!"Create the {what} first",
       "Run: layerkit crud <Entity> to generate the entity and its CRUD surface"]
  | .toolMissing tool =>
      [s!"Install '{tool}' and make sure it is on PATH",
       "Generated files were kept; re-run the same command afterwards",
       "Or skip checkpoints with --no-build"]
  | .commandFailed .. =>
      ["Fix the reported build errors",
       "Generated files were kept; re-running the same command is safe"]
  | .filesystem path _ =>
      [s!"Failed to access: {path}", "Check that you have write permissions",
       "Re-run the same command once the problem is fixed"]
  | .templateNotFound name =>
      [s!"Provide {name}.tmpl in your templates directory",
       "Or unset --templates / LAYERKIT_TEMPLATES_DIR to use built-ins"]
  | .storeLocked => ["The store is locked", "Try again in a moment"]
  | .templateLoad _ | .stateStore .. | .selectionCancelled _ => ["Check the error details above"]

/-- What the user can do about an error. -/
def Error.suggestions : Error → List String
  | .request cause => cause.suggestions
  | .run cause => cause.suggestions
  | .configuration message =>
      [s!"Configuration issue: {message}", "Run: layerkit config path to locate the config file"]
  | .internal _ =>
      ["This appears to be a bug in layerkit",
       "Please report this issue at: https://github.com/cosecruz/layerkit/issues"]

/-! ## Classification -/

/-- The category of a refused request. -/
def RequestError.category : RequestError → ErrorCategory
  | .alreadyPresent .. => .conflict
  | _ => .validation

/-- The category of a failure. -/
def RunError.category : RunError → ErrorCategory
  | .projectNotInitialized _ | .prerequisiteMissing .. | .templateNotFound _ => .notFound
  | .projectExists _ | .selectionCancelled _ => .validation
  | .toolMissing _ | .commandFailed .. => .externalTool
  | .templateLoad _ => .configuration
  | .filesystem .. | .stateStore .. | .storeLocked => .internal

/-- The category of an error. -/
def Error.category : Error → ErrorCategory
  | .request cause => cause.category
  | .run cause => cause.category
  | .configuration _ => .configuration
  | .internal _ => .internal

/-- A checkpoint failure is reported after the fact and undoes nothing. -/
def RunError.isCheckpointFailure : RunError → Bool
  | .toolMissing _ | .commandFailed .. => true
  | _ => false

/-- Decide whether the same request can succeed once its surroundings are mended. -/
def Error.isRetryable : Error → Bool
  | .run .storeLocked | .run (.toolMissing _) | .run (.commandFailed ..)
  | .run (.filesystem ..) => true
  | _ => false

end Scaffold
