import Scaffold.Command.Error
import Scaffold.Command.Layer
import Scaffold.Format.Toml.Reader
import Scaffold.System.Files
import Scaffold.Text.Case
import Scaffold.Text.Utf8

/-!
# Settings

The settings of a user, in three layers: the defaults, a file, and variables.  A variable names a
key by the path to it, with two underscores between the parts: `LAYERKIT_BUILD__SKIP_BUILD` is
`build.skip_build`.
-/

namespace Scaffold

open Scaffold.Text
open Scaffold.Layer (Table overlay)

/-- The settings. -/
structure Settings where
  /-- The exposure style of a new project. -/
  style : String := "routes"
  /-- The provider for a project that has none. -/
  provider : Option String := none
  /-- Leave out colours. -/
  noColor : Bool := false
  /-- How output is rendered. -/
  format : String := "auto"
  /-- The directory of template overrides. -/
  templatesDir : Option String := none
  /-- Leave the build out. -/
  skipBuild : Bool := false
  /-- Leave the migration out. -/
  skipMigration : Bool := false
deriving Repr, DecidableEq

namespace Settings

/-! ## Variables -/

/-- Read the value of a variable: a flag, a number or a text. -/
def valueOfVariable (s : String) : Toml :=
  let word := String.ofList (lowercase s.toList)
  if word = "true" then .flag true
  else if word = "false" then .flag false
  else
    let (negative, body) := Toml.signed s.toList
    match wholeNumber? negative body with
    | some v => v
    | none => (fraction? negative body).getD (.text s)
where
  /-- A whole number within 64 bits. -/
  wholeNumber? (negative : Bool) (body : List Char) : Option Toml :=
    if body.isEmpty || !body.all Char.isDigit then none
    else Toml.within? (if negative then -Int.ofNat (numberOf body) else Int.ofNat (numberOf body))
  /-- Any other number. -/
  fraction? (negative : Bool) (body : List Char) : Option Toml :=
    let word := String.ofList (body.map Char.toLower)
    if word = "inf" ∨ word = "infinity" then some (.fraction (if negative then "-inf" else "inf"))
    else if word = "nan" then some (.fraction "NaN")
    else (decimal? body).map fun (n, k) => .fraction (doubleText negative n k)

/-- The key a variable sets. -/
def keyOfVariable? (name : String) : Option String :=
  (dropStart? "layerkit_".toList (lowercase name.toList)).map fun key =>
    replaceAll (String.ofList key) "__" "."

/-- The layer the variables make. -/
def layerOfVariables (environment : List (String × String)) : Table :=
  environment.filterMap fun (name, value) =>
    (keyOfVariable? name).map fun key => (key, valueOfVariable value)

example : (layerOfVariables [("LAYERKIT_BUILD__SKIP_BUILD", "1"), ("HOME", "/")]).map (·.1)
    = ["build.skip_build"] := by decide +kernel

/-! ## Reading values -/

/-- A value as a flag. -/
def flag? : Toml → Option Bool
  | .flag b => some b
  | .integer n => some (n != 0)
  | .fraction spelling => some (spelling != "0" && spelling != "-0")
  | .text s =>
      let word := String.ofList (lowercase s.toList)
      if ["1", "true", "on", "yes"].contains word then some true
      else if ["0", "false", "off", "no"].contains word then some false
      else none
  | _ => none

/-- A value as a text. -/
def text? : Toml → Option String
  | .text s | .fraction s | .moment s => some s
  | .flag b => some (toString b)
  | .integer n => some (toString n)
  | _ => none

/-- A value as a text that need not be there. -/
def maybeText? : Toml → Option (Option String)
  | .gap => some none
  | v => (text? v).map some

/-- A section as a table with some keys; a list has its values in their order. -/
def section? (keys : List String) : Option Toml → Option Table
  | none => some []
  | some (.table entries) => some entries
  | some (.list items) => some (keys.zip items)
  | some _ => none

/-- The value under a key, or a default if there is none; none if it is not as it has to be. -/
def field {α : Type} (read? : Toml → Option α) (fallback : α) (t : Table) (key : String) :
    Option α :=
  match t.lookup key with
  | none => some fallback
  | some v => read? v

/-- The settings of a table, if it holds what it can hold. -/
def ofTable? (t : Table) : Option Settings := do
  let defaults ← section? ["style", "provider"] (t.lookup "defaults")
  let output ← section? ["no_color", "format"] (t.lookup "output")
  let templates ← section? ["dir"] (t.lookup "templates")
  let build ← section? ["skip_build", "skip_migration"] (t.lookup "build")
  return {
    style := ← field text? "routes" defaults "style"
    provider := ← field maybeText? none defaults "provider"
    noColor := ← field flag? false output "no_color"
    format := ← field text? "auto" output "format"
    templatesDir := ← field maybeText? none templates "dir"
    skipBuild := ← field flag? false build "skip_build"
    skipMigration := ← field flag? false build "skip_migration" }

/-! ## Writing -/

/-- A setting by its key. -/
def get? (s : Settings) : String → Option String
  | "defaults.style" => some s.style
  | "defaults.provider" => some (s.provider.getD "")
  | "output.no_color" => some (toString s.noColor)
  | "output.format" => some s.format
  | "templates.dir" => some (s.templatesDir.getD "")
  | "build.skip_build" => some (toString s.skipBuild)
  | "build.skip_migration" => some (toString s.skipMigration)
  | _ => none

/-- The settings as a file of them. -/
def document (s : Settings) : String :=
  let entry (key value : String) : String := key ++ " = " ++ value ++ "\n"
  let optional (key : String) (value : Option String) : String :=
    (value.map fun v => entry key (Toml.quoted v)).getD ""
  "[defaults]\n" ++ entry "style" (Toml.quoted s.style) ++ optional "provider" s.provider ++
  "\n[output]\n" ++ entry "no_color" (toString s.noColor) ++ entry "format" (Toml.quoted s.format) ++
  "\n[templates]\n" ++ optional "dir" s.templatesDir ++
  "\n[build]\n" ++ entry "skip_build" (toString s.skipBuild) ++
    entry "skip_migration" (toString s.skipMigration)

example : ((Toml.parse? (document {})).bind ofTable?) = some {} := by decide +kernel

/-! ## Loading -/

/-- The settings cannot be read. -/
def unreadable : CommandError := .settings "Failed to read configuration" none

/-- The settings hold what they cannot hold. -/
def misshapen : CommandError := .settings "Configuration has an unexpected shape" none

/-- The settings of a file's bytes and of variables. -/
def ofLayers (file : ByteArray) (environment : List (String × String)) :
    Except CommandError Settings :=
  let source := lossyText file
  let source := match source.toList with
    | '\uFEFF' :: rest => String.ofList rest
    | _ => source
  match Toml.parse? source with
  | none => .error unreadable
  | some layer =>
      let table := overlay (overlay [] layer) (layerOfVariables environment)
      match ofTable? table with
      | some settings => .ok settings
      | none => .error misshapen

variable {m : Type → Type} [Monad m] (sys : System m)

/-- The bytes of the file of the settings.  Without its extension it is found too. -/
def file? (path : String) : m (Option ByteArray) := do
  let extended := (Path.fileName path).map fun name =>
    Path.join ((Path.parent path).getD "") (name ++ ".toml")
  let candidates ← (path :: extended.toList).filterM sys.isFile
  match candidates with
  | [] => return none
  | path :: _ => return (← (sys.read path).run).toOption

/-- Load the settings.  A file that has to be there and is not is an error. -/
def load (path : String) (required : Bool) (environment : List (String × String)) :
    ExceptT CommandError m Settings := do
  match ← ExceptT.lift (file? sys path) with
  | some bytes => liftExcept (ofLayers bytes environment)
  | none => if required then throw unreadable else liftExcept (ofLayers .empty environment)
where
  /-- A result as a computation. -/
  liftExcept {α : Type} : Except CommandError α → ExceptT CommandError m α
    | .ok a => pure a
    | .error e => throw e

end Settings

end Scaffold
