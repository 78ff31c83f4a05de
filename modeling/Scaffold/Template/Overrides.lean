import Scaffold.Ports
import Scaffold.System.Files
import Scaffold.Template.Catalog

/-!
# Template overrides

Templates a user keeps in a directory.  A file's template is its path below the directory,
with dots between the names and without the extension, so `service/impl.tmpl` is the template
`service.impl`.  Files of other extensions and of unknown names are left alone.
-/

namespace Scaffold

open Scaffold.Text

/-- The extension of a template file. -/
def templateExtension : String := ".tmpl"

/-- The template of a file, by the names that lead to it from the directory. -/
def overrideName? (names : List String) : Option String := do
  let file ← names.getLast?
  if file == templateExtension then none
  else
    let stem ← dropTail? templateExtension.toList (joinWith "." names).toList
    (Template.ofName? (String.ofList stem)).map Template.name

example : overrideName? ["service", "cache.impl.tmpl"] = some "service.cache.impl" := by decide
example : overrideName? ["readme.tmpl"] = none := by decide

/-- The deepest nesting of directories that is searched. -/
def deepestDirectory : Nat := 2048

variable {m : Type → Type} [Monad m]

namespace System

/-- The files below a directory as the names that lead to them, entry by entry in the order
of the names. -/
def filesBelow (sys : System m) : Nat → String → Os m (List (List String))
  | 0, _ => return []
  | depth + 1, dir => do
      let entries := (← sys.list dir).mergeSort fun a b => !(b.1 < a.1)
      let found ← entries.mapM fun (name, kind) => match kind with
        | .file => pure [[name]]
        | .directory => do
            return (← filesBelow sys depth (Path.join dir name)).map (name :: ·)
      return found.flatten

/-- An operation on the overrides, whose refusal says what was tried. -/
def loading {α : Type} (text : String) (x : Os m α) : Fallible m α := do
  match ← ExceptT.lift x.run with
  | .ok a => return a
  | .error e => throw (.run (.templateLoad s!"{text}: {e.message}"))

/-- The overrides in a directory. -/
def loadOverrides (sys : System m) (dir : String) : Fallible m Catalog := do
  unless ← ExceptT.lift (sys.isDirectory dir) do
    throw (.run (.templateLoad s!"templates directory not found: {dir}"))
  let files ← loading "directory walk error" (filesBelow sys deepestDirectory dir)
  let named := files.filterMap fun names => (overrideName? names).map (·, names)
  named.foldlM (fun catalog (name, names) => do
    let path := names.foldl Path.join dir
    let source ← loading s!"failed to read '{path}'" (sys.readText path)
    return catalog.insert name source) {}

/-- The templates of an invocation: with the overrides of a directory, if one is given. -/
def discoverTemplates (sys : System m) : Option String → Fallible m Catalog
  | some dir => loadOverrides sys dir
  | none => return {}

end System

end Scaffold
