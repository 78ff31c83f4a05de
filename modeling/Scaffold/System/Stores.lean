import Scaffold.Format.JsonRecord
import Scaffold.Format.YamlRecord
import Scaffold.Ports
import Scaffold.System.Files

/-!
# Stores

What is remembered between runs: the descriptor at the root of a project, and for a user the
last container that was set up and the last root that was used.  A store is one file, which is
always replaced as a whole.
-/

namespace Scaffold

open Scaffold.Text

/-- The file of a project's descriptor. -/
def descriptorPath (root : String) : String := Path.join root "layerkit.yaml"

/-- The file of the last container, in a user's data directory. -/
def containerPath (dir : String) : String := Path.join dir "container.json"

/-- The file of the last root, in a user's data directory. -/
def lastRootPath (dir : String) : String := Path.join dir "last_path"

namespace System

variable {m : Type → Type} [Monad m] (sys : System m)

/-- An operation on the file of a store. -/
def onStore {α : Type} (path : String) (x : Os m α) : Fallible m α := do
  match ← ExceptT.lift x.run with
  | .ok a => return a
  | .error e => throw (.run (.stateStore path e.message))

/-- What a store holds, or nothing if its file is not there. -/
def loadStore {α : Type} (path : String) (parse : String → Option α) : Fallible m (Option α) := do
  match ← onStore path (sys.readOptional path) with
  | none => return none
  | some text =>
      match parse text with
      | some a => return some a
      | none => throw (.run (.stateStore path "not in the form of this store"))

/-- Replace what a store holds. -/
def saveStore (path text : String) : Fallible m Unit := do
  onStore path (sys.createDirs (Path.directoryOf path))
  match ← ExceptT.lift (sys.replaceFile path text) with
  | .ok () => return
  | .error (.create _ e) | .error (.move e) => throw (.run (.stateStore path e.message))

/-! ## Projects -/

/-- The descriptor at a root. -/
def loadDescriptor (root : String) : Fallible m (Option Descriptor) :=
  sys.loadStore (descriptorPath root) Yaml.parseDescriptor?

/-- Replace the descriptor at a root. -/
def saveDescriptor (root : String) (d : Descriptor) : Fallible m Unit :=
  sys.saveStore (descriptorPath root) (Yaml.ofDescriptor d).document

/-- Decide whether there is a descriptor at a root, whatever it says. -/
def isProjectRoot (root : String) : m Bool := sys.isFile (descriptorPath root)

/-! ## Users -/

/-- The last container that was set up. -/
def loadContainer (dir : String) : Fallible m (Option Container) :=
  sys.loadStore (containerPath dir) JsonValue.parseContainer?

/-- Remember the last container that was set up. -/
def saveContainer (dir : String) (c : Container) : Fallible m Unit :=
  sys.saveStore (containerPath dir) (JsonValue.ofContainer c).pretty

/-- The last root that was used; a blank file tells of none. -/
def loadLastRoot (dir : String) : Fallible m (Option String) := do
  let text ← sys.loadStore (lastRootPath dir) (some ∘ trim)
  return text.filter (!·.isEmpty)

/-- Remember the last root that was used. -/
def saveLastRoot (dir root : String) : Fallible m Unit :=
  sys.saveStore (lastRootPath dir) (root ++ "\n")

end System

end Scaffold
