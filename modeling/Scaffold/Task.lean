import Scaffold.Manifest
import Scaffold.Path
import Scaffold.Ports
import Scaffold.Report
import Scaffold.Template.Builtin

/-!
# Tasks

A request is carried out as a list of tasks.  A task looks after one file: it reads the
file, decides from its content alone what to do, and writes at most once, as the last thing
it does.  Nothing remembers what an earlier task or request did, so a list of tasks can be
run again from the top at any time.

`Action.decide` is the decision, a function of the file as it is; `Task.perform` carries it
out.
-/

namespace Scaffold

/-! ## Actions -/

/-- What a task makes sure of. -/
inductive Action where
  /-- The file is there, made from a template if it was not. -/
  | file (template : String) (ctx : Context)
  /-- A declaration is in the file. -/
  | declare (declaration : Declaration) (ctx : Context)
  /-- An import line is in the file. -/
  | importLine (literal : String)
  /-- Known sample lines are not in the file. -/
  | clean (samples : List (List String))
  /-- The manifest depends on a package. -/
  | dependency (identity : String) (version : Option String) (ctx : Context)
  /-- The manifest refers to another. -/
  | reference (identity : String) (ctx : Context)
deriving Repr, DecidableEq

/-- One file to look after. -/
structure Task where
  /-- What is looked after, for the report. -/
  what : String
  /-- The file. -/
  path : RelativePath
  /-- What to make sure of. -/
  action : Action
deriving Repr, DecidableEq

/-! ## Deciding -/

/-- The file at `path` as its template makes it, or without a line. -/
def synthesize (templates : Templates) (path : String) (template : Option String) (ctx : Context) :
    Except Error Artifact :=
  match template with
  | some name => (templates name ctx).map (Artifact.parse path)
  | none => .ok (.absent path)

/-- The file to start from: as it is, or made from its template if it is not there. -/
def startFrom (templates : Templates) (current : Artifact) (template : Option String)
    (ctx : Context) : Except Error Artifact :=
  if current.isPresent then .ok current else synthesize templates current.path template ctx

/-- The outcome of a change to a file. -/
def changeOutcome (current : Artifact) : Outcome := if current.isPresent then .updated else .created

/-- Take known sample lines out, one run for each sample, and tell whether any was there. -/
def removeSamples (samples : List (List String)) (a : Artifact) : Bool × Artifact :=
  samples.foldl (fun (removed, a) sample =>
    match a.removeSequence? sample with
    | some b => (true, b)
    | none => (removed, a)) (false, a)

/-- A merge would change a line that the manifest does not have. -/
def outsideManifest : Error := .internal "a manifest entry lies outside the file"

/-- Carry out a merge on a manifest; one that was just made counts as changed anyway. -/
def mergeManifest (templates : Templates) (current : Artifact) (ctx : Context)
    (merge? : List String → Option (List LineEdit)) : Except Error (Outcome × Artifact) := do
  let start ← startFrom templates current (some Template.manifest.name) ctx
  match merge? start.texts with
  | none => throw outsideManifest
  | some edits =>
      if current.isPresent && edits.isEmpty then return (.unchanged, start)
      else return (changeOutcome current, start.editAll edits)

/-- What an action does to a file as it is.  The file is to be written exactly when the
outcome is a change. -/
def Action.decide (templates : Templates) (current : Artifact) :
    Action → Except Error (Outcome × Artifact)
  | .file template ctx => do
      if current.isPresent then return (.unchanged, current)
      else return (.created, ← synthesize templates current.path (some template) ctx)
  | .declare d ctx => do
      let start ← startFrom templates current d.template ctx
      if start.containsText d.detection then
        return (if current.isPresent then .unchanged else .created, start)
      else return (changeOutcome current, start.insertBlock d.anchor d.block d.separated)
  | .importLine literal =>
      if current.containsLine literal then .ok (.unchanged, current)
      else .ok (changeOutcome current, current.insertImport literal)
  | .clean samples =>
      match removeSamples samples current with
      | (true, cleaned) => .ok (.cleaned, cleaned)
      | (false, _) => .ok (.unchanged, current)
  | .dependency identity version ctx =>
      mergeManifest templates current ctx (Manifest.mergeDependency? identity version)
  | .reference identity ctx =>
      mergeManifest templates current ctx (Manifest.mergeReference? identity)

/-! ## Carrying out -/

section Files

variable {m : Type → Type} [Monad m]

/-- Read the file at a path; one that is not there has no lines. -/
def loadArtifact (files : FilePort m) (path : String) : Fallible m Artifact := do
  match ← files.read path with
  | some content => return .parse path content
  | none => return .absent path

/-- Write a file, after its directory. -/
def storeArtifact (files : FilePort m) (a : Artifact) : Fallible m Unit := do
  match Path.parent a.path with
  | some dir => files.createDirs dir
  | none => pure ()
  files.write a.path a.render

/-- The file a task decides on.  To make sure that a file is there it is enough to know
whether it is, so it is not read. -/
def Task.inspect (files : FilePort m) (root : String) (t : Task) : Fallible m Artifact :=
  let path := t.path.under root
  match t.action with
  | .file .. => do
      if ← files.pathExists path then return { Artifact.absent path with isPresent := true }
      else return .absent path
  | _ => loadArtifact files path

/-- Carry out a task below a root. -/
def Task.perform (files : FilePort m) (templates : Templates) (root : String) (t : Task) :
    Fallible m Step := do
  let current ← t.inspect files root
  let (outcome, next) ← (t.action.decide templates current : Except Error _)
  if outcome.changed then storeArtifact files next
  return ⟨t.what, t.path.slashed, outcome⟩

/-- Carry out tasks in order, up to the first that fails. -/
def performAll (files : FilePort m) (templates : Templates) (root : String) :
    List Task → Fallible m (List Step)
  | [] => return []
  | t :: ts => do
      let step ← t.perform files templates root
      let steps ← performAll files templates root ts
      return step :: steps

end Files

end Scaffold
