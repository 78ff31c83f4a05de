import Scaffold.Vocabulary
import Scaffold.Text.Blank

/-!
# Project descriptors

The descriptor of a generated project: its identity, its choices and what was generated for
which entity.  The flags of an entity are a record for the reader.  What is there is always
found in the files again.
-/

namespace Scaffold

open Scaffold.Text

/-! ## Identity and time -/

/-- A universally unique identifier, as the number of its 128 bits. -/
structure Uuid where
  /-- The number. -/
  value : Nat
deriving Repr, DecidableEq, Inhabited

/-- A moment, to the nanosecond. -/
structure Instant where
  /-- Seconds since the beginning of 1970, in universal time. -/
  seconds : Int
  /-- Nanoseconds after that; from a thousand million on they lie in a leap second. -/
  nanos : Nat
deriving Repr, DecidableEq, Inhabited

/-! ## Entities -/

/-- What was generated for an entity. -/
structure Capabilities where
  /-- The canonical use cases. -/
  hasCrud : Bool := false
  /-- At least one action. -/
  hasAction : Bool := false
deriving Repr, DecidableEq, Inhabited

/-- Entities in the order of their names, each once. -/
abbrev Entities := List (String × Capabilities)

/-- Change the capabilities of an entity, which is put in if it is new. -/
def Entities.update (name : String) (f : Capabilities → Capabilities) : Entities → Entities
  | [] => [(name, f {})]
  | (n, c) :: rest =>
      if name = n then (n, f c) :: rest
      else if name < n then (name, f {}) :: (n, c) :: rest
      else (n, c) :: Entities.update name f rest

/-! ## Descriptors -/

/-- Identity, layout and choices of a project. -/
structure Descriptor where
  /-- The identifier of the project. -/
  id : Uuid
  /-- The project name. -/
  name : String
  /-- The root directory. -/
  root : String
  /-- The module with the entry point. -/
  entryPoint : String
  /-- The persistence provider, once it is chosen. -/
  provider : Option Provider
  /-- The exposure style. -/
  style : Exposure
  /-- When the project was created. -/
  createdAt : Instant
  /-- When the descriptor last changed. -/
  updatedAt : Instant
  /-- The entities of the project. -/
  entities : Entities
deriving Repr, DecidableEq

/-- The characters of a project name. -/
def isProjectChar (c : Char) : Bool := c.isAlphanum || c == '.' || c == '_'

/-- The name of a project, trimmed, or why it cannot be one. -/
def acceptProjectName (raw : String) : Except RequestError String :=
  let trimmed := trim raw
  if trimmed.isEmpty then .error (.missingField "project name")
  else match trimmed.toList.find? (fun c => !isProjectChar c) with
    | some bad =>
        .error (.invalidIdentifier "project name" trimmed
          s!"character '{bad}' is not allowed in a .NET project name")
    | none => .ok trimmed

namespace Descriptor

/-- The descriptor of a new project. -/
def create (id : Uuid) (now : Instant) (name root : String) (style : Exposure)
    (provider : Option Provider) : Except RequestError Descriptor := do
  let name ← acceptProjectName name
  return ⟨id, name, root, name ++ ".Api", provider, style, now, now, []⟩

/-- What was generated for an entity; nothing for one that is not recorded. -/
def capabilities (d : Descriptor) (entity : String) : Capabilities :=
  (d.entities.lookup entity).getD {}

/-- Change what is recorded for an entity. -/
def updateEntity (d : Descriptor) (entity : String) (f : Capabilities → Capabilities) : Descriptor :=
  { d with entities := Entities.update entity f d.entities }

/-- Record the canonical use cases of an entity. -/
def markCrud (d : Descriptor) (entity : String) : Descriptor :=
  d.updateEntity entity fun c => { c with hasCrud := true }

/-- Record an action of an entity. -/
def markAction (d : Descriptor) (entity : String) : Descriptor :=
  d.updateEntity entity fun c => { c with hasAction := true }

/-- Record an entity. -/
def register (d : Descriptor) (entity : String) : Descriptor := d.updateEntity entity fun c => c

/-- Record when the descriptor changed. -/
def touch (d : Descriptor) (now : Instant) : Descriptor := { d with updatedAt := now }

end Descriptor

end Scaffold
