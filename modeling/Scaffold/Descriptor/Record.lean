import Scaffold.Descriptor.Timestamp
import Scaffold.Descriptor.Uuid

/-!
# Reading descriptors

The record of a descriptor, apart from the format it is written in.  A format says how its
values are read as texts, flags, choices and records; which fields there are, which of them
can be missing and what they hold is said here, once.
-/

namespace Scaffold

open Scaffold.Text

/-- How the values of a format are read. -/
structure ValueReader (α : Type) where
  /-- A text. -/
  text : α → Option String
  /-- A flag. -/
  flag : α → Option Bool
  /-- One word of an enumeration. -/
  word : α → Option String
  /-- Whether a value stands for none, if it does not contradict itself about that. -/
  isNone : α → Option Bool
  /-- The fields of a record that has fields of the given names in the given order. -/
  fields : List String → α → Option (List (String × α))
  /-- The entries of a map. -/
  entries : α → Option (List (String × α))

/-- The value of a field; `none` stands for a field that is given twice. -/
def fieldValue {α : Type} (name : String) (fields : List (String × α)) : Option (Option α) :=
  match fields.filter (·.1 == name) with
  | [] => some none
  | [(_, v)] => some (some v)
  | _ => none

namespace ValueReader

variable {α : Type} (r : ValueReader α)

/-- A field that has to be given. -/
def required {β : Type} (read : α → Option β) (name : String) (fs : List (String × α)) :
    Option β := do
  match ← fieldValue name fs with
  | some v => read v
  | none => none

/-- A field with a value for when it is not given. -/
def withDefault {β : Type} (read : α → Option β) (d : β) (name : String)
    (fs : List (String × α)) : Option β := do
  match ← fieldValue name fs with
  | some v => read v
  | none => some d

/-- An optional value. -/
def optional {β : Type} (read : α → Option β) (v : α) : Option (Option β) := do
  if ← r.isNone v then return none else return some (← read v)

/-- One of several named values. -/
def choice {β : Type} (all : List β) (spelling : β → String) (v : α) : Option β := do
  let word ← r.word v
  all.find? (spelling · == word)

/-- What was generated for an entity. -/
def capabilities (v : α) : Option Capabilities := do
  let fs ← r.fields ["has_crud", "has_action"] v
  return ⟨← withDefault r.flag false "has_crud" fs, ← withDefault r.flag false "has_action" fs⟩

/-- The entities by name; of several entries of one name the last one counts. -/
def entities (v : α) : Option Entities := do
  let entries ← r.entries v
  entries.foldlM (fun es (name, v) => do
    let c ← r.capabilities v
    return Entities.update name (fun _ => c) es) []

/-- The names of the fields of a descriptor, in order. -/
def descriptorFields : List String :=
  ["project_id", "project_name", "root_path", "entry_point", "persistence_provider",
   "exposure_style", "created_at", "updated_at", "entities"]

/-- A descriptor. -/
def descriptor (v : α) : Option Descriptor := do
  let fs ← r.fields descriptorFields v
  let moment (v : α) : Option Instant := do Instant.parse? (← r.text v)
  return {
    id := ← required (fun v => do Uuid.parse? (← r.text v)) "project_id" fs
    name := ← required r.text "project_name" fs
    root := ← required r.text "root_path" fs
    entryPoint := ← required r.text "entry_point" fs
    provider := ← withDefault (r.optional (r.choice Provider.all Provider.spelling)) none
      "persistence_provider" fs
    style := ← withDefault (r.choice [.routes, .controllers] Exposure.spelling) .routes
      "exposure_style" fs
    createdAt := ← required moment "created_at" fs
    updatedAt := ← required moment "updated_at" fs
    entities := ← withDefault r.entities [] "entities" fs }

end ValueReader

end Scaffold
