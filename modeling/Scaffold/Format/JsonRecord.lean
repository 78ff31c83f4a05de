import Scaffold.Descriptor.Record
import Scaffold.Format.Json

/-!
# Records in JSON

A record is an object whose members are its fields, in any order and among others, or an
array of the fields' values in order.
-/

namespace Scaffold.JsonValue

/-! ## Reading -/

/-- A string. -/
def string? : JsonValue → Option String
  | .string s => some s
  | _ => none

/-- The fields of a record. -/
def recordFields (names : List String) : JsonValue → Option (List (String × JsonValue))
  | .object members => some members
  | .array items => if items.length ≤ names.length then some (names.zip items) else none
  | _ => none

/-- How records are read from values. -/
def reader : ValueReader JsonValue where
  text := string?
  flag
    | .bool b => some b
    | _ => none
  word
    | .string s => some s
    | .object [(s, .null)] => some s
    | _ => none
  isNone
    | .null => some true
    | _ => some false
  fields := recordFields
  entries
    | .object members => some members
    | _ => none

/-- A container record. -/
def container? (v : JsonValue) : Option Container := do
  let fs ← recordFields ["name", "image"] v
  return ⟨← ValueReader.required string? "name" fs, ← ValueReader.required string? "image" fs⟩

/-- Read the text of a container record. -/
def parseContainer? (s : String) : Option Container := do container? (← parse? s)

/-- Read the text of a descriptor. -/
def parseDescriptor? (s : String) : Option Descriptor := do reader.descriptor (← parse? s)

/-! ## Writing -/

/-- A container record as a value. -/
def ofContainer (c : Container) : JsonValue :=
  .object [("name", .string c.name), ("image", .string c.image)]

/-- What was generated for an entity, as a value. -/
def ofCapabilities (c : Capabilities) : JsonValue :=
  .object [("has_crud", .bool c.hasCrud), ("has_action", .bool c.hasAction)]

/-- A descriptor as a value. -/
def ofDescriptor (d : Descriptor) : JsonValue :=
  .object <|
    [("project_id", .string d.id.text), ("project_name", .string d.name),
      ("root_path", .string d.root), ("entry_point", .string d.entryPoint)] ++
    (d.provider.map fun p => ("persistence_provider", .string p.spelling)).toList ++
    [("exposure_style", .string d.style.spelling), ("created_at", .string (d.createdAt.text "Z")),
      ("updated_at", .string (d.updatedAt.text "Z")),
      ("entities", .object (d.entities.map fun (name, c) => (name, ofCapabilities c)))]

example : parseContainer? "[\"redis\", \"redis:7\"]" = some ⟨"redis", "redis:7"⟩ := by
  decide +kernel
example : parseContainer? (ofContainer ⟨"é\n", "a\"b"⟩).pretty = some ⟨"é\n", "a\"b"⟩ := by
  decide +kernel

end Scaffold.JsonValue
