import Scaffold.Descriptor.Record
import Scaffold.Format.Yaml.Reader
import Scaffold.Format.Yaml.Writer

/-!
# Descriptors in YAML

A record is a mapping with its fields as keys.  A scalar without quotes is a text wherever a
text is asked for, whatever else it could be.  An alias reads as the value it stands for.
-/

namespace Scaffold.Yaml

/-! ## Reading -/

/-- The tag of a kind of the format itself. -/
def kindTag (kind : String) : Tag := ("tag:yaml.org,2002:" ++ kind).toUTF8.toList

/-- The word after the exclamation mark of a tag that begins with one. -/
def tagWord? : Tag → Option String
  | 0x21 :: octets => String.fromUTF8? ⟨octets.toArray⟩
  | _ => none

/-- The text of a scalar. -/
def text? : Yaml → Option String
  | .scalar s _ _ => some s
  | _ => none

/-- The flag of a scalar. -/
def flag? : Yaml → Option Bool
  | .scalar s .plain _ => flagWord? s
  | .scalar s .literal (some tag) => if tag = kindTag "bool" then flagWord? s else none
  | _ => none

/-- One word of an enumeration: the tag if it is one, and then nothing comes after it, or else the
text. -/
def word? : Yaml → Option String
  | .scalar s form tag =>
      match tag.bind tagWord? with
      | some word => if form = .plain ∧ (s.isEmpty ∨ isNullWord s) then some word else none
      | none => some s
  | _ => none

/-- Decide whether a value is a null, or nothing at all.  A tag for nulls is on nothing else. -/
def isNull? : Yaml → Option Bool
  | .scalar s .plain none => some (s.isEmpty || isNullWord s)
  | .scalar s .plain (some tag) =>
      if tag ≠ kindTag "null" then some false else if isNullWord s then some true else none
  | _ => some false

/-- Entries whose keys are texts; nothing at all stands for none of them. -/
def Document.entries? (d : Document) : Yaml → Option (List (String × Yaml))
  | .mapping entries => entries.mapM fun (k, v) => do return (← text? (d.resolved k), v)
  | .scalar "" .plain _ => some []
  | _ => none

/-- How records are read from the values of a document. -/
def Document.reader (d : Document) : ValueReader Yaml where
  text v := text? (d.resolved v)
  flag v := flag? (d.resolved v)
  word v := word? (d.resolved v)
  isNone v := isNull? (d.resolved v)
  fields _ v := d.entries? (d.resolved v)
  entries v := d.entries? (d.resolved v)

/-- Read the text of a descriptor. -/
def parseDescriptor? (s : String) : Option Descriptor := do
  let d ← parse? s
  d.reader.descriptor d.root

/-! ## Writing -/

/-- A text as a value. -/
def ofText (s : String) : Yaml := .scalar s .text none

/-- A flag as a value. -/
def ofFlag (b : Bool) : Yaml := .scalar (toString b) .plain none

/-- What was generated for an entity, as a value. -/
def ofCapabilities (c : Capabilities) : Yaml :=
  .mapping [(ofText "has_crud", ofFlag c.hasCrud), (ofText "has_action", ofFlag c.hasAction)]

/-- A descriptor as a value. -/
def ofDescriptor (d : Descriptor) : Yaml :=
  let field (name value : String) : Yaml × Yaml := (ofText name, ofText value)
  .mapping <|
    [field "project_id" d.id.text, field "project_name" d.name, field "root_path" d.root,
      field "entry_point" d.entryPoint] ++
    (d.provider.map fun p => field "persistence_provider" p.spelling).toList ++
    [field "exposure_style" d.style.spelling, field "created_at" (d.createdAt.text "Z"),
      field "updated_at" (d.updatedAt.text "Z"),
      (ofText "entities", .mapping (d.entities.map fun (name, c) => (ofText name, ofCapabilities c)))]

end Scaffold.Yaml
