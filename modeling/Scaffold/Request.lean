import Scaffold.Identifier
import Scaffold.Text.Search
import Scaffold.Vocabulary

/-!
# Requests

What a user asks for, as typed, and the same request with its names checked and put into
Pascal case.  Nothing here looks at a file.
-/

namespace Scaffold

open Scaffold.Text

/-! ## The requests -/

/-- The full set of canonical use cases of an entity. -/
structure CrudRequest where
  /-- The entity. -/
  entity : String
deriving Repr, DecidableEq

/-- One more action on an entity. -/
structure ActionRequest where
  /-- The entity. -/
  entity : String
  /-- The name of the action. -/
  action : String
  /-- The verb it is called by. -/
  verb : Verb
  /-- Whether it takes the canonical route of its verb. -/
  canonical : Bool
deriving Repr, DecidableEq

/-- A service: an interface, its implementation and their registration. -/
structure ServiceRequest where
  /-- The name; an external system has one of its own. -/
  name : Option String
  /-- The entity it belongs to. -/
  entity : Option String
  /-- The external system it stands for. -/
  external : Option ExternalSystem
  /-- How long it lives. -/
  lifetime : Lifetime
deriving Repr, DecidableEq

/-- A service whose name is settled. -/
structure AcceptedService where
  /-- The name, without `Service` at its end. -/
  name : String
  /-- The entity it belongs to. -/
  entity : Option String
  /-- The external system it stands for. -/
  external : Option ExternalSystem
  /-- How long it lives. -/
  lifetime : Lifetime
deriving Repr, DecidableEq

/-- A text constant of an entity, or a shared one. -/
structure ConstantRequest where
  /-- The entity. -/
  entity : Option String
  /-- The name of the constant. -/
  name : String
deriving Repr, DecidableEq

/-- An enum and a property of its type. -/
structure EnumRequest where
  /-- The entity that gets the property. -/
  entity : String
  /-- The name of the enum. -/
  name : String
deriving Repr, DecidableEq

/-! ## Acceptance -/

/-- Put an optional name into Pascal case. -/
def normalizeOptional (field : String) : Option String → Except RequestError (Option String)
  | none => .ok none
  | some raw => some <$> normalizeIdentifier field raw

/-- Accept a request for the canonical use cases. -/
def CrudRequest.accept (r : CrudRequest) : Except RequestError CrudRequest := do
  return ⟨← normalizeIdentifier "entity" r.entity⟩

/-- Accept a request for an action. -/
def ActionRequest.accept (r : ActionRequest) : Except RequestError ActionRequest := do
  let entity ← normalizeIdentifier "entity" r.entity
  let action ← normalizeIdentifier "action" r.action
  return ⟨entity, action, r.verb, r.canonical⟩

/-- Accept a request for a constant. -/
def ConstantRequest.accept (r : ConstantRequest) : Except RequestError ConstantRequest := do
  let entity ← normalizeOptional "entity" r.entity
  let name ← normalizeIdentifier "constant name" r.name
  return ⟨entity, name⟩

/-- Accept a request for an enum. -/
def EnumRequest.accept (r : EnumRequest) : Except RequestError EnumRequest := do
  let entity ← normalizeIdentifier "entity" r.entity
  let name ← normalizeIdentifier "enum name" r.name
  return ⟨entity, name⟩

namespace ServiceRequest

/-- The name of a service: the one given unless it is blank, else that of its external
system. -/
def givenName (r : ServiceRequest) : Except RequestError String :=
  match (r.name.map trim).filter (!·.isEmpty), r.external with
  | some name, _ => normalizeIdentifier "service name" name
  | none, some system => .ok system.defaultName
  | none, none => .error (.missingField "service name")

/-- A name without `Service` at its end, unless nothing else is left. -/
def dropSuffix (name : String) : String :=
  match dropTail? "Service".toList name.toList with
  | some (c :: cs) => String.ofList (c :: cs)
  | _ => name

/-- Accept a request for a service.  An external system belongs to no entity. -/
def accept (r : ServiceRequest) : Except RequestError AcceptedService := do
  let name ← r.givenName
  let entity ← normalizeOptional "entity" r.entity
  match r.external, entity with
  | some _, some entity =>
      throw (.invalidIdentifier "entity" entity "an externally-backed service cannot be feature-local")
  | external, entity => return ⟨dropSuffix name, entity, external, r.lifetime⟩

end ServiceRequest

end Scaffold
