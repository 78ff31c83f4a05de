import Scaffold.Calendar
import Scaffold.Checkpoint
import Scaffold.Gate
import Scaffold.Plan.Entity
import Scaffold.Plan.Scalar
import Scaffold.Plan.Service

/-!
# Requests against a project

Each request goes the same way: it is checked, the descriptor is read, the gates are asked,
a persistence provider is settled if it is needed, the tasks are carried out, the
checkpoints run and the descriptor is saved if it changed.  A request that fails is retried
by making it again; each of its tasks finds for itself what is left to do.
-/

namespace Scaffold

variable {m : Type → Type} [Monad m]

/-! ## Descriptors -/

/-- The descriptor at a root, which has to be there. -/
def requireDescriptor (ports : Ports m) (root : String) : Fallible m Descriptor := do
  match ← ports.loadDescriptor root with
  | some d => return d
  | none => throw (.run (.projectNotInitialized root))

/-- Save a descriptor that differs from the one that was read, with the time of the change. -/
def commitDescriptor (ports : Ports m) (root : String) (loaded changed : Descriptor) :
    Fallible m Unit := do
  if changed = loaded then return
  ports.saveDescriptor root (changed.touch (← ports.now))

/-- Set a project up.  One that is there already is left alone. -/
def initProject (ports : Ports m) (root name : String) (style : Exposure)
    (provider : Option Provider) : Fallible m Descriptor := do
  if (← ports.loadDescriptor root).isSome then throw (.run (.projectExists root))
  let created ← (Descriptor.create (← ports.freshId) (← ports.now) name root style provider).mapError
    Error.request
  ports.saveDescriptor root created
  return created

/-- The question a missing provider is settled by. -/
def providerPrompt : String := "Select a persistence provider"

/-- The provider of a project, asked for and recorded if it has none. -/
def settleProvider (ports : Ports m) (d : Descriptor) : Fallible m (Provider × Descriptor) := do
  match d.provider with
  | some provider => return (provider, d)
  | none =>
      let index ← ports.choose providerPrompt (Provider.all.map Provider.spelling)
      match Provider.all[index]? with
      | some provider => return (provider, { d with provider := some provider })
      | none => throw (.run (.selectionCancelled providerPrompt))

/-! ## What requests share -/

/-- What a plan for a project starts from. -/
def siteOf (ports : Ports m) (d : Descriptor) : Fallible m Site := do
  return ⟨⟨d.name, d.style⟩, (← ports.now).date.year.toNat⟩

/-- The feature of an entity. -/
def featureNamed (ports : Ports m) (entity : String) : Feature :=
  .ofNames entity (ports.pluralize entity)

/-- Carry a plan out. -/
def carryOut (ports : Ports m) (root : String) (plan : List Task) : Fallible m (List Step) :=
  performAll ports.files ports.templates root plan

/-! ## The requests -/

/-- Generate the canonical use cases of an entity. -/
def addCrud (ports : Ports m) (options : Options) (root : String) (request : CrudRequest) :
    Fallible m Report := do
  let request ← request.accept.mapError Error.request
  let loaded ← requireDescriptor ports root
  let f := featureNamed ports request.entity
  let (provider, settled) ← settleProvider ports loaded
  let site ← siteOf ports settled
  let steps ← carryOut ports root (site.crudPlan f provider)
  let checkpoints ← runCheckpoints ports options root site.locator (some ("Add" ++ f.name))
  commitDescriptor ports root loaded (settled.markCrud f.name)
  return ⟨"CRUD", some f.name, "Reconciling CRUD for " ++ f.name, steps, checkpoints⟩

/-- The use case of an action on an entity. -/
def ActionRequest.useCase (r : ActionRequest) (f : Feature) : UseCase :=
  if r.canonical then .canonicalAction f r.action r.verb else .namedAction f r.action r.verb

/-- Add one action to an entity.  An entrypoint that is exposed already is refused before
anything is asked or written. -/
def addAction (ports : Ports m) (options : Options) (root : String) (request : ActionRequest) :
    Fallible m Report := do
  let request ← request.accept.mapError Error.request
  let loaded ← requireDescriptor ports root
  let f := featureNamed ports request.entity
  let useCase := request.useCase f
  let site ← siteOf ports loaded
  requireEntity ports.files root site.locator f
  requireUnexposed ports.files root site.locator f useCase.entry
  let (provider, settled) ← settleProvider ports loaded
  let steps ← carryOut ports root (site.actionPlan f useCase provider)
  let migration := if options.migrateActions then some useCase.name else none
  let checkpoints ← runCheckpoints ports options root site.locator migration
  commitDescriptor ports root loaded (settled.markAction f.name)
  let subject := request.verb.spelling ++ " " ++ request.action
  return ⟨subject, some f.name, "Reconciling " ++ subject ++ " on " ++ f.name, steps, checkpoints⟩

/-- Where an accepted service goes: to its entity, to its external system or to the shared
services. -/
def AcceptedService.placement (ports : Ports m) (r : AcceptedService) : Placement :=
  match r.entity, r.external with
  | some entity, _ => .featureLocal (featureNamed ports entity)
  | none, some system => .external system
  | none, none => .shared

/-- Record what a placement brings with it: the container of an external system. -/
def recordContainer (ports : Ports m) : Placement → Fallible m Unit
  | .external system => ports.saveContainer system.container
  | .featureLocal _ | .shared => pure ()

/-- Add a service. -/
def addService (ports : Ports m) (options : Options) (root : String) (request : ServiceRequest) :
    Fallible m Report := do
  let request ← request.accept.mapError Error.request
  let loaded ← requireDescriptor ports root
  let placement := request.placement ports
  let entity := match placement with
    | .featureLocal f => some f
    | .external _ | .shared => none
  let site ← siteOf ports loaded
  match entity with
  | some f => requireEntity ports.files root site.locator f
  | none => pure ()
  requireUnregistered ports.files root site.locator placement request.name
  let steps ← carryOut ports root (site.servicePlan placement request.name request.lifetime)
  recordContainer ports placement
  let checkpoints ← runCheckpoints ports options root site.locator none
  commitDescriptor ports root loaded (match entity with
    | some f => loaded.register f.name
    | none => loaded)
  return ⟨"service " ++ request.name, entity.map Feature.name,
    "Reconciling service " ++ request.name, steps, checkpoints⟩

/-- Add a constant to an entity, or to the shared ones.  The descriptor stays as it is. -/
def addConstant (ports : Ports m) (root : String) (request : ConstantRequest) :
    Fallible m Report := do
  let request ← request.accept.mapError Error.request
  let d ← requireDescriptor ports root
  let entity := request.entity.map (featureNamed ports)
  let site ← siteOf ports d
  match entity with
  | some f => requireEntity ports.files root site.locator f
  | none => pure ()
  let steps ← carryOut ports root (site.constantPlan entity request.name)
  return ⟨"constant " ++ request.name, entity.map Feature.name,
    "Reconciling constant " ++ request.name, steps, []⟩

/-- Add an enum and a property of its type to an entity. -/
def addEnum (ports : Ports m) (root : String) (request : EnumRequest) : Fallible m Report := do
  let request ← request.accept.mapError Error.request
  let loaded ← requireDescriptor ports root
  let f := featureNamed ports request.entity
  let site ← siteOf ports loaded
  requireEntity ports.files root site.locator f
  let steps ← carryOut ports root (site.enumPlan f request.name)
  commitDescriptor ports root loaded (loaded.register f.name)
  return ⟨"enum " ++ request.name, some f.name,
    "Reconciling enum " ++ request.name ++ " on " ++ f.name, steps, []⟩

end Scaffold
