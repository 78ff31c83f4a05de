import Mathlib
import Scaffold.Plural
import Scaffold.Proofs.Plan.Tasks
import Scaffold.Reconcile

/-!
# Changes

The requests that change a project that is set up go the same way.  `Change` is one of the five, and
an accepted one is an `Order`: what is to be generated, under names that are settled.  An order is
*prepared*, which only looks and asks, and then *finished*, which does the rest
(`Change.make_eq`).  So what is said of a request is said once, of orders.
-/

namespace Scaffold

/-! ## Changes -/

/-- A request that changes a project. -/
inductive Change where
  | crud (r : CrudRequest)
  | action (r : ActionRequest)
  | service (r : ServiceRequest)
  | constant (r : ConstantRequest)
  | enum (r : EnumRequest)
deriving Repr, DecidableEq

/-- Make a request. -/
def Change.make {m : Type → Type} [Monad m] (ports : Ports m) (options : Options) (root : String) :
    Change → Fallible m Report
  | .crud r => addCrud ports options root r
  | .action r => addAction ports options root r
  | .service r => addService ports options root r
  | .constant r => addConstant ports root r
  | .enum r => addEnum ports root r

/-! ## Orders -/

/-- A request whose names are accepted. -/
inductive Order where
  | crud (f : Feature)
  | action (f : Feature) (r : ActionRequest)
  | service (p : Placement) (name : String) (lifetime : Lifetime)
  | constant (f : Option Feature) (name : String)
  | enum (f : Feature) (name : String)
deriving Repr, DecidableEq

/-- The feature of an entity under a way to make plurals. -/
def featureOf (pluralize : String → String) (entity : String) : Feature :=
  .ofNames entity (pluralize entity)

/-- What a request orders. -/
def Change.order (pluralize : String → String) : Change → Except RequestError Order
  | .crud r => r.accept.map fun a => .crud (featureOf pluralize a.entity)
  | .action r => r.accept.map fun a => .action (featureOf pluralize a.entity) a
  | .service r => r.accept.map fun a =>
      .service (match a.entity, a.external with
        | some entity, _ => .featureLocal (featureOf pluralize entity)
        | none, some system => .external system
        | none, none => .shared) a.name a.lifetime
  | .constant r => r.accept.map fun a => .constant (a.entity.map (featureOf pluralize)) a.name
  | .enum r => r.accept.map fun a => .enum (featureOf pluralize a.entity) a.name

/-- The use case of an action has a good name. -/
theorem useCase_wellNamed {f : Feature} (hf : f.WellNamed) {r : ActionRequest}
    (hr : IsName r.action) : (r.useCase f).WellNamed := by
  have hname : IsName (r.action ++ f.name) := hr.append hf.name.2
  unfold ActionRequest.useCase
  cases r.canonical with
  | true => exact ⟨hname, nofun⟩
  | false =>
      refine ⟨hname, ?_⟩
      rintro _ _ ⟨⟩
      exact hr

namespace Order

/-- The entity an order is for. -/
def feature : Order → Option Feature
  | .crud f | .action f _ | .enum f _ | .service (.featureLocal f) _ _ => some f
  | .service .shared _ _ | .service (.external _) _ _ => none
  | .constant f _ => f

/-- The tasks of an order. -/
def plan (s : Site) (provider : Provider) : Order → List Task
  | .crud f => s.crudPlan f provider
  | .action f r => s.actionPlan f (r.useCase f) provider
  | .service p name lifetime => s.servicePlan p name lifetime
  | .constant f name => s.constantPlan f name
  | .enum f name => s.enumPlan f name

/-- Decide whether an order needs a persistence provider. -/
def needsProvider : Order → Bool
  | .crud _ | .action _ _ => true
  | .service _ _ _ | .constant _ _ | .enum _ _ => false

/-- What an order records in the descriptor. -/
def record (d : Descriptor) : Order → Descriptor
  | .crud f => d.markCrud f.name
  | .action f _ => d.markAction f.name
  | .service (.featureLocal f) _ _ | .enum f _ => d.register f.name
  | .service .shared _ _ | .service (.external _) _ _ | .constant _ _ => d

/-- An order under good names. -/
def WellNamed : Order → Prop
  | .crud f => f.WellNamed
  | .action f r => f.WellNamed ∧ IsName r.action
  | .service p name _ => p.WellNamed ∧ IsName name
  | .constant f name => (∀ g ∈ f, g.WellNamed) ∧ IsName name
  | .enum f name => f.WellNamed ∧ IsName name

/-! ### Preparing and finishing -/

section

variable {m : Type → Type} [Monad m] (ports : Ports m) (options : Options) (root : String)

/-- What is refused before an order is carried out. -/
def gates (l : Locator) : Order → Fallible m Unit
  | .crud _ => pure ()
  | .action f r => do
      requireEntity ports.files root l f
      requireUnexposed ports.files root l f (r.useCase f).entry
  | .service p name _ => do
      match p with
      | .featureLocal f => requireEntity ports.files root l f
      | .shared | .external _ => pure ()
      requireUnregistered ports.files root l p name
  | .constant f _ =>
      match f with
      | some f => requireEntity ports.files root l f
      | none => pure ()
  | .enum f _ => requireEntity ports.files root l f

/-- What an order is carried out with. -/
structure Prepared where
  /-- The provider; it does not matter where none is needed. -/
  provider : Provider
  /-- The descriptor with the provider that is settled. -/
  settled : Descriptor
  /-- The site of the plan. -/
  site : Site

/-- Find out what an order is carried out with. -/
def prepare (loaded : Descriptor) (o : Order) : Fallible m Prepared :=
  match o with
  | .crud _ => do
      let (provider, settled) ← settleProvider ports loaded
      let site ← siteOf ports settled
      return ⟨provider, settled, site⟩
  | .action _ _ => do
      let site ← siteOf ports loaded
      o.gates ports root site.locator
      let (provider, settled) ← settleProvider ports loaded
      return ⟨provider, settled, site⟩
  | .service _ _ _ | .constant _ _ | .enum _ _ => do
      let site ← siteOf ports loaded
      o.gates ports root site.locator
      return ⟨.postgres, loaded, site⟩

/-- Record what an order brings with it. -/
def recordContainer : Order → Fallible m Unit
  | .service p _ _ => Scaffold.recordContainer ports p
  | .crud _ | .action _ _ | .constant _ _ | .enum _ _ => pure ()

/-- Run the checkpoints of an order. -/
def runCheckpoints (l : Locator) : Order → Fallible m (List Checkpoint)
  | .crud f => Scaffold.runCheckpoints ports options root l (some ("Add" ++ f.name))
  | .action f r => Scaffold.runCheckpoints ports options root l
      (if options.migrateActions then some (r.useCase f).name else none)
  | .service _ _ _ => Scaffold.runCheckpoints ports options root l none
  | .constant _ _ | .enum _ _ => pure []

/-- The report of an order. -/
def report (steps : List Step) (checkpoints : List Checkpoint) : Order → Report
  | .crud f => ⟨"CRUD", some f.name, "Reconciling CRUD for " ++ f.name, steps, checkpoints⟩
  | .action f r =>
      let subject := r.verb.spelling ++ " " ++ r.action
      ⟨subject, some f.name, "Reconciling " ++ subject ++ " on " ++ f.name, steps, checkpoints⟩
  | .service p name _ =>
      let entity := match p with
        | .featureLocal f => some f.name
        | .shared | .external _ => none
      ⟨"service " ++ name, entity, "Reconciling service " ++ name, steps, checkpoints⟩
  | .constant f name =>
      ⟨"constant " ++ name, f.map Feature.name, "Reconciling constant " ++ name, steps, checkpoints⟩
  | .enum f name =>
      ⟨"enum " ++ name, some f.name, "Reconciling enum " ++ name ++ " on " ++ f.name, steps,
        checkpoints⟩

/-- Carry an order out that is prepared. -/
def finish (loaded : Descriptor) (o : Order) (p : Prepared) : Fallible m Report := do
  let steps ← carryOut ports root (o.plan p.site p.provider)
  o.recordContainer ports
  let checkpoints ← o.runCheckpoints ports options root p.site.locator
  commitDescriptor ports root loaded (o.record p.settled)
  return o.report steps checkpoints

end

/-! ### Plans -/

theorem plan_belongs {s : Site} (hs : IsProject s.project) {o : Order} (ho : o.WellNamed)
    (provider : Provider) : ∀ t ∈ o.plan s provider, t.Belongs s.locator := by
  cases o with
  | crud f => exact Site.crudPlan_belongs hs ho provider
  | action f r => exact Site.actionPlan_belongs hs ho.1 (useCase_wellNamed ho.1 ho.2) provider
  | service p name lifetime => exact Site.servicePlan_belongs hs ho.1 ho.2 lifetime
  | constant f name => exact Site.constantPlan_belongs hs ho.1 ho.2
  | enum f name => exact Site.enumPlan_belongs hs ho.1 ho.2

/-- The year makes no difference. -/
theorem plan_alike (l : Locator) (y y' : Nat) (provider : Provider) (o : Order) :
    List.Forall₂ Task.Alike (o.plan ⟨l, y⟩ provider) (o.plan ⟨l, y'⟩ provider) := by
  cases o with
  | crud f => exact Site.crudPlan_alike l y y' f provider
  | action f r => exact Site.actionPlan_alike l y y' f (r.useCase f) provider
  | service p name lifetime => exact Site.servicePlan_alike l y y' p name lifetime
  | constant f name => exact Site.constantPlan_alike l y y' f name
  | enum f name => exact Site.enumPlan_alike l y y' f name

/-- The provider makes no difference where none is needed. -/
theorem plan_provider {o : Order} (h : o.needsProvider = false) (s : Site) (p q : Provider) :
    o.plan s p = o.plan s q := by
  cases o with
  | crud f => cases h
  | action f r => cases h
  | service p name lifetime => rfl
  | constant f name => rfl
  | enum f name => rfl

/-- The tasks of an order for a project; the year makes no difference. -/
def tasks (l : Locator) (provider : Provider) (o : Order) : List Task := o.plan ⟨l, 0⟩ provider

theorem tasks_belong {l : Locator} (hl : IsProject l.project) {o : Order} (ho : o.WellNamed)
    (provider : Provider) : ∀ t ∈ o.tasks l provider, t.Belongs l :=
  plan_belongs (s := ⟨l, 0⟩) hl ho provider

end Order

theorem map_eq_ok {ε α β : Type} {x : Except ε α} {g : α → β} {b : β} (h : x.map g = .ok b) :
    ∃ a, x = .ok a ∧ g a = b := by
  cases x with
  | error e => cases h
  | ok a => exact ⟨a, rfl, Except.ok.inj h⟩

theorem mapError_eq_ok {ε ε' α : Type} {x : Except ε α} {g : ε → ε'} {a : α}
    (h : x.mapError g = .ok a) : x = .ok a := by
  cases x with
  | error e => cases h
  | ok a' => exact congrArg Except.ok (Except.ok.inj h)

/-- What is ordered has good names. -/
theorem Change.order_wellNamed {c : Change} {o : Order} (h : c.order Plural.english = .ok o) :
    o.WellNamed := by
  cases c with
  | crud r =>
      obtain ⟨a, ha, rfl⟩ := map_eq_ok h
      exact ofNames_wellNamed (CrudRequest.accept_isName ha)
  | action r =>
      obtain ⟨a, ha, rfl⟩ := map_eq_ok h
      obtain ⟨hentity, haction⟩ := ActionRequest.accept_isName ha
      exact ⟨ofNames_wellNamed hentity, haction⟩
  | service r =>
      obtain ⟨a, ha, rfl⟩ := map_eq_ok h
      obtain ⟨hentity, hname⟩ := ServiceRequest.accept_isName ha
      refine ⟨?_, hname⟩
      obtain ⟨name, entity, external, lifetime⟩ := a
      cases entity with
      | some entity =>
          rintro _ ⟨⟩
          exact ofNames_wellNamed (hentity entity rfl)
      | none => cases external <;> rintro _ ⟨⟩
  | constant r =>
      obtain ⟨a, ha, rfl⟩ := map_eq_ok h
      obtain ⟨hentity, hname⟩ := ConstantRequest.accept_isName ha
      refine ⟨fun g hg => ?_, hname⟩
      obtain ⟨entity, hmem, rfl⟩ := Option.mem_map.1 hg
      exact ofNames_wellNamed (hentity entity hmem)
  | enum r =>
      obtain ⟨a, ha, rfl⟩ := map_eq_ok h
      obtain ⟨hentity, hname⟩ := EnumRequest.accept_isName ha
      exact ⟨ofNames_wellNamed hentity, hname⟩

/-! ## Containers and checkpoints -/

/-- What holds of saving a container and of doing nothing holds of recording one. -/
theorem Order.recordContainer_ind {m : Type → Type} [Monad m] {ports : Ports m}
    {motive : Fallible m Unit → Prop} (hpure : motive (pure ()))
    (hsave : ∀ c, motive (ports.saveContainer c)) (o : Order) : motive (o.recordContainer ports) := by
  cases o with
  | service p name lifetime =>
      cases p with
      | external system => exact hsave system.container
      | featureLocal _ | shared => exact hpure
  | crud _ | action _ _ | constant _ _ | enum _ _ => exact hpure

/-- What holds of the steps of the checkpoints holds of the checkpoints. -/
theorem runCheckpoints_ind {m : Type → Type} [Monad m] {ports : Ports m} {root : String}
    {l : Locator} {motive : ∀ {α : Type}, Fallible m α → Prop}
    (hpure : ∀ {α : Type} (a : α), motive (pure a))
    (hbind : ∀ {α β : Type} {x : Fallible m α} {f : α → Fallible m β}, motive x → (∀ a, motive (f a)) →
      motive (x >>= f))
    (htool : ∀ arguments, motive (runTool ports root arguments))
    (hlist : ∀ path, motive (ports.files.listFiles path)) (options : Options) (migration : Option String) :
    motive (runCheckpoints ports options root l migration) := by
  unfold runCheckpoints runBuild
  refine hbind ?_ fun build => ?_
  · split
    · exact hpure _
    · exact htool _
  · cases migration with
    | none => exact hpure _
    | some name =>
        refine hbind ?_ fun _ => hpure _
        have hmigrate : motive (if options.skipMigration then
            pure (.skipped "disabled with --no-migrate")
          else do
            if ← migrationExists ports.files root l name then
              return .skipped "migration already exists"
            else runTool ports root (migrationArguments l name)) := by
          split
          · exact hpure _
          · refine hbind (hbind (hlist _) fun _ => hpure _) fun found => ?_
            cases found with
            | true => exact hpure _
            | false => exact htool _
        cases build with
        | failed cause => exact hpure _
        | passed => exact hmigrate
        | skipped reason => exact hmigrate

/-- What holds of the steps of the checkpoints holds of those of an order. -/
theorem Order.runCheckpoints_ind {m : Type → Type} [Monad m] {ports : Ports m} {root : String}
    {l : Locator} {motive : ∀ {α : Type}, Fallible m α → Prop}
    (hpure : ∀ {α : Type} (a : α), motive (pure a))
    (hbind : ∀ {α β : Type} {x : Fallible m α} {f : α → Fallible m β}, motive x →
      (∀ a, motive (f a)) → motive (x >>= f))
    (htool : ∀ arguments, motive (runTool ports root arguments))
    (hlist : ∀ path, motive (ports.files.listFiles path)) (options : Options) (o : Order) :
    motive (o.runCheckpoints ports options root l) := by
  have hrun : ∀ migration, motive (Scaffold.runCheckpoints ports options root l migration) :=
    Scaffold.runCheckpoints_ind hpure hbind htool hlist options
  cases o with
  | crud f => exact hrun (some ("Add" ++ f.name))
  | action f r => exact hrun _
  | service p name lifetime => exact hrun none
  | constant _ _ | enum _ _ => exact hpure _

/-! ## One way for all -/

section

variable {m : Type → Type} [Monad m]

theorem commitDescriptor_self (ports : Ports m) (root : String) (d : Descriptor) :
    commitDescriptor ports root d d = pure () := by
  rw [commitDescriptor, if_pos rfl]

variable [LawfulMonad m] {α β : Type}

theorem lift_ok_bind (a : α) (f : α → Fallible m β) :
    ((.ok a : Except Error α) : Fallible m α) >>= f = f a :=
  pure_bind a f

theorem lift_error_bind (e : Error) (f : α → Fallible m β) :
    ((.error e : Except Error α) : Fallible m α) >>= f = throw e := by
  apply ExceptT.ext
  exact pure_bind (Except.error e) _

/-- A request is accepted, prepared and finished. -/
theorem Change.make_eq (ports : Ports m) (options : Options) (root : String) (c : Change) :
    c.make ports options root = (do
      let o ← ((c.order ports.pluralize).mapError Error.request : Except Error Order)
      let loaded ← requireDescriptor ports root
      let p ← o.prepare ports root loaded
      o.finish ports options root loaded p) := by
  cases c with
  | crud r =>
      simp only [make, addCrud, order]
      cases r.accept with
      | error e => simp only [Except.map, Except.mapError, lift_error_bind]
      | ok a =>
          simp only [Except.map, Except.mapError, lift_ok_bind, Order.prepare, bind_assoc,
            pure_bind, Order.finish, Order.recordContainer]
          rfl
  | action r =>
      simp only [make, addAction, order]
      cases r.accept with
      | error e => simp only [Except.map, Except.mapError, lift_error_bind]
      | ok a =>
          simp only [Except.map, Except.mapError, lift_ok_bind, Order.prepare, bind_assoc,
            pure_bind, Order.finish, Order.recordContainer, Order.gates]
          rfl
  | service r =>
      simp only [make, addService, order]
      cases r.accept with
      | error e => simp only [Except.map, Except.mapError, lift_error_bind]
      | ok a =>
          obtain ⟨name, entity, external, lifetime⟩ := a
          cases entity with
          | some entity =>
              simp only [Except.map, Except.mapError, lift_ok_bind, Order.prepare, bind_assoc,
                pure_bind, Order.finish, Order.gates]
              rfl
          | none =>
              cases external <;>
                simp only [Except.map, Except.mapError, lift_ok_bind, Order.prepare, bind_assoc,
                  pure_bind, Order.finish, Order.gates] <;>
                rfl
  | constant r =>
      simp only [make, addConstant, order]
      cases r.accept with
      | error e => simp only [Except.map, Except.mapError, lift_error_bind]
      | ok a =>
          obtain ⟨entity, name⟩ := a
          cases entity <;>
            simp only [Except.map, Except.mapError, lift_ok_bind, Order.prepare, bind_assoc,
              pure_bind, Order.finish, Order.gates, Order.recordContainer, Order.runCheckpoints,
              Order.record, commitDescriptor_self, Option.map_some, Option.map_none] <;>
            rfl
  | enum r =>
      simp only [make, addEnum, order]
      cases r.accept with
      | error e => simp only [Except.map, Except.mapError, lift_error_bind]
      | ok a =>
          simp only [Except.map, Except.mapError, lift_ok_bind, Order.prepare, bind_assoc,
            pure_bind, Order.finish, Order.gates, Order.recordContainer, Order.runCheckpoints]
          rfl

end

end Scaffold
