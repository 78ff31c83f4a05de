import Mathlib
import Scaffold.Plural
import Scaffold.Proofs.Tree
import Scaffold.Reconcile
import Scaffold.Template.Catalog

/-!
# Scenes

A request is made in a *scene*: a tree, the stores and the calls that were made so far.  What the
surroundings do is a function of these calls, so a call may fail wherever it likes, and the tool,
the user and the clock may answer as they like.

Calls are told apart by how far they reach: some only look, some ask the user, some run a command
and some alter the tree or a store.  Most of what a request does leaves the scene as it was but for
the record of its calls (`Scene.Same`); `Reads` says so of a computation, with a bound on how far
its calls reach.
-/

namespace Scaffold

/-! ## Calls -/

/-- A call of a port. -/
inductive PortCall where
  | probe (path : String)
  | read (path : String)
  | write (path content : String)
  | makeDirs (path : String)
  | list (path : String)
  | command (program : String) (arguments : List String) (dir : String)
  | choose (prompt : String) (choices : List String)
  | loadDescriptor (root : String)
  | saveDescriptor (root : String) (d : Descriptor)
  | saveContainer (c : Container)
  | clock
  | identify
deriving DecidableEq

/-- How far a call reaches. -/
inductive Reach where
  /-- It looks at what is there. -/
  | look
  /-- It asks the user. -/
  | ask
  /-- It runs a command. -/
  | run
  /-- It writes to the tree or to a store. -/
  | alter
deriving DecidableEq

namespace Reach

/-- The order of reaches, as a number. -/
def rank : Reach → Nat
  | look => 0
  | ask => 1
  | run => 2
  | alter => 3

instance : LE Reach := ⟨fun a b => a.rank ≤ b.rank⟩

instance (a b : Reach) : Decidable (a ≤ b) := inferInstanceAs (Decidable (a.rank ≤ b.rank))

theorem le_refl (a : Reach) : a ≤ a := Nat.le_refl a.rank

theorem le_trans {a b c : Reach} (h : a ≤ b) (h' : b ≤ c) : a ≤ c := Nat.le_trans h h'

theorem look_le (a : Reach) : look ≤ a := Nat.zero_le a.rank

end Reach

/-- How far a call reaches. -/
def PortCall.reach : PortCall → Reach
  | .probe _ | .read _ | .list _ | .loadDescriptor _ | .clock | .identify => .look
  | .choose _ _ => .ask
  | .command _ _ _ => .run
  | .write _ _ | .makeDirs _ | .saveDescriptor _ _ | .saveContainer _ => .alter

/-! ## Scenes and surroundings -/

/-- Everything a request can see and change. -/
structure Scene where
  /-- The files. -/
  tree : MemoryTree
  /-- The descriptor. -/
  descriptor : Option Descriptor
  /-- The container record. -/
  container : Option Container
  /-- The calls so far, the last one at the end. -/
  calls : List PortCall

/-- What happens at a call, by the calls so far and this one. -/
structure Surroundings where
  /-- The error a call of the files or the stores ends in. -/
  fault : List PortCall → Option Error
  /-- What the external tool answers. -/
  tool : List PortCall → Except Error CommandOutput
  /-- What the tool leaves of a tree. -/
  leaves : List PortCall → MemoryTree → MemoryTree
  /-- What the user answers. -/
  answer : List PortCall → Except Error Nat
  /-- The time. -/
  time : List PortCall → Instant
  /-- A new identifier. -/
  identifier : List PortCall → Uuid

/-- A computation in a scene that may end in an error; the scene stays as it was left. -/
abbrev InScene := Fallible (StateM Scene)

/-- Run a computation in a scene. -/
def execute {α : Type} (x : InScene α) (s : Scene) : Except Error α × Scene := x.run.run s

namespace Scene

/-- The scene with one more call. -/
def after (s : Scene) (c : PortCall) : Scene := { s with calls := s.calls ++ [c] }

/-- Two scenes that differ only in calls that reach no further than `r`. -/
structure Same (r : Reach) (s s' : Scene) : Prop where
  tree : s'.tree = s.tree
  descriptor : s'.descriptor = s.descriptor
  container : s'.container = s.container
  /-- The calls since then. -/
  calls : ∃ new, s'.calls = s.calls ++ new ∧ ∀ c ∈ new, c.reach ≤ r

namespace Same

theorem refl (r : Reach) (s : Scene) : Same r s s := ⟨rfl, rfl, rfl, [], by simp, by simp⟩

variable {r r' : Reach} {s s' s'' : Scene}

theorem trans (h : Same r s s') (h' : Same r s' s'') : Same r s s'' := by
  obtain ⟨new, hnew, hreach⟩ := h.calls
  obtain ⟨new', hnew', hreach'⟩ := h'.calls
  refine ⟨h'.tree.trans h.tree, h'.descriptor.trans h.descriptor, h'.container.trans h.container,
    new ++ new', by rw [hnew', hnew, List.append_assoc], fun c hc => ?_⟩
  exact (List.mem_append.1 hc).elim (hreach c) (hreach' c)

theorem mono (h : Same r s s') (hr : r ≤ r') : Same r' s s' := by
  obtain ⟨new, hnew, hreach⟩ := h.calls
  exact ⟨h.tree, h.descriptor, h.container, new, hnew, fun c hc => Reach.le_trans (hreach c hc) hr⟩

theorem after (s : Scene) {c : PortCall} (hc : c.reach ≤ r) : Same r s (s.after c) :=
  ⟨rfl, rfl, rfl, [c], rfl, by simpa using hc⟩

end Same

end Scene

namespace Surroundings

/-- Record a call. -/
def call (c : PortCall) : StateM Scene (List PortCall) :=
  modifyGet fun s => ((s.after c).calls, s.after c)

/-- Record a call that may fail. -/
def callOrFail (w : Surroundings) (c : PortCall) : InScene Unit := do
  match w.fault (← call c) with
  | some e => throw e
  | none => return

/-- The files of a scene. -/
def files (w : Surroundings) : FilePort (StateM Scene) where
  pathExists path := do
    let _ ← call (.probe path)
    return (← get).tree.hasPath path
  read path := do
    w.callOrFail (.read path)
    return (← get).tree.read? path
  write path content := do
    w.callOrFail (.write path content)
    match (← get).tree.write path content with
    | .ok tree => modify fun s => { s with tree := tree }
    | .error e => throw e
  createDirs path := do
    w.callOrFail (.makeDirs path)
    modify fun s => { s with tree := s.tree.createDirs (Path.components path) }
  listFiles path := do
    w.callOrFail (.list path)
    return (← get).tree.listFiles path

/-- The ports of a scene, with given templates and plurals. -/
def portsWith (w : Surroundings) (templates : Templates) (pluralize : String → String) :
    Ports (StateM Scene) where
  files := w.files
  templates := templates
  pluralize := pluralize
  runCommand program arguments dir := do
    let calls ← call (.command program arguments dir)
    modify fun s => { s with tree := w.leaves calls s.tree }
    (w.tool calls : Except Error _)
  choose prompt choices := do
    (w.answer (← call (.choose prompt choices)) : Except Error _)
  loadDescriptor root := do
    w.callOrFail (.loadDescriptor root)
    return (← get).descriptor
  saveDescriptor root d := do
    w.callOrFail (.saveDescriptor root d)
    modify fun s => { s with descriptor := some d }
  saveContainer c := do
    w.callOrFail (.saveContainer c)
    modify fun s => { s with container := some c }
  now := return w.time (← call .clock)
  freshId := return w.identifier (← call .identify)

/-- The ports of a scene, with the built-in templates and English plurals. -/
abbrev ports (w : Surroundings) : Ports (StateM Scene) :=
  w.portsWith ({} : Catalog).resolve Plural.english

/-- No call fails, and that the tool does not succeed is left to the checkpoints. -/
structure Calm (w : Surroundings) : Prop where
  fault : ∀ calls, w.fault calls = none
  tool : ∀ calls e, w.tool calls = .error e → ∃ cause, e = .run cause ∧ cause.isCheckpointFailure = true

/-- The tool leaves the tree as it is. -/
def Idle (w : Surroundings) : Prop := ∀ calls t, w.leaves calls t = t

/-- The tool changes nothing but what is at `T`. -/
def Within (w : Surroundings) (T : Set (List Component)) : Prop :=
  ∀ calls t, ∀ c ∉ T, (w.leaves calls t).content c = t.content c
    ∧ (w.leaves calls t).hasDir c = t.hasDir c

theorem Idle.within {w : Surroundings} (h : w.Idle) (T : Set (List Component)) : w.Within T := by
  intro calls t c _
  rw [h calls t]
  exact ⟨rfl, rfl⟩

/-- Surroundings in which nothing fails and nothing happens. -/
def still : Surroundings where
  fault _ := none
  tool _ := .ok ⟨true, some 0, ""⟩
  leaves _ t := t
  answer _ := .ok 0
  time _ := ⟨0, 0⟩
  identifier _ := ⟨0⟩

theorem calm_still : still.Calm := ⟨fun _ => rfl, nofun⟩

theorem idle_still : still.Idle := fun _ _ => rfl

end Surroundings

/-! ## Running -/

section

variable {α β : Type}

@[simp] theorem execute_pure (a : α) (s : Scene) : execute (pure a) s = (.ok a, s) := rfl

@[simp] theorem execute_throw (e : Error) (s : Scene) :
    execute (throw e : InScene α) s = (.error e, s) := rfl

theorem execute_lift_except (x : Except Error α) (s : Scene) :
    execute (x : InScene α) s = (x, s) := by
  cases x <;> rfl

/-- A sequence goes on where its first part ended, unless that is an error. -/
theorem execute_bind (x : InScene α) (f : α → InScene β) (s : Scene) :
    execute (x >>= f) s = match execute x s with
      | (.ok a, s') => execute (f a) s'
      | (.error e, s') => (.error e, s') := by
  simp only [execute, ExceptT.run_bind, StateT.run_bind]
  rcases x.run.run s with ⟨a | a, s'⟩ <;> rfl

/-- A sequence that ends well has a first part that did. -/
theorem execute_bind_eq_ok {x : InScene α} {f : α → InScene β} {s s' : Scene} {b : β}
    (h : execute (x >>= f) s = (.ok b, s')) :
    ∃ a s₁, execute x s = (.ok a, s₁) ∧ execute (f a) s₁ = (.ok b, s') := by
  rw [execute_bind] at h
  rcases hx : execute x s with ⟨e | a, s₁⟩ <;> rw [hx] at h
  · cases h
  · exact ⟨a, s₁, rfl, h⟩

/-- A computation that makes no call that reaches further than `r`, and alters nothing. -/
def Reads (r : Reach) (x : InScene α) : Prop := ∀ s : Scene, s.Same r (execute x s).2

namespace Reads

variable {r r' : Reach}

theorem same {x : InScene α} (h : Reads r x) {s s' : Scene} {a : Except Error α}
    (hx : execute x s = (a, s')) : s.Same r s' := by
  have hsame := h s
  rwa [hx] at hsame

theorem pure (a : α) : Reads r (Pure.pure a : InScene α) := fun s => .refl r s

theorem throw (e : Error) : Reads r (MonadExcept.throw e : InScene α) := fun s => .refl r s

theorem bind {x : InScene α} {f : α → InScene β} (hx : Reads r x) (hf : ∀ a, Reads r (f a)) :
    Reads r (x >>= f) := by
  intro s
  have hfirst := hx s
  rw [execute_bind]
  rcases hrun : execute x s with ⟨e | a, s'⟩ <;> rw [hrun] at hfirst
  · exact hfirst
  · exact hfirst.trans (hf a s')

theorem lift_except (x : Except Error α) : Reads r (x : InScene α) := by
  intro s
  rw [execute_lift_except]
  exact .refl r s

end Reads

end

/-! ## The ports -/

section

variable (w : Surroundings) (s : Scene) {templates : Templates} {pluralize : String → String}

theorem execute_call (c : PortCall) :
    execute (Surroundings.call c : InScene _) s = (.ok (s.after c).calls, s.after c) := rfl

theorem execute_callOrFail (c : PortCall) :
    execute (w.callOrFail c) s = match w.fault (s.after c).calls with
      | some e => (.error e, s.after c)
      | none => (.ok (), s.after c) := by
  rw [Surroundings.callOrFail, execute_bind, execute_call]
  cases hfault : w.fault (s.after c).calls <;> simp only [hfault] <;> rfl

theorem execute_read (path : String) :
    execute (w.files.read path) s = match w.fault (s.after (.read path)).calls with
      | some e => (.error e, s.after (.read path))
      | none => (.ok (s.tree.read? path), s.after (.read path)) := by
  rw [Surroundings.files, execute_bind, execute_callOrFail]
  cases w.fault (s.after (.read path)).calls <;> rfl

theorem execute_pathExists (path : String) :
    execute (w.files.pathExists path : InScene _) s
      = (.ok (s.tree.hasPath path), s.after (.probe path)) := rfl

theorem execute_createDirs (path : String) :
    execute (w.files.createDirs path) s = match w.fault (s.after (.makeDirs path)).calls with
      | some e => (.error e, s.after (.makeDirs path))
      | none => (.ok (), { s.after (.makeDirs path) with
          tree := s.tree.createDirs (Path.components path) }) := by
  rw [Surroundings.files, execute_bind, execute_callOrFail]
  cases w.fault (s.after (.makeDirs path)).calls <;> rfl

theorem execute_write (path content : String) :
    execute (w.files.write path content) s = match w.fault (s.after (.write path content)).calls with
      | some e => (.error e, s.after (.write path content))
      | none => match s.tree.write path content with
        | .ok tree => (.ok (), { s.after (.write path content) with tree := tree })
        | .error e => (.error e, s.after (.write path content)) := by
  rw [Surroundings.files, execute_bind, execute_callOrFail]
  cases w.fault (s.after (.write path content)).calls with
  | some e => rfl
  | none =>
      show execute (match s.tree.write path content with
        | .ok tree => (modify fun s => { s with tree := tree } : InScene Unit)
        | .error e => throw e) (s.after (.write path content)) = _
      cases s.tree.write path content <;> rfl

theorem execute_listFiles (path : String) :
    execute (w.files.listFiles path) s = match w.fault (s.after (.list path)).calls with
      | some e => (.error e, s.after (.list path))
      | none => (.ok (s.tree.listFiles path), s.after (.list path)) := by
  rw [Surroundings.files, execute_bind, execute_callOrFail]
  cases w.fault (s.after (.list path)).calls <;> rfl

theorem execute_loadDescriptor (root : String) :
    execute ((w.portsWith templates pluralize).loadDescriptor root) s
      = match w.fault (s.after (.loadDescriptor root)).calls with
        | some e => (.error e, s.after (.loadDescriptor root))
        | none => (.ok s.descriptor, s.after (.loadDescriptor root)) := by
  rw [Surroundings.portsWith, execute_bind, execute_callOrFail]
  cases w.fault (s.after (.loadDescriptor root)).calls <;> rfl

theorem execute_saveDescriptor (root : String) (d : Descriptor) :
    execute ((w.portsWith templates pluralize).saveDescriptor root d) s
      = match w.fault (s.after (.saveDescriptor root d)).calls with
        | some e => (.error e, s.after (.saveDescriptor root d))
        | none => (.ok (), { s.after (.saveDescriptor root d) with descriptor := some d }) := by
  rw [Surroundings.portsWith, execute_bind, execute_callOrFail]
  cases w.fault (s.after (.saveDescriptor root d)).calls <;> rfl

theorem execute_saveContainer (c : Container) :
    execute ((w.portsWith templates pluralize).saveContainer c) s
      = match w.fault (s.after (.saveContainer c)).calls with
      | some e => (.error e, s.after (.saveContainer c))
      | none => (.ok (), { s.after (.saveContainer c) with container := some c }) := by
  rw [Surroundings.portsWith, execute_bind, execute_callOrFail]
  cases w.fault (s.after (.saveContainer c)).calls <;> rfl

theorem execute_now : execute ((w.portsWith templates pluralize).now : InScene _) s
    = (.ok (w.time (s.after .clock).calls), s.after .clock) := rfl

theorem execute_choose (prompt : String) (choices : List String) :
    execute ((w.portsWith templates pluralize).choose prompt choices) s
      = (w.answer (s.after (.choose prompt choices)).calls, s.after (.choose prompt choices)) := by
  rw [Surroundings.portsWith, execute_bind, execute_call]
  exact execute_lift_except _ _

theorem execute_runCommand (program : String) (arguments : List String) (dir : String) :
    execute ((w.portsWith templates pluralize).runCommand program arguments dir) s
      = let after := s.after (.command program arguments dir)
        (w.tool after.calls, { after with tree := w.leaves after.calls s.tree }) := by
  rw [Surroundings.portsWith, execute_bind, execute_call]
  exact execute_lift_except _ _

/-! ### How far the calls reach -/

variable {r : Reach}

theorem reads_call (c : PortCall) (hc : c.reach ≤ r) :
    Reads r (Surroundings.call c : InScene _) := fun s => .after s hc

theorem reads_callOrFail (c : PortCall) (hc : c.reach ≤ r) : Reads r (w.callOrFail c) := by
  intro s
  rw [execute_callOrFail]
  cases w.fault (s.after c).calls <;> exact .after s hc

theorem reads_pathExists (path : String) : Reads r (w.files.pathExists path : InScene _) :=
  fun s => .after s (Reach.look_le r)

theorem reads_read (path : String) : Reads r (w.files.read path) :=
  (reads_callOrFail w (.read path) (Reach.look_le r)).bind fun _ s => .refl r s

theorem reads_listFiles (path : String) : Reads r (w.files.listFiles path) :=
  (reads_callOrFail w (.list path) (Reach.look_le r)).bind fun _ s => .refl r s

theorem reads_loadDescriptor (root : String) :
    Reads r ((w.portsWith templates pluralize).loadDescriptor root) :=
  (reads_callOrFail w (.loadDescriptor root) (Reach.look_le r)).bind fun _ s => .refl r s

theorem reads_now : Reads r ((w.portsWith templates pluralize).now : InScene _) :=
  fun s => .after s (Reach.look_le r)

theorem reads_freshId : Reads r ((w.portsWith templates pluralize).freshId : InScene _) :=
  fun s => .after s (Reach.look_le r)

theorem reads_choose (hr : .ask ≤ r) (prompt : String) (choices : List String) :
    Reads r ((w.portsWith templates pluralize).choose prompt choices) :=
  (reads_call (.choose prompt choices) hr).bind fun _ => .lift_except _

end

end Scaffold
