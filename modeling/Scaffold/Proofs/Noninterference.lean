import Mathlib
import Scaffold.Proofs.Calls
import Scaffold.Proofs.History

/-!
# The tool does not matter

A request generates first and runs its checkpoints then (`Change.make_eq_generate`).  What comes
before the checkpoints never asks the tool, so under two tools it is one and the same computation
(`Change.generate_withTool`).  What comes after it cannot fail any more, for a tool that is missing or
fails is how a checkpoint went, and it changes nothing but the descriptor (`Generated.concludes`).  So
two runs that differ in their tools end in the same error, or they end well and differ in their
checkpoints and in the time of the descriptor (`Change.make_withTool`).

The tree, the descriptor, the templates, the plurals and the answers are arbitrary.
-/

namespace Scaffold

/-! ## Two parts of a request -/

/-- What a request has generated when its checkpoints are due. -/
structure Generated where
  /-- What was ordered. -/
  order : Order
  /-- The descriptor that was loaded. -/
  loaded : Descriptor
  /-- What the order was carried out with. -/
  prepared : Order.Prepared
  /-- What its tasks did. -/
  steps : List Step

section

variable {m : Type → Type} [Monad m]

/-- The part of a request before its checkpoints. -/
def Change.generate (ports : Ports m) (root : String) (c : Change) : Fallible m Generated := do
  let o ← ((c.order ports.pluralize).mapError Error.request : Except Error Order)
  let loaded ← requireDescriptor ports root
  let p ← o.prepare ports root loaded
  let steps ← carryOut ports root (o.plan p.site p.provider)
  o.recordContainer ports
  return ⟨o, loaded, p, steps⟩

/-- The checkpoints of a request, and what comes after them. -/
def Generated.conclude (ports : Ports m) (options : Options) (root : String) (g : Generated) :
    Fallible m Report := do
  let checkpoints ← g.order.runCheckpoints ports options root g.prepared.site.locator
  commitDescriptor ports root g.loaded (g.order.record g.prepared.settled)
  return g.order.report g.steps checkpoints

theorem Change.make_eq_generate [LawfulMonad m] (ports : Ports m) (options : Options) (root : String)
    (c : Change) : c.make ports options root = (do
      let g ← c.generate ports root
      g.conclude ports options root) := by
  rw [Change.make_eq]
  simp only [generate, Generated.conclude, Order.finish, bind_assoc, pure_bind]

end

/-- The surroundings with another tool. -/
def Surroundings.withTool (w : Surroundings) (tool : List PortCall → Except Error CommandOutput) :
    Surroundings := { w with tool := tool }

/-! ## Why a request stops -/

/-- Why a request stops before its checkpoints where no call of the files or the stores fails. -/
inductive Error.Stops (w : Surroundings) (templates : Templates) : Error → Prop
  /-- It is malformed, asks for what is there or for what cannot be there yet, or no provider was
  chosen. -/
  | refused {e : Error} (h : e.isRefusal = true) : Stops w templates e
  /-- The user did not answer. -/
  | unanswered {calls : List PortCall} {e : Error} (h : w.answer calls = .error e) :
      Stops w templates e
  /-- A template cannot be filled. -/
  | template {name : String} {ctx : Context} {e : Error} (h : templates name ctx = .error e) :
      Stops w templates e
  /-- A merge leaves its manifest, which is no way for a request to end but breaks it off. -/
  | outside : Stops w templates outsideManifest

/-- The errors a computation can end in. -/
def FailsIn {α : Type} (Q : Error → Prop) (x : InScene α) : Prop :=
  ∀ s e s', execute x s = (.error e, s') → Q e

section

variable {α β : Type} {Q : Error → Prop}

namespace FailsIn

theorem pure (a : α) : FailsIn Q (Pure.pure a : InScene α) := by
  rintro s e s' ⟨⟩

theorem throw {e : Error} (h : Q e) : FailsIn Q (MonadExcept.throw e : InScene α) := by
  rintro s _ s' ⟨⟩
  exact h

theorem lift_except {x : Except Error α} (h : ∀ e, x = .error e → Q e) :
    FailsIn Q (x : InScene α) := by
  intro s e s' hx
  rw [execute_lift_except] at hx
  exact h e (Prod.ext_iff.1 hx).1

theorem of_total {x : InScene α} (h : Total x) : FailsIn Q x := by
  intro s e s' hx
  obtain ⟨a, ha⟩ := h s
  rw [hx] at ha
  cases ha

theorem bind {x : InScene α} {f : α → InScene β} (hx : FailsIn Q x) (hf : ∀ a, FailsIn Q (f a)) :
    FailsIn Q (x >>= f) := by
  intro s e s' h
  rw [execute_bind] at h
  rcases hrun : execute x s with ⟨e' | a, s₁⟩ <;> rw [hrun] at h
  · cases h
    exact hx s _ _ hrun
  · exact hf a s₁ e s' h

end FailsIn

end

section

variable {w : Surroundings} {templates : Templates} {pluralize : String → String} {root : String}

/-! ### Calls that do not fail -/

section

variable (hw : w.Calm)

include hw

theorem total_callOrFail (c : PortCall) : Total (w.callOrFail c) := by
  intro s
  rw [execute_callOrFail, hw.fault]
  exact ⟨(), rfl⟩

theorem total_read (path : String) : Total (w.files.read path) :=
  (total_callOrFail hw _).bind fun _ s => ⟨s.tree.read? path, rfl⟩

theorem total_loadDescriptor :
    Total ((w.portsWith templates pluralize).loadDescriptor root) :=
  (total_callOrFail hw _).bind fun _ s => ⟨s.descriptor, rfl⟩

theorem total_loadArtifact (path : String) : Total (loadArtifact w.files path) := by
  refine (total_read hw path).bind fun content => ?_
  cases content <;> exact .pure _

/-- A file is stored in any tree, for its directory is made first. -/
theorem total_storeArtifact (a : Artifact) : Total (storeArtifact w.files a) := by
  have hwrite : ∀ s : Scene, s.tree.canWrite a.path = true →
      ∃ u, (execute (w.files.write a.path a.render) s).1 = .ok u := by
    intro s hcan
    obtain ⟨tree, hwrite, -⟩ := MemoryTree.write_of_canWrite hcan a.render
    refine ⟨(), ?_⟩
    rw [execute_write, hw.fault]
    simp only [hwrite]
  intro s
  unfold storeArtifact
  cases hparent : Path.parent a.path with
  | none => exact hwrite s (s.tree.canWrite_of_parent_none hparent)
  | some dir =>
      simp only
      rw [execute_bind, execute_createDirs, hw.fault]
      exact hwrite { s.after (.makeDirs dir) with tree := s.tree.createDirs (Path.components dir) }
        (s.tree.canWrite_createDirs hparent)

theorem Task.total_inspect (t : Task) : Total (t.inspect w.files root) := by
  unfold Task.inspect
  cases t.action with
  | file template ctx =>
      refine Total.bind (fun s => ⟨s.tree.hasPath (t.path.under root), rfl⟩) fun found => ?_
      cases found <;> exact .pure _
  | declare _ _ | importLine _ | clean _ | dependency _ _ _ | reference _ _ =>
      exact total_loadArtifact hw _

end

/-! ### Deciding -/

theorem Action.decide_stops {current : Artifact} {a : Action} {e : Error}
    (h : a.decide templates current = .error e) : e.Stops w templates := by
  obtain ⟨name, ctx, htemplate⟩ | rfl := Action.decide_eq_error h
  · exact .template htemplate
  · exact .outside

theorem performAll_stops (hw : w.Calm) (ts : List Task) :
    FailsIn (Error.Stops w templates) (performAll w.files templates root ts) := by
  induction ts with
  | nil => exact .pure _
  | cons t ts ih =>
      refine FailsIn.bind ?_ fun step => ih.bind fun steps => .pure _
      refine (FailsIn.of_total (t.total_inspect hw)).bind fun current => ?_
      refine (FailsIn.lift_except fun e => Action.decide_stops).bind fun next => ?_
      obtain ⟨outcome, next⟩ := next
      simp only
      split
      · exact (FailsIn.of_total (total_storeArtifact hw next)).bind fun _ => .pure _
      · exact .pure _

/-! ### Preparing -/

theorem requireDescriptor_stops (hw : w.Calm) : FailsIn (Error.Stops w templates)
    (requireDescriptor (w.portsWith templates pluralize) root) := by
  refine (FailsIn.of_total (total_loadDescriptor hw)).bind fun d => ?_
  cases d with
  | none => exact .throw (.refused rfl)
  | some d => exact .pure _

theorem settleProvider_stops (d : Descriptor) : FailsIn (Error.Stops w templates)
    (settleProvider (w.portsWith templates pluralize) d) := by
  unfold settleProvider
  cases d.provider with
  | some provider => exact .pure _
  | none =>
      refine FailsIn.bind (fun s e s' h => ?_) fun index => ?_
      · rw [execute_choose] at h
        exact .unanswered (Prod.ext_iff.1 h).1
      · split
        · exact .pure _
        · exact .throw (.refused rfl)

theorem siteOf_stops (d : Descriptor) : FailsIn (Error.Stops w templates)
    (siteOf (w.portsWith templates pluralize) d) := by
  rintro s e s' ⟨⟩

namespace Order

theorem gates_stops (hw : w.Calm) (l : Locator) (o : Order) : FailsIn (Error.Stops w templates)
    (o.gates (w.portsWith templates pluralize) root l) := by
  have hentity : ∀ f, FailsIn (Error.Stops w templates) (requireEntity w.files root l f) := by
    intro f
    refine FailsIn.bind (.of_total fun s => ⟨_, rfl⟩) fun found => ?_
    cases found with
    | true => exact .pure _
    | false => exact .throw (.refused rfl)
  have hunexposed : ∀ f entry,
      FailsIn (Error.Stops w templates) (requireUnexposed w.files root l f entry) := by
    intro f entry
    refine FailsIn.bind (.of_total (total_loadArtifact hw _)) fun file => ?_
    simp only
    split
    · exact .throw (.refused rfl)
    · exact .pure _
  have hunregistered : ∀ p name,
      FailsIn (Error.Stops w templates) (requireUnregistered w.files root l p name) := by
    intro p name
    refine FailsIn.bind (.of_total (total_loadArtifact hw _)) fun file => ?_
    simp only
    split
    · exact .throw (.refused rfl)
    · exact .pure _
  cases o with
  | crud f => exact .pure _
  | action f r => exact (hentity f).bind fun _ => hunexposed f _
  | service p name lifetime =>
      cases p with
      | featureLocal f => exact (hentity f).bind fun _ => hunregistered _ name
      | shared | external _ => exact hunregistered _ name
  | constant f name =>
      cases f with
      | none => exact .pure _
      | some f => exact hentity f
  | enum f name => exact hentity f

theorem prepare_stops (hw : w.Calm) (loaded : Descriptor) (o : Order) :
    FailsIn (Error.Stops w templates) (o.prepare (w.portsWith templates pluralize) root loaded) := by
  have hgated : FailsIn (Error.Stops w templates) (do
      let site ← siteOf (w.portsWith templates pluralize) loaded
      o.gates (w.portsWith templates pluralize) root site.locator
      return (⟨.postgres, loaded, site⟩ : Prepared)) :=
    (siteOf_stops loaded).bind fun site => (o.gates_stops hw site.locator).bind fun _ => .pure _
  cases o with
  | crud f =>
      exact (settleProvider_stops loaded).bind fun settled => (siteOf_stops _).bind fun _ => .pure _
  | action f a =>
      exact (siteOf_stops loaded).bind fun site => (Order.gates_stops hw site.locator _).bind
        fun _ => (settleProvider_stops loaded).bind fun settled => .pure _
  | service _ _ _ | constant _ _ | enum _ _ => exact hgated

end Order

/-- A request that stops before its checkpoints has a reason to. -/
theorem Change.generate_stops (hw : w.Calm) (c : Change) : FailsIn (Error.Stops w templates)
    (c.generate (w.portsWith templates pluralize) root) := by
  refine (FailsIn.lift_except fun e he => ?_).bind fun o => ?_
  · change (c.order pluralize).mapError Error.request = .error e at he
    cases horder : c.order pluralize with
    | ok o =>
        rw [horder] at he
        cases he
    | error cause =>
        rw [horder] at he
        cases he
        exact .refused rfl
  refine (requireDescriptor_stops hw).bind fun loaded => ?_
  refine (o.prepare_stops hw loaded).bind fun p => ?_
  refine (performAll_stops hw _).bind fun steps => ?_
  exact (FailsIn.of_total (o.total_recordContainer hw)).bind fun _ => .pure _

/-! ## Before the checkpoints -/

/-- What comes before the checkpoints never asks the tool. -/
theorem Change.generate_withTool (tool : List PortCall → Except Error CommandOutput) (c : Change) :
    c.generate ((w.withTool tool).portsWith templates pluralize) root
      = c.generate (w.portsWith templates pluralize) root := rfl

/-- It runs no command either. -/
theorem Change.leads_generate (c : Change) : Leads (Scene.Calls (PortCall.reach · ≠ .run))
    (c.generate (w.portsWith templates pluralize) root) := by
  have hask : ∀ c : PortCall, c.reach ≤ .ask → c.reach ≠ .run := by
    intro c hc hrun
    rw [hrun] at hc
    exact absurd hc (by decide)
  have hlook : ∀ c : PortCall, c.reach ≤ .look → c.reach ≠ .run := fun c hc =>
    hask c (Reach.le_trans hc (by decide))
  have halter : ∀ c : PortCall, c.reach = .alter → c.reach ≠ .run := by
    intro c hc hrun
    rw [hc] at hrun
    cases hrun
  have htask : ∀ (t : Task) (c : PortCall), t.Alters root c → c.reach ≠ .run := by
    rintro t _ (_ | _) <;> exact halter _ rfl
  refine leads_calls_bind ((Reads.lift_except _).leads_calls hask) fun o => ?_
  refine leads_calls_bind ((reads_requireDescriptor root).leads_calls hask) fun loaded => ?_
  refine leads_calls_bind ((o.reads_prepare (Reach.le_refl _) root loaded).leads_calls hask) fun p => ?_
  refine leads_calls_bind (leads_calls_performAll hlook fun t _ => htask t) fun steps => ?_
  exact leads_calls_bind (o.leads_calls_recordContainer fun _ => halter _ rfl) fun _ => .pure .refl _

/-- The descriptor that was loaded stays until the checkpoints. -/
theorem Change.generate_descriptor {c : Change} {s s' : Scene} {g : Generated}
    (h : execute (c.generate (w.portsWith templates pluralize) root) s = (.ok g, s')) :
    s'.descriptor = some g.loaded := by
  obtain ⟨-, _, ⟨⟩⟩ | ⟨o, loaded, p, s₁, -, hloaded, -, hsame, h⟩ := Change.prepared_cases h
  obtain ⟨steps, s₂, hsteps, h⟩ := execute_bind_eq_ok h
  obtain ⟨_, s₃, hrecord, h⟩ := execute_bind_eq_ok h
  cases h
  have hsteps' := (leads_performAll (o.plan p.site p.provider)).holds hsteps
  have hrecord' := o.leads_recordContainer.holds hrecord
  rw [hrecord'.descriptor, hsteps'.descriptor, hsame.descriptor]
  exact hloaded

/-! ## From the checkpoints on -/

/-- A commit leaves the container record. -/
theorem execute_commitDescriptor_container (loaded changed : Descriptor) (s : Scene) :
    (execute (commitDescriptor w.ports root loaded changed) s).2.container = s.container := by
  unfold commitDescriptor
  split
  · rfl
  · rw [execute_bind, execute_now]
    simp only
    rw [execute_saveDescriptor]
    cases w.fault _ <;> rfl

/-- How a request ends whose checkpoints are due: well, with what it generated, and only the
descriptor changes, if there is anything to record. -/
structure Generated.Concludes (g : Generated) (s : Scene) (out : Except Error Report × Scene) :
    Prop where
  report : ∃ checkpoints, out.1 = .ok (g.order.report g.steps checkpoints)
  tree : out.2.tree = s.tree
  container : out.2.container = s.container
  descriptor : ∃ d, out.2.descriptor = some d ∧ (g.order.record g.prepared.settled).Alike d

theorem Generated.concludes (hw : w.Calm) (hidle : w.Idle) (options : Options) (g : Generated)
    {s : Scene} (hs : s.descriptor = some g.loaded) :
    g.Concludes s (execute (g.conclude w.ports options root) s) := by
  obtain ⟨checkpoints, hpassed⟩ :=
    g.order.total_runCheckpoints hw root options g.prepared.site.locator s
  have hsame := g.order.reads_runCheckpoints hidle root options g.prepared.site.locator s
  rw [Generated.conclude, execute_bind]
  rcases hrun : execute (g.order.runCheckpoints w.ports options root g.prepared.site.locator) s
    with ⟨r, s₁⟩
  rw [hrun] at hpassed hsame
  cases hpassed
  obtain ⟨r, s₂, hcommit, htree, -, hended, hcalm, -⟩ := execute_commitDescriptor (w := w) root
    g.loaded (g.order.record g.prepared.settled) s₁ (hsame.descriptor.trans hs)
  have hcontainer : s₂.container = s₁.container := by
    rw [← execute_commitDescriptor_container g.loaded (g.order.record g.prepared.settled) s₁, hcommit]
  obtain rfl := hcalm hw
  simp only
  rw [execute_bind, hcommit]
  exact ⟨⟨checkpoints, rfl⟩, htree.trans hsame.tree, hcontainer.trans hsame.container, hended rfl⟩

/-! ## Two tools -/

/-- A report with other checkpoints. -/
def Report.withCheckpoints (r : Report) (checkpoints : List Checkpoint) : Report :=
  { r with checkpoints := checkpoints }

theorem Order.report_checkpoints (o : Order) (steps : List Step) (checkpoints others : List Checkpoint) :
    (o.report steps checkpoints).withCheckpoints others = o.report steps others := by
  cases o <;> rfl

/-- Two runs of a request that differ in what the tool answered. -/
inductive EndsAlike (w : Surroundings) (templates : Templates) (s : Scene) :
    Except Error Report × Scene → Except Error Report × Scene → Prop
  /-- Both stop before the checkpoints, for one reason and in one scene, and no command was run. -/
  | stopped {e : Error} {s' : Scene} (he : e.Stops w templates)
      (hcalls : s.Calls (PortCall.reach · ≠ .run) s') : EndsAlike w templates s (.error e, s') (.error e, s')
  /-- Both end well, with one log of their steps, one tree and one container record, and the
  descriptors they leave differ in the time of the last change at most. -/
  | ended {report : Report} {checkpoints : List Checkpoint} {s₁ s₂ : Scene} {d₁ d₂ : Descriptor}
      (htree : s₂.tree = s₁.tree) (hcontainer : s₂.container = s₁.container)
      (hd₁ : s₁.descriptor = some d₁) (hd₂ : s₂.descriptor = some d₂) (halike : d₁.Alike d₂) :
      EndsAlike w templates s (.ok report, s₁) (.ok (report.withCheckpoints checkpoints), s₂)

end

/-- A tool that is not installed. -/
def missingTool (_ : List PortCall) : Except Error CommandOutput :=
  .error (.run (.toolMissing buildTool))

theorem calm_missingTool : (Surroundings.still.withTool missingTool).Calm where
  fault _ := rfl
  tool := by
    rintro calls _ ⟨⟩
    exact ⟨_, rfl, rfl⟩

end Scaffold
