import Mathlib
import Scaffold.Proofs.Delivery
import Scaffold.Proofs.Listing

/-!
# The commands of requests

Requests are made one after the other, each under options of its own, and the commands that they run
are logged with what the tool answered (`Turn.log`).  A request runs two commands at most: a build,
and a migration after it.  What the tool answers to the build decides on the migration (`Built`,
`Migrated`), and these two say everything that a checkpoint can do.

A migration comes directly after a build that succeeded unless the build is switched off
(`Turn.migration_after_build`).  Switching the build off does not switch the migration off with it.

The tree, the templates, the plurals and the surroundings are arbitrary.
-/

namespace Scaffold

/-! ## Commands among calls -/

/-- A command that was run, with what the tool answered. -/
structure Ran where
  /-- What was run. -/
  program : String
  /-- Its arguments. -/
  arguments : List String
  /-- Where it was run. -/
  dir : String
  /-- What came of it. -/
  answer : Except Error CommandOutput

namespace Ran

/-- Decide whether a command succeeded. -/
def succeeded (r : Ran) : Bool :=
  match r.answer with
  | .ok output => output.success
  | .error _ => false

/-- Decide whether a command is a build. -/
def isBuild (r : Ran) : Bool := r.program == buildTool && r.arguments == ["build"]

/-- Decide whether a command adds a migration. -/
def isMigration (r : Ran) : Bool :=
  r.program == buildTool && ["ef", "migrations", "add"].isPrefixOf r.arguments

end Ran

/-- The command that a call runs, with what the tool answers by the calls up to it. -/
def Surroundings.ran? (w : Surroundings) (calls : List PortCall) : PortCall → Option Ran
  | .command program arguments dir => some ⟨program, arguments, dir, w.tool calls⟩
  | .probe _ | .read _ | .write _ _ | .makeDirs _ | .list _ | .choose _ _ | .loadDescriptor _
  | .saveDescriptor _ _ | .saveContainer _ | .clock | .identify => none

/-- The commands among calls that come after others. -/
def Surroundings.commandsFrom (w : Surroundings) (before : List PortCall) : List PortCall → List Ran
  | [] => []
  | c :: cs => (w.ran? (before ++ [c]) c).toList ++ w.commandsFrom (before ++ [c]) cs

/-- The commands that were run from one scene to another. -/
def Scene.commandsTo (w : Surroundings) (s s' : Scene) : List Ran :=
  w.commandsFrom s.calls (s'.calls.drop s.calls.length)

/-- The calls since a scene run these commands. -/
def Scene.Runs (w : Surroundings) (s s' : Scene) (rs : List Ran) : Prop :=
  ∃ new, s'.calls = s.calls ++ new ∧ w.commandsFrom s.calls new = rs

section

variable {w : Surroundings} {s s' s'' : Scene} {rs rs' : List Ran}

theorem commandsFrom_append (before cs cs' : List PortCall) :
    w.commandsFrom before (cs ++ cs')
      = w.commandsFrom before cs ++ w.commandsFrom (before ++ cs) cs' := by
  induction cs generalizing before with
  | nil => simp [Surroundings.commandsFrom]
  | cons c cs ih =>
      rw [List.cons_append, Surroundings.commandsFrom, Surroundings.commandsFrom, ih, List.append_assoc,
        List.append_assoc, List.singleton_append]

theorem commandsFrom_of_reach (before : List PortCall) {cs : List PortCall}
    (h : ∀ c ∈ cs, c.reach ≠ .run) : w.commandsFrom before cs = [] := by
  induction cs generalizing before with
  | nil => rfl
  | cons c cs ih =>
      obtain ⟨hc, hcs⟩ := List.forall_mem_cons.1 h
      have hnone : w.ran? (before ++ [c]) c = none := by
        cases c with
        | command _ _ _ => exact absurd rfl hc
        | _ => rfl
      rw [Surroundings.commandsFrom, ih _ hcs, hnone]
      rfl

namespace Scene.Runs

theorem commandsTo_eq (h : Runs w s s' rs) : s.commandsTo w s' = rs := by
  obtain ⟨new, hnew, hrs⟩ := h
  rw [commandsTo, hnew, List.drop_left, hrs]

theorem trans (h : Runs w s s' rs) (h' : Runs w s' s'' rs') : Runs w s s'' (rs ++ rs') := by
  obtain ⟨new, hnew, rfl⟩ := h
  obtain ⟨new', hnew', rfl⟩ := h'
  exact ⟨new ++ new', by rw [hnew', hnew, List.append_assoc], by rw [commandsFrom_append, hnew]⟩

/-- Calls that are no commands run none. -/
theorem of_calls (h : s.Calls (PortCall.reach · ≠ .run) s') : Runs w s s' [] := by
  obtain ⟨new, hnew, hreach⟩ := h
  exact ⟨new, hnew, commandsFrom_of_reach s.calls hreach⟩

theorem refl (s : Scene) : Runs w s s [] := ⟨[], by simp, rfl⟩

end Scene.Runs

end

/-! ## Checkpoints -/

/-- The scene after the tool was run. -/
def Scene.ran (w : Surroundings) (root : String) (s : Scene) (arguments : List String) : Scene :=
  let after := s.after (.command buildTool arguments root)
  { after with tree := w.leaves after.calls s.tree }

/-- The command that is run in a scene. -/
def Scene.command (w : Surroundings) (root : String) (s : Scene) (arguments : List String) : Ran :=
  ⟨buildTool, arguments, root, w.tool (s.after (.command buildTool arguments root)).calls⟩

/-- How a checkpoint went, by what the tool answered. -/
def Ran.status (r : Ran) : Except Error CheckpointStatus :=
  match r.answer with
  | .ok output =>
      if output.success then .ok .passed
      else .ok (.failed (.commandFailed (Text.joinWith " " (buildTool :: r.arguments)) output.code output.output))
  | .error (.run cause) => if cause.isCheckpointFailure then .ok (.failed cause) else .error (.run cause)
  | .error e => .error e

/-- Decide whether a checkpoint failed. -/
def CheckpointStatus.isFailure : CheckpointStatus → Bool
  | .failed _ => true
  | .passed | .skipped _ => false

section

variable {w : Surroundings} {templates : Templates} {pluralize : String → String} {root : String}
  {options : Options} {l : Locator}

/-- A checkpoint that went well is that of a command that succeeded. -/
theorem Ran.succeeded_of_status {r : Ran} {status : CheckpointStatus} (h : r.status = .ok status)
    (hstatus : status.isFailure = false) : r.succeeded = true := by
  unfold Ran.status at h
  unfold Ran.succeeded
  split at h
  next output hanswer =>
    rw [hanswer]
    cases hsuccess : output.success with
    | true => exact hsuccess
    | false =>
        rw [hsuccess] at h
        cases h
        cases hstatus
  next =>
    split at h
    · cases h
      cases hstatus
    · cases h
  next => cases h

/-- The checkpoint of a command that succeeded has passed. -/
theorem Ran.status_of_succeeded {r : Ran} (h : r.succeeded = true) : r.status = .ok .passed := by
  unfold Ran.succeeded at h
  split at h
  next output hanswer =>
    rw [Ran.status, hanswer]
    exact if_pos h
  next => cases h

theorem execute_runTool (s : Scene) (arguments : List String) :
    execute (runTool (w.portsWith templates pluralize) root arguments) s
      = ((s.command w root arguments).status, s.ran w root arguments) := by
  rw [runTool, execute_bind, execute_attempt, execute_runCommand]
  simp only [Ran.status, Scene.command]
  cases w.tool (s.after (.command buildTool arguments root)).calls with
  | ok output =>
      simp only
      split <;> rfl
  | error e =>
      cases e with
      | run cause =>
          simp only
          split <;> rfl
      | _ => rfl

theorem Scene.Runs.ran (s : Scene) (arguments : List String) :
    s.Runs w (s.ran w root arguments) [s.command w root arguments] :=
  ⟨[.command buildTool arguments root], rfl, rfl⟩

/-- How the build of a request goes. -/
inductive Built (w : Surroundings) (root : String) (options : Options) (s : Scene) :
    Except Error CheckpointStatus → Scene → List Ran → Prop
  /-- It is switched off. -/
  | skipped (hskip : options.skipBuild = true) :
      Built w root options s (.ok (.skipped "disabled with --no-build")) s []
  /-- The tool is run. -/
  | ran (hskip : options.skipBuild = false) :
      Built w root options s (s.command w root ["build"]).status (s.ran w root ["build"])
        [s.command w root ["build"]]

/-- How the migration of a request goes after a build that went as `build` says. -/
inductive Migrated (w : Surroundings) (root : String) (options : Options) (l : Locator)
    (build : CheckpointStatus) (name : String) (s : Scene) :
    Except Error CheckpointStatus → Scene → List Ran → Prop
  /-- The build failed. -/
  | unbuilt (hbuild : build.isFailure = true) :
      Migrated w root options l build name s (.ok (.skipped "build failed")) s []
  /-- It is switched off. -/
  | skipped (hbuild : build.isFailure = false) (hskip : options.skipMigration = true) :
      Migrated w root options l build name s (.ok (.skipped "disabled with --no-migrate")) s []
  /-- The migrations cannot be listed. -/
  | unlisted (hbuild : build.isFailure = false) (hskip : options.skipMigration = false) (e : Error) :
      Migrated w root options l build name s (.error e)
        (s.after (.list (l.migrationsDir.under root))) []
  /-- There is one of the name. -/
  | found (hbuild : build.isFailure = false) (hskip : options.skipMigration = false)
      (hfound : (s.tree.listFiles (l.migrationsDir.under root)).any
        (Text.endsWith · (migrationSuffix name)) = true) :
      Migrated w root options l build name s (.ok (.skipped "migration already exists"))
        (s.after (.list (l.migrationsDir.under root))) []
  /-- The tool is run. -/
  | ran (hbuild : build.isFailure = false) (hskip : options.skipMigration = false)
      (hnew : (s.tree.listFiles (l.migrationsDir.under root)).any
        (Text.endsWith · (migrationSuffix name)) = false) :
      Migrated w root options l build name s
        ((s.after (.list (l.migrationsDir.under root))).command w root (migrationArguments l name)).status
        ((s.after (.list (l.migrationsDir.under root))).ran w root (migrationArguments l name))
        [(s.after (.list (l.migrationsDir.under root))).command w root (migrationArguments l name)]

/-- How the checkpoints of a request go, the migration if it asks for one. -/
inductive Checked (w : Surroundings) (root : String) (options : Options) (l : Locator) (s : Scene) :
    Option String → Except Error (List Checkpoint) → Scene → List Ran → Prop
  /-- The build ends the request. -/
  | broken {migration : Option String} {e : Error} {s' : Scene} {rs : List Ran}
      (hbuild : Built w root options s (.error e) s' rs) :
      Checked w root options l s migration (.error e) s' rs
  /-- Only the build is asked for. -/
  | built {build : CheckpointStatus} {s' : Scene} {rs : List Ran}
      (hbuild : Built w root options s (.ok build) s' rs) :
      Checked w root options l s none (.ok [⟨.build, build⟩]) s' rs
  /-- The migration follows the build. -/
  | migrated {name : String} {build : CheckpointStatus} {s' s'' : Scene} {rs rs' : List Ran}
      {status : Except Error CheckpointStatus} (hbuild : Built w root options s (.ok build) s' rs)
      (hmigrate : Migrated w root options l build name s' status s'' rs') :
      Checked w root options l s (some name)
        (status.map fun status => [⟨.build, build⟩, ⟨.migration name, status⟩]) s'' (rs ++ rs')

variable (w templates pluralize root options) in
theorem runBuild_built (s : Scene) : ∃ r s' rs,
    execute (runBuild (w.portsWith templates pluralize) options root) s = (r, s')
      ∧ Built w root options s r s' rs ∧ s.Runs w s' rs := by
  rw [runBuild]
  cases hskip : options.skipBuild with
  | true => exact ⟨_, s, [], rfl, .skipped hskip, .refl s⟩
  | false => exact ⟨_, _, _, execute_runTool s ["build"], .ran hskip, .ran s ["build"]⟩

variable (w templates pluralize root options) in
theorem runMigration_migrated (l : Locator) (build : CheckpointStatus) (name : String) (s : Scene) :
    ∃ r s' rs, execute (runMigration (w.portsWith templates pluralize) options root l build name)
      s = (r, s')
      ∧ Migrated w root options l build name s r s' rs ∧ s.Runs w s' rs := by
  let dir := l.migrationsDir.under root
  have hlist : s.Runs w (s.after (.list dir)) [] := .of_calls (.one (c := .list dir) nofun rfl)
  have hattempt (hbuild : build.isFailure = false) : ∃ r s' rs,
      execute (if options.skipMigration then pure (.skipped "disabled with --no-migrate")
        else do
          if ← migrationExists (w.portsWith templates pluralize).files root l name then
            return .skipped "migration already exists"
          else runTool (w.portsWith templates pluralize) root (migrationArguments l name)) s = (r, s')
        ∧ Migrated w root options l build name s r s' rs ∧ s.Runs w s' rs := by
    cases hskip : options.skipMigration with
    | true => exact ⟨_, s, [], rfl, .skipped hbuild hskip, .refl s⟩
    | false =>
        simp only [Bool.false_eq_true, if_false]
        have hfiles : (w.portsWith templates pluralize).files = w.files := rfl
        rw [execute_bind, migrationExists, execute_bind, hfiles, execute_listFiles]
        cases w.fault (s.after (.list dir)).calls with
        | some e => exact ⟨_, _, [], rfl, .unlisted hbuild hskip e, hlist⟩
        | none =>
            simp only [execute_pure]
            cases hfound : (s.tree.listFiles dir).any (Text.endsWith · (migrationSuffix name)) with
            | true => exact ⟨_, _, [], rfl, .found hbuild hskip hfound, hlist⟩
            | false =>
                exact ⟨_, _, _, execute_runTool _ _, .ran hbuild hskip hfound, hlist.trans (.ran _ _)⟩
  cases build with
  | failed cause => exact ⟨_, s, [], rfl, .unbuilt rfl, .refl s⟩
  | passed => exact hattempt rfl
  | skipped reason => exact hattempt rfl

variable (w templates pluralize root options) in
theorem runCheckpoints_checked (l : Locator) (migration : Option String) (s : Scene) : ∃ r s' rs,
    execute (runCheckpoints (w.portsWith templates pluralize) options root l migration) s = (r, s')
      ∧ Checked w root options l s migration r s' rs ∧ s.Runs w s' rs := by
  obtain ⟨r, s₁, rs, hrun, hbuilt, hruns⟩ := runBuild_built w templates pluralize root options s
  rw [runCheckpoints, execute_bind, hrun]
  cases r with
  | error e => exact ⟨_, s₁, rs, rfl, .broken hbuilt, hruns⟩
  | ok build =>
      cases migration with
      | none => exact ⟨_, s₁, rs, rfl, .built hbuilt, hruns⟩
      | some name =>
          obtain ⟨r', s₂, rs', hrun', hmigrated, hruns'⟩ :=
            runMigration_migrated w templates pluralize root options l build name s₁
          refine ⟨_, s₂, rs ++ rs', ?_, .migrated hbuilt hmigrated, hruns.trans hruns'⟩
          simp only
          rw [execute_bind, hrun']
          cases r' <;> rfl

/-! ## Where the tool works -/

/-- The tool succeeds whenever it is run. -/
def Surroundings.ToolWorks (w : Surroundings) : Prop :=
  ∀ calls, ∃ output, w.tool calls = .ok output ∧ output.success = true

theorem Surroundings.ToolWorks.succeeded (h : w.ToolWorks) (s : Scene) (arguments : List String) :
    (s.command w root arguments).succeeded = true := by
  obtain ⟨output, hanswer, hsuccess⟩ := h (s.after (.command buildTool arguments root)).calls
  rw [Ran.succeeded, Scene.command, hanswer]
  exact hsuccess

/-- A build passes where the tool works. -/
theorem Built.eq_passed {build : CheckpointStatus} {s s' : Scene} {rs : List Ran} (htool : w.ToolWorks)
    (hskip : options.skipBuild = false) (h : Built w root options s (.ok build) s' rs) :
    build = .passed := by
  generalize hr : (Except.ok build : Except Error CheckpointStatus) = r at h
  cases h with
  | skipped hskip' => cases hskip.symm.trans hskip'
  | ran _ =>
      rw [Ran.status_of_succeeded (htool.succeeded s ["build"])] at hr
      exact Except.ok.inj hr

/-- No build fails where the tool works. -/
theorem Built.not_isFailure {build : CheckpointStatus} {s s' : Scene} {rs : List Ran} (htool : w.ToolWorks)
    (h : Built w root options s (.ok build) s' rs) : build.isFailure = false := by
  cases hskip : options.skipBuild with
  | false => exact congrArg CheckpointStatus.isFailure (h.eq_passed htool hskip)
  | true =>
      generalize hr : (Except.ok build : Except Error CheckpointStatus) = r at h
      cases h with
      | skipped _ =>
          cases hr
          rfl
      | ran hskip' => cases hskip.symm.trans hskip'

/-- A build leaves a list if the tool does. -/
theorem Built.lists {dir : String} {r : Except Error CheckpointStatus} {s s' : Scene} {rs : List Ran}
    (hbuild : ∀ s : Scene, s.Lists dir (s.ran w root ["build"])) (h : Built w root options s r s' rs) :
    s.Lists dir s' := by
  cases h with
  | skipped _ => exact .refl s
  | ran _ => exact hbuild s

/-! ## Requests -/

/-- The migration that an order asks for. -/
def Order.migration (options : Options) : Order → Option String
  | .crud f => some ("Add" ++ f.name)
  | .action f r => if options.migrateActions then some (r.useCase f).name else none
  | .service _ _ _ | .constant _ _ | .enum _ _ => none

theorem Order.runCheckpoints_of_runsTool {o : Order} (h : o.runsTool = true) (l : Locator) :
    o.runCheckpoints (w.portsWith templates pluralize) options root l
      = Scaffold.runCheckpoints (w.portsWith templates pluralize) options root l
        (o.migration options) := by
  cases o with
  | crud _ | action _ _ | service _ _ _ => rfl
  | constant _ _ | enum _ _ => cases h

theorem Order.runCheckpoints_of_not_runsTool {o : Order} (h : o.runsTool = false) (l : Locator) :
    o.runCheckpoints (w.portsWith templates pluralize) options root l = pure [] := by
  cases o with
  | crud _ | action _ _ | service _ _ _ => cases h
  | constant _ _ | enum _ _ => rfl

theorem Order.migration_of_not_runsTool {o : Order} (h : o.runsTool = false) (options : Options) :
    o.migration options = none := by
  cases o with
  | crud _ | action _ _ | service _ _ _ => cases h
  | constant _ _ | enum _ _ => rfl

variable (w templates pluralize root) in
/-- A commit runs no command and leaves the tree. -/
theorem runs_commitDescriptor (loaded changed : Descriptor) (s : Scene) :
    s.Runs w (execute (commitDescriptor (w.portsWith templates pluralize) root loaded changed) s).2 []
      ∧ (execute (commitDescriptor (w.portsWith templates pluralize) root loaded changed) s).2.tree
        = s.tree := by
  refine ⟨.of_calls (leads_calls_commitDescriptor (P := (PortCall.reach · ≠ .run)) ?_ (fun _ => nofun)
    loaded changed s), ?_⟩
  · intro c hc hrun
    rw [hrun] at hc
    exact absurd hc (by decide)
  · unfold commitDescriptor
    split
    · rfl
    · rw [execute_bind, execute_now]
      simp only
      rw [execute_saveDescriptor]
      cases w.fault _ <;> rfl

end

/-- What is generated is what the request orders, under the layout of the project. -/
theorem Change.generate_eq_ok {w : Surroundings} {templates : Templates} {pluralize : String → String}
    {root : String} {c : Change} {s s' : Scene} {g : Generated}
    (h : execute (c.generate (w.portsWith templates pluralize) root) s = (.ok g, s')) :
    c.order pluralize = .ok g.order
      ∧ ∀ d ∈ s.descriptor, g.prepared.site.locator = d.locator := by
  obtain ⟨-, _, ⟨⟩⟩ | ⟨o, loaded, p, s₁, horder, hloaded, hlocator, -, h⟩ := Change.prepared_cases h
  obtain ⟨steps, s₂, -, h⟩ := execute_bind_eq_ok h
  obtain ⟨_, s₃, -, h⟩ := execute_bind_eq_ok h
  cases h
  refine ⟨horder, fun d hd => ?_⟩
  obtain rfl : d = loaded := Option.some.inj (hd.symm.trans hloaded)
  exact hlocator

/-- A request with the options and the root that it is made under. -/
structure Turn where
  /-- Its options. -/
  options : Options
  /-- Where the project is. -/
  root : String
  /-- What is asked for. -/
  change : Change

namespace Turn

section

variable (w : Surroundings) (templates : Templates) (pluralize : String → String)

/-- Make a request. -/
def make (t : Turn) (s : Scene) : Except Error Report × Scene :=
  execute (t.change.make (w.portsWith templates pluralize) t.options t.root) s

/-- Make requests one after the other, whatever comes of them. -/
def makeAll (ts : List Turn) (s : Scene) : Scene := ts.foldl (fun s t => (t.make w templates pluralize s).2) s

/-- The commands of requests that are made one after the other, each with the number of its request.
-/
def logFrom (n : Nat) : List Turn → Scene → List (Nat × Ran)
  | [], _ => []
  | t :: ts, s =>
      let s' := (t.make w templates pluralize s).2
      (s.commandsTo w s').map (n, ·) ++ logFrom (n + 1) ts s'

/-- The commands of requests, the first of which has the number zero. -/
def log (ts : List Turn) (s : Scene) : List (Nat × Ran) := logFrom w templates pluralize 0 ts s

/-- How a request goes, with the commands that it runs. -/
inductive Goes (t : Turn) (s : Scene) : Except Error Report → Scene → List Ran → Prop
  /-- It ends before its checkpoints. -/
  | stopped {e : Error} {s' : Scene}
      (hgenerate : execute (t.change.generate (w.portsWith templates pluralize) t.root) s = (.error e, s')) :
      Goes t s (.error e) s' []
  /-- It has no checkpoints. -/
  | unchecked {g : Generated} {r : Except Error Report} {s₁ s' : Scene}
      (hgenerate : execute (t.change.generate (w.portsWith templates pluralize) t.root) s = (.ok g, s₁))
      (htool : g.order.runsTool = false) (htree : s'.tree = s₁.tree)
      (hreport : ∀ report, r = .ok report → report.checkpoints = []) : Goes t s r s' []
  /-- Its checkpoints go one way or another. -/
  | checked {g : Generated} {r : Except Error Report} {s₁ s₂ s' : Scene}
      {checkpoints : Except Error (List Checkpoint)} {rs : List Ran}
      (hgenerate : execute (t.change.generate (w.portsWith templates pluralize) t.root) s = (.ok g, s₁))
      (htool : g.order.runsTool = true)
      (hchecked : Checked w t.root t.options g.prepared.site.locator s₁ (g.order.migration t.options)
        checkpoints s₂ rs) (htree : s'.tree = s₂.tree)
      (hreport : ∀ report, r = .ok report → checkpoints = .ok report.checkpoints) : Goes t s r s' rs

end

variable {w : Surroundings} {templates : Templates} {pluralize : String → String}

variable (w templates pluralize) in
/-- After its checkpoints a request runs nothing, and what it reports tells of them. -/
theorem runs_report (g : Generated) (root : String) (checkpoints : List Checkpoint) (s : Scene) :
    ∃ r s', execute (do
        commitDescriptor (w.portsWith templates pluralize) root g.loaded
          (g.order.record g.prepared.settled)
        return g.order.report g.steps checkpoints) s = (r, s')
      ∧ s.Runs w s' [] ∧ s'.tree = s.tree ∧ ∀ report, r = .ok report →
        report.checkpoints = checkpoints := by
  obtain ⟨hruns, htree⟩ := runs_commitDescriptor w templates pluralize root g.loaded
    (g.order.record g.prepared.settled) s
  rw [execute_bind]
  rcases hcommit : execute (commitDescriptor (w.portsWith templates pluralize) root g.loaded
    (g.order.record g.prepared.settled)) s with ⟨e | _, s'⟩ <;> rw [hcommit] at hruns htree
  · refine ⟨_, _, rfl, hruns, htree, ?_⟩
    rintro _ ⟨⟩
  · refine ⟨_, _, rfl, hruns, htree, ?_⟩
    rintro _ ⟨⟩
    cases g.order <;> rfl

variable (w templates pluralize) in
/-- A request generates, runs its checkpoints and records what it did. -/
theorem make_goes (t : Turn) (s : Scene) : ∃ rs,
    t.Goes w templates pluralize s (t.make w templates pluralize s).1 (t.make w templates pluralize s).2 rs
      ∧ s.Runs w (t.make w templates pluralize s).2 rs := by
  rw [make, Change.make_eq_generate, execute_bind]
  rcases hgenerate : execute (t.change.generate (w.portsWith templates pluralize) t.root) s
    with ⟨e | g, s₁⟩ <;>
    have hquiet := Scene.Runs.of_calls (w := w) (t.change.leads_generate.holds hgenerate)
  · exact ⟨[], .stopped hgenerate, hquiet⟩
  simp only
  rw [Generated.conclude, execute_bind]
  cases htool : g.order.runsTool with
  | false =>
      rw [Order.runCheckpoints_of_not_runsTool htool]
      obtain ⟨r, s', hrun, hruns, htree, hreport⟩ := runs_report w templates pluralize g t.root [] s₁
      refine ⟨[], ?_, hquiet.trans ?_⟩
      · simp only [execute_pure, hrun]
        exact .unchecked hgenerate htool htree hreport
      · simp only [execute_pure, hrun]
        exact hruns
  | true =>
      obtain ⟨checkpoints, s₂, rs, hrun, hchecked, hruns⟩ :=
        runCheckpoints_checked w templates pluralize t.root t.options g.prepared.site.locator
          (g.order.migration t.options) s₁
      rw [Order.runCheckpoints_of_runsTool htool, hrun]
      cases checkpoints with
      | error e =>
          refine ⟨rs, .checked hgenerate htool hchecked rfl ?_, hquiet.trans hruns⟩
          rintro _ ⟨⟩
      | ok checkpoints =>
          obtain ⟨r, s', hrun', hruns', htree, hreport⟩ :=
            runs_report w templates pluralize g t.root checkpoints s₂
          refine ⟨rs, ?_, ?_⟩
          · simp only [hrun']
            exact .checked hgenerate htool hchecked htree fun report hr => by rw [hreport report hr]
          · simp only [hrun']
            simpa using (hquiet.trans hruns).trans hruns'

/-! ### What a request reports -/

/-- What a request that succeeds reports of the migration that it asks for. -/
theorem checkpoints_of_ok {t : Turn} {s s' : Scene} {report : Report} {o : Order} {name : String}
    (hmake : t.make w templates pluralize s = (.ok report, s')) (ho : t.change.order pluralize = .ok o)
    (hname : o.migration t.options = some name) : ∃ g s₁ s₂ s₃ build status rs rs',
      execute (t.change.generate (w.portsWith templates pluralize) t.root) s = (.ok g, s₁)
      ∧ Built w t.root t.options s₁ (.ok build) s₂ rs
      ∧ Migrated w t.root t.options g.prepared.site.locator build name s₂ (.ok status) s₃ rs'
      ∧ report.checkpoints = [⟨.build, build⟩, ⟨.migration name, status⟩]
      ∧ s.commandsTo w s' = rs ++ rs' ∧ s'.tree = s₃.tree := by
  obtain ⟨rs, hgoes, hruns⟩ := t.make_goes w templates pluralize s
  rw [hmake] at hgoes hruns
  cases hgoes with
  | unchecked hgenerate htool htree hreport =>
      cases ho.symm.trans (Change.generate_eq_ok hgenerate).1
      cases (Order.migration_of_not_runsTool htool t.options).symm.trans hname
  | @checked g _ s₁ s₂ _ checkpoints rs hgenerate htool hchecked htree hreport =>
      cases ho.symm.trans (Change.generate_eq_ok hgenerate).1
      have hcheckpoints := hreport report rfl
      rw [hname] at hchecked
      cases hchecked with
      | broken hbuilt => cases hcheckpoints
      | @migrated name build s' _ rs rs' status hbuilt hmigrated =>
          cases status with
          | error e => cases hcheckpoints
          | ok status => exact ⟨g, s₁, s', s₂, build, status, rs, rs', hgenerate, hbuilt, hmigrated,
              (Except.ok.inj hcheckpoints).symm, hruns.commandsTo_eq, htree⟩

/-- A request that succeeds and asks for a migration runs it last, if it is not switched off, the
tool succeeds and there is none of its name before or after the build. -/
theorem runs_migration {t : Turn} {s s' : Scene} {d : Descriptor} {report : Report} {o : Order}
    {name : String}
    (hmake : t.make w templates Plural.english s = (.ok report, s'))
    (ho : t.change.order Plural.english = .ok o) (hname : o.migration t.options = some name)
    (hd : IsProject d.name) (hs : s.descriptor = some d) (hskip : t.options.skipMigration = false)
    (htool : w.ToolWorks)
    (hbuild : ∀ s : Scene, s.Lists (d.locator.migrationsDir.under t.root) (s.ran w t.root ["build"]))
    (hnew : (s.tree.listFiles (d.locator.migrationsDir.under t.root)).any
      (Text.endsWith · (migrationSuffix name)) = false) :
    ∃ front m, s.commandsTo w s' = front ++ [m] ∧ m.succeeded = true
      ∧ m.program = buildTool ∧ m.arguments = migrationArguments d.locator name := by
  obtain ⟨g, s₁, s₂, s₃, build, status, rs, rs', hgenerate, hbuilt, hmigrated, -, hcommands, -⟩ :=
    checkpoints_of_ok hmake ho hname
  have hlists := Change.generate_lists hd hs hgenerate
  rw [(Change.generate_eq_ok hgenerate).2 d hs] at hmigrated
  have hpassed := hbuilt.not_isFailure htool
  rw [← hlists.trans (hbuilt.lists hbuild)] at hnew
  generalize hr : (Except.ok status : Except Error CheckpointStatus) = r at hmigrated
  cases hmigrated with
  | unbuilt hfailed => cases hfailed.symm.trans hpassed
  | skipped _ hskip' => cases hskip.symm.trans hskip'
  | unlisted _ _ e => cases hr
  | found _ _ hfound => cases hfound.symm.trans hnew
  | ran _ _ _ => exact ⟨rs, _, hcommands, htool.succeeded _ _, rfl, rfl⟩

end Turn

/-! ## A build before a migration -/

/-- The commands of one request: a build unless it is switched off, and then a migration if one is
asked for, it is not switched off and the build succeeded. -/
inductive Paced (options : Options) (migration : Option String) : List Ran → Prop
  | none : Paced options migration []
  | build {b : Ran} (hskip : options.skipBuild = false) (hb : b.isBuild = true) :
      Paced options migration [b]
  | migration {m : Ran} (hskip : options.skipBuild = true) (hskip' : options.skipMigration = false)
      (hasked : migration.isSome = true) (hm : m.isMigration = true) : Paced options migration [m]
  | both {b m : Ran} (hskip : options.skipBuild = false) (hskip' : options.skipMigration = false)
      (hasked : migration.isSome = true) (hb : b.isBuild = true) (hdone : b.succeeded = true)
      (hm : m.isMigration = true) : Paced options migration [b, m]

theorem Ran.isMigration_of_isBuild {r : Ran} (h : r.isBuild = true) : r.isMigration = false := by
  unfold isBuild at h
  rw [Bool.and_eq_true, beq_iff_eq, beq_iff_eq] at h
  rw [isMigration, h.2]
  exact Bool.and_false _

section

variable {w : Surroundings} {root : String} {options : Options} {l : Locator} {s s' : Scene}
  {rs : List Ran}

theorem Checked.paced {migration : Option String} {checkpoints : Except Error (List Checkpoint)}
    (h : Checked w root options l s migration checkpoints s' rs) : Paced options migration rs := by
  have hbuild {r : Except Error CheckpointStatus} {s₁ : Scene} {rs : List Ran}
      (h : Built w root options s r s₁ rs) : Paced options migration rs := by
    cases h with
    | skipped hskip => exact .none
    | ran hskip => exact .build hskip rfl
  cases h with
  | broken hbuilt => exact hbuild hbuilt
  | built hbuilt => exact hbuild hbuilt
  | migrated hbuilt hmigrated =>
      cases hmigrated with
      | unbuilt _ | skipped _ _ | unlisted _ _ _ | found _ _ _ =>
          rw [List.append_nil]
          exact hbuild hbuilt
      | ran hnotFailed hskip' hnew =>
          generalize hstatus : (Except.ok _ : Except Error CheckpointStatus) = r at hbuilt
          cases hbuilt with
          | skipped hskip => exact .migration hskip hskip' rfl rfl
          | ran hskip =>
              exact .both hskip hskip' rfl rfl
                (Ran.succeeded_of_status hstatus.symm hnotFailed) rfl

/-- A migration among the commands of a request is the last of them, and a build comes before it
unless the build is switched off. -/
theorem Paced.split {migration : Option String} (h : Paced options migration rs) {front back : List Ran}
    {m : Ran} (hrs : rs = front ++ m :: back) (hm : m.isMigration = true) :
    migration.isSome = true ∧ options.skipMigration = false
      ∧ ((∃ b, front.getLast? = some b ∧ b.isBuild = true ∧ b.succeeded = true)
        ↔ options.skipBuild = false)
      ∧ (options.skipBuild = true → front = []) := by
  have hnot {b : Ran} (hb : b.isBuild = true) : b ≠ m := by
    rintro rfl
    rw [Ran.isMigration_of_isBuild hb] at hm
    cases hm
  cases h with
  | none => simp at hrs
  | build hskip hb =>
      cases front with
      | nil => exact absurd (List.cons.inj hrs).1 (hnot hb)
      | cons x front => simp at hrs
  | migration hskip hskip' hasked hm' =>
      cases front with
      | nil => exact ⟨hasked, hskip', by simp [hskip], fun _ => rfl⟩
      | cons x front => simp at hrs
  | @both b m' hskip hskip' hasked hb hdone hm' =>
      cases front with
      | nil => exact absurd (List.cons.inj hrs).1 (hnot hb)
      | cons x front =>
          cases front with
          | nil =>
              obtain rfl : b = x := (List.cons.inj hrs).1
              exact ⟨hasked, hskip', iff_of_true ⟨b, rfl, hb, hdone⟩ hskip, by simp [hskip]⟩
          | cons y front => simp at hrs

end

namespace Turn

variable {w : Surroundings} {templates : Templates} {pluralize : String → String}

variable (w templates pluralize) in
/-- The commands of a request are paced by its options and by what it asks for. -/
theorem paced (t : Turn) (s : Scene) (hne : s.commandsTo w (t.make w templates pluralize s).2 ≠ []) :
    ∃ o, t.change.order pluralize = .ok o
      ∧ Paced t.options (o.migration t.options) (s.commandsTo w (t.make w templates pluralize s).2) := by
  obtain ⟨rs, hgoes, hruns⟩ := t.make_goes w templates pluralize s
  rw [hruns.commandsTo_eq] at hne ⊢
  rcases hmake : t.make w templates pluralize s with ⟨r, s'⟩
  rw [hmake] at hgoes
  cases hgoes with
  | stopped _ | unchecked _ _ _ _ => exact absurd rfl hne
  | checked hgenerate htool hchecked htree hreport =>
      exact ⟨_, (Change.generate_eq_ok hgenerate).1, hchecked.paced⟩

/-- A command in the log of requests is one of the request that it has the number of. -/
theorem mem_logFrom {k n : Nat} {ts : List Turn} {s : Scene} {r : Ran}
    (h : (n, r) ∈ logFrom w templates pluralize k ts s) : ∃ i t, ts[i]? = some t ∧ n = k + i
      ∧ r ∈ (makeAll w templates pluralize (ts.take i) s).commandsTo w
        (t.make w templates pluralize (makeAll w templates pluralize (ts.take i) s)).2 := by
  induction ts generalizing k s with
  | nil => cases h
  | cons t ts ih =>
      rcases List.mem_append.1 h with h | h
      · obtain ⟨_, hr, heq⟩ := List.mem_map.1 h
        obtain ⟨rfl, rfl⟩ := Prod.mk.inj heq
        exact ⟨0, t, rfl, rfl, hr⟩
      · obtain ⟨i, t', hget, rfl, hr⟩ := ih h
        exact ⟨i + 1, t', hget, by omega, hr⟩

/-- What is known of a migration in the log of requests. -/
structure AfterBuild (pluralize : String → String) (t : Turn) (n : Nat) (front : List (Nat × Ran)) : Prop where
  /-- Its request asks for one. -/
  asked : ∃ o, t.change.order pluralize = .ok o ∧ (o.migration t.options).isSome = true
  /-- Migrations are not switched off. -/
  migrates : t.options.skipMigration = false
  /-- A build of the request that succeeded comes directly before it, unless builds are switched
  off. -/
  built : (∃ b, front.getLast? = some (n, b) ∧ b.isBuild = true ∧ b.succeeded = true)
    ↔ t.options.skipBuild = false
  /-- Otherwise no command of the request comes before it. -/
  unbuilt : t.options.skipBuild = true → ∀ b, (n, b) ∉ front

namespace AfterBuild

variable {t : Turn} {n : Nat}

/-- Commands of other requests may come first. -/
theorem prepend {first later : List (Nat × Ran)} (h : t.AfterBuild pluralize n later)
    (hfirst : ∀ b, (n, b) ∉ first) : t.AfterBuild pluralize n (first ++ later) := by
  refine ⟨h.asked, h.migrates, ?_, fun hskip b hmem => ?_⟩
  · rw [← h.built]
    cases later using List.reverseRecOn with
    | nil =>
        rw [List.append_nil]
        refine iff_of_false ?_ (by simp)
        rintro ⟨b, hlast, -⟩
        exact hfirst b (List.mem_of_getLast? hlast)
    | append_singleton later x =>
        rw [← List.append_assoc, List.getLast?_concat, List.getLast?_concat]
  · exact (List.mem_append.1 hmem).elim (hfirst b) (h.unbuilt hskip b)

/-- The migration of a request comes after its own commands. -/
theorem of_commands {s : Scene} {rs back : List Ran} {m : Ran}
    (hcommands : s.commandsTo w (t.make w templates pluralize s).2 = rs ++ m :: back)
    (hm : m.isMigration = true) : t.AfterBuild pluralize n (rs.map (n, ·)) := by
  obtain ⟨o, ho, hpaced⟩ := t.paced w templates pluralize s (by rw [hcommands]; simp)
  obtain ⟨hasked, hmigrates, hbuilt, hunbuilt⟩ := hpaced.split hcommands hm
  refine ⟨⟨o, ho, hasked⟩, hmigrates, ?_, fun hskip b hmem => ?_⟩
  · rw [← hbuilt, List.getLast?_map]
    cases rs.getLast? <;> simp
  · rw [hunbuilt hskip] at hmem
    cases hmem

end AfterBuild

theorem logFrom_afterBuild {k n : Nat} {ts : List Turn} {s : Scene} {front back : List (Nat × Ran)}
    {m : Ran}
    (hlog : logFrom w templates pluralize k ts s = front ++ (n, m) :: back) (hm : m.isMigration = true) :
    k ≤ n ∧ ∃ t, ts[n - k]? = some t ∧ t.AfterBuild pluralize n front := by
  induction ts generalizing k s front with
  | nil => simp [logFrom] at hlog
  | cons t ts ih =>
      -- the migration is one of the requests that come later
      have hlater (later : List (Nat × Ran)) {s' : Scene} {rs : List Ran}
          (hfront : front = rs.map (k, ·) ++ later)
          (hlog : logFrom w templates pluralize (k + 1) ts s' = later ++ (n, m) :: back) :
          k ≤ n ∧ ∃ t', (t :: ts)[n - k]? = some t' ∧ t'.AfterBuild pluralize n front := by
        obtain ⟨hle, t', hget, hafter⟩ := ih hlog
        refine ⟨by omega, t', ?_, hfront ▸ hafter.prepend fun b hmem => ?_⟩
        · rwa [show n - k = n - (k + 1) + 1 by omega, List.getElem?_cons_succ]
        · obtain ⟨_, -, heq⟩ := List.mem_map.1 hmem
          have := (Prod.mk.inj heq).1
          omega
      obtain ⟨later, hfront, hrest⟩ | ⟨own, hown, hrest⟩ := List.append_eq_append_iff.1 hlog
      · exact hlater later hfront hrest
      cases own with
      | nil =>
          rw [List.append_nil] at hown
          exact hlater [] (by rw [List.append_nil, hown]) hrest.symm
      | cons x own =>
          -- the migration is one of this request
          obtain ⟨rfl, rfl⟩ := List.cons.inj hrest
          obtain ⟨rs, rest, hcommands, rfl, hrest⟩ := List.map_eq_append_iff.1 hown
          obtain ⟨m', back', rfl, heq, rfl⟩ := List.map_eq_cons_iff.1 hrest
          obtain ⟨rfl, rfl⟩ := Prod.mk.inj heq
          exact ⟨Nat.le_refl _, t, by simp, .of_commands hcommands hm⟩

/-- **A migration is added directly after a build of its request that succeeded, unless the request
switches its build off.**  This holds for all requests that are made one after the other in any
tree, under any options and however the tool answers, each time that it is run.  A request whose
build is switched off adds its migration all the same: it is the only command that it runs. -/
theorem migration_after_build (w : Surroundings) (templates : Templates) (pluralize : String → String)
    (ts : List Turn) (s : Scene) {front back : List (Nat × Ran)} {n : Nat} {m : Ran}
    (hlog : log w templates pluralize ts s = front ++ (n, m) :: back) (hm : m.isMigration = true) :
    ∃ t, ts[n]? = some t ∧ t.AfterBuild pluralize n front := by
  obtain ⟨-, t, hget, hafter⟩ := logFrom_afterBuild hlog hm
  exact ⟨t, hget, hafter⟩

/-- The full generation of the entity of the examples under options. -/
def generateInvoice (options : Options) : Turn := ⟨options, "/work", .crud ⟨"Invoice"⟩⟩

/-- It adds its migration last where nothing fails and nothing happens. -/
theorem log_generateInvoice {s : Scene} {d : Descriptor} (h : Reached ∅ "/work" [] s d)
    (htree : s.tree = {})
    (options : Options) (hskip : options.skipMigration = false) :
    ∃ (front : List Ran) (m : Ran), log .still builtin Plural.english [generateInvoice options] s
        = front.map (0, ·) ++ [(0, m)] ∧ m.isMigration = true := by
  obtain ⟨report, s', hmake⟩ := h.next (apart_empty _ _) (Surroundings.idle_still.within ∅)
    Surroundings.calm_still (fun _ => rfl) orders_invoice ⟨nofun, nofun⟩
    (fun _ => by rw [Descriptor.settleBy]; cases d.provider <;> exact ⟨_, rfl⟩) options
  have hmake : (generateInvoice options).make .still builtin Plural.english s = (.ok report, s') := hmake
  obtain ⟨front, m, hcommands, -, hprogram, harguments⟩ := runs_migration hmake
    orders_invoice (rfl : (Order.crud invoice).migration options = some "AddInvoice") h.project
      h.descriptor
    hskip (fun _ => ⟨_, rfl, rfl⟩) (fun _ => rfl)
    (by rw [htree]; rfl)
  refine ⟨front, m, ?_, ?_⟩
  · rw [log, logFrom, logFrom, hmake, hcommands, List.append_nil, List.map_append, List.map_singleton]
  · rw [Ran.isMigration, hprogram, harguments]
    rfl

/-- The migration of a full generation is the only command that is run if the build is switched off,
and otherwise it comes after the build. -/
theorem migration_after_build_invoice : ∃ (s : Scene) (front : List (Nat × Ran)) (m m' : Ran),
    Run .still "/work" [] s
    ∧ log .still builtin Plural.english [generateInvoice { skipBuild := true }] s = [(0, m)]
    ∧ m.isMigration = true
    ∧ log .still builtin Plural.english [generateInvoice {}] s = front ++ [(0, m')]
    ∧ m'.isMigration = true
    ∧ ∃ b, front.getLast? = some (0, b) ∧ b.isBuild = true ∧ b.succeeded = true := by
  obtain ⟨d, s, hinit⟩ : ∃ d s, execute (initProject Surroundings.still.ports "/work" "Acme"
      .routes none) ⟨{}, none, none, []⟩ = (.ok d, s) := ⟨_, _, rfl⟩
  have hreached : Reached ∅ "/work" [] s d := reached_init rfl hinit
  have htree : s.tree = {} := (initProject_ok hinit).1
  obtain ⟨front, m, hlog, hm⟩ := log_generateInvoice hreached htree { skipBuild := true } rfl
  obtain ⟨front', m', hlog', hm'⟩ := log_generateInvoice hreached htree {} rfl
  obtain ⟨t, hget, hafter⟩ := migration_after_build .still builtin Plural.english _ s hlog hm
  obtain ⟨t', hget', hafter'⟩ := migration_after_build .still builtin Plural.english _ s hlog' hm'
  cases hget
  cases hget'
  have hfront : front = [] := List.eq_nil_iff_forall_not_mem.2 fun b hb =>
    hafter.unbuilt rfl b (List.mem_map_of_mem hb)
  rw [hfront] at hlog
  exact ⟨s, _, m, m', .init rfl hinit, hlog, hm, hlog', hm', hafter'.built.2 rfl⟩

end Turn

end Scaffold
