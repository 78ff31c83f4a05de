import Mathlib
import Scaffold.Proofs.Preservation

/-!
# The calls of a request

A request that is made in a scene adds its calls to those that are there.  `Scene.Calls` says what
sort they are of, however the request ends.  Three calls alter anything for good: a task makes the
directory of its file and writes the file (`Task.Alters`), and the stores are saved.

The tree, the templates, the plurals and the surroundings are arbitrary.
-/

namespace Scaffold

/-! ## Calls of a sort -/

namespace Scene

/-- The calls since a scene are of a sort. -/
def Calls (P : PortCall → Prop) (s s' : Scene) : Prop :=
  ∃ new, s'.calls = s.calls ++ new ∧ ∀ c ∈ new, P c

namespace Calls

variable {P Q : PortCall → Prop} {s s' s'' : Scene}

theorem of_eq (h : s'.calls = s.calls) : Calls P s s' := ⟨[], by simp [h], by simp⟩

theorem refl (s : Scene) : Calls P s s := of_eq rfl

theorem trans (h : Calls P s s') (h' : Calls P s' s'') : Calls P s s'' := by
  obtain ⟨new, hnew, hP⟩ := h
  obtain ⟨new', hnew', hP'⟩ := h'
  refine ⟨new ++ new', by rw [hnew', hnew, List.append_assoc], fun c hc => ?_⟩
  exact (List.mem_append.1 hc).elim (hP c) (hP' c)

theorem of_same {r : Reach} (hP : ∀ c : PortCall, c.reach ≤ r → P c) (h : s.Same r s') :
    Calls P s s' := by
  obtain ⟨new, hnew, hreach⟩ := h.calls
  exact ⟨new, hnew, fun c hc => hP c (hreach c hc)⟩

/-- One call was made, whatever it did. -/
theorem one {c : PortCall} (hc : P c) (h : s'.calls = s.calls ++ [c]) : Calls P s s' :=
  ⟨[c], h, by simpa using hc⟩

end Calls

end Scene

section

variable {P : PortCall → Prop} {w : Surroundings} {templates : Templates}
  {pluralize : String → String} {root : String}

theorem Reads.leads_calls {α : Type} {r : Reach} {x : InScene α} (h : Reads r x)
    (hP : ∀ c : PortCall, c.reach ≤ r → P c) : Leads (Scene.Calls P) x :=
  .of_reads (fun _ _ => .of_same hP) h

theorem leads_calls_bind {α β : Type} {x : InScene α} {f : α → InScene β}
    (hx : Leads (Scene.Calls P) x) (hf : ∀ a, Leads (Scene.Calls P) (f a)) :
    Leads (Scene.Calls P) (x >>= f) := hx.bind (fun _ _ _ => .trans) hf

/-! ## Tasks -/

/-- The calls by which a task alters the tree. -/
inductive Task.Alters (root : String) (t : Task) : PortCall → Prop
  /-- It makes the directory of its file. -/
  | makeDirs {dir : String} (h : Path.parent (t.path.under root) = some dir) :
      t.Alters root (.makeDirs dir)
  /-- It writes its file. -/
  | write (content : String) : t.Alters root (.write (t.path.under root) content)

theorem leads_createDirs {dir : String} (hdir : P (.makeDirs dir)) :
    Leads (Scene.Calls P) (w.files.createDirs dir) := by
  intro s
  rw [execute_createDirs]
  cases w.fault (s.after (.makeDirs dir)).calls <;> exact .one hdir rfl

theorem leads_write {path content : String} (hpath : P (.write path content)) :
    Leads (Scene.Calls P) (w.files.write path content) := by
  intro s
  rw [execute_write]
  cases w.fault (s.after (.write path content)).calls with
  | some e => exact .one hpath rfl
  | none =>
      simp only
      cases s.tree.write path content <;> exact .one hpath rfl

/-- A task leaves what its look at its file, the directory it makes and the file it writes leave. -/
theorem Task.leads {R : Scene → Scene → Prop} (hsame : ∀ s s', Scene.Same .look s s' → R s s')
    (htrans : ∀ s s' s'', R s s' → R s' s'' → R s s'') {t : Task}
    (hdirs : ∀ dir, Path.parent (t.path.under root) = some dir → Leads R (w.files.createDirs dir))
    (hwrite : ∀ content, Leads R (w.files.write (t.path.under root) content)) :
    Leads R (t.perform w.files templates root) := by
  have hstore : ∀ a : Artifact, a.path = t.path.under root → Leads R (storeArtifact w.files a) := by
    intro a ha
    unfold storeArtifact
    rw [ha]
    cases hparent : Path.parent (t.path.under root) with
    | none => exact hwrite a.render
    | some dir => exact (hdirs dir hparent).bind htrans fun _ => hwrite a.render
  intro s
  have hlook := hsame s _ (t.reads_inspect (w := w) root s)
  unfold Task.perform
  rw [execute_bind]
  rcases hinspect : execute (t.inspect w.files root) s with ⟨e | current, s₁⟩ <;>
    rw [hinspect] at hlook
  · exact hlook
  obtain ⟨-, hpath, -⟩ := t.inspect_spec hinspect
  simp only
  rw [execute_bind, execute_lift_except]
  cases hdecide : t.action.decide templates current with
  | error e => exact hlook
  | ok decided =>
      obtain ⟨outcome, next⟩ := decided
      simp only
      split
      · have hnext := (Action.path_decide hdecide).trans hpath
        rw [execute_bind_pure_snd]
        exact htrans _ _ _ hlook (hstore next hnext s₁)
      · exact hlook

/-- A task looks at its file and may alter it. -/
theorem Task.leads_calls (hlook : ∀ c : PortCall, c.reach ≤ .look → P c) (t : Task)
    (ht : ∀ c, t.Alters root c → P c) :
    Leads (Scene.Calls P) (t.perform w.files templates root) :=
  Task.leads (fun _ _ => .of_same hlook) (fun _ _ _ => .trans)
    (fun _ hparent => leads_createDirs (ht _ (.makeDirs hparent)))
    fun content => leads_write (ht _ (.write content))

/-- Tasks look at their files and may alter them. -/
theorem leads_calls_performAll (hlook : ∀ c : PortCall, c.reach ≤ .look → P c) {ts : List Task}
    (hts : ∀ t ∈ ts, ∀ c, t.Alters root c → P c) :
    Leads (Scene.Calls P) (performAll w.files templates root ts) :=
  leads_performAll_of_forall .refl (fun _ _ _ => .trans) fun t ht => t.leads_calls hlook (hts t ht)

/-! ## What comes after the tasks -/

theorem leads_calls_runTool (hrun : ∀ c : PortCall, c.reach ≤ .run → P c) (arguments : List String) :
    Leads (Scene.Calls P) (runTool (w.portsWith templates pluralize) root arguments) := by
  refine leads_calls_bind (fun s => ?_) fun result => ?_
  · rw [execute_attempt, execute_runCommand]
    exact .one (hrun (.command buildTool arguments root) (Reach.le_refl _)) rfl
  · rcases result with (_ | cause | _ | _) | output
    · exact .throw .refl _
    · simp only
      split
      · exact .pure .refl _
      · exact .throw .refl _
    · exact .throw .refl _
    · exact .throw .refl _
    · simp only
      split <;> exact .pure .refl _

namespace Order

theorem leads_calls_recordContainer (hsave : ∀ c, P (.saveContainer c)) (o : Order) :
    Leads (Scene.Calls P) (o.recordContainer (w.portsWith templates pluralize)) := by
  refine recordContainer_ind (motive := fun x => Leads (Scene.Calls P) x) (.pure .refl _)
    (fun c s => ?_) o
  rw [execute_saveContainer]
  cases w.fault (s.after (.saveContainer c)).calls <;> exact .one (hsave _) rfl

theorem leads_calls_runCheckpoints (hrun : ∀ c : PortCall, c.reach ≤ .run → P c) (options : Options)
    (l : Locator) (o : Order) :
    Leads (Scene.Calls P) (o.runCheckpoints (w.portsWith templates pluralize) options root l) :=
  runCheckpoints_ind (motive := fun x => Leads (Scene.Calls P) x) (.pure .refl) leads_calls_bind
    (leads_calls_runTool hrun)
    (fun path => (reads_listFiles (r := .run) w path).leads_calls hrun) options o

end Order

theorem leads_calls_commitDescriptor (hlook : ∀ c : PortCall, c.reach ≤ .look → P c)
    (hsave : ∀ d, P (.saveDescriptor root d)) (loaded changed : Descriptor) :
    Leads (Scene.Calls P)
      (commitDescriptor (w.portsWith templates pluralize) root loaded changed) := by
  unfold commitDescriptor
  split
  · exact .pure .refl _
  · refine leads_calls_bind ((reads_now w).leads_calls hlook) fun now s => ?_
    rw [execute_saveDescriptor]
    cases w.fault (s.after (.saveDescriptor root (changed.touch now))).calls <;>
      exact .one (hsave _) rfl

/-! ## Requests -/

/-- The sorts a request's calls are of that are not its tasks' to alter the tree. -/
structure PortCall.Aside (P : PortCall → Prop) : Prop where
  run : ∀ c : PortCall, c.reach ≤ .run → P c
  descriptor : ∀ root d, P (.saveDescriptor root d)
  container : ∀ c, P (.saveContainer c)

theorem Order.leads_calls_finish (hP : PortCall.Aside P) (options : Options) (loaded : Descriptor)
    (o : Order) {p : Prepared} (hts : ∀ t ∈ o.plan p.site p.provider, ∀ c, t.Alters root c → P c) :
    Leads (Scene.Calls P)
      (o.finish (w.portsWith templates pluralize) options root loaded p) := by
  have hlook : ∀ c : PortCall, c.reach ≤ .look → P c := fun c hc =>
    hP.run c (Reach.le_trans hc (by decide))
  refine leads_calls_bind (leads_calls_performAll hlook hts) fun steps => ?_
  refine leads_calls_bind (o.leads_calls_recordContainer hP.container) fun _ => ?_
  refine leads_calls_bind (o.leads_calls_runCheckpoints hP.run options _) fun checkpoints => ?_
  exact leads_calls_bind (leads_calls_commitDescriptor hlook (hP.descriptor root) _ _) fun _ =>
    .pure .refl _

/-- What a request alters of the tree, it alters by the tasks of what it orders, under the layout of
the project. -/
theorem Change.leads_calls (hP : PortCall.Aside P) (options : Options) (c : Change) {s : Scene}
    (hts : ∀ d ∈ s.descriptor, ∀ o, c.order pluralize = .ok o → ∀ site : Site,
      site.locator = d.locator → ∀ provider, ∀ t ∈ o.plan site provider, ∀ call,
        t.Alters root call → P call) :
    s.Calls P (execute (c.make (w.portsWith templates pluralize) options root) s).2 := by
  have hask : ∀ {s s' : Scene}, s.Same .ask s' → s.Calls P s' := fun h =>
    .of_same (fun c hc => hP.run c (Reach.le_trans hc (by decide))) h
  rcases hmake : execute (c.make (w.portsWith templates pluralize) options root) s with ⟨r, s'⟩
  rw [Change.make_eq] at hmake
  obtain ⟨hsame, -⟩ | ⟨o, loaded, p, s₁, horder, hloaded, hlocator, hsame, hmake⟩ :=
    Change.prepared_cases hmake
  · exact hask hsame
  have hfinish := (o.leads_calls_finish hP options loaded fun t ht =>
    hts loaded hloaded o horder p.site hlocator p.provider t ht).holds hmake
  exact (hask hsame).trans hfinish

end

end Scaffold
