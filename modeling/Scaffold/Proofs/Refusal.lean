import Mathlib
import Scaffold.Proofs.Decision
import Scaffold.Proofs.Scene

/-!
# Refusals

A request that is *refused* is malformed, asks for what is there already or for what cannot be
there yet, or the user did not answer.  Where a request is refused nothing was touched
(`refused_untouched`): what comes before the first task only looks and asks (`Reads`), and what
comes after it never ends in a refusal (`Never`).

The templates and the plurals are arbitrary here, and so is the tree.
-/

namespace Scaffold

/-- Decide whether an error refuses a request. -/
def Error.isRefusal : Error → Bool
  | .request _ => true
  | .run cause =>
      match cause with
      | .projectNotInitialized _ | .projectExists _ | .prerequisiteMissing _ _
      | .selectionCancelled _ => true
      | .toolMissing _ | .commandFailed _ _ _ | .filesystem _ _ | .templateNotFound _
      | .templateLoad _ | .stateStore _ _ | .storeLocked => false
  | .configuration _ | .internal _ => false

/-- Decide whether an error says that a capability is there already, or what it builds on is not
there yet. -/
def Error.isGateRefusal : Error → Bool
  | .request (.alreadyPresent _ _ _) | .run (.prerequisiteMissing _ _) => true
  | _ => false

theorem Error.isRefusal_of_isGateRefusal {e : Error} (h : e.isGateRefusal = true) :
    e.isRefusal = true := by
  unfold isGateRefusal at h
  split at h
  · rfl
  · rfl
  · cases h

/-- The surroundings leave refusals to the requests; the user may refuse to answer. -/
structure Surroundings.Frank (w : Surroundings) : Prop where
  fault : ∀ calls e, w.fault calls = some e → e.isRefusal = false
  tool : ∀ calls e, w.tool calls = .error e → e.isRefusal = false
  answer : ∀ calls e, w.answer calls = .error e → e.isRefusal = true →
    ∃ prompt, e = .run (.selectionCancelled prompt)

theorem frank_still : Surroundings.still.Frank := ⟨nofun, nofun, nofun⟩

/-! ## Computations that never end in some errors -/

section

variable {α β : Type} {P : Error → Bool} {r : Reach}

/-- A computation never ends in an error of a sort. -/
def Never (P : Error → Bool) (x : InScene α) : Prop :=
  ∀ s e s', execute x s = (.error e, s') → P e = false

namespace Never

theorem pure (a : α) : Never P (Pure.pure a : InScene α) := by
  rintro s e s' ⟨⟩

theorem throw {e : Error} (h : P e = false) : Never P (MonadExcept.throw e : InScene α) := by
  rintro s _ s' ⟨⟩
  exact h

theorem lift_except {x : Except Error α} (h : ∀ e, x = .error e → P e = false) :
    Never P (x : InScene α) := by
  intro s e s' hx
  rw [execute_lift_except] at hx
  exact h e (Prod.ext_iff.1 hx).1

theorem bind {x : InScene α} {f : α → InScene β} (hx : Never P x) (hf : ∀ a, Never P (f a)) :
    Never P (x >>= f) := by
  intro s e s' h
  rw [execute_bind] at h
  rcases hrun : execute x s with ⟨e' | a, s₁⟩ <;> rw [hrun] at h
  · cases h
    exact hx s _ _ hrun
  · exact hf a s₁ e s' h

end Never

/-- A computation whose error is looked at. -/
theorem never_attempt {x : InScene α} (hx : Never P x) {f : Except Error α → InScene β}
    (hok : ∀ a, Never P (f (.ok a))) (herror : ∀ e, P e = false → Never P (f (.error e))) :
    Never P (attempt x >>= f) := by
  intro s e s' h
  have hrun : execute (attempt x) s = (.ok (execute x s).1, (execute x s).2) := rfl
  rw [execute_bind, hrun] at h
  rcases hx' : execute x s with ⟨e' | a, s₁⟩ <;> rw [hx'] at h
  · exact herror e' (hx s e' s₁ hx') s₁ e s' h
  · exact hok a s₁ e s' h

/-- Where a computation ends in an error of a sort, it made no call that reaches further than `r`
and altered nothing. -/
def Guarded (P : Error → Bool) (r : Reach) (x : InScene α) : Prop :=
  ∀ s e s', execute x s = (.error e, s') → P e = true → s.Same r s'

namespace Guarded

theorem of_never {x : InScene α} (h : Never P x) : Guarded P r x := by
  intro s e s' hx he
  rw [h s e s' hx] at he
  cases he

theorem of_reads {x : InScene α} (h : Reads r x) : Guarded P r x := by
  intro s e s' hx _
  have hsame := h s
  rwa [hx] at hsame

/-- What only looks may come first. -/
theorem bind {x : InScene α} {f : α → InScene β} (hx : Reads r x) (hf : ∀ a, Guarded P r (f a)) :
    Guarded P r (x >>= f) := by
  intro s e s' h he
  have hfirst := hx s
  rw [execute_bind] at h
  rcases hrun : execute x s with ⟨e' | a, s₁⟩ <;> rw [hrun] at h hfirst
  · cases h
    exact hfirst
  · exact hfirst.trans (hf a s₁ e s' h he)

end Guarded

end

/-! ## The ports -/

/-- Errors of this sort refuse a request. -/
def Refuses (P : Error → Bool) : Prop := ∀ e, P e = true → e.isRefusal = true

theorem Refuses.eq_false {P : Error → Bool} (hP : Refuses P) {e : Error}
    (he : e.isRefusal = false) : P e = false := by
  rw [Bool.eq_false_iff]
  intro h
  rw [hP e h] at he
  cases he

section

variable {w : Surroundings} {P : Error → Bool} (hw : w.Frank) (hP : Refuses P)

include hw hP

theorem never_callOrFail (c : PortCall) : Never P (w.callOrFail c) := by
  intro s e s' h
  rw [execute_callOrFail] at h
  cases hfault : w.fault (s.after c).calls with
  | none =>
      rw [hfault] at h
      cases h
  | some e' =>
      rw [hfault] at h
      cases h
      exact hP.eq_false (hw.fault _ _ hfault)

theorem never_read (path : String) : Never P (w.files.read path) :=
  (never_callOrFail hw hP _).bind fun _ _ _ _ => nofun

theorem never_listFiles (path : String) : Never P (w.files.listFiles path) :=
  (never_callOrFail hw hP _).bind fun _ _ _ _ => nofun

theorem never_createDirs (path : String) : Never P (w.files.createDirs path) :=
  (never_callOrFail hw hP _).bind fun _ _ _ _ => nofun

theorem never_saveDescriptor (root : String) (d : Descriptor) :
    Never P (w.ports.saveDescriptor root d) :=
  (never_callOrFail hw hP _).bind fun _ _ _ _ => nofun

theorem never_saveContainer (c : Container) : Never P (w.ports.saveContainer c) :=
  (never_callOrFail hw hP _).bind fun _ _ _ _ => nofun

theorem never_write (path content : String) : Never P (w.files.write path content) := by
  intro s e s' h
  rw [execute_write] at h
  cases hfault : w.fault (s.after (.write path content)).calls with
  | some e' =>
      rw [hfault] at h
      cases h
      exact hP.eq_false (hw.fault _ _ hfault)
  | none =>
      simp only [hfault, MemoryTree.write] at h
      split at h
      next hwrite => cases h
      next e' hwrite =>
        cases h
        split at hwrite
        · cases hwrite
        · cases hwrite
          exact hP.eq_false rfl

theorem never_runCommand (program : String) (arguments : List String) (dir : String) :
    Never P (w.ports.runCommand program arguments dir) := by
  intro s e s' h
  rw [execute_runCommand] at h
  exact hP.eq_false (hw.tool _ _ (Prod.ext_iff.1 h).1)

/-! ## Tasks -/

theorem never_loadArtifact (path : String) : Never P (loadArtifact w.files path) := by
  refine (never_read hw hP path).bind fun content => ?_
  cases content with
  | none => exact .pure _
  | some text => exact .pure _

theorem never_storeArtifact (a : Artifact) : Never P (storeArtifact w.files a) := by
  unfold storeArtifact
  cases Path.parent a.path with
  | none => exact never_write hw hP _ _
  | some dir => exact (never_createDirs hw hP dir).bind fun _ => never_write hw hP _ _

theorem never_inspect (root : String) (t : Task) : Never P (t.inspect w.files root) := by
  unfold Task.inspect
  cases t.action with
  | file name ctx =>
      intro s e s' h
      rw [execute_bind, execute_pathExists] at h
      cases hpath : s.tree.hasPath (t.path.under root) <;> rw [hpath] at h <;> cases h
  | declare _ _ | importLine _ | clean _ | dependency _ _ _ | reference _ _ =>
      exact never_loadArtifact hw hP _

omit hw

/-- What is decided is no error of the sort if no template is one. -/
theorem decide_error {templates : Templates}
    (ht : ∀ name ctx e, templates name ctx = .error e → P e = false) (current : Artifact)
    (a : Action) {e : Error} (h : a.decide templates current = .error e) : P e = false := by
  obtain ⟨name, ctx, htemplate⟩ | rfl := Action.decide_eq_error h
  · exact ht name ctx e htemplate
  · exact hP.eq_false rfl

include hw

theorem never_performAll {templates : Templates}
    (ht : ∀ name ctx e, templates name ctx = .error e → P e = false) (root : String)
    (ts : List Task) : Never P (performAll w.files templates root ts) := by
  induction ts with
  | nil => exact .pure _
  | cons t ts ih =>
      refine Never.bind ?_ fun step => ih.bind fun steps => .pure _
      refine (never_inspect hw hP root t).bind fun current => ?_
      refine Never.bind (.lift_except fun e => decide_error hP ht current t.action) fun next => ?_
      obtain ⟨outcome, next⟩ := next
      simp only
      split
      · exact (never_storeArtifact hw hP next).bind fun _ => .pure _
      · exact .pure _

/-! ## Checkpoints -/

variable {templates : Templates} {pluralize : String → String}

theorem never_runTool (root : String) (arguments : List String) :
    Never P (runTool (w.portsWith templates pluralize) root arguments) := by
  refine never_attempt (never_runCommand hw hP _ _ _) (fun output => ?_) fun e he => ?_
  · simp only
    split <;> exact .pure _
  · cases e with
    | run cause =>
        simp only
        split
        · exact .pure _
        · exact .throw he
    | request _ | configuration _ | internal _ => exact .throw he

theorem never_runCheckpoints (options : Options) (root : String) (l : Locator) (o : Order) :
    Never P (o.runCheckpoints (w.portsWith templates pluralize) options root l) :=
  Order.runCheckpoints_ind (motive := fun x => Never P x) Never.pure Never.bind
    (never_runTool hw hP root) (never_listFiles hw hP) options o

/-! ## Stores -/

theorem never_commitDescriptor (root : String) (loaded changed : Descriptor) :
    Never P (commitDescriptor (w.portsWith templates pluralize) root loaded changed) := by
  unfold commitDescriptor
  split
  · exact .pure _
  · exact Never.bind (fun _ _ _ => nofun) fun now => never_saveDescriptor hw hP root _

theorem never_recordContainer (o : Order) :
    Never P (o.recordContainer (w.portsWith templates pluralize)) :=
  o.recordContainer_ind (motive := fun x => Never P x) (.pure _) (never_saveContainer hw hP)

/-! ## Orders -/

/-- An order that is prepared is not refused any more. -/
theorem Order.never_finish (ht : ∀ name ctx e, templates name ctx = .error e → P e = false)
    (options : Options) (root : String) (loaded : Descriptor) (o : Order) (p : Prepared) :
    Never P (o.finish (w.portsWith templates pluralize) options root loaded p) := by
  refine (never_performAll hw hP ht root _).bind fun steps => ?_
  refine Never.bind ?_ fun _ => Never.bind ?_ fun checkpoints => ?_
  · exact never_recordContainer hw hP o
  · exact never_runCheckpoints hw hP options root _ o
  · exact (never_commitDescriptor hw hP root _ _).bind fun _ => .pure _

end

/-! ## What comes first -/

section

variable {w : Surroundings} {templates : Templates} {pluralize : String → String} {r : Reach}

theorem reads_requireDescriptor (root : String) :
    Reads r (requireDescriptor (w.portsWith templates pluralize) root) := by
  refine (reads_loadDescriptor w root).bind fun d => ?_
  cases d with
  | none => exact .throw _
  | some d => exact .pure _

theorem reads_siteOf (d : Descriptor) : Reads r (siteOf (w.portsWith templates pluralize) d) :=
  (reads_now w).bind fun _ => .pure _

theorem reads_settleProvider (hr : .ask ≤ r) (d : Descriptor) :
    Reads r (settleProvider (w.portsWith templates pluralize) d) := by
  unfold settleProvider
  cases d.provider with
  | some provider => exact .pure _
  | none =>
      refine (reads_choose w hr _ _).bind fun index => ?_
      split
      · exact .pure _
      · exact .throw _

theorem reads_loadArtifact (path : String) : Reads r (loadArtifact w.files path) := by
  refine (reads_read w path).bind fun content => ?_
  cases content with
  | none => exact .pure _
  | some text => exact .pure _

theorem reads_requireEntity (root : String) (l : Locator) (f : Feature) :
    Reads r (requireEntity w.files root l f) := by
  refine Reads.bind (reads_pathExists w _) fun found => ?_
  cases found with
  | true => exact .pure _
  | false => exact .throw _

theorem reads_requireUnexposed (root : String) (l : Locator) (f : Feature) (entry : Entrypoint) :
    Reads r (requireUnexposed w.files root l f entry) := by
  refine (reads_loadArtifact _).bind fun file => ?_
  simp only
  split
  · exact .throw _
  · exact .pure _

theorem reads_requireUnregistered (root : String) (l : Locator) (p : Placement) (name : String) :
    Reads r (requireUnregistered w.files root l p name) := by
  refine (reads_loadArtifact _).bind fun file => ?_
  simp only
  split
  · exact .throw _
  · exact .pure _

theorem Order.reads_gates (root : String) (l : Locator) (o : Order) :
    Reads r (o.gates (w.portsWith templates pluralize) root l) := by
  cases o with
  | crud f => exact .pure _
  | action f a => exact (reads_requireEntity root l f).bind fun _ => reads_requireUnexposed root l f _
  | service p name lifetime =>
      have hname : Reads r (requireUnregistered w.files root l p name) :=
        reads_requireUnregistered root l p name
      cases p with
      | featureLocal f => exact (reads_requireEntity root l f).bind fun _ => hname
      | shared | external _ => exact hname
  | constant f name =>
      cases f with
      | none => exact .pure _
      | some f => exact reads_requireEntity root l f
  | enum f name => exact reads_requireEntity root l f

/-- An order is prepared without touching anything. -/
theorem Order.reads_prepare (hr : .ask ≤ r) (root : String) (loaded : Descriptor) (o : Order) :
    Reads r (o.prepare (w.portsWith templates pluralize) root loaded) := by
  have hgated : Reads r (do
      let site ← siteOf (w.portsWith templates pluralize) loaded
      o.gates (w.portsWith templates pluralize) root site.locator
      return (⟨.postgres, loaded, site⟩ : Prepared)) :=
    (reads_siteOf loaded).bind fun site => (o.reads_gates root site.locator).bind fun _ => .pure _
  cases o with
  | crud f =>
      exact (reads_settleProvider hr loaded).bind fun settled => (reads_siteOf _).bind fun _ => .pure _
  | action f a =>
      exact (reads_siteOf loaded).bind fun site => (Order.reads_gates root site.locator _).bind
        fun _ => (reads_settleProvider hr loaded).bind fun settled => .pure _
  | service _ _ _ | constant _ _ | enum _ _ => exact hgated

end

/-! ## Refused requests -/

section

variable {w : Surroundings} {templates : Templates} {pluralize : String → String}

/-- A request that is refused only looked and asked. -/
theorem Change.guarded (hw : w.Frank)
    (ht : ∀ name ctx e, templates name ctx = .error e → e.isRefusal = false) (options : Options)
    (root : String) (c : Change) :
    Guarded Error.isRefusal .ask (c.make (w.portsWith templates pluralize) options root) := by
  rw [Change.make_eq]
  refine Guarded.bind (.lift_except _) fun o => Guarded.bind (reads_requireDescriptor root)
    fun loaded => Guarded.bind (o.reads_prepare (Reach.le_refl _) root loaded) fun p => ?_
  exact .of_never (o.never_finish hw (fun _ h => h) ht options root loaded p)

/-- The user is asked only after the gates. -/
theorem never_settleProvider (hw : w.Frank) (d : Descriptor) :
    Never Error.isGateRefusal (settleProvider (w.portsWith templates pluralize) d) := by
  unfold settleProvider
  cases d.provider with
  | some provider => exact .pure _
  | none =>
      refine Never.bind (fun s e s' h => ?_) fun index => ?_
      · rw [execute_choose] at h
        rw [Bool.eq_false_iff]
        intro hgate
        obtain ⟨prompt, rfl⟩ :=
          hw.answer _ e (Prod.ext_iff.1 h).1 (Error.isRefusal_of_isGateRefusal hgate)
        cases hgate
      · split
        · exact .pure _
        · exact .throw rfl

/-- A request that is refused at a gate only looked; the user was not asked. -/
theorem Change.guarded_gates (hw : w.Frank)
    (ht : ∀ name ctx e, templates name ctx = .error e → e.isRefusal = false) (options : Options)
    (root : String) (c : Change) :
    Guarded Error.isGateRefusal .look (c.make (w.portsWith templates pluralize) options root) := by
  have hP : Refuses Error.isGateRefusal := fun _ h => Error.isRefusal_of_isGateRefusal h
  rw [Change.make_eq]
  refine Guarded.bind (.lift_except _) fun o => Guarded.bind (reads_requireDescriptor root)
    fun loaded => ?_
  have hfinish : ∀ p, Never Error.isGateRefusal
      (o.finish (w.portsWith templates pluralize) options root loaded p) :=
    o.never_finish hw hP (fun name ctx e h => hP.eq_false (ht name ctx e h)) options root loaded
  have hgated : Guarded Error.isGateRefusal .look (do
      let site ← siteOf (w.portsWith templates pluralize) loaded
      o.gates (w.portsWith templates pluralize) root site.locator
      o.finish (w.portsWith templates pluralize) options root loaded ⟨.postgres, loaded, site⟩) :=
    Guarded.bind (reads_siteOf loaded) fun site =>
      Guarded.bind (o.reads_gates root site.locator) fun _ => .of_never (hfinish _)
  unfold Order.prepare
  cases o with
  | crud f =>
      simp only [bind_assoc, pure_bind]
      exact .of_never ((never_settleProvider hw loaded).bind fun settled =>
        Never.bind (fun _ _ _ => nofun) fun site => hfinish _)
  | action f a =>
      simp only [bind_assoc, pure_bind]
      exact Guarded.bind (reads_siteOf loaded) fun site =>
        Guarded.bind (Order.reads_gates root site.locator _) fun _ =>
          .of_never ((never_settleProvider hw loaded).bind fun settled => hfinish _)
  | service _ _ _ | constant _ _ | enum _ _ =>
      simp only [bind_assoc, pure_bind]
      exact hgated

/-- A project that is refused only was looked for. -/
theorem guarded_initProject (hw : w.Frank) (root name : String) (style : Exposure)
    (provider : Option Provider) : Guarded Error.isRefusal .ask
      (initProject (w.portsWith templates pluralize) root name style provider) := by
  refine Guarded.bind (reads_loadDescriptor w root) fun d => ?_
  simp only
  split
  · exact .of_reads (.throw _)
  · refine Guarded.bind (reads_freshId w) fun id => Guarded.bind (reads_now w) fun now =>
      Guarded.bind (.lift_except _) fun created => .of_never ?_
    exact (never_saveDescriptor hw (fun _ h => h) root created).bind fun _ => .pure _

/-- **Where a request is refused, nothing was touched**: no file or directory, neither store, and no
command was run.  Where it is refused at a gate the user was not asked either.  The tree, the
descriptor, the templates and the plurals are arbitrary. -/
theorem refused_untouched (hw : w.Frank)
    (ht : ∀ name ctx e, templates name ctx = .error e → e.isRefusal = false) (root : String)
    (s s' : Scene) (e : Error) :
    (∀ name style provider,
      execute (initProject (w.portsWith templates pluralize) root name style provider) s
        = (.error e, s') → e.isRefusal = true → s.Same .ask s')
    ∧ (∀ (c : Change) options,
      execute (c.make (w.portsWith templates pluralize) options root) s = (.error e, s') →
      (e.isRefusal = true → s.Same .ask s') ∧ (e.isGateRefusal = true → s.Same .look s')) :=
  ⟨fun name style provider h => guarded_initProject hw root name style provider s e s' h,
    fun c options h => ⟨Change.guarded hw ht options root c s e s' h,
      Change.guarded_gates hw ht options root c s e s' h⟩⟩

/-- A request without a name touches nothing. -/
theorem refused_untouched_unnamed : ∃ e s',
    execute ((Change.crud ⟨""⟩).make (Surroundings.still.portsWith (fun _ _ => .ok "") id) {} "/work")
      ⟨{}, none, none, []⟩ = (.error e, s')
    ∧ e.isRefusal = true ∧ Scene.Same .ask ⟨{}, none, none, []⟩ s' := by
  have hmake : execute ((Change.crud ⟨""⟩).make
      (Surroundings.still.portsWith (fun _ _ => .ok "") id) {} "/work") ⟨{}, none, none, []⟩
      = (.error (.request (.missingField "entity")), ⟨{}, none, none, []⟩) := rfl
  have htemplates : ∀ name ctx e, (fun _ _ => .ok "" : Templates) name ctx = .error e →
      e.isRefusal = false := by
    rintro _ _ _ ⟨⟩
  exact ⟨_, _, hmake, rfl,
    ((refused_untouched frank_still htemplates "/work" _ _ _).2 _ _ hmake).1 rfl⟩

end

end Scaffold
