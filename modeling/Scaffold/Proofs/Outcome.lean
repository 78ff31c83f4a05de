import Mathlib
import Scaffold.Proofs.Gate

/-!
# How requests end

A request that is prepared has passed its gates and has a provider if it needs one
(`Order.execute_prepare`).  Finishing it carries out its tasks, or the first of them if a call fails,
and only one that ends well changes the descriptor (`Order.finish_outcome`).  An order whose tasks
all rest and that records nothing new is finished without altering anything (`Order.finish_rests`).

The build tool may change files that are not of the project, so contents are compared but for a set
of places it keeps to.
-/

namespace Scaffold

open Scaffold.Path (components)

/-- The layout of the project of a descriptor. -/
def Descriptor.locator (d : Descriptor) : Locator := ⟨d.name, d.style⟩

/-! ## Computations beside the project -/

section

variable {α β : Type}

/-- A computation that keeps the stores, the files of the project and all others but for some
places. -/
def Keeps (T : Set (List Component)) (l : Locator) (root : String) (x : InScene α) : Prop :=
  ∀ s : Scene, s.tree.Sound l root →
    (execute x s).2.descriptor = s.descriptor ∧ (execute x s).2.tree.Sound l root
      ∧ Files.AgreeOff T (execute x s).2.tree.content s.tree.content

/-- A computation that does not end in an error. -/
def Total (x : InScene α) : Prop := ∀ s, ∃ a, (execute x s).1 = .ok a

variable {T : Set (List Component)} {l : Locator} {root : String}

namespace Keeps

theorem of_reads {r : Reach} {x : InScene α} (h : Reads r x) : Keeps T l root x := by
  intro s hs
  have hsame := h s
  exact ⟨hsame.descriptor, hsame.tree.symm ▸ hs, .of_eq (congrArg MemoryTree.content hsame.tree)⟩

theorem pure (a : α) : Keeps T l root (Pure.pure a : InScene α) := .of_reads (.pure (r := .look) a)

theorem bind {x : InScene α} {f : α → InScene β} (hx : Keeps T l root x)
    (hf : ∀ a, Keeps T l root (f a)) : Keeps T l root (x >>= f) := by
  intro s hs
  obtain ⟨hdescriptor, hsound, hagree⟩ := hx s hs
  rw [execute_bind]
  rcases hrun : execute x s with ⟨e | a, s₁⟩ <;> rw [hrun] at hdescriptor hsound hagree
  · exact ⟨hdescriptor, hsound, hagree⟩
  · obtain ⟨hdescriptor', hsound', hagree'⟩ := hf a s₁ hsound
    exact ⟨hdescriptor'.trans hdescriptor, hsound', hagree'.trans hagree⟩

end Keeps

namespace Total

theorem pure (a : α) : Total (Pure.pure a : InScene α) := fun _ => ⟨a, rfl⟩

theorem bind {x : InScene α} {f : α → InScene β} (hx : Total x) (hf : ∀ a, Total (f a)) :
    Total (x >>= f) := by
  intro s
  obtain ⟨a, ha⟩ := hx s
  rw [execute_bind]
  rcases hrun : execute x s with ⟨e | a', s₁⟩ <;> rw [hrun] at ha
  · cases ha
  · exact hf a' s₁

end Total

/-- A computation that is looked at whether it fails. -/
theorem execute_attempt (x : InScene α) (s : Scene) :
    execute (attempt x) s = (.ok (execute x s).1, (execute x s).2) := rfl

end

/-! ## Checkpoints -/

section

variable {w : Surroundings} {T : Set (List Component)} {l : Locator} {root : String}

theorem keeps_runTool (hw : w.Within T) (hT : Apart l root T) (arguments : List String) :
    Keeps T l root (runTool w.ports root arguments) := by
  refine Keeps.bind (fun s hs => ?_) fun result => ?_
  · rw [execute_attempt, execute_runCommand]
    obtain ⟨hsound, hagree⟩ := hs.within hw hT
      (s.after (.command buildTool arguments root)).calls
    exact ⟨rfl, hsound, hagree⟩
  · rcases result with (_ | cause | _ | _) | output
    · exact .of_reads (.throw (r := .look) _)
    · simp only
      split
      · exact .pure _
      · exact .of_reads (.throw (r := .look) _)
    · exact .of_reads (.throw (r := .look) _)
    · exact .of_reads (.throw (r := .look) _)
    · simp only
      split <;> exact .pure _

theorem reads_runTool (hw : w.Idle) (arguments : List String) :
    Reads .run (runTool w.ports root arguments) := by
  refine Reads.bind (fun s => ?_) fun result => ?_
  · rw [execute_attempt, execute_runCommand]
    have hsame : s.Same .run (s.after (.command buildTool arguments root)) := .after s (Reach.le_refl _)
    exact ⟨hw _ _, hsame.descriptor, hsame.container, hsame.calls⟩
  · rcases result with (_ | cause | _ | _) | output
    · exact .throw _
    · simp only
      split
      · exact .pure _
      · exact .throw _
    · exact .throw _
    · exact .throw _
    · simp only
      split <;> exact .pure _

theorem total_runTool (hw : w.Calm) (arguments : List String) :
    Total (runTool w.ports root arguments) := by
  intro s
  rw [runTool, execute_bind, execute_attempt, execute_runCommand]
  cases htool : w.tool (s.after (.command buildTool arguments root)).calls with
  | ok output =>
      simp only [htool]
      split <;> exact ⟨_, rfl⟩
  | error e =>
      obtain ⟨cause, rfl, hcause⟩ := hw.tool _ _ htool
      simp only [htool, hcause, if_true]
      exact ⟨_, rfl⟩

theorem total_listFiles (hw : w.Calm) (path : String) : Total (w.files.listFiles path) := by
  intro s
  rw [execute_listFiles, hw.fault]
  exact ⟨_, rfl⟩

/-! ## Preparing -/

/-- The provider of a project, by what the user answers if it has none. -/
def Descriptor.settleBy (d : Descriptor) (answer : Except Error Nat) :
    Except Error (Provider × Descriptor) :=
  match d.provider with
  | some provider => .ok (provider, d)
  | none =>
      match answer with
      | .error e => .error e
      | .ok index =>
          match Provider.all[index]? with
          | some provider => .ok (provider, { d with provider := some provider })
          | none => .error (.run (.selectionCancelled providerPrompt))

/-- A provider that is settled is the one the project had, if it had one. -/
theorem Descriptor.settleBy_eq_ok {d d' : Descriptor} {answer : Except Error Nat} {p : Provider}
    (h : d.settleBy answer = .ok (p, d')) :
    d' = { d with provider := some p } ∧ ∀ q ∈ d.provider, q = p := by
  unfold settleBy at h
  cases hprovider : d.provider with
  | some q =>
      simp only [hprovider, Except.ok.injEq, Prod.mk.injEq] at h
      obtain ⟨rfl, rfl⟩ := h
      refine ⟨?_, by simp⟩
      rw [← hprovider]
  | none =>
      simp only [hprovider] at h
      split at h
      · cases h
      · split at h
        · cases h
          exact ⟨rfl, by simp⟩
        · cases h

/-- The user always answers the same. -/
def Surroundings.Answers (w : Surroundings) (answer : Except Error Nat) : Prop :=
  ∀ calls, w.answer calls = answer

theorem Surroundings.Answers.eq {answer given : Except Error Nat} (h : w.Answers answer)
    (hgiven : ∃ calls, w.answer calls = given) : given = answer := by
  obtain ⟨calls, rfl⟩ := hgiven
  exact h calls

theorem execute_settleProvider (templates : Templates) (pluralize : String → String) (d : Descriptor)
    (s : Scene) : ∃ answer s', execute (settleProvider (w.portsWith templates pluralize) d) s
        = (d.settleBy answer, s') ∧ s.Same .ask s'
      ∧ ∃ calls, w.answer calls = answer := by
  unfold settleProvider Descriptor.settleBy
  cases d.provider with
  | some provider =>
      exact ⟨w.answer [], s, rfl, .refl _ s, [], rfl⟩
  | none =>
      have hsame : s.Same .ask (s.after (.choose providerPrompt (Provider.all.map Provider.spelling))) :=
        .after s (Reach.le_refl _)
      refine ⟨w.answer (s.after (.choose providerPrompt (Provider.all.map Provider.spelling))).calls,
        _, ?_, hsame, _, rfl⟩
      simp only
      rw [execute_bind, execute_choose]
      cases w.answer _ with
      | error e => rfl
      | ok index =>
          cases hindex : Provider.all[index]? <;> simp only [hindex] <;> rfl

namespace Order

/-- The provider an order is carried out with, and the descriptor that has it, follow from the
descriptor that was loaded and the user's answer. -/
structure Settles (o : Order) (loaded : Descriptor) (answer : Except Error Nat)
    (provider : Provider) (settled : Descriptor) : Prop where
  needed : o.needsProvider = true → loaded.settleBy answer = .ok (provider, settled)
  idle : o.needsProvider = false → settled = loaded

/-- Decide whether the provider an order needs can be settled. -/
def Settled (o : Order) (loaded : Descriptor) (answer : Except Error Nat) : Prop :=
  o.needsProvider = true → ∃ p, loaded.settleBy answer = .ok p

theorem execute_siteOf (d : Descriptor) (s : Scene) :
    ∃ year s', execute (siteOf w.ports d) s = (.ok ⟨d.locator, year⟩, s') ∧ s.Same .look s' :=
  ⟨_, _, rfl, .after s (Reach.look_le _)⟩

/-- How an order is prepared: it is admitted and its provider is settled, or it is refused. -/
structure Prepares (w : Surroundings) (root : String) (s : Scene) (loaded : Descriptor) (o : Order)
    (answer : Except Error Nat) (out : Except Error Prepared × Scene) : Prop where
  same : s.Same .ask out.2
  ended : ∀ p, out.1 = .ok p → o.Admitted loaded.locator root s.tree.content
    ∧ p.site.locator = loaded.locator ∧ o.Settles loaded answer p.provider p.settled
  calm : w.Calm → o.Admitted loaded.locator root s.tree.content → o.Settled loaded answer →
    ∃ p, out.1 = .ok p
  refused : w.Calm → o.Grounded loaded.locator root s.tree.content →
    ¬ o.Novel loaded.locator root s.tree.content →
    ∃ capability artifact key,
      out.1 = .error (.request (.alreadyPresent capability artifact key))
  /-- What the user answered. -/
  answer : ∃ calls, w.answer calls = answer

namespace Prepares

variable {s s' : Scene} {loaded : Descriptor} {o : Order} {answer : Except Error Nat}

/-- An order that a gate stops. -/
theorem of_gate {e : Error} (hsame : s.Same .look s') (hanswer : ∃ calls, w.answer calls = answer)
    (hpass : w.Calm → o.Admitted loaded.locator root s.tree.content →
      (.error e : Except Error Unit) = .ok ())
    (hrefuse : w.Calm → o.Grounded loaded.locator root s.tree.content →
      ¬ o.Novel loaded.locator root s.tree.content → ∃ capability artifact key,
        (.error e : Except Error Unit) = .error (.request (.alreadyPresent capability artifact key))) :
    o.Prepares w root s loaded answer (.error e, s') where
  same := hsame.mono (Reach.look_le _)
  ended := nofun
  calm hcalm h := nomatch hpass hcalm h
  refused hcalm hg hn := by
    obtain ⟨capability, artifact, key, h⟩ := hrefuse hcalm hg hn
    cases h
    exact ⟨capability, artifact, key, rfl⟩
  answer := hanswer

/-- An admitted order whose provider cannot be settled. -/
theorem of_unsettled {e : Error} (hsame : s.Same .ask s') (hanswer : ∃ calls, w.answer calls = answer)
    (hadmitted : o.Admitted loaded.locator root s.tree.content) (hneeded : o.needsProvider = true)
    (hset : loaded.settleBy answer = .error e) :
    o.Prepares w root s loaded answer (.error e, s') where
  same := hsame
  ended := nofun
  calm _ _ h := by
    obtain ⟨p, hp⟩ := h hneeded
    rw [hset] at hp
    cases hp
  refused _ _ h := absurd hadmitted.novel h
  answer := hanswer

/-- An admitted order whose provider is settled. -/
theorem of_settled {p : Prepared} (hsame : s.Same .ask s') (hanswer : ∃ calls, w.answer calls = answer)
    (hadmitted : o.Admitted loaded.locator root s.tree.content)
    (hsite : p.site.locator = loaded.locator) (hsettles : o.Settles loaded answer p.provider p.settled) :
    o.Prepares w root s loaded answer (.ok p, s') where
  same := hsame
  ended := by
    rintro _ ⟨⟩
    exact ⟨hadmitted, hsite, hsettles⟩
  calm _ _ _ := ⟨p, rfl⟩
  refused _ _ h := absurd hadmitted.novel h
  answer := hanswer

end Prepares

section

variable {loaded : Descriptor} {s : Scene} {o : Order} {f : Feature} {a : ActionRequest}

/-- An order that needs no provider only has to pass its gates. -/
theorem execute_prepare_idle (hneeds : o.needsProvider = false)
    (hs : s.tree.Sound loaded.locator root) (ho : o.WellNamed) :
    o.Prepares w root s loaded (w.answer []) (execute (o.prepare w.ports root loaded) s) := by
  have hprepare : o.prepare w.ports root loaded = (do
      let site ← siteOf w.ports loaded
      o.gates w.ports root site.locator
      return ⟨.postgres, loaded, site⟩) := by
    cases o with
    | crud _ | action _ _ => cases hneeds
    | service _ _ _ | constant _ _ | enum _ _ => rfl
  obtain ⟨year, s₁, hsite, hsame₁⟩ := execute_siteOf (w := w) loaded s
  obtain ⟨r, s₂, hgates, hsame₂, hadmitted, hpass, hrefuse⟩ :=
    Order.execute_gates (w := w) (s := s₁) (hsame₁.tree ▸ hs) ho
  rw [hsame₁.tree] at hadmitted hpass hrefuse
  have hsame := hsame₁.trans hsame₂
  rw [hprepare, execute_bind, hsite]
  simp only
  rw [execute_bind, hgates]
  cases r with
  | error e => exact .of_gate hsame ⟨[], rfl⟩ hpass hrefuse
  | ok _ =>
      refine .of_settled (hsame.mono (Reach.look_le _)) ⟨[], rfl⟩ (hadmitted rfl) rfl
        ⟨fun h => ?_, fun _ => rfl⟩
      rw [hneeds] at h
      cases h

/-- A feature has no gate to pass, and its provider is settled before its site is looked up. -/
theorem execute_prepare_crud : ∃ answer, (Order.crud f).Prepares w root s loaded answer
    (execute ((Order.crud f).prepare w.ports root loaded) s) := by
  have hadmitted : (Order.crud f).Admitted loaded.locator root s.tree.content :=
    ⟨by rintro _ ⟨⟩, by rintro _ ⟨⟩⟩
  obtain ⟨answer, s₁, hsettle, hsame₁, hanswer⟩ := execute_settleProvider (w := w) _ _ loaded s
  refine ⟨answer, ?_⟩
  rw [prepare, execute_bind, hsettle]
  cases hset : loaded.settleBy answer with
  | error e => exact .of_unsettled hsame₁ hanswer hadmitted rfl hset
  | ok settled =>
      obtain ⟨provider, settled⟩ := settled
      obtain ⟨rfl, -⟩ := Descriptor.settleBy_eq_ok hset
      obtain ⟨year, s₂, hsite, hsame₂⟩ :=
        execute_siteOf (w := w) { loaded with provider := some provider } s₁
      simp only
      rw [execute_bind, hsite]
      exact .of_settled (hsame₁.trans (hsame₂.mono (Reach.look_le _))) hanswer hadmitted rfl
        ⟨fun _ => hset, fun h => by cases h⟩

/-- An action passes its gates before its provider is settled. -/
theorem execute_prepare_action (hs : s.tree.Sound loaded.locator root)
    (ho : (Order.action f a).WellNamed) :
    ∃ answer, (Order.action f a).Prepares w root s loaded answer
      (execute ((Order.action f a).prepare w.ports root loaded) s) := by
  obtain ⟨year, s₁, hsite, hsame₁⟩ := execute_siteOf (w := w) loaded s
  obtain ⟨r, s₂, hgates, hsame₂, hadmitted, hpass, hrefuse⟩ :=
    Order.execute_gates (w := w) (s := s₁) (hsame₁.tree ▸ hs) ho
  rw [hsame₁.tree] at hadmitted hpass hrefuse
  have hsame := hsame₁.trans hsame₂
  obtain ⟨answer, s₃, hsettle, hsame₃, hanswer⟩ := execute_settleProvider (w := w) _ _ loaded s₂
  have hsame' := (hsame.mono (Reach.look_le _)).trans hsame₃
  refine ⟨answer, ?_⟩
  rw [prepare, execute_bind, hsite]
  simp only
  rw [execute_bind, hgates]
  cases r with
  | error e => exact .of_gate hsame hanswer hpass hrefuse
  | ok _ =>
      simp only
      rw [execute_bind, hsettle]
      cases hset : loaded.settleBy answer with
      | error e => exact .of_unsettled hsame' hanswer (hadmitted rfl) rfl hset
      | ok settled =>
          exact .of_settled hsame' hanswer (hadmitted rfl) rfl
            ⟨fun _ => hset, fun h => by cases h⟩

theorem execute_prepare (hs : s.tree.Sound loaded.locator root) (ho : o.WellNamed) :
    ∃ answer, o.Prepares w root s loaded answer (execute (o.prepare w.ports root loaded) s) := by
  cases o with
  | crud f => exact execute_prepare_crud
  | action f a => exact execute_prepare_action hs ho
  | service _ _ _ | constant _ _ | enum _ _ => exact ⟨_, execute_prepare_idle rfl hs ho⟩

end

/-- An order is prepared for the project that was loaded, and its descriptor has a provider that is
the one it had, if it had one. -/
theorem prepare_settled {templates : Templates} {pluralize : String → String} {loaded : Descriptor}
    {o : Order} {s s' : Scene} {p : Prepared}
    (h : execute (o.prepare (w.portsWith templates pluralize) root loaded) s = (.ok p, s')) :
    ∃ provider, p.site.locator = loaded.locator
      ∧ p.settled = { loaded with provider := provider }
      ∧ ∀ q ∈ loaded.provider, provider = some q := by
  have hsettle : ∀ {s s' : Scene} {settled : Provider × Descriptor},
      execute (settleProvider (w.portsWith templates pluralize) loaded) s = (.ok settled, s') →
      ∃ provider, settled.2 = { loaded with provider := provider }
        ∧ ∀ q ∈ loaded.provider, provider = some q := by
    intro s s' settled hrun
    obtain ⟨answer, s₁, hrun', -, -⟩ := execute_settleProvider (w := w) templates pluralize
      loaded s
    have hset := (Prod.ext_iff.1 (hrun'.symm.trans hrun)).1
    obtain ⟨heq, hsame⟩ := Descriptor.settleBy_eq_ok hset
    exact ⟨some settled.1, heq, fun q hq => congrArg some (hsame q hq).symm⟩
  have hsite : ∀ {d : Descriptor} {s s' : Scene} {site : Site},
      execute (siteOf (w.portsWith templates pluralize) d) s = (.ok site, s') →
      site.locator = d.locator := by
    rintro d s s' site ⟨⟩
    rfl
  unfold prepare at h
  cases o with
  | crud f =>
      obtain ⟨settled, s₁, hrun, h⟩ := execute_bind_eq_ok h
      obtain ⟨site, s₂, hrun', h⟩ := execute_bind_eq_ok h
      obtain ⟨provider, hsettled, hkept⟩ := hsettle hrun
      have hlocator := hsite hrun'
      rw [hsettled] at hlocator
      cases h
      exact ⟨provider, hlocator, hsettled, hkept⟩
  | action f r =>
      obtain ⟨site, s₁, hrun', h⟩ := execute_bind_eq_ok h
      obtain ⟨_, s₂, -, h⟩ := execute_bind_eq_ok h
      obtain ⟨settled, s₃, hrun, h⟩ := execute_bind_eq_ok h
      obtain ⟨provider, hsettled, hkept⟩ := hsettle hrun
      cases h
      exact ⟨provider, hsite hrun', hsettled, hkept⟩
  | service _ _ _ | constant _ _ | enum _ _ =>
      obtain ⟨site, s₁, hrun', h⟩ := execute_bind_eq_ok h
      obtain ⟨_, s₂, -, h⟩ := execute_bind_eq_ok h
      cases h
      exact ⟨loaded.provider, hsite hrun', rfl, fun q hq => hq⟩

end Order

/-! ## Committing -/

/-- The same descriptor, but for the time of its last change. -/
def Descriptor.Alike (d d' : Descriptor) : Prop := d.touch d'.updatedAt = d'

/-- A descriptor is saved if it changed, and only then. -/
theorem execute_commitDescriptor (root : String) (loaded changed : Descriptor) (s : Scene)
    (hs : s.descriptor = some loaded) :
    ∃ r s', execute (commitDescriptor w.ports root loaded changed) s = (r, s') ∧ s'.tree = s.tree
      ∧ (∀ e, r = .error e → s'.descriptor = s.descriptor)
      ∧ (r = .ok () → ∃ d, s'.descriptor = some d ∧ changed.Alike d)
      ∧ (w.Calm → r = .ok ())
      ∧ (changed = loaded → s.Same .look s' ∧ r = .ok ()) := by
  unfold commitDescriptor
  by_cases hsame : changed = loaded
  · rw [if_pos hsame]
    exact ⟨_, _, rfl, rfl, nofun, fun _ => ⟨loaded, hs, hsame ▸ rfl⟩, fun _ => rfl,
      fun _ => ⟨.refl _ s, rfl⟩⟩
  · rw [if_neg hsame, execute_bind, execute_now]
    simp only
    rw [execute_saveDescriptor]
    cases hfault : w.fault _ with
    | some e =>
        refine ⟨_, _, rfl, rfl, fun _ _ => rfl, nofun, fun hcalm => ?_, fun h => absurd h hsame⟩
        rw [hcalm.fault] at hfault
        cases hfault
    | none =>
        exact ⟨_, _, rfl, rfl, nofun, fun _ => ⟨_, rfl, rfl⟩, fun _ => rfl,
          fun h => absurd h hsame⟩

/-! ## Finishing -/

namespace Order

variable {l : Locator}

theorem keeps_recordContainer (o : Order) : Keeps T l root (o.recordContainer w.ports) := by
  refine recordContainer_ind (motive := fun x => Keeps T l root x) (.pure _) (fun c s hs => ?_) o
  rw [execute_saveContainer]
  cases w.fault (s.after (.saveContainer c)).calls <;> exact ⟨rfl, hs, .refl T _⟩

theorem total_recordContainer {templates : Templates} {pluralize : String → String} (hw : w.Calm)
    (o : Order) : Total (o.recordContainer (w.portsWith templates pluralize)) := by
  refine recordContainer_ind (motive := fun x => Total x) (.pure _) (fun c s => ?_) o
  rw [execute_saveContainer, hw.fault]
  exact ⟨_, rfl⟩

theorem keeps_runCheckpoints (hw : w.Within T) (hT : Apart l root T) (options : Options)
    (l' : Locator) (o : Order) : Keeps T l root (o.runCheckpoints w.ports options root l') :=
  runCheckpoints_ind (motive := fun x => Keeps T l root x) Keeps.pure Keeps.bind
    (keeps_runTool hw hT) (fun path => .of_reads (reads_listFiles (r := .look) w path)) options o

theorem total_runCheckpoints (hw : w.Calm) (root : String) (options : Options) (l' : Locator) (o : Order) :
    Total (o.runCheckpoints w.ports options root l') :=
  runCheckpoints_ind (motive := fun x => Total x) Total.pure Total.bind (total_runTool hw)
    (total_listFiles hw) options o

theorem reads_runCheckpoints (hw : w.Idle) (root : String) (options : Options) (l' : Locator) (o : Order) :
    Reads .run (o.runCheckpoints w.ports options root l') :=
  runCheckpoints_ind (motive := fun x => Reads .run x) Reads.pure Reads.bind (reads_runTool hw)
    (reads_listFiles w) options o

/-- How an order ends that was finished: its tasks were carried out, or the first of them if a call
failed, and then the descriptor is as it was. -/
structure Finishes (w : Surroundings) (T : Set (List Component)) (root : String) (s : Scene)
    (loaded : Descriptor) (o : Order) (p : Prepared) (out : Except Error Report × Scene) : Prop where
  sound : out.2.tree.Sound loaded.locator root
  content : ∃ k, out.2.tree.content.AgreeOff T
    (carryAll root s.tree.content ((o.plan p.site p.provider).take k))
  failed : ∀ e, out.1 = .error e → out.2.descriptor = s.descriptor
  ended : ∀ report, out.1 = .ok report →
    out.2.tree.content.AgreeOff T (carryAll root s.tree.content (o.plan p.site p.provider))
    ∧ ∃ d, out.2.descriptor = some d ∧ (o.record p.settled).Alike d
  calm : w.Calm → ∃ report, out.1 = .ok report

theorem plan_belongs_of_site {loaded : Descriptor} (hl : IsProject loaded.name) {o : Order}
    (ho : o.WellNamed) {p : Prepared} (hp : p.site.locator = loaded.locator) :
    ∀ t ∈ o.plan p.site p.provider, t.Belongs loaded.locator := by
  rw [← hp]
  refine Order.plan_belongs ?_ ho p.provider
  rw [Site.project, hp]
  exact hl

theorem finish_outcome {loaded : Descriptor} (hl : IsProject loaded.name)
    (hT : Apart loaded.locator root T) (hw : w.Within T) {s : Scene}
    (hs : s.tree.Sound loaded.locator root) (hdescriptor : s.descriptor = some loaded)
    {o : Order} (ho : o.WellNamed) {p : Prepared} (hp : p.site.locator = loaded.locator)
    (options : Options) :
    o.Finishes w T root s loaded p (execute (o.finish w.ports options root loaded p) s) := by
  have hbelongs := o.plan_belongs_of_site hl ho hp
  have hcarried := performAll_carries (w := w) hl hbelongs hs
  -- a call that fails after the last task leaves what the tasks left
  have hfail : ∀ {s' : Scene} (e : Error), s'.descriptor = s.descriptor →
      s'.tree.Sound loaded.locator root →
      s'.tree.content.AgreeOff T (carryAll root s.tree.content (o.plan p.site p.provider)) →
      ¬ w.Calm → o.Finishes w T root s loaded p (.error e, s') := by
    intro s' e hkept hsound hagree hcalm
    refine ⟨hsound, ⟨(o.plan p.site p.provider).length, ?_⟩, fun _ _ => hkept, by rintro _ ⟨⟩,
      fun h => absurd h hcalm⟩
    rwa [List.take_length]
  have hcarry : carryOut w.ports root (o.plan p.site p.provider)
    = performAll w.files builtin root (o.plan p.site p.provider) := rfl
  rw [finish, execute_bind, hcarry]
  rcases hrun : execute (performAll w.files builtin root (o.plan p.site p.provider)) s
    with ⟨e | steps, s₁⟩ <;> rw [hrun] at hcarried
  · obtain ⟨k, hk⟩ := hcarried.content
    refine ⟨hcarried.sound, ⟨k, .of_eq hk⟩, fun _ _ => hcarried.descriptor, by rintro _ ⟨⟩,
      fun hcalm => ?_⟩
    obtain ⟨_, h⟩ := hcarried.calm hcalm
    cases h
  · obtain ⟨hkept₂, hsound₂, hagree₂⟩ :=
      o.keeps_recordContainer (w := w) (T := T) s₁ hcarried.sound
    have htotal₂ : w.Calm → ∃ a, (execute (o.recordContainer w.ports) s₁).1 = .ok a :=
      fun hcalm => o.total_recordContainer hcalm s₁
    simp only
    rw [execute_bind]
    rcases hrun₂ : execute (o.recordContainer w.ports) s₁ with ⟨e | _, s₂⟩ <;>
      rw [hrun₂] at hkept₂ hsound₂ hagree₂ htotal₂ <;>
      have hkept₂ := hkept₂.trans hcarried.descriptor <;>
      have hagree₂ := hagree₂.trans (.of_eq (hcarried.ended steps rfl))
    · exact hfail e hkept₂ hsound₂ hagree₂ fun hcalm => by simpa using htotal₂ hcalm
    obtain ⟨hkept₃, hsound₃, hagree₃⟩ :=
      o.keeps_runCheckpoints hw hT options p.site.locator s₂ hsound₂
    have htotal₃ := fun hcalm =>
      o.total_runCheckpoints (w := w) hcalm root options p.site.locator s₂
    simp only
    rw [execute_bind]
    rcases hrun₃ : execute (o.runCheckpoints w.ports options root p.site.locator) s₂
      with ⟨e | checkpoints, s₃⟩ <;>
      rw [hrun₃] at hkept₃ hsound₃ hagree₃ htotal₃ <;>
      have hkept₃ := hkept₃.trans hkept₂ <;>
      have hagree₃ := hagree₃.trans hagree₂
    · exact hfail e hkept₃ hsound₃ hagree₃ fun hcalm => by simpa using htotal₃ hcalm
    obtain ⟨r, s₄, hcommit, htree, hfailed, hended, hcalm, -⟩ := execute_commitDescriptor (w := w)
      root loaded (o.record p.settled) s₃ (hkept₃.trans hdescriptor)
    rw [← htree] at hsound₃ hagree₃
    simp only
    rw [execute_bind, hcommit]
    cases r with
    | error e =>
        exact hfail e ((hfailed e rfl).trans hkept₃) hsound₃ hagree₃ fun h => by cases hcalm h
    | ok _ =>
        refine ⟨hsound₃, ⟨(o.plan p.site p.provider).length, ?_⟩, by rintro _ ⟨⟩,
          fun _ _ => ⟨hagree₃, hended rfl⟩, fun _ => ⟨_, rfl⟩⟩
        rwa [List.take_length]

/-- An order whose tasks all rest, and that records nothing new, is finished without altering
anything. -/
theorem finish_rests {loaded : Descriptor} (hl : IsProject loaded.name) (hw : w.Idle) {s : Scene}
    (hs : s.tree.Sound loaded.locator root) (hdescriptor : s.descriptor = some loaded)
    {o : Order} (ho : o.WellNamed) {p : Prepared} (hp : p.site.locator = loaded.locator)
    (hrests : ∀ t ∈ o.plan p.site p.provider, t.Rests root s.tree.content)
    (hrecord : o.record p.settled = loaded) (hcontainer : Reads .run (o.recordContainer w.ports))
    (options : Options) :
    ∃ r s', execute (o.finish w.ports options root loaded p) s = (r, s') ∧ s.Same .run s'
      ∧ ∀ report, r = .ok report → changedCount report.steps = 0 := by
  have hbelongs := o.plan_belongs_of_site hl ho hp
  obtain ⟨r, s₁, hrun, hsame, hsteps⟩ := performAll_rests (w := w) hl hbelongs hs hrests
  have hsame := hsame.mono (Reach.look_le .run)
  have hcarry : carryOut w.ports root (o.plan p.site p.provider)
    = performAll w.files builtin root (o.plan p.site p.provider) := rfl
  rw [finish, execute_bind, hcarry, hrun]
  cases r with
  | error e => exact ⟨_, _, rfl, hsame, by rintro _ ⟨⟩⟩
  | ok steps =>
      have hsame₂ := hsame.trans (hcontainer s₁)
      simp only
      rw [execute_bind]
      rcases hrun₂ : execute (o.recordContainer w.ports) s₁ with ⟨e | _, s₂⟩ <;>
        rw [hrun₂] at hsame₂
      · exact ⟨_, _, rfl, hsame₂, by rintro _ ⟨⟩⟩
      have hsame₃ := hsame₂.trans
        (o.reads_runCheckpoints hw root options p.site.locator s₂)
      simp only
      rw [execute_bind]
      rcases hrun₃ : execute (o.runCheckpoints w.ports options root p.site.locator) s₂
        with ⟨e | checkpoints, s₃⟩ <;> rw [hrun₃] at hsame₃
      · exact ⟨_, _, rfl, hsame₃, by rintro _ ⟨⟩⟩
      obtain ⟨r, s₄, hcommit, -, -, -, -, hkeep⟩ := execute_commitDescriptor (w := w) root loaded
        (o.record p.settled) s₃ (hsame₃.descriptor.trans hdescriptor)
      obtain ⟨hsame₄, rfl⟩ := hkeep hrecord
      simp only
      rw [execute_bind, hcommit]
      refine ⟨_, _, rfl, hsame₃.trans (hsame₄.mono (Reach.look_le _)), ?_⟩
      rintro report ⟨⟩
      cases o <;> exact hsteps steps rfl

end Order

/-! ## Making requests -/

/-- The year makes no difference to what the first tasks of a plan do. -/
theorem Order.WellNamed.carryAll_take {l : Locator} (hl : IsProject l.project) {o : Order}
    (ho : o.WellNamed) (provider : Provider) {s : Site} (hs : s.locator = l) (F : Files) (k : Nat) :
    carryAll root F ((o.plan s provider).take k) = carryAll root F ((o.tasks l provider).take k) := by
  subst hs
  obtain ⟨l, year⟩ := s
  exact carryAll_alike (List.forall₂_take k (Order.plan_alike l year 0 provider o))
    (fun t ht => Order.plan_belongs (s := ⟨l, year⟩) hl ho provider t (List.mem_of_mem_take ht))
    (fun t ht => Order.tasks_belong hl ho provider t (List.mem_of_mem_take ht))

theorem Order.WellNamed.carryAll_plan {l : Locator} (hl : IsProject l.project) {o : Order}
    (ho : o.WellNamed) (provider : Provider) {s : Site} (hs : s.locator = l) (F : Files) :
    carryAll root F (o.plan s provider) = carryAll root F (o.tasks l provider) := by
  subst hs
  obtain ⟨l, year⟩ := s
  exact carryAll_alike (Order.plan_alike l year 0 provider o)
    (Order.plan_belongs (s := ⟨l, year⟩) hl ho provider) (Order.tasks_belong hl ho provider)

/-- How a request ends that orders `o` from a project with the descriptor `loaded`. -/
structure Order.Ends (w : Surroundings) (T : Set (List Component)) (root : String) (s : Scene)
    (loaded : Descriptor) (o : Order) (answer : Except Error Nat)
    (out : Except Error Report × Scene) : Prop where
  sound : out.2.tree.Sound loaded.locator root
  /-- A request that fails has altered nothing, or carried out its first tasks. -/
  failed : ∀ e, out.1 = .error e → s.Same .ask out.2 ∨
    o.Admitted loaded.locator root s.tree.content
    ∧ out.2.descriptor = s.descriptor ∧ ∃ provider settled k,
      o.Settles loaded answer provider settled ∧ out.2.tree.content.AgreeOff T
        (carryAll root s.tree.content ((o.tasks loaded.locator provider).take k))
  /-- A request that succeeds has carried out all its tasks and recorded it. -/
  ended : ∀ report, out.1 = .ok report → o.Admitted loaded.locator root s.tree.content ∧
    ∃ provider settled d, o.Settles loaded answer provider settled
      ∧ out.2.tree.content.AgreeOff T
          (carryAll root s.tree.content (o.tasks loaded.locator provider))
      ∧ out.2.descriptor = some d ∧ (o.record settled).Alike d
  calm : w.Calm → o.Admitted loaded.locator root s.tree.content → o.Settled loaded answer →
    ∃ report, out.1 = .ok report
  refused : w.Calm → o.Grounded loaded.locator root s.tree.content →
    ¬ o.Novel loaded.locator root s.tree.content → s.Same .ask out.2 ∧
    ∃ capability artifact key,
      out.1 = .error (.request (.alreadyPresent capability artifact key))
  answer : ∃ calls, w.answer calls = answer

/-- A descriptor that is required and found is the one that is there. -/
theorem requireDescriptor_ok {templates : Templates} {pluralize : String → String}
    {loaded : Descriptor} {s s' : Scene}
    (h : execute (requireDescriptor (w.portsWith templates pluralize) root) s = (.ok loaded, s')) :
    s.descriptor = some loaded := by
  obtain ⟨found, s₁, hload, h⟩ := execute_bind_eq_ok h
  rw [execute_loadDescriptor] at hload
  cases hfault : w.fault (s.after (.loadDescriptor root)).calls <;> rw [hfault] at hload <;>
    cases hload
  cases hfound : s.descriptor with
  | none =>
      rw [hfound] at h
      cases h
  | some d =>
      rw [hfound] at h
      cases h
      rfl

theorem execute_requireDescriptor (root : String) {templates : Templates} {pluralize : String → String}
    {loaded : Descriptor} {s : Scene} (hdescriptor : s.descriptor = some loaded) :
    ∃ r s', execute (requireDescriptor (w.portsWith templates pluralize) root) s = (r, s')
      ∧ s.Same .look s'
      ∧ (∀ d, r = .ok d → d = loaded) ∧ (w.Calm → r = .ok loaded) := by
  unfold requireDescriptor
  rw [execute_bind, execute_loadDescriptor, hdescriptor]
  have hsame : s.Same .look (s.after (.loadDescriptor root)) := .after s (Reach.le_refl _)
  cases hfault : w.fault (s.after (.loadDescriptor root)).calls with
  | some e =>
      refine ⟨_, _, rfl, hsame, nofun, fun hcalm => ?_⟩
      rw [hcalm.fault] at hfault
      cases hfault
  | none =>
      refine ⟨_, _, rfl, hsame, ?_, fun _ => rfl⟩
      rintro d ⟨⟩
      rfl

/-- A request that is not accepted alters nothing. -/
theorem Change.make_of_order_error {c : Change} {e : RequestError}
    (hc : c.order Plural.english = .error e) (options : Options) (s : Scene) :
    execute (c.make w.ports options root) s = (.error (.request e), s) := by
  have hmake := Change.make_eq w.ports options root c
  rw [show w.ports.pluralize = Plural.english from rfl, hc] at hmake
  rw [hmake]
  rfl

/-- A request that orders `o` ends before it altered anything, or it is finished. -/
theorem Change.make_prepared {loaded : Descriptor} {s : Scene}
    (hs : s.tree.Sound loaded.locator root) (hdescriptor : s.descriptor = some loaded)
    {c : Change} {o : Order} (hc : c.order Plural.english = .ok o) (options : Options) :
    ∃ answer, (∃ calls, w.answer calls = answer) ∧
      ((∃ e s', execute (c.make w.ports options root) s = (.error e, s') ∧ s.Same .ask s'
          ∧ (w.Calm → o.Admitted loaded.locator root s.tree.content → ¬ o.Settled loaded answer)
          ∧ (w.Calm → o.Grounded loaded.locator root s.tree.content →
              ¬ o.Novel loaded.locator root s.tree.content →
              ∃ capability artifact key, e = .request (.alreadyPresent capability artifact key)))
      ∨ ∃ p s', execute (c.make w.ports options root) s
            = execute (o.finish w.ports options root loaded p) s' ∧ s.Same .ask s'
          ∧ o.Admitted loaded.locator root s.tree.content
          ∧ p.site.locator = loaded.locator ∧ o.Settles loaded answer p.provider p.settled) := by
  have ho := c.order_wellNamed hc
  have hmake : c.make w.ports options root = (do
      let loaded ← requireDescriptor w.ports root
      let p ← o.prepare w.ports root loaded
      o.finish w.ports options root loaded p) := by
    rw [Change.make_eq, show w.ports.pluralize = Plural.english from rfl, hc]
    exact lift_ok_bind o _
  obtain ⟨r, s₁, hload, hsame₁, hloaded, hcalm₁⟩ :=
    execute_requireDescriptor (w := w) root hdescriptor
  have hs₁ : s₁.tree.Sound loaded.locator root := hsame₁.tree ▸ hs
  obtain ⟨answer, hsame₂, hended, hcalm, hrefused, hanswer⟩ :=
    Order.execute_prepare (w := w) hs₁ ho
  rw [hsame₁.tree] at hended hcalm hrefused
  refine ⟨answer, hanswer, ?_⟩
  rw [hmake, execute_bind, hload]
  cases r with
  | error e =>
      exact .inl ⟨e, s₁, rfl, hsame₁.mono (Reach.look_le _), fun h => (nomatch hcalm₁ h),
        fun h => (nomatch hcalm₁ h)⟩
  | ok d =>
      cases hloaded d rfl
      have hsame := (hsame₁.mono (Reach.look_le .ask)).trans hsame₂
      simp only
      rw [execute_bind]
      rcases hrun : execute (o.prepare w.ports root loaded) s₁ with ⟨e | p, s₂⟩ <;>
        rw [hrun] at hsame hended hcalm hrefused
      · refine .inl ⟨e, s₂, rfl, hsame, fun h ha hset => ?_, fun h hg hn => ?_⟩
        · obtain ⟨_, hok⟩ := hcalm h ha hset
          cases hok
        · obtain ⟨capability, artifact, key, h⟩ := hrefused h hg hn
          exact ⟨capability, artifact, key, Except.error.inj h⟩
      · obtain ⟨hadmitted, hsite, hsettles⟩ := hended p rfl
        exact .inr ⟨p, s₂, rfl, hsame, hadmitted, hsite, hsettles⟩

theorem Change.make_outcome {loaded : Descriptor} (hl : IsProject loaded.name)
    (hT : Apart loaded.locator root T) (hw : w.Within T) {s : Scene}
    (hs : s.tree.Sound loaded.locator root) (hdescriptor : s.descriptor = some loaded)
    {c : Change} {o : Order} (hc : c.order Plural.english = .ok o) (options : Options) :
    ∃ answer, o.Ends w T root s loaded answer (execute (c.make w.ports options root) s) := by
  have ho := c.order_wellNamed hc
  obtain ⟨answer, hanswer, ⟨e, s', hrun, hsame, hcalm, hrefused⟩ |
    ⟨p, s', hrun, hsame, hadmitted, hsite, hsettles⟩⟩ :=
    Change.make_prepared (w := w) hs hdescriptor hc options
  · refine ⟨answer, ?_⟩
    rw [hrun]
    refine ⟨hsame.tree.symm ▸ hs, fun _ _ => .inl hsame, nofun,
      fun h ha hset => absurd hset (hcalm h ha), fun h hg hn => ?_, hanswer⟩
    obtain ⟨capability, artifact, key, rfl⟩ := hrefused h hg hn
    exact ⟨hsame, capability, artifact, key, rfl⟩
  · refine ⟨answer, ?_⟩
    rw [hrun]
    obtain ⟨hsound, ⟨k, hk⟩, hfailed, hfinished, hcalm⟩ := o.finish_outcome hl hT hw
      (hsame.tree.symm ▸ hs) (hsame.descriptor.trans hdescriptor) ho hsite options
    rw [hsame.tree, ho.carryAll_take hl p.provider hsite] at hk
    refine ⟨hsound, fun e he => .inr ⟨hadmitted, (hfailed e he).trans hsame.descriptor, p.provider,
      p.settled, k, hsettles, hk⟩, fun report hreport => ⟨hadmitted, p.provider, p.settled, ?_⟩,
      fun h _ _ => hcalm h, fun _ _ hn => absurd hadmitted.novel hn, hanswer⟩
    obtain ⟨hagree, d, hd, halike⟩ := hfinished report hreport
    rw [hsame.tree, ho.carryAll_plan hl p.provider hsite] at hagree
    exact ⟨d, hsettles, hagree, hd, halike⟩

/-- A request whose tasks all rest, and that records nothing new, alters nothing. -/
theorem Change.make_rests {loaded : Descriptor} (hl : IsProject loaded.name) (hw : w.Idle)
    {s : Scene} (hs : s.tree.Sound loaded.locator root) (hdescriptor : s.descriptor = some loaded)
    {c : Change} {o : Order} (hc : c.order Plural.english = .ok o)
    (hrests : ∀ answer provider settled, o.Settles loaded answer provider settled →
      (∀ t ∈ o.tasks loaded.locator provider, t.Rests root s.tree.content)
      ∧ o.record settled = loaded)
    (hcontainer : Reads .run (o.recordContainer w.ports)) (options : Options) :
    ∃ r s', execute (c.make w.ports options root) s = (r, s') ∧ s.Same .run s'
      ∧ ∀ report, r = .ok report → changedCount report.steps = 0 := by
  have ho := c.order_wellNamed hc
  obtain ⟨answer, -, ⟨e, s', hrun, hsame, -, -⟩ | ⟨p, s', hrun, hsame, -, hsite, hsettles⟩⟩ :=
    Change.make_prepared (w := w) hs hdescriptor hc options
  · exact ⟨_, _, hrun, hsame.mono (by decide), nofun⟩
  · obtain ⟨htasks, hrecord⟩ := hrests answer p.provider p.settled hsettles
    have hplan : ∀ t ∈ o.plan p.site p.provider, t.Rests root s'.tree.content := by
      rw [hsame.tree]
      obtain ⟨provider, settled, l, year⟩ := p
      cases hsite
      exact rests_alike (Order.plan_alike loaded.locator year 0 provider o) htasks
    obtain ⟨r, s'', hfinish, hsame', hreport⟩ := o.finish_rests hl hw (hsame.tree.symm ▸ hs)
      (hsame.descriptor.trans hdescriptor) ho hsite hplan hrecord hcontainer options
    exact ⟨r, s'', hrun.trans hfinish, (hsame.mono (by decide)).trans hsame', hreport⟩

end

end Scaffold
