import Mathlib
import Scaffold.Proofs.Effect
import Scaffold.Proofs.Retry

/-!
# The descriptor as a history

Requests are made one after the other, and any call of theirs may fail.  What the descriptor says
then follows from the requests that succeeded (`Requests.told`): which entities there are, and which
of them have the canonical use cases or an action.  A request that fails leaves the descriptor as it
was, and one that succeeds saves it only if something besides the time of the last change is new
(`Change.saves`).

The tree, the templates, the plurals and the surroundings of each request are arbitrary.
-/

namespace Scaffold

/-! ## What is recorded for an entity -/

namespace Entities

variable {name n : String} {g : Capabilities → Capabilities} {es : Entities}

theorem lookup_cons_eq (m n : String) (c : Capabilities) (es : Entities) :
    List.lookup n ((m, c) :: es) = if n = m then some c else es.lookup n := by
  by_cases h : n = m
  · subst h
    simp
  · rw [List.lookup_cons, beq_false_of_ne h, if_neg h]

theorem lookup_eq_none_of_lt (h : ∀ e ∈ es, n < e.1) : es.lookup n = none := by
  refine List.lookup_eq_none_iff.2 fun e he => ?_
  simpa using (ne_of_lt (h e he))

/-- An update changes what is recorded for its entity, and nothing else. -/
theorem Orderly.lookup_update (h : es.Orderly) (name n : String) (g : Capabilities → Capabilities) :
    (es.update name g).lookup n
      = if n = name then some (g ((es.lookup name).getD {})) else es.lookup n := by
  induction es with
  | nil => simp only [Entities.update, lookup_cons_eq, List.lookup_nil, Option.getD_none]
  | cons e es ih =>
      obtain ⟨m, c⟩ := e
      obtain ⟨hhead, htail⟩ := List.pairwise_cons.1 h
      unfold Entities.update
      split
      next heq =>
        subst heq
        simp only [lookup_cons_eq, if_true, Option.getD_some]
        split <;> rfl
      next hne =>
        split
        next hlt =>
          have hnone : es.lookup name = none :=
            lookup_eq_none_of_lt fun e he => lt_trans hlt (hhead e he)
          simp only [lookup_cons_eq, if_neg hne, hnone, Option.getD_none]
        next =>
          simp only [lookup_cons_eq, if_neg hne, ih htail]
          by_cases hm : n = m
          · rw [if_pos hm, if_pos hm, if_neg fun hn => hne (hn.symm.trans hm)]
          · rw [if_neg hm, if_neg hm]

end Entities

/-! ## What an order records -/

namespace Order

/-- The entity an order is recorded for. -/
def recordedFor : Order → Option String
  | .crud f | .action f _ | .enum f _ | .service (.featureLocal f) _ _ => some f.name
  | .service .shared _ _ | .service (.external _) _ _ | .constant _ _ => none

/-- Decide whether an order generates the canonical use cases of an entity. -/
def isCrudOf (n : String) : Order → Bool
  | .crud f => f.name = n
  | .action _ _ | .service _ _ _ | .constant _ _ | .enum _ _ => false

/-- Decide whether an order adds an action to an entity. -/
def isActionOn (n : String) : Order → Bool
  | .action f _ => f.name = n
  | .crud _ | .service _ _ _ | .constant _ _ | .enum _ _ => false

/-- What is recorded for an entity after an order, by what was recorded before. -/
theorem lookup_record {d : Descriptor} (h : d.entities.Orderly) (o : Order) (n : String) :
    (o.record d).entities.lookup n
      = if o.recordedFor = some n then
          some ⟨(d.capabilities n).hasCrud || o.isCrudOf n,
            (d.capabilities n).hasAction || o.isActionOn n⟩
        else d.entities.lookup n := by
  have hupdate : ∀ (name : String) (g : Capabilities → Capabilities),
      (d.updateEntity name g).entities.lookup n
        = if some name = some n then some (g (d.capabilities n)) else d.entities.lookup n := by
    intro name g
    rw [Descriptor.updateEntity, h.lookup_update]
    by_cases hn : name = n
    · subst hn
      rw [if_pos rfl, if_pos rfl]
      rfl
    · rw [if_neg (Ne.symm hn), if_neg fun heq => hn (Option.some.inj heq)]
  cases o with
  | crud f =>
      rw [record, Descriptor.markCrud, hupdate, recordedFor, isCrudOf, isActionOn]
      by_cases hn : f.name = n <;> simp [hn]
  | action f r =>
      rw [record, Descriptor.markAction, hupdate, recordedFor, isCrudOf, isActionOn]
      by_cases hn : f.name = n <;> simp [hn]
  | service p name lifetime =>
      cases p with
      | featureLocal f =>
          rw [record, Descriptor.register, hupdate, recordedFor, isCrudOf, isActionOn]
          by_cases hn : f.name = n <;> simp [hn]
      | shared | external _ => rfl
  | constant f name => rfl
  | enum f name =>
      rw [record, Descriptor.register, hupdate, recordedFor, isCrudOf, isActionOn]
      by_cases hn : f.name = n <;> simp [hn]

/-- What an order does not record an entity for it does not mark. -/
theorem marks_of_recordedFor_ne {o : Order} {n : String} (h : o.recordedFor ≠ some n) :
    o.isCrudOf n = false ∧ o.isActionOn n = false := by
  cases o with
  | crud f => exact ⟨by simpa [recordedFor, isCrudOf] using h, rfl⟩
  | action f r => exact ⟨rfl, by simpa [recordedFor, isActionOn] using h⟩
  | service _ _ _ | constant _ _ | enum _ _ => exact ⟨rfl, rfl⟩

theorem isSome_lookup_record {d : Descriptor} (h : d.entities.Orderly) (o : Order) (n : String) :
    ((o.record d).entities.lookup n).isSome = true
      ↔ (d.entities.lookup n).isSome = true ∨ o.recordedFor = some n := by
  rw [o.lookup_record h]
  by_cases hn : o.recordedFor = some n <;> simp [hn]

theorem capabilities_record {d : Descriptor} (h : d.entities.Orderly) (o : Order) (n : String) :
    (o.record d).capabilities n = ⟨(d.capabilities n).hasCrud || o.isCrudOf n,
      (d.capabilities n).hasAction || o.isActionOn n⟩ := by
  rw [Descriptor.capabilities, o.lookup_record h]
  by_cases hn : o.recordedFor = some n
  · rw [if_pos hn]
    rfl
  · obtain ⟨hcrud, haction⟩ := marks_of_recordedFor_ne hn
    rw [if_neg hn, hcrud, haction, Bool.or_false, Bool.or_false]
    rfl

theorem isCrudOf_iff {o : Order} {n : String} :
    o.isCrudOf n = true ↔ ∃ f, o = .crud f ∧ f.name = n := by
  cases o <;> simp [isCrudOf]

theorem isActionOn_iff {o : Order} {n : String} :
    o.isActionOn n = true ↔ ∃ f r, o = .action f r ∧ f.name = n := by
  cases o <;> simp [isActionOn]

end Order

/-! ## Saving -/

namespace Scene

/-- The descriptor stays, and no call was made to save one. -/
structure Unsaved (s s' : Scene) : Prop where
  descriptor : s'.descriptor = s.descriptor
  calls : ∃ new, s'.calls = s.calls ++ new ∧ ∀ root d, PortCall.saveDescriptor root d ∉ new

namespace Unsaved

variable {s s' s'' : Scene}

theorem refl (s : Scene) : Unsaved s s := ⟨rfl, [], by simp, by simp⟩

theorem trans (h : Unsaved s s') (h' : Unsaved s' s'') : Unsaved s s'' := by
  obtain ⟨new, hnew, hsaved⟩ := h.calls
  obtain ⟨new', hnew', hsaved'⟩ := h'.calls
  refine ⟨h'.descriptor.trans h.descriptor, new ++ new', by rw [hnew', hnew, List.append_assoc],
    fun root d hmem => ?_⟩
  exact (List.mem_append.1 hmem).elim (hsaved root d) (hsaved' root d)

theorem of_same {r : Reach} (hr : r ≤ .run) (h : s.Same r s') : Unsaved s s' := by
  obtain ⟨new, hnew, hreach⟩ := h.calls
  refine ⟨h.descriptor, new, hnew, fun root d hmem => ?_⟩
  have hno : ¬ Reach.alter ≤ Reach.run := by decide
  exact hno (Reach.le_trans (hreach _ hmem) hr)

theorem after (s : Scene) {c : PortCall} (hc : ∀ root d, PortCall.saveDescriptor root d ≠ c) :
    Unsaved s (s.after c) := ⟨rfl, [c], rfl, by simpa using hc⟩

end Unsaved

end Scene

section

variable {w : Surroundings} {templates : Templates} {pluralize : String → String} {root : String}

theorem leads_unsaved_of_reads {α : Type} {r : Reach} (hr : r ≤ .run) {x : InScene α}
    (h : Reads r x) : Leads Scene.Unsaved x := .of_reads (fun _ _ => .of_same hr) h

/-- Carrying tasks out saves no descriptor. -/
theorem leads_performAll (ts : List Task) :
    Leads Scene.Unsaved (performAll w.files templates root ts) := by
  refine performAll_ind (motive := fun x => Leads Scene.Unsaved x) (.lift_except .refl)
    (Leads.bind fun _ _ _ => .trans) (fun path => ?_) (fun path => ?_) (fun path s => ?_)
    (fun path content s => ?_) root ts
  · exact leads_unsaved_of_reads (by decide) (reads_pathExists (r := .look) w path)
  · exact leads_unsaved_of_reads (by decide) (reads_read (r := .look) w path)
  · have hafter := Scene.Unsaved.after s (c := .makeDirs path) nofun
    rw [execute_createDirs]
    cases w.fault (s.after (.makeDirs path)).calls <;> exact ⟨rfl, hafter.calls⟩
  · have hafter := Scene.Unsaved.after s (c := .write path content) nofun
    rw [execute_write]
    cases w.fault (s.after (.write path content)).calls with
    | some e => exact hafter
    | none =>
        simp only
        cases s.tree.write path content <;> exact ⟨rfl, hafter.calls⟩

theorem leads_runTool (arguments : List String) :
    Leads Scene.Unsaved (runTool (w.portsWith templates pluralize) root arguments) := by
  refine Leads.bind (fun _ _ _ => .trans) (fun s => ?_) fun result => ?_
  · rw [execute_attempt, execute_runCommand]
    have hafter := Scene.Unsaved.after s (c := .command buildTool arguments root) nofun
    exact ⟨rfl, hafter.calls⟩
  · rcases result with (_ | cause | _ | _) | output
    · exact .throw .refl _
    · simp only
      split
      · exact .pure .refl _
      · exact .throw .refl _
    · exact .throw .refl _
    · exact .throw .refl _
    · simp only
      split <;> exact .pure .refl _

namespace Order

theorem leads_runCheckpoints (options : Options) (l : Locator) (o : Order) :
    Leads Scene.Unsaved (o.runCheckpoints (w.portsWith templates pluralize) options root l) :=
  runCheckpoints_ind (motive := fun x => Leads Scene.Unsaved x) (.pure .refl)
    (Leads.bind fun _ _ _ => .trans) leads_runTool
    (fun path => leads_unsaved_of_reads (by decide) (reads_listFiles (r := .look) w path)) options o

theorem leads_recordContainer (o : Order) :
    Leads Scene.Unsaved (o.recordContainer (w.portsWith templates pluralize)) := by
  refine recordContainer_ind (motive := fun x => Leads Scene.Unsaved x) (.pure .refl _)
    (fun c s => ?_) o
  have hafter := Scene.Unsaved.after s (c := .saveContainer c) nofun
  rw [execute_saveContainer]
  cases w.fault (s.after (.saveContainer c)).calls <;> exact ⟨rfl, hafter.calls⟩

end Order

/-! ## What a request does to the descriptor -/

/-- The descriptor after an order, with the provider that was settled, saved at a time if anything is
new. -/
structure Order.Commits (o : Order) (d d' : Descriptor) (provider : Option Provider) : Prop where
  kept : ∀ q ∈ d.provider, provider = some q
  saved : d' = d ∧ o.record { d with provider := provider } = d
    ∨ o.record { d with provider := provider } ≠ d
      ∧ ∃ now, d' = (o.record { d with provider := provider }).touch now

/-- What a request does to the descriptor. -/
structure Change.Saves (c : Change) (pluralize : String → String) (d : Descriptor) (s s' : Scene)
    (r : Except Error Report) : Prop where
  failed : ∀ e, r = .error e → s'.descriptor = s.descriptor
  succeeded : ∀ report, r = .ok report → ∃ o d' provider, c.order pluralize = .ok o
    ∧ s'.descriptor = some d' ∧ o.Commits d d' provider
  /-- What is saved differs not only in the time. -/
  saved : ∃ new, s'.calls = s.calls ++ new ∧ ∀ root d', PortCall.saveDescriptor root d' ∈ new →
    { d' with updatedAt := d.updatedAt } ≠ d

namespace Change.Saves

variable {c : Change} {d : Descriptor} {s s₁ s' : Scene} {r : Except Error Report}

theorem of_failed (h : s.Unsaved s₁) (e : Error) : c.Saves pluralize d s s₁ (.error e) := by
  obtain ⟨new, hnew, hnone⟩ := h.calls
  exact ⟨fun _ _ => h.descriptor, nofun, new, hnew, fun root d' hmem => absurd hmem (hnone root d')⟩

theorem of_unsaved (h : s.Unsaved s₁) (h' : c.Saves pluralize d s₁ s' r) :
    c.Saves pluralize d s s' r := by
  obtain ⟨new, hnew, hnone⟩ := h.calls
  obtain ⟨new', hnew', hsaved⟩ := h'.saved
  refine ⟨fun e he => (h'.failed e he).trans h.descriptor, h'.succeeded, new ++ new',
    by rw [hnew', hnew, List.append_assoc], fun root d' hmem => ?_⟩
  exact (List.mem_append.1 hmem).elim (fun hm => absurd hm (hnone root d')) (hsaved root d')

/-- What saves nothing may come first. -/
theorem bind {α : Type} {x : InScene α} {f : α → InScene Report} (hx : Leads Scene.Unsaved x)
    (hf : ∀ a s₁, s.Unsaved s₁ → execute x s = (.ok a, s₁) →
      c.Saves pluralize d s₁ (execute (f a) s₁).2 (execute (f a) s₁).1) :
    c.Saves pluralize d s (execute (x >>= f) s).2 (execute (x >>= f) s).1 := by
  have hfirst := hx s
  rw [execute_bind]
  rcases hrun : execute x s with ⟨e | a, s₁⟩ <;> rw [hrun] at hfirst
  · exact .of_failed hfirst e
  · exact .of_unsaved hfirst (hf a s₁ hfirst hrun)

end Change.Saves

/-- What a commit does to the descriptor. -/
theorem Order.saves_commit {c : Change} {d : Descriptor} {s : Scene} (o : Order)
    (ho : c.order pluralize = .ok o) {provider : Option Provider}
    (hprovider : ∀ q ∈ d.provider, provider = some q) (report : Report)
    (hs : s.descriptor = some d) :
    let finish : InScene Report := do
      commitDescriptor (w.portsWith templates pluralize) root d
        (o.record { d with provider := provider })
      return report
    c.Saves pluralize d s (execute finish s).2 (execute finish s).1 := by
  intro finish
  by_cases hsame : o.record { d with provider := provider } = d
  · have hfinish : finish = pure report := by
      show commitDescriptor _ root d (o.record { d with provider := provider }) >>= _ = _
      rw [hsame, commitDescriptor_self]
      rfl
    rw [hfinish]
    exact ⟨by rintro _ ⟨⟩, fun _ _ => ⟨o, d, provider, ho, hs, hprovider, .inl ⟨rfl, hsame⟩⟩, [], by simp,
      by simp⟩
  · have hframe : ∀ now, { (o.record { d with provider := provider }).touch now with
        updatedAt := d.updatedAt } = o.record { d with provider := provider } := by
      intro now
      rw [Order.record_frame]
      rfl
    have hfinish : finish = (do
        let now ← (w.portsWith templates pluralize).now
        (w.portsWith templates pluralize).saveDescriptor root
          ((o.record { d with provider := provider }).touch now)
        return report) := by
      show commitDescriptor _ root d (o.record { d with provider := provider }) >>= _ = _
      rw [commitDescriptor, if_neg hsame, bind_assoc]
    rw [hfinish]
    refine .bind (leads_unsaved_of_reads (by decide) (reads_now (r := .look) w)) fun now s₁ hs₁ _ => ?_
    have hdiffers : ∀ root' d', PortCall.saveDescriptor root' d' ∈
        [PortCall.saveDescriptor root ((o.record { d with provider := provider }).touch now)] →
        { d' with updatedAt := d.updatedAt } ≠ d := by
      intro root' d' hmem
      cases List.mem_singleton.1 hmem
      rwa [hframe]
    rw [execute_bind, execute_saveDescriptor]
    cases w.fault (s₁.after (.saveDescriptor root _)).calls with
    | some e => exact ⟨fun _ _ => rfl, by rintro _ ⟨⟩, _, rfl, hdiffers⟩
    | none =>
        exact ⟨by rintro _ ⟨⟩,
          fun _ _ => ⟨o, _, provider, ho, rfl, hprovider, .inr ⟨hsame, now, rfl⟩⟩, _, rfl,
          hdiffers⟩

/-- **A request that fails leaves the descriptor, and one that succeeds saves it only if something
besides the time of the last change is new.** -/
theorem Change.saves {options : Options} {c : Change} {d : Descriptor} {s s' : Scene}
    {r : Except Error Report}
    (hmake : execute (c.make (w.portsWith templates pluralize) options root) s = (r, s'))
    (hs : s.descriptor = some d) : c.Saves pluralize d s s' r := by
  suffices hsaves : c.Saves pluralize d s
      (execute (c.make (w.portsWith templates pluralize) options root) s).2
      (execute (c.make (w.portsWith templates pluralize) options root) s).1 by rwa [hmake] at hsaves
  have hreads : ∀ {α : Type} {x : InScene α}, Reads .ask x → Leads Scene.Unsaved x :=
    leads_unsaved_of_reads (by decide)
  rw [Change.make_eq]
  refine .bind (hreads (.lift_except _)) fun o s₁ hs₁ ho => ?_
  refine .bind (hreads (reads_requireDescriptor root)) fun loaded s₂ hs₂ hload => ?_
  refine .bind (hreads (o.reads_prepare (Reach.le_refl _) root loaded)) fun p s₃ hs₃ hprepare => ?_
  obtain ⟨provider, -, hsettled, hprovider⟩ := Order.prepare_settled hprepare
  refine .bind (leads_performAll _) fun steps s₄ hs₄ _ => ?_
  refine .bind o.leads_recordContainer fun _ s₅ hs₅ _ => ?_
  refine .bind (o.leads_runCheckpoints options _) fun checkpoints s₆ hs₆ _ => ?_
  have horder : c.order pluralize = .ok o := by
    rw [execute_lift_except] at ho
    exact mapError_eq_ok (Prod.ext_iff.1 ho).1
  obtain rfl : d = loaded := Option.some.inj
    ((hs₁.descriptor.trans hs).symm.trans (requireDescriptor_ok hload))
  have hs₆' : s₆.descriptor = some d := by
    rw [hs₆.descriptor, hs₅.descriptor, hs₄.descriptor, hs₃.descriptor, hs₂.descriptor,
      hs₁.descriptor, hs]
  rw [hsettled]
  exact o.saves_commit horder hprovider _ hs₆'

/-! ## Many requests -/

/-- Requests made one after the other, whatever comes of them, and those that succeeded.  Each has
surroundings of its own. -/
inductive Requests (templates : Templates) (pluralize : String → String) (root : String)
    (s : Scene) : List Change → Scene → Prop
  | start : Requests templates pluralize root s [] s
  | succeeded {w : Surroundings} {done : List Change} {s₁ s₂ : Scene} {c : Change}
      {options : Options} {report : Report} (hbefore : Requests templates pluralize root s done s₁)
      (hmake : execute (c.make (w.portsWith templates pluralize) options root) s₁
        = (.ok report, s₂)) : Requests templates pluralize root s (done ++ [c]) s₂
  | failed {w : Surroundings} {done : List Change} {s₁ s₂ : Scene} {c : Change}
      {options : Options} {e : Error} (hbefore : Requests templates pluralize root s done s₁)
      (hmake : execute (c.make (w.portsWith templates pluralize) options root) s₁
        = (.error e, s₂)) : Requests templates pluralize root s done s₂

/-- What the descriptor of a project keeps: all that was decided when it was set up, the provider once
there is one, and what was recorded for its entities. -/
structure Descriptor.Becomes (d d' : Descriptor) : Prop where
  id : d'.id = d.id
  name : d'.name = d.name
  root : d'.root = d.root
  entryPoint : d'.entryPoint = d.entryPoint
  style : d'.style = d.style
  createdAt : d'.createdAt = d.createdAt
  provider : ∀ p ∈ d.provider, d'.provider = some p
  entities : ∀ n c, d.entities.lookup n = some c → ∃ c', d'.entities.lookup n = some c'
    ∧ (c.hasCrud = true → c'.hasCrud = true) ∧ (c.hasAction = true → c'.hasAction = true)

/-- The descriptor tells which requests succeeded. -/
structure Descriptor.Tells (d : Descriptor) (pluralize : String → String) (done : List Change) :
    Prop where
  recorded : ∀ n, (d.entities.lookup n).isSome = true
    ↔ ∃ c ∈ done, ∃ o, c.order pluralize = .ok o ∧ o.recordedFor = some n
  crud : ∀ n, (d.capabilities n).hasCrud = true
    ↔ ∃ c ∈ done, ∃ f, c.order pluralize = .ok (.crud f) ∧ f.name = n
  action : ∀ n, (d.capabilities n).hasAction = true
    ↔ ∃ c ∈ done, ∃ f r, c.order pluralize = .ok (.action f r) ∧ f.name = n

namespace Descriptor

variable {d d' d'' : Descriptor} {o : Order} {provider : Option Provider}

theorem Becomes.refl (d : Descriptor) : d.Becomes d :=
  ⟨rfl, rfl, rfl, rfl, rfl, rfl, fun _ h => h, fun _ c h => ⟨c, h, fun h => h, fun h => h⟩⟩

theorem Becomes.trans (h : d.Becomes d') (h' : d'.Becomes d'') : d.Becomes d'' where
  id := h'.id.trans h.id
  name := h'.name.trans h.name
  root := h'.root.trans h.root
  entryPoint := h'.entryPoint.trans h.entryPoint
  style := h'.style.trans h.style
  createdAt := h'.createdAt.trans h.createdAt
  provider := fun p hp => h'.provider p (h.provider p hp)
  entities := fun n c hc => by
    obtain ⟨c', hc', hcrud, haction⟩ := h.entities n c hc
    obtain ⟨c'', hc'', hcrud', haction'⟩ := h'.entities n c' hc'
    exact ⟨c'', hc'', hcrud' ∘ hcrud, haction' ∘ haction⟩

end Descriptor

namespace Order.Commits

variable {d d' : Descriptor} {o : Order} {provider : Option Provider}

/-- A commit touches nothing but the provider, the entities and the time. -/
theorem frame (h : o.Commits d d' provider) :
    ∃ now, d' = { d with provider := provider, entities := (o.record d).entities, updatedAt := now } := by
  have hrecord : o.record { d with provider := provider }
      = { d with provider := provider, entities := (o.record d).entities } := by
    rw [record_frame]
    congr 1
    rw [record_eq_mark, record_eq_mark]
    cases o.mark <;> rfl
  rcases h.saved with ⟨rfl, hsame⟩ | ⟨-, now, rfl⟩
  · exact ⟨d'.updatedAt, hsame.symm.trans hrecord⟩
  · exact ⟨now, by rw [hrecord]; rfl⟩

theorem becomes (h : o.Commits d d' provider) (hd : d.entities.Orderly) : d.Becomes d' := by
  obtain ⟨now, rfl⟩ := h.frame
  refine ⟨rfl, rfl, rfl, rfl, rfl, rfl, h.kept, fun n c hc => ?_⟩
  show ∃ c', (o.record d).entities.lookup n = some c' ∧ _
  rw [o.lookup_record hd, Descriptor.capabilities, hc]
  split
  · exact ⟨_, rfl, fun hcrud => by simp [hcrud], fun haction => by simp [haction]⟩
  · exact ⟨c, rfl, fun h => h, fun h => h⟩

theorem orderly (h : o.Commits d d' provider) (hd : d.entities.Orderly) : d'.entities.Orderly := by
  obtain ⟨now, rfl⟩ := h.frame
  exact Order.orderly_record hd o

end Order.Commits

/-- A request that succeeds is told with those before it. -/
theorem Descriptor.Tells.commit {d d' : Descriptor} {done : List Change} {c : Change} {o : Order}
    {provider : Option Provider} (h : d.Tells pluralize done) (hd : d.entities.Orderly)
    (ho : c.order pluralize = .ok o) (hcommits : o.Commits d d' provider) :
    d'.Tells pluralize (done ++ [c]) := by
  obtain ⟨now, rfl⟩ := hcommits.frame
  have hlast : ∀ P : Change → Prop, (∃ c' ∈ done ++ [c], P c') ↔ (∃ c' ∈ done, P c') ∨ P c := by
    simp [or_and_right, exists_or]
  have hcapabilities : ∀ n, Descriptor.capabilities { d with
      provider := provider, entities := (o.record d).entities, updatedAt := now } n
        = (o.record d).capabilities n := fun _ => rfl
  refine ⟨fun n => ?_, fun n => ?_, fun n => ?_⟩
  · rw [hlast, ← h.recorded n, o.isSome_lookup_record hd]
    simp [ho]
  · rw [hlast, ← h.crud n, hcapabilities, o.capabilities_record hd, Bool.or_eq_true,
      Order.isCrudOf_iff]
    simp [ho]
  · rw [hlast, ← h.action n, hcapabilities, o.capabilities_record hd, Bool.or_eq_true,
      Order.isActionOn_iff]
    simp [ho]

/-- Nothing is told of a new project. -/
theorem Descriptor.tells_nil {d : Descriptor} (h : d.entities = []) : d.Tells pluralize [] := by
  have hcapabilities : ∀ n, d.capabilities n = {} := by
    intro n
    rw [capabilities, h]
    rfl
  refine ⟨fun n => ?_, fun n => ?_, fun n => ?_⟩
  · simp [h]
  · simp [hcapabilities]
  · simp [hcapabilities]

variable {s s₀ s₁ s' : Scene} {d d₀ : Descriptor} {done more : List Change} {name : String}
  {style : Exposure} {provider : Option Provider}

/-- What requests make of a descriptor. -/
theorem Requests.becomes (h : Requests templates pluralize root s done s')
    (hs : s.descriptor = some d) (hd : d.entities.Orderly) :
    ∃ d', s'.descriptor = some d' ∧ d.Becomes d' ∧ d'.entities.Orderly
      ∧ ∀ before, d.Tells pluralize before → d'.Tells pluralize (before ++ done) := by
  induction h with
  | start =>
      exact ⟨d, hs, .refl d, hd, fun before htells => by rwa [List.append_nil]⟩
  | @succeeded w done s₁ s₂ c options report hbefore hmake ih =>
      obtain ⟨d₁, hs₁, hbecomes, horderly, htells⟩ := ih
      obtain ⟨o, d₂, provider, ho, hs₂, hcommits⟩ := (Change.saves hmake hs₁).succeeded report rfl
      refine ⟨d₂, hs₂, hbecomes.trans (hcommits.becomes horderly), hcommits.orderly horderly,
        fun before hbefore => ?_⟩
      rw [← List.append_assoc]
      exact (htells before hbefore).commit horderly ho hcommits
  | @failed w done s₁ s₂ c options e hbefore hmake ih =>
      obtain ⟨d₁, hs₁, hrest⟩ := ih
      exact ⟨d₁, ((Change.saves hmake hs₁).failed e rfl).trans hs₁, hrest⟩

/-- **The descriptor tells exactly which requests succeeded**, whatever calls of them or of others
failed.  What was decided when the project was set up stays, and so do the provider and the marks of
the entities once they are there.  A request that fails leaves the descriptor as it was, and none is
saved that differs from the one before only in the time. -/
theorem Requests.told {w : Surroundings}
    (hinit : execute (initProject (w.portsWith templates pluralize) root name style provider) s₀
      = (.ok d₀, s₁))
    (h : Requests templates pluralize root s₁ done s) :
    ∃ d, s.descriptor = some d ∧ d.Tells pluralize done ∧ d₀.Becomes d
      ∧ (∀ more s', Requests templates pluralize root s more s' →
          ∃ d', s'.descriptor = some d' ∧ d.Becomes d')
      ∧ ∀ (w : Surroundings) (c : Change) (options : Options) (r : Except Error Report) (s' : Scene),
          execute (c.make (w.portsWith templates pluralize) options root) s = (r, s') →
          c.Saves pluralize d s s' r := by
  obtain ⟨-, hs₁, -, hentities⟩ := initProject_ok hinit
  have horderly : d₀.entities.Orderly := hentities ▸ List.Pairwise.nil
  obtain ⟨d, hs, hbecomes, horderly', htells⟩ := h.becomes hs₁ horderly
  refine ⟨d, hs, htells [] (Descriptor.tells_nil hentities), hbecomes, fun more s' hmore => ?_,
    fun w c options r s' hmake => ?_⟩
  · obtain ⟨d', hs', hbecomes', -⟩ := hmore.becomes hs horderly'
    exact ⟨d', hs', hbecomes'⟩
  · exact Change.saves hmake hs

/-- A full generation that succeeded is told, and not the action that failed after it. -/
theorem Requests.told_invoice : ∃ s s₁ s₂ d report e,
    execute ((Change.crud ⟨"Invoice"⟩).make Surroundings.still.ports {} "/work") s = (.ok report, s₁)
    ∧ execute ((Change.action ⟨"Invoice", "Approve", .post, false⟩).make Surroundings.failing.ports {}
        "/work") s₁ = (.error e, s₂)
    ∧ s₂.descriptor = some d
    ∧ (d.capabilities "Invoice").hasCrud = true ∧ (d.capabilities "Invoice").hasAction = false := by
  obtain ⟨d₀, s, hinit⟩ : ∃ d₀ s, execute (initProject Surroundings.still.ports "/work" "Acme"
      .routes none) ⟨{}, none, none, []⟩ = (.ok d₀, s) := ⟨_, _, rfl⟩
  have hreached : Reached ∅ "/work" [] s d₀ := reached_init rfl hinit
  obtain ⟨report, s₁, hmake⟩ := hreached.next_invoice
  have hfailed : execute ((Change.action ⟨"Invoice", "Approve", .post, false⟩).make
      Surroundings.failing.ports {} "/work") s₁
        = (.error (.run (.filesystem "" "out of order")), s₁.after (.loadDescriptor "/work")) := rfl
  have hrequests := Requests.failed (.succeeded .start hmake) hfailed
  obtain ⟨d, hd, htells, -⟩ := Requests.told hinit hrequests
  refine ⟨s, s₁, _, d, report, _, hmake, hfailed, hd, ?_, ?_⟩
  · exact (htells.crud "Invoice").2 ⟨_, List.mem_singleton_self _, invoice, orders_invoice, rfl⟩
  · rw [Bool.eq_false_iff]
    intro haction
    obtain ⟨c, hc, f, r, ho, -⟩ := (htells.action "Invoice").1 haction
    cases List.mem_singleton.1 hc
    cases orders_invoice.symm.trans ho

end

end Scaffold
