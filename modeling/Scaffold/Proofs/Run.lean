import Mathlib
import Scaffold.Proofs.Outcome
import Scaffold.Proofs.Record
import Scaffold.Proofs.Written

/-!
# Runs

A run sets a project up on an empty tree and then makes requests, each of which succeeds or is
refused (`Run`).  What a run reaches follows from the requests that succeeded (`Run.reached`): the
files are what the tasks of their orders write, one after the other, and the descriptor has their
marks and the one provider all of them were carried out with.
-/

namespace Scaffold

open Scaffold.Path (components)

/-! ## Runs -/

/-- A run with the requests that succeeded, in order, and the scene it reaches. -/
inductive Run (w : Surroundings) (root : String) : List Change → Scene → Prop
  | init {s s' : Scene} {name : String} {style : Exposure} {provider : Option Provider}
      {d : Descriptor} (hempty : s.tree = {})
      (hinit : execute (initProject w.ports root name style provider) s = (.ok d, s')) :
      Run w root [] s'
  | done {history : List Change} {s s' : Scene} {c : Change} {options : Options} {report : Report}
      (hrun : Run w root history s)
      (hmake : execute (c.make w.ports options root) s = (.ok report, s')) :
      Run w root (history ++ [c]) s'
  | refused {history : List Change} {s s' : Scene} {c : Change} {options : Options} {e : Error}
      (hrun : Run w root history s)
      (hmake : execute (c.make w.ports options root) s = (.error e, s'))
      (hrefused : e.isRefusal = true) : Run w root history s'

/-- What a request orders, in English. -/
def Change.Orders (c : Change) (o : Order) : Prop := c.order Plural.english = .ok o

/-- The orders of requests. -/
def ordersOf (history : List Change) : List Order :=
  history.filterMap fun c => (c.order Plural.english).toOption

theorem mem_ordersOf {history : List Change} {o : Order} :
    o ∈ ordersOf history ↔ ∃ c ∈ history, c.Orders o := by
  simp only [ordersOf, List.mem_filterMap, Change.Orders]
  refine exists_congr fun c => and_congr_right fun _ => ?_
  cases c.order Plural.english <;> simp [Except.toOption]

theorem ordersOf_append {history : List Change} {c : Change} {o : Order} (h : c.Orders o) :
    ordersOf (history ++ [c]) = ordersOf history ++ [o] := by
  have hc : (c.order Plural.english).toOption = some o := by
    rw [h]
    rfl
  simp [ordersOf, hc]

/-! ## What a run reaches -/

/-- The provider of a project.  As long as there is none it does not matter. -/
def Descriptor.theProvider (d : Descriptor) : Provider := d.provider.getD .postgres

/-- The tasks of a project's orders. -/
def tasksOf (d : Descriptor) (os : List Order) : List Task :=
  os.flatMap (Order.tasks d.locator d.theProvider)

theorem tasksOf_concat (d : Descriptor) (os : List Order) (o : Order) :
    tasksOf d (os ++ [o]) = tasksOf d os ++ o.tasks d.locator d.theProvider := by
  simp [tasksOf]

/-- What the requests that succeeded leave. -/
structure Reached (T : Set (List Component)) (root : String) (os : List Order) (s : Scene)
    (d : Descriptor) : Prop where
  descriptor : s.descriptor = some d
  project : IsProject d.name
  sound : s.tree.Sound d.locator root
  /-- The files are what the tasks of the orders write. -/
  content : s.tree.content.AgreeOff T (carryAll root (fun _ => none) (tasksOf d os))
  wellNamed : ∀ o ∈ os, o.WellNamed
  /-- There is a provider as soon as one was needed. -/
  provider : ∀ o ∈ os, o.needsProvider = true → d.provider.isSome = true
  /-- What an order builds on is there. -/
  grounded : ∀ o ∈ os, o.Grounded d.locator root s.tree.content
  /-- The marks of the orders were made. -/
  recorded : ∀ o ∈ os, o.Recorded d.entities
  orderly : d.entities.Orderly

section

variable {w : Surroundings} {T : Set (List Component)} {root : String} {os : List Order}
  {s : Scene} {d : Descriptor}

theorem tasksOf_belong (hl : IsProject d.name) (hos : ∀ o ∈ os, o.WellNamed) :
    ∀ t ∈ tasksOf d os, t.Belongs d.locator := by
  intro t ht
  obtain ⟨o, ho, hmem⟩ := List.mem_flatMap.1 ht
  exact Order.tasks_belong hl (hos o ho) _ t hmem

/-- Calls that alter nothing leave what is reached. -/
theorem Reached.same (h : Reached T root os s d) {r : Reach} {s' : Scene} (hsame : s.Same r s') :
    Reached T root os s' d where
  descriptor := hsame.descriptor.trans h.descriptor
  project := h.project
  sound := hsame.tree.symm ▸ h.sound
  content := hsame.tree.symm ▸ h.content
  wellNamed := h.wellNamed
  provider := h.provider
  grounded := hsame.tree.symm ▸ h.grounded
  recorded := h.recorded
  orderly := h.orderly

/-- Every task of the orders rests. -/
theorem Reached.rests (h : Reached T root os s d) (hT : Apart d.locator root T) :
    ∀ o ∈ os, ∀ t ∈ o.tasks d.locator d.theProvider, t.Rests root s.tree.content := by
  intro o ho t ht
  have hbelongs := tasksOf_belong h.project h.wellNamed
  have hmem : t ∈ tasksOf d os := List.mem_flatMap.2 ⟨o, ho, ht⟩
  have hrests := rests_carryAll h.project hbelongs (Files.legit_empty d.locator root) t hmem
  obtain ⟨layer, kind, hplace, -⟩ := hbelongs t hmem
  unfold Task.Rests Files.linesAt at hrests ⊢
  rwa [Task.place, h.content.at_place hT hplace]

/-- A file of the project is written by the actions of the orders on it. -/
theorem Reached.written (h : Reached T root os s d) (hT : Apart d.locator root T) {layer : Layer}
    {kind : ArtifactKind} {p : RelativePath} (hp : IsPlace d.locator layer kind p) :
    Written d.locator p kind (actionsOn p (tasksOf d os))
      (s.tree.content.linesAt (components (p.under root))) := by
  have hwritten := written_carryAll h.project root (tasksOf_belong h.project h.wellNamed) hp
  rwa [Files.linesAt, ← h.content.at_place hT hp] at hwritten

/-- What setting a project up leaves. -/
theorem initProject_ok {templates : Templates} {pluralize : String → String} {s' : Scene}
    {name : String} {style : Exposure} {provider : Option Provider}
    (h : execute (initProject (w.portsWith templates pluralize) root name style provider) s
      = (.ok d, s')) :
    s'.tree = s.tree ∧ s'.descriptor = some d ∧ IsProject d.name ∧ d.entities = [] := by
  obtain ⟨loaded, s₁, hload, h⟩ := execute_bind_eq_ok h
  have hsame := (reads_loadDescriptor w (r := .look) root).same hload
  simp only at h
  split at h
  · cases h
  obtain ⟨id, s₂, hid, h⟩ := execute_bind_eq_ok h
  obtain ⟨now, s₃, hnow, h⟩ := execute_bind_eq_ok h
  obtain ⟨created, s₄, hcreate, h⟩ := execute_bind_eq_ok h
  obtain ⟨_, s₅, hsave, hdone⟩ := execute_bind_eq_ok h
  rw [execute_lift_except] at hcreate
  obtain ⟨hcreated, rfl⟩ := Prod.mk.inj hcreate
  rw [execute_pure] at hdone
  cases hdone
  have hsame := (hsame.trans ((reads_freshId w).same hid)).trans
    ((reads_now w (r := .look)).same hnow)
  have hsaved : s' = { s₃.after (.saveDescriptor root d) with descriptor := some d } := by
    rw [execute_saveDescriptor] at hsave
    cases hfault : w.fault (s₃.after (.saveDescriptor root d)).calls <;>
      rw [hfault] at hsave <;> cases hsave
    rfl
  subst hsaved
  refine ⟨hsame.tree, rfl, ?_⟩
  cases haccept : acceptProjectName name with
  | error e => simp [Descriptor.create, haccept, Except.mapError, bind, Except.bind] at hcreated
  | ok accepted =>
      have hd : d = ⟨id, accepted, root, accepted ++ ".Api", provider, style, now, now, []⟩ := by
        simp [Descriptor.create, haccept, Except.mapError, bind, Except.bind, pure,
          Except.pure] at hcreated
        exact hcreated.symm
      rw [hd]
      exact ⟨acceptProjectName_isProject haccept, rfl⟩

/-- A project that is set up on an empty tree. -/
theorem reached_init {s' : Scene} (hempty : s.tree = {}) {name : String} {style : Exposure}
    {provider : Option Provider}
    (h : execute (initProject w.ports root name style provider) s = (.ok d, s')) :
    Reached T root [] s' d := by
  obtain ⟨htree, hdescriptor, hproject, hentities⟩ := initProject_ok h
  rw [hempty] at htree
  exact {
    descriptor := hdescriptor
    project := hproject
    sound := htree ▸ MemoryTree.sound_empty d.locator root
    content := .of_eq (congrArg MemoryTree.content htree)
    wellNamed := nofun
    provider := nofun
    grounded := nofun
    recorded := nofun
    orderly := hentities ▸ List.Pairwise.nil }

/-- What a descriptor keeps when an order is recorded: its layout, and its provider if it had one. -/
structure Descriptor.Follows (d d' : Descriptor) : Prop where
  locator : d'.locator = d.locator
  provider : ∀ p ∈ d.provider, d'.provider = some p

/-- The tasks of orders stay the same while the provider stays. -/
theorem Descriptor.Follows.tasksOf_eq {d' : Descriptor} (h : d.Follows d')
    (hos : ∀ o ∈ os, o.needsProvider = true → d.provider.isSome = true) :
    tasksOf d' os = tasksOf d os := by
  unfold tasksOf
  refine List.flatMap_congr fun o ho => ?_
  rw [h.locator]
  cases hneeds : o.needsProvider with
  | false => exact Order.plan_provider hneeds _ _ _
  | true =>
      obtain ⟨p, hp⟩ := Option.isSome_iff_exists.1 (hos o ho hneeds)
      rw [Descriptor.theProvider, Descriptor.theProvider, h.provider p hp, hp]

/-- The descriptor after an order was recorded. -/
structure Order.Records (o : Order) (d : Descriptor) (provider : Provider) (d' : Descriptor) :
    Prop where
  follows : d.Follows d'
  needed : o.needsProvider = true → d'.provider = some provider
  entities : d'.entities = (o.record d).entities

theorem Order.Settles.records {o : Order} {answer : Except Error Nat} {provider : Provider}
    {settled d' : Descriptor} (h : o.Settles d answer provider settled)
    (halike : (o.record settled).Alike d') : o.Records d provider d' := by
  have hsettled : settled.locator = d.locator ∧ settled.entities = d.entities
      ∧ (∀ p ∈ d.provider, settled.provider = some p)
      ∧ (o.needsProvider = true → settled.provider = some provider) := by
    cases hneeds : o.needsProvider with
    | false =>
        rw [h.idle hneeds]
        exact ⟨rfl, rfl, fun p hp => hp, nofun⟩
    | true =>
        obtain ⟨rfl, hsame⟩ := Descriptor.settleBy_eq_ok (h.needed hneeds)
        exact ⟨rfl, rfl, fun p hp => (congrArg some (hsame p hp)).symm, fun _ => rfl⟩
  obtain ⟨hlocator, hentities, hprovider, hneeded⟩ := hsettled
  have hrecord : ∀ e : Descriptor, (o.record e).name = e.name ∧ (o.record e).style = e.style
      ∧ (o.record e).provider = e.provider := by
    intro e
    rw [Order.record_frame]
    exact ⟨rfl, rfl, rfl⟩
  obtain ⟨hname, hstyle, hrecordProvider⟩ := hrecord settled
  have hd' : d'.name = (o.record settled).name ∧ d'.style = (o.record settled).style
      ∧ d'.provider = (o.record settled).provider
      ∧ d'.entities = (o.record settled).entities := by
    rw [← halike]
    exact ⟨rfl, rfl, rfl, rfl⟩
  obtain ⟨hname', hstyle', hprovider', hentities'⟩ := hd'
  refine ⟨⟨?_, fun p hp => ?_⟩, fun hneeds => ?_, ?_⟩
  · rw [← hlocator, Descriptor.locator, Descriptor.locator, hname', hname, hstyle', hstyle]
  · rw [hprovider', hrecordProvider, hprovider p hp]
  · rw [hprovider', hrecordProvider, hneeded hneeds]
  · rw [hentities', Order.record_eq_mark, Order.record_eq_mark]
    cases o.mark with
    | none => exact hentities
    | some mark => exact congrArg (Entities.update _ _) hentities

/-- What is there stays there. -/
theorem Order.Grounded.mono {o : Order} {l : Locator} {F G : Files} (h : o.Grounded l root F)
    (hgrows : F.Grows G) : o.Grounded l root G := by
  intro f hf
  obtain ⟨text, htext⟩ := Option.isSome_iff_exists.1 (h f hf)
  have hlines : F.linesAt (components ((l.entityType f).under root)) = some (Text.lines text) := by
    rw [Files.linesAt, htext]
    rfl
  obtain ⟨ls, hls, -⟩ := hgrows _ _ hlines
  obtain ⟨text', htext', -⟩ := Option.map_eq_some_iff.1 hls
  rw [htext']
  rfl

theorem Order.Grounded.agree {o : Order} {l : Locator} {F G : Files} (h : o.Grounded l root F)
    (ho : o.WellNamed) (hT : Apart l root T) (hagree : G.AgreeOff T F) : o.Grounded l root G := by
  intro f hf
  rw [hagree.at_place hT (place_entityType (o.builtOn_wellNamed ho f hf))]
  exact h f hf

/-- A request that succeeds adds its order to what is reached. -/
theorem Reached.done (h : Reached T root os s d) (hT : Apart d.locator root T) (hw : w.Within T)
    {c : Change} {options : Options} {report : Report} {s' : Scene}
    (hmake : execute (c.make w.ports options root) s = (.ok report, s')) :
    ∃ o d', c.Orders o ∧ o.Admitted d.locator root s.tree.content ∧ d.Follows d'
      ∧ Reached T root (os ++ [o]) s' d' := by
  cases hc : c.order Plural.english with
  | error e =>
      rw [Change.make_of_order_error hc] at hmake
      cases hmake
  | ok o =>
      obtain ⟨answer, hends⟩ := Change.make_outcome h.project hT hw h.sound h.descriptor hc
        options
      rw [hmake] at hends
      obtain ⟨hadmitted, provider, settled, d', hsettles, hagree, hd', halike⟩ := hends.ended report rfl
      have hrecords := hsettles.records halike
      have ho := c.order_wellNamed hc
      have hfollows := hrecords.follows
      have hbelongs := Order.tasks_belong (l := d.locator) h.project ho provider
      have htasks : tasksOf d' (os ++ [o]) = tasksOf d os ++ o.tasks d.locator provider := by
        have hown : o.tasks d'.locator d'.theProvider = o.tasks d.locator provider := by
          rw [hfollows.locator]
          cases hneeds : o.needsProvider with
          | false => exact Order.plan_provider hneeds _ _ _
          | true => rw [Descriptor.theProvider, hrecords.needed hneeds, Option.getD_some]
        rw [tasksOf_concat, hfollows.tasksOf_eq h.provider, hown]
      have hgrows : ∀ o' : Order, o'.WellNamed → o'.Grounded d.locator root s.tree.content →
          o'.Grounded d'.locator root s'.tree.content := by
        intro o' ho' hg
        rw [hfollows.locator]
        exact (hg.mono (grows_carryAll h.project hbelongs h.sound.legit)).agree ho' hT hagree
      refine ⟨o, d', hc, hadmitted, hfollows, ?_⟩
      exact {
        descriptor := hd'
        project := by
          have hname : d'.name = d.name := congrArg Locator.project hfollows.locator
          exact hname ▸ h.project
        sound := hfollows.locator ▸ hends.sound
        content := by
          rw [htasks, carryAll_append]
          exact hagree.trans (h.content.carryAll hT hbelongs)
        wellNamed := List.forall_mem_append.2 ⟨h.wellNamed, by simpa using ho⟩
        provider := by
          refine List.forall_mem_append.2 ⟨fun o' ho' hneeds => ?_, ?_⟩
          · obtain ⟨p, hp⟩ := Option.isSome_iff_exists.1 (h.provider o' ho' hneeds)
            rw [hfollows.provider p hp]
            rfl
          · simpa using fun hneeds => by rw [hrecords.needed hneeds]; rfl
        grounded := by
          refine List.forall_mem_append.2 ⟨fun o' ho' => ?_, ?_⟩
          · exact hgrows o' (h.wellNamed o' ho') (h.grounded o' ho')
          · simpa using hgrows o ho hadmitted.grounded
        recorded := by
          rw [hrecords.entities]
          refine List.forall_mem_append.2 ⟨fun o' ho' => ?_, ?_⟩
          · exact (h.recorded o' ho').of_record h.orderly o
          · simpa using Order.recorded_record d o
        orderly := by
          rw [hrecords.entities]
          exact Order.orderly_record h.orderly o }

/-- The built-in templates refuse no request. -/
theorem builtin_error {name : String} {ctx : Context} {e : Error} (h : builtin name ctx = .error e) :
    e.isRefusal = false := by
  unfold builtin Catalog.resolve at h
  split at h
  · cases h
  · cases h
    rfl

/-- A request that is refused leaves what is reached. -/
theorem Reached.refused (h : Reached T root os s d) (hw : w.Frank) {c : Change}
    {options : Options} {e : Error} {s' : Scene}
    (hmake : execute (c.make w.ports options root) s = (.error e, s')) (he : e.isRefusal = true) :
    Reached T root os s' d :=
  h.same (Change.guarded hw (fun _ _ _ => builtin_error) options root c s e s' hmake he)

/-- What a run reaches follows from the requests that succeeded. -/
theorem Run.reached (hw : w.Frank) (hT : ∀ l, Apart l root T) (hwithin : w.Within T)
    {history : List Change} (h : Run w root history s) :
    ∃ d, Reached T root (ordersOf history) s d := by
  induction h with
  | init hempty hinit => exact ⟨_, reached_init hempty hinit⟩
  | done hrun hmake ih =>
      obtain ⟨d, hreached⟩ := ih
      obtain ⟨o, d', ho, -, -, hreached'⟩ := hreached.done (hT _) hwithin hmake
      exact ⟨d', ordersOf_append ho ▸ hreached'⟩
  | refused hrun hmake he ih =>
      obtain ⟨d, hreached⟩ := ih
      exact ⟨d, hreached.refused hw hmake he⟩

/-- Every request of a run that succeeded has an order. -/
theorem Run.ordered {history : List Change} (h : Run w root history s) :
    ∀ c ∈ history, ∃ o, c.Orders o := by
  induction h with
  | init hempty hinit => nofun
  | @done history s s' c options report hrun hmake ih =>
      refine List.forall_mem_append.2 ⟨ih, ?_⟩
      intro c' hc'
      cases List.mem_singleton.1 hc'
      cases hc : c.order Plural.english with
      | ok o => exact ⟨o, hc⟩
      | error e =>
          rw [Change.make_of_order_error hc] at hmake
          cases hmake
  | refused hrun hmake he ih => exact ih

/-- A request that nothing refuses succeeds where no call fails. -/
theorem Reached.next (h : Reached T root os s d) (hT : Apart d.locator root T) (hw : w.Within T)
    (hcalm : w.Calm) {answer : Except Error Nat} (hanswer : w.Answers answer) {c : Change} {o : Order}
    (hc : c.Orders o) (hadmitted : o.Admitted d.locator root s.tree.content)
    (hsettled : o.Settled d answer) (options : Options) :
    ∃ report s', execute (c.make w.ports options root) s = (.ok report, s') := by
  obtain ⟨answer', hends⟩ := Change.make_outcome h.project hT hw h.sound h.descriptor hc options
  obtain rfl := hanswer.eq hends.answer
  obtain ⟨report, hreport⟩ := hends.calm hcalm hadmitted hsettled
  exact ⟨report, _, Prod.ext hreport rfl⟩

end

/-! ## A run in still surroundings -/

/-- The entity of the examples. -/
def invoice : Feature := ⟨"Invoice", "Invoices"⟩

theorem orders_invoice : (Change.crud ⟨"Invoice"⟩).Orders (.crud invoice) := by
  unfold Change.Orders
  decide +kernel

/-- A project that is set up. -/
theorem exists_run_start : ∃ s d, Run .still "/work" [] s ∧ Reached ∅ "/work" [] s d
    ∧ d.locator = ⟨"Acme", .routes⟩ := by
  obtain ⟨d, s, hinit, hlocator⟩ : ∃ d s, execute (initProject Surroundings.still.ports "/work" "Acme"
      .routes none) ⟨{}, none, none, []⟩ = (.ok d, s) ∧ d.locator = ⟨"Acme", .routes⟩ :=
    ⟨_, _, rfl, rfl⟩
  exact ⟨s, d, .init rfl hinit, reached_init rfl hinit, hlocator⟩

/-- A full generation of an entity succeeds as the first request. -/
theorem Reached.next_invoice {s : Scene} {d : Descriptor} (h : Reached ∅ "/work" [] s d) :
    ∃ report s', execute ((Change.crud ⟨"Invoice"⟩).make Surroundings.still.ports {} "/work") s
      = (.ok report, s') := by
  refine h.next (apart_empty _ _) (Surroundings.idle_still.within ∅) Surroundings.calm_still
    (fun _ => rfl) orders_invoice ⟨nofun, nofun⟩ (fun _ => ?_) {}
  rw [Descriptor.settleBy]
  cases d.provider <;> exact ⟨_, rfl⟩

/-- A project with an entity. -/
theorem exists_run_invoice : ∃ s d, Run .still "/work" [.crud ⟨"Invoice"⟩] s
    ∧ Reached ∅ "/work" [.crud invoice] s d ∧ d.locator = ⟨"Acme", .routes⟩ := by
  obtain ⟨s, d, hrun, hreached, hlocator⟩ := exists_run_start
  obtain ⟨report, s', hmake⟩ := hreached.next_invoice
  obtain ⟨o, d', ho, -, hfollows, hreached'⟩ := hreached.done (apart_empty _ _)
    (Surroundings.idle_still.within ∅) hmake
  cases orders_invoice.symm.trans ho
  exact ⟨s', d', .done hrun hmake, hreached', hfollows.locator.trans hlocator⟩

end Scaffold
