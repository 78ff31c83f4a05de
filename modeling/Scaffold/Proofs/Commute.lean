import Mathlib
import Scaffold.Proofs.History
import Scaffold.Proofs.Shared

/-!
# Requests in either order

Full generations of two entities under different names can be made in either order
(`Run.crud_commutes`).  Both orders succeed, the descriptors are the same but for the time of the
last change, and so are the files, but for the order of lines in the files that entities share
(`Files.Reordered`).

The files follow from the tasks of the orders, and file by file the tasks of the two entities come
in one order or the other.  In the shared files this is an exchange of two lines
(`SharedFile.exchange`); in every other file one of the two has nothing to do, or both do the same
(`crudPlan_exchange`).
-/

namespace Scaffold

open Scaffold.Path (components)
open Scaffold.Text

/-! ## Descriptors -/

namespace Entities

variable {n n' : String} {es es' : Entities}

/-- Entities in order are given by what is recorded for each of them. -/
theorem Orderly.ext (h : es.Orderly) (h' : es'.Orderly) (heq : ∀ n, es.lookup n = es'.lookup n) :
    es = es' := by
  induction es generalizing es' with
  | nil =>
      cases es' with
      | nil => rfl
      | cons e es' =>
          have hhead := heq e.1
          rw [lookup_cons_eq, if_pos rfl] at hhead
          cases hhead
  | cons e es ih =>
      obtain ⟨m, c⟩ := e
      obtain ⟨hhead, htail⟩ := List.pairwise_cons.1 h
      cases es' with
      | nil =>
          have hnone := heq m
          rw [lookup_cons_eq, if_pos rfl] at hnone
          cases hnone
      | cons e' es' =>
          obtain ⟨m', c'⟩ := e'
          obtain ⟨hhead', htail'⟩ := List.pairwise_cons.1 h'
          have hfirst := heq m
          have hfirst' := heq m'
          rw [lookup_cons_eq, lookup_cons_eq, if_pos rfl] at hfirst hfirst'
          obtain rfl : m = m' := by
            rcases lt_trichotomy m m' with hlt | hsame | hlt
            · rw [if_neg (ne_of_lt hlt),
                lookup_eq_none_of_lt fun e he => hlt.trans (hhead' e he)] at hfirst
              cases hfirst
            · exact hsame
            · rw [if_neg (ne_of_lt hlt),
                lookup_eq_none_of_lt fun e he => hlt.trans (hhead e he)] at hfirst'
              cases hfirst'
          rw [if_pos rfl] at hfirst
          obtain rfl := Option.some.inj hfirst
          refine congrArg _ (ih htail htail' fun n => ?_)
          by_cases hn : n = m
          · rw [hn, lookup_eq_none_of_lt hhead, lookup_eq_none_of_lt hhead']
          · have hrest := heq n
            rwa [lookup_cons_eq, lookup_cons_eq, if_neg hn, if_neg hn] at hrest

/-- Updates of different entities can be made in either order. -/
theorem Orderly.update_comm (h : es.Orderly) (hne : n ≠ n') (g g' : Capabilities → Capabilities) :
    (es.update n g).update n' g' = (es.update n' g').update n g := by
  refine ((h.update n g).update n' g').ext ((h.update n' g').update n g) fun m => ?_
  simp only [(h.update n g).lookup_update, (h.update n' g').lookup_update, h.lookup_update, if_neg hne,
    if_neg hne.symm]
  by_cases hm : m = n
  · rw [if_pos hm, if_pos hm, if_neg fun hm' => hne (hm.symm.trans hm')]
  · rw [if_neg hm, if_neg hm]

end Entities

section

variable {w : Surroundings} {T : Set (List Component)} {root : String} {os : List Order} {s s' : Scene}
  {d d' : Descriptor} {f g : Feature} {c c' : Change} {answer : Except Error Nat}

/-- What a full generation leaves that succeeds: its order is added, its provider is the one that is
settled, and its entity is marked. -/
theorem Reached.done_crud (h : Reached T root os s d) (hT : Apart d.locator root T) (hw : w.Within T)
    (hanswer : w.Answers answer) (hc : c.Orders (.crud f)) {options : Options} {report : Report}
    (hmake : execute (c.make w.ports options root) s = (.ok report, s')) :
    ∃ provider d', Reached T root (os ++ [.crud f]) s' d'
      ∧ d.settleBy answer = .ok (provider, { d with provider := some provider })
      ∧ ({ d with provider := some provider }.markCrud f.name).Alike d' := by
  obtain ⟨o, d', ho, -, -, hreached⟩ := h.done hT hw hmake
  cases hc.symm.trans ho
  obtain ⟨given, hends⟩ := Change.make_outcome h.project hT hw h.sound h.descriptor hc options
  cases hanswer.eq hends.answer
  rw [hmake] at hends
  obtain ⟨-, provider, settled, d'', hsettles, -, hd'', halike⟩ := hends.ended report rfl
  cases hreached.descriptor.symm.trans hd''
  have hset := hsettles.needed rfl
  obtain ⟨rfl, -⟩ := Descriptor.settleBy_eq_ok hset
  exact ⟨provider, d', hreached, hset, halike⟩

/-- A full generation succeeds where no call fails, if the provider can be settled. -/
theorem Reached.next_crud (h : Reached T root os s d) (hT : Apart d.locator root T) (hw : w.Within T)
    (hcalm : w.Calm) (hanswer : w.Answers answer) (hc : c.Orders (.crud f))
    (hsettled : ∃ p, d.settleBy answer = .ok p) (options : Options) :
    ∃ report s', execute (c.make w.ports options root) s = (.ok report, s') :=
  h.next hT hw hcalm hanswer hc ⟨nofun, nofun⟩ (fun _ => hsettled) options

/-- What two full generations leave, one after the other. -/
theorem Reached.next_cruds (h : Reached T root os s d) (hT : Apart d.locator root T) (hw : w.Within T)
    (hcalm : w.Calm) (hanswer : w.Answers answer) (hc : c.Orders (.crud f)) (hc' : c'.Orders (.crud g))
    {provider : Provider}
    (hsettled : d.settleBy answer = .ok (provider, { d with provider := some provider }))
    (options options' : Options) : ∃ report s₁ report' s₂ d₂,
      execute (c.make w.ports options root) s = (.ok report, s₁)
      ∧ execute (c'.make w.ports options' root) s₁ = (.ok report', s₂)
      ∧ Reached T root (os ++ [.crud f] ++ [.crud g]) s₂ d₂
      ∧ (({ d with provider := some provider }.markCrud f.name).markCrud g.name).Alike d₂ := by
  obtain ⟨report, s₁, hmake⟩ := h.next_crud hT hw hcalm hanswer hc ⟨_, hsettled⟩ options
  obtain ⟨provider₁, d₁, h₁, hsettled₁, halike₁⟩ := h.done_crud hT hw hanswer hc hmake
  cases hsettled.symm.trans hsettled₁
  have hprovider : d₁.provider = some provider := by
    rw [← halike₁]
    rfl
  have hsettled' : d₁.settleBy answer = .ok (provider, d₁) := by
    unfold Descriptor.settleBy
    rw [hprovider]
  have hT₁ : Apart d₁.locator root T := by
    rw [← halike₁]
    exact hT
  obtain ⟨report', s₂, hmake'⟩ := h₁.next_crud hT₁ hw hcalm hanswer hc' ⟨_, hsettled'⟩ options'
  obtain ⟨provider₂, d₂, h₂, hsettled₂, halike₂⟩ := h₁.done_crud hT₁ hw hanswer hc' hmake'
  obtain ⟨rfl, hsame⟩ := Prod.mk.inj (Except.ok.inj (hsettled'.symm.trans hsettled₂))
  rw [← hsame] at halike₂
  refine ⟨report, s₁, report', s₂, d₂, hmake, hmake', h₂, ?_⟩
  unfold Descriptor.Alike at *
  rw [← halike₂, ← halike₁]
  rfl

/-! ## Files -/

/-- The same files but for some places, where the lines of the shared files may come in another
order. -/
structure Files.Reordered (T : Set (List Component)) (l : Locator) (root : String) (F G : Files) : Prop where
  /-- All other files are the same, and the same files are there. -/
  same : ∀ c ∉ T, (∀ shared : SharedFile, c ≠ components ((shared.path l).under root)) → F c = G c
  /-- The shared files are there and have the same lines, each as often. -/
  shared : ∀ shared : SharedFile, ∃ ls ls', F.linesAt (components ((shared.path l).under root)) = some ls
    ∧ G.linesAt (components ((shared.path l).under root)) = some ls' ∧ ls.Perm ls'

/-- Two full generations in one order and the other leave the same files but for the order of lines
in shared files. -/
theorem carryAll_exchange {l : Locator} (hl : IsProject l.project) (hos : ∀ o ∈ os, o.WellNamed)
    (hf : f.WellNamed) (hg : g.WellNamed) (hname : f.name ≠ g.name) (hplural : f.plural ≠ g.plural)
    (provider : Provider) (T : Set (List Component)) (root : String) :
    Files.Reordered T l root
      (carryAll root (fun _ => none)
        ((os ++ [Order.crud f] ++ [Order.crud g]).flatMap (Order.tasks l provider)))
      (carryAll root (fun _ => none)
        ((os ++ [Order.crud g] ++ [Order.crud f]).flatMap (Order.tasks l provider))) := by
  have hbelongs : ∀ {f g : Feature}, f.WellNamed → g.WellNamed →
      ∀ t ∈ (os ++ [Order.crud f] ++ [Order.crud g]).flatMap (Order.tasks l provider), t.Belongs l := by
    intro f g hf hg t ht
    obtain ⟨o, ho, ht⟩ := List.mem_flatMap.1 ht
    refine Order.tasks_belong hl ?_ provider t ht
    simp only [List.mem_append, List.mem_singleton] at ho
    obtain (ho | rfl) | rfl := ho
    exacts [hos o ho, hf, hg]
  have hsplit : ∀ (f g : Feature) (p : RelativePath),
      actionsOn p ((os ++ [Order.crud f] ++ [Order.crud g]).flatMap (Order.tasks l provider))
        = actionsOn p (os.flatMap (Order.tasks l provider))
          ++ actionsOn p (Site.crudPlan ⟨l, 0⟩ f provider)
          ++ actionsOn p (Site.crudPlan ⟨l, 0⟩ g provider) := by
    intro f g p
    rw [List.flatMap_append, List.flatMap_append, List.flatMap_singleton, List.flatMap_singleton,
      actionsOn_append, actionsOn_append]
    rfl
  refine ⟨fun c _ hc => ?_, fun shared => ?_⟩
  · by_cases hplace : ∃ layer kind p, IsPlace l layer kind p ∧ c = components (p.under root)
    · obtain ⟨layer, kind, p, hp, rfl⟩ := hplace
      have hother : ∀ shared : SharedFile, p ≠ shared.path l := by
        rintro shared rfl
        exact hc shared rfl
      rw [replay_actionsOn hl root hp (hbelongs hf hg),
        replay_actionsOn hl root hp (hbelongs hg hf), hsplit, hsplit,
        List.append_assoc, List.append_assoc,
        crudPlan_exchange hl hp hother hf hg hname hplural provider]
    · have houtside : ∀ {f g : Feature}, f.WellNamed → g.WellNamed →
          ∀ t ∈ (os ++ [Order.crud f] ++ [Order.crud g]).flatMap (Order.tasks l provider),
            t.place root ≠ c := by
        intro f g hf hg t ht heq
        obtain ⟨layer, kind, hp, -⟩ := hbelongs hf hg t ht
        exact hplace ⟨layer, kind, t.path, hp, heq.symm⟩
      rw [carryAll_of_ne (houtside hf hg), carryAll_of_ne (houtside hg hf)]
  · obtain ⟨ls, ls', hls, hls', hperm⟩ := shared.exchange hl hos hf hg hname provider root
    have hactions : ∀ {f : Feature}, f.WellNamed →
        actionsOn (shared.path l) (Site.crudPlan ⟨l, 0⟩ f provider) = shared.actions l provider f :=
      fun hf => Order.actionsOn_shared hl shared (o := .crud _) hf provider rfl
    refine ⟨ls, ls', ?_, ?_, hperm⟩
    · rw [Files.linesAt, replay_actionsOn hl root shared.place (hbelongs hf hg), hsplit,
        hactions hf, hactions hg]
      exact hls
    · rw [Files.linesAt, replay_actionsOn hl root shared.place (hbelongs hg hf), hsplit,
        hactions hf, hactions hg]
      exact hls'

theorem Files.Reordered.agree {l : Locator} {F F' G G' : Files} (h : Files.Reordered T l root F G)
    (hT : Apart l root T) (hF : F'.AgreeOff T F) (hG : G'.AgreeOff T G) :
    Files.Reordered T l root F' G' where
  same c hc hother := (hF c hc).trans ((h.same c hc hother).trans (hG c hc).symm)
  shared shared := by
    rw [Files.linesAt, Files.linesAt, hF.at_place hT shared.place, hG.at_place hT shared.place]
    exact h.shared shared

/-! ## Either order -/

/-- **Full generations of two entities can be made in either order.**  For every run and every two
entities of different names and plurals, both orders succeed where no call fails, and leave the same
files but for the order of lines in the files that entities share, and the same descriptor but for
the time of its last change. -/
theorem Run.crud_commutes (hw : w.Frank) (hT : ∀ l, Apart l root T) (hwithin : w.Within T)
    {history : List Change} (h : Run w root history s) (hc : c.Orders (.crud f)) (hc' : c'.Orders (.crud g))
    (hname : f.name ≠ g.name) (hplural : f.plural ≠ g.plural) {w₁ : Surroundings} (hcalm : w₁.Calm)
    (hwithin₁ : w₁.Within T) (hanswer : w₁.Answers answer)
    (hsettled : ∀ d ∈ s.descriptor, ∃ p, d.settleBy answer = .ok p) (options options' : Options) :
    ∃ report₁ report₂ report₁' report₂' s₁ s₂ s₁' s₂' d₂ d₂',
      execute (c.make w₁.ports options root) s = (.ok report₁, s₁)
      ∧ execute (c'.make w₁.ports options' root) s₁ = (.ok report₂, s₂)
      ∧ execute (c'.make w₁.ports options' root) s = (.ok report₁', s₁')
      ∧ execute (c.make w₁.ports options root) s₁' = (.ok report₂', s₂')
      ∧ s₂.descriptor = some d₂ ∧ s₂'.descriptor = some d₂' ∧ d₂.Alike d₂'
      ∧ Files.Reordered T d₂.locator root s₂.tree.content s₂'.tree.content := by
  obtain ⟨d, hreached⟩ := h.reached hw hT hwithin
  obtain ⟨⟨provider, settled⟩, hset⟩ := hsettled d hreached.descriptor
  obtain ⟨rfl, -⟩ := Descriptor.settleBy_eq_ok hset
  obtain ⟨report₁, s₁, report₂, s₂, d₂, hmake₁, hmake₂, h₂, halike⟩ :=
    hreached.next_cruds (hT _) hwithin₁ hcalm hanswer hc hc' hset options options'
  obtain ⟨report₁', s₁', report₂', s₂', d₂', hmake₁', hmake₂', h₂', halike'⟩ :=
    hreached.next_cruds (hT _) hwithin₁ hcalm hanswer hc' hc hset options' options
  have hcomm : ({ d with provider := some provider }.markCrud f.name).markCrud g.name
      = ({ d with provider := some provider }.markCrud g.name).markCrud f.name := by
    have hentities := hreached.orderly.update_comm hname (fun c => { c with hasCrud := true })
      fun c => { c with hasCrud := true }
    exact congrArg (fun es : Entities => { d with provider := some provider, entities := es }) hentities
  rw [hcomm] at halike
  have hdescriptors : d₂.Alike d₂' := halike.join halike'
  have hsame : d₂'.locator = d₂.locator ∧ d₂'.theProvider = d₂.theProvider := by
    rw [← hdescriptors]
    exact ⟨rfl, rfl⟩
  have hcontent' := h₂'.content
  rw [tasksOf, hsame.1, hsame.2] at hcontent'
  refine ⟨report₁, report₂, report₁', report₂', s₁, s₂, s₁', s₂', d₂, d₂', hmake₁, hmake₂, hmake₁',
    hmake₂',
    h₂.descriptor, h₂'.descriptor, hdescriptors, ?_⟩
  exact (carryAll_exchange h₂.project hreached.wellNamed (c.order_wellNamed hc) (c'.order_wellNamed hc')
    hname hplural d₂.theProvider T root).agree (hT _) h₂.content hcontent'

/-- Another entity. -/
def customer : Feature := ⟨"Customer", "Customers"⟩

theorem orders_customer : (Change.crud ⟨"Customer"⟩).Orders (.crud customer) := by
  unfold Change.Orders
  decide +kernel

/-- Two entities of a new project in either order. -/
theorem Run.crud_commutes_customer : ∃ s s₁ s₂ s₁' s₂' report₁ report₂ report₁' report₂' d₂ d₂',
    Run .still "/work" [] s
    ∧ execute ((Change.crud ⟨"Invoice"⟩).make Surroundings.still.ports {} "/work") s = (.ok report₁, s₁)
    ∧ execute ((Change.crud ⟨"Customer"⟩).make Surroundings.still.ports {} "/work") s₁ = (.ok report₂, s₂)
    ∧ execute ((Change.crud ⟨"Customer"⟩).make Surroundings.still.ports {} "/work") s = (.ok report₁', s₁')
    ∧ execute ((Change.crud ⟨"Invoice"⟩).make Surroundings.still.ports {} "/work") s₁' = (.ok report₂', s₂')
    ∧ s₂.descriptor = some d₂ ∧ s₂'.descriptor = some d₂' ∧ d₂.Alike d₂'
    ∧ Files.Reordered ∅ d₂.locator "/work" s₂.tree.content s₂'.tree.content := by
  obtain ⟨s, d, hrun, hreached, -⟩ := exists_run_start
  have hwithin := Surroundings.idle_still.within ∅
  have hsettled : ∀ d ∈ s.descriptor, ∃ p, d.settleBy (.ok 0) = .ok p := by
    intro d _
    rw [Descriptor.settleBy]
    cases d.provider <;> exact ⟨_, rfl⟩
  obtain ⟨report₁, report₂, report₁', report₂', s₁, s₂, s₁', s₂', d₂, d₂', hends⟩ :=
    Run.crud_commutes frank_still (apart_empty · "/work") hwithin hrun orders_invoice orders_customer
      (by decide) (by decide) Surroundings.calm_still hwithin (fun _ => rfl) hsettled {} {}
  exact ⟨s, s₁, s₂, s₁', s₂', report₁, report₂, report₁', report₂', d₂, d₂', hrun, hends⟩

end

end Scaffold
