import Mathlib
import Scaffold.Proofs.Generation

/-!
# Single actions

A single action that succeeds is exposed by its own block, since its entrypoint was free.  Whatever
else it generates is found on one line, but the block there is its own only if no earlier request
declared something under the same detection: a method or a use case that goes by the name of an
earlier one is taken to be there (`Run.action_generates`).
-/

namespace Scaffold

open Scaffold.Path (components)
open Scaffold.Text

section

variable {w : Surroundings} {T : Set (List Component)} {root : String} {s s' : Scene}
  {history : List Change}

/-- What a request reaches that succeeds. -/
theorem Run.reached_done (hw : w.Frank) (hT : ∀ l, Apart l root T) (hwithin : w.Within T)
    (h : Run w root history s) {c : Change} {o : Order} (hc : c.Orders o) {options : Options}
    {report : Report} (hmake : execute (c.make w.ports options root) s = (.ok report, s')) :
    ∃ d d', Reached T root (ordersOf history) s d ∧ o.Admitted d.locator root s.tree.content
      ∧ d.Follows d' ∧ Reached T root (ordersOf history ++ [o]) s' d' := by
  obtain ⟨d, hreached⟩ := h.reached hw hT hwithin
  obtain ⟨o', d', ho, hadmitted, hfollows, hreached'⟩ := hreached.done (hT _) hwithin hmake
  cases hc.symm.trans ho
  exact ⟨d, d', hreached, hadmitted, hfollows, hreached'⟩

/-- A member is there exactly if an order declared something under its detection. -/
theorem Reached.present_iff {os : List Order} {d : Descriptor} (h : Reached T root os s d)
    (hT : Apart d.locator root T) {m : Member} (hm : m.WellNamed) :
    m.Present d.locator root s.tree.content
      ↔ (actionsOn (m.path d.locator) (tasksOf d os)).any
          (Action.declares (m.declaration d.locator).detection) = true := by
  have hcount := h.countP hT hm
  have hpresent : m.Present d.locator root s.tree.content
      ↔ 0 < (s.linesOf root (m.path d.locator)).countP
          (contains · (m.declaration d.locator).detection) := by
    unfold Member.Present Scene.linesOf
    rw [List.countP_pos_iff]
    cases s.tree.content.linesAt (components ((m.path d.locator).under root)) <;> simp
  rw [hpresent, hcount]
  split <;> simp_all

/-- **What a single action that succeeds leaves.**  Every member of it is found on one line, its
entrypoint is exposed by its own block, and so is every other member declared that no earlier
request declared something for under the same detection.  The repository shows the methods of all
requests, the first one of each name. -/
theorem Run.action_generates (hw : w.Frank) (hT : ∀ l, Apart l root T) (hwithin : w.Within T)
    (h : Run w root history s) {c : Change} {f : Feature} {r : ActionRequest}
    (hc : c.Orders (.action f r)) {options : Options} {report : Report}
    (hmake : execute (c.make w.ports options root) s = (.ok report, s')) :
    ∃ d, s'.descriptor = some d
      ∧ (∀ M ∈ Generation.members ⟨f, (r.useCase f).methods, [r.useCase f]⟩,
        (s'.linesOf root (M.path d.locator)).countP
            (contains · (M.declaration d.locator).detection) = 1
        ∧ ((¬ ∃ c' ∈ history,
            c'.Ensures d (M.path d.locator) (M.declaration d.locator).detection) →
          Whole (M.declaration d.locator).anchor (M.declaration d.locator).block
            (s'.linesOf root (M.path d.locator))))
      ∧ Whole ((Member.exposure f (r.useCase f)).declaration d.locator).anchor
        ((r.useCase f).exposureBlock d.style f) (s'.linesOf root (d.locator.exposure f))
      ∧ ∀ part : RepositoryPart, (s'.linesOf root (part.path d.locator f)).filterMap readMethod?
        = (methodsOf f.name (ordersOf history ++ [.action f r])).map fun x => x.2.text f.name := by
  obtain ⟨d, d', hreached, hadmitted, hfollows, hreached'⟩ := h.reached_done hw hT hwithin hc hmake
  have hg : (Order.action f r).generation = some ⟨f, (r.useCase f).methods, [r.useCase f]⟩ := rfl
  have hdistinct := Change.generation_distinct hc d'.style _ hg
  have ho := c.order_wellNamed hc
  have hwhole := fun {M} => hreached'.whole_of_new (M := M) (hT _) hg hdistinct
  refine ⟨d', hreached'.descriptor, fun M hM => ⟨hreached'.countP_member (hT _) hg hdistinct hM,
    fun hnew => hwhole hM (Bool.eq_false_iff.2 fun hany => hnew (any_declares_iff.1 hany))⟩, ?_,
    fun part => hreached'.methods (hT _) ho.1 part⟩
  have hexposure : Member.exposure f (r.useCase f)
      ∈ Generation.members ⟨f, (r.useCase f).methods, [r.useCase f]⟩ :=
    Generation.exposure_mem_members List.mem_cons_self
  have hwell : (Member.exposure f (r.useCase f)).WellNamed := ⟨ho.1, useCase_wellNamed ho.1 ho.2⟩
  have hnew := Bool.eq_false_iff.2
    (mt (hreached.present_iff (hT _) hwell).2 (hadmitted.novel _ rfl))
  rw [← hfollows.tasksOf_eq hreached.provider, ← hfollows.locator] at hnew
  obtain ⟨separated, hdeclaration⟩ := Member.declaration_exposure d'.locator f (r.useCase f)
  have := hwhole hexposure hnew
  rw [hdeclaration] at this ⊢
  exact this

/-- After a full generation of its entity nothing refuses an action that no canonical entrypoint is
exposed by the text of. -/
theorem Reached.admitted_action {d : Descriptor} {f : Feature} {r : ActionRequest}
    (h : Reached T root [.crud f] s d) (hT : Apart d.locator root T)
    (haction : (Order.action f r).WellNamed)
    (hnew : ∀ u ∈ UseCase.fullSet f, u.detection d.style ≠ (r.useCase f).detection d.style) :
    (Order.action f r).Admitted d.locator root s.tree.content := by
  have hcrud := h.wellNamed _ List.mem_cons_self
  refine ⟨?_, ?_⟩
  · rintro g ⟨⟩
    obtain hclean | ⟨ls, hls, -⟩ := h.rests hT _ List.mem_cons_self
      (Site.entityType ⟨d.locator, 0⟩ f) (by simp [Order.tasks, Order.plan, Site.crudPlan])
    · obtain ⟨samples, hsamples⟩ := hclean
      cases hsamples
    · obtain ⟨text, htext, -⟩ := Option.map_eq_some_iff.1 hls
      exact Option.isSome_iff_exists.2 ⟨text, htext⟩
  · rintro m ⟨⟩ hpresent
    have hwell : (Member.exposure f (r.useCase f)).WellNamed :=
      ⟨haction.1, useCase_wellNamed haction.1 haction.2⟩
    have hplace := place_exposure (l := d.locator) haction.1
    have hany := (h.present_iff hT hwell).1 hpresent
    change (actionsOn (d.locator.exposure f) (tasksOf d [.crud f])).any _ = true at hany
    rw [tasksOf, List.flatMap_singleton, Order.actionsOn_tasks h.project hplace (by decide) hcrud,
      List.any_eq_true] at hany
    obtain ⟨a, ha, hdeclares⟩ := hany
    obtain ⟨g, hg, ha⟩ := List.mem_flatMap.1 ha
    cases Option.mem_toList.1 hg
    rw [Generation.actionsOn_exposure h.project (Order.generation_wellNamed hcrud _ rfl) haction.1]
      at ha
    obtain ⟨u, hu, ha⟩ := List.mem_flatMap.1 ha
    rw [if_pos rfl] at ha
    obtain ⟨separated, hdeclaration⟩ := Member.declaration_exposure d.locator f u
    obtain ⟨separated', hdeclaration'⟩ := Member.declaration_exposure d.locator f (r.useCase f)
    rw [hdeclaration'] at hdeclares
    rcases List.mem_pair.1 ha with rfl | rfl
    · rw [hdeclaration] at hdeclares
      exact hnew u hu (beq_iff_eq.1 hdeclares)
    · cases hdeclares

/-- A custom action of the entity of the examples. -/
def approve : ActionRequest := ⟨"Invoice", "Approve", .post, false⟩

theorem orders_approve : (Change.action approve).Orders (.action invoice approve) := by
  unfold Change.Orders
  decide +kernel

/-- No canonical entrypoint is exposed by the text of the custom action. -/
theorem detection_approve_ne {style : Exposure} (hstyle : style = .routes) :
    ∀ u ∈ UseCase.fullSet invoice,
      u.detection style ≠ (approve.useCase invoice).detection style := by
  subst hstyle
  decide +kernel

/-- After a full generation of the entity nothing refuses a custom action of it. -/
theorem Reached.admitted_approve {d : Descriptor} (h : Reached ∅ "/work" [.crud invoice] s d)
    (hl : d.locator = ⟨"Acme", .routes⟩) :
    (Order.action invoice approve).Admitted d.locator "/work" s.tree.content :=
  h.admitted_action (apart_empty _ _) ((Change.action approve).order_wellNamed orders_approve)
    (detection_approve_ne (congrArg Locator.style hl))

/-- A custom action after the full generation of its entity is exposed by its own block. -/
theorem Run.action_generates_approve : ∃ s d,
    Run .still "/work" [.crud ⟨"Invoice"⟩, .action approve] s
    ∧ s.descriptor = some d
    ∧ Whole ((Member.exposure invoice (approve.useCase invoice)).declaration d.locator).anchor
        ((approve.useCase invoice).exposureBlock d.style invoice)
        (s.linesOf "/work" (d.locator.exposure invoice))
    ∧ ∀ part : RepositoryPart, (s.linesOf "/work" (part.path d.locator invoice)).filterMap readMethod?
        = (methodsOf "Invoice" [.crud invoice, .action invoice approve]).map
            fun x => x.2.text "Invoice" := by
  obtain ⟨s, d, hrun, hreached, hlocator⟩ := exists_run_invoice
  have hwithin := Surroundings.idle_still.within ∅
  obtain ⟨report, s', hmake⟩ := hreached.next (apart_empty _ _) hwithin
    Surroundings.calm_still (fun _ => rfl) orders_approve (hreached.admitted_approve hlocator)
    (fun _ => by rw [Descriptor.settleBy]; cases d.provider <;> exact ⟨_, rfl⟩) {}
  obtain ⟨d', hd', -, hexposure, hmethods⟩ := Run.action_generates frank_still
    (apart_empty · "/work") hwithin hrun orders_approve hmake
  have horders : ordersOf [.crud ⟨"Invoice"⟩] = [.crud invoice] := by
    rw [← List.nil_append [Change.crud ⟨"Invoice"⟩], ordersOf_append orders_invoice]
    rfl
  rw [horders] at hmethods
  exact ⟨s', d', hrun.done hmake, hd', hexposure, hmethods⟩

end

end Scaffold
