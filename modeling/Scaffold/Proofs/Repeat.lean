import Mathlib
import Scaffold.Proofs.Run

/-!
# Repeated requests

A request that succeeded is made again, at any later point of a run.  Its tasks rest, because no
later task takes a line out, and its mark is in the descriptor.  So a repeated request alters nothing
(`Reached.repeated_same`); where no call fails, one for an action or a service is refused, because
the gate finds what the first one brought, and any other one succeeds (`Reached.repeated_calm`).
-/

namespace Scaffold

open Scaffold.Path (components)

section

variable {w : Surroundings} {T : Set (List Component)} {root : String} {os : List Order}
  {s : Scene} {d : Descriptor} {o : Order}

/-! ## What an order leaves -/

/-- What an order brings is declared by one of its tasks. -/
theorem Order.exists_task_of_novelty {m : Member} (hm : m ∈ o.novelty) (l : Locator)
    (provider : Provider) : ∃ t ∈ o.tasks l provider, t.path = m.path l
      ∧ ∃ ctx, t.action = .declare (m.declaration l) ctx := by
  cases o with
  | crud f => cases hm
  | action f r =>
      cases hm
      have hpart : ∀ t ∈ (Site.mk l 0).exposure f (r.useCase f),
          t ∈ (Order.action f r).tasks l provider := by
        intro t ht
        simp only [Order.tasks, Order.plan, Site.actionPlan, List.mem_append]
        tauto
      exact ⟨_, hpart _ List.mem_cons_self, rfl, _, rfl⟩
  | service p name lifetime =>
      cases hm
      have hpart : ∀ t ∈ (Site.mk l 0).service p name lifetime,
          t ∈ (Order.service p name lifetime).tasks l provider := by
        intro t ht
        exact List.mem_append_left _ ht
      exact ⟨_, hpart _ (List.mem_cons_of_mem _ (List.mem_cons_of_mem _ List.mem_cons_self)), rfl,
        _, rfl⟩
  | constant f name => cases hm
  | enum f name => cases hm

/-- Decide whether no gate asks that what a request brings is new. -/
def Change.isRepeatable : Change → Bool
  | .crud _ | .constant _ | .enum _ => true
  | .action _ | .service _ => false

/-- Requests for actions and services bring something new. -/
theorem Change.novelty_of_orders {c : Change} (h : c.Orders o) :
    o.novelty.isSome = !c.isRepeatable := by
  cases c with
  | crud r | action r | service r | constant r | enum r =>
      obtain ⟨a, -, rfl⟩ := map_eq_ok h
      rfl

/-- What a task declares that rests is there. -/
theorem Task.Rests.present {t : Task} {F : Files} (h : t.Rests root F) {l : Locator} {m : Member}
    (hpath : t.path = m.path l) {ctx : Context} (haction : t.action = .declare (m.declaration l) ctx) :
    m.Present l root F := by
  unfold Task.Rests Task.place at h
  rw [haction, hpath] at h
  obtain ⟨samples, hclean⟩ | ⟨ls, hls, hmet⟩ := h
  · cases hclean
  · exact ⟨ls, hls, hmet⟩

/-- What an order brought is there. -/
theorem Reached.not_novel (h : Reached T root os s d) (hT : Apart d.locator root T) (ho : o ∈ os)
    (hnovel : o.novelty.isSome = true) : ¬ o.Novel d.locator root s.tree.content := by
  obtain ⟨m, hm⟩ := Option.isSome_iff_exists.1 hnovel
  obtain ⟨t, ht, hpath, ctx, haction⟩ := Order.exists_task_of_novelty hm d.locator d.theProvider
  intro hnew
  exact hnew m hm ((h.rests hT o ho t ht).present hpath haction)

/-- The provider an order was carried out with is still the provider. -/
theorem Reached.settles (h : Reached T root os s d) (ho : o ∈ os) {answer : Except Error Nat}
    {provider : Provider} {settled : Descriptor} (hsettles : o.Settles d answer provider settled) :
    o.tasks d.locator provider = o.tasks d.locator d.theProvider ∧ settled = d := by
  cases hneeds : o.needsProvider with
  | false => exact ⟨Order.plan_provider hneeds _ _ _, hsettles.idle hneeds⟩
  | true =>
      obtain ⟨p, hp⟩ := Option.isSome_iff_exists.1 (h.provider o ho hneeds)
      obtain ⟨rfl, hsame⟩ := Descriptor.settleBy_eq_ok (hsettles.needed hneeds)
      cases hsame p hp
      refine ⟨by rw [Descriptor.theProvider, hp, Option.getD_some], ?_⟩
      rw [← hp]

theorem Reached.settled (h : Reached T root os s d) (ho : o ∈ os) (answer : Except Error Nat) :
    o.Settled d answer := by
  intro hneeds
  obtain ⟨p, hp⟩ := Option.isSome_iff_exists.1 (h.provider o ho hneeds)
  exact ⟨(p, d), by simp only [Descriptor.settleBy, hp]⟩

/-! ## Making it again -/

variable {w' : Surroundings} {c : Change}

theorem Reached.repeated_same (h : Reached T root os s d) (hT : ∀ l, Apart l root T)
    (hw : w.Idle) (hc : c.Orders o) (ho : o ∈ os) (options : Options) :
    s.Same .run (execute (c.make w.ports options root) s).2
      ∧ ∀ report, (execute (c.make w.ports options root) s).1 = .ok report →
          changedCount report.steps = 0 := by
  cases hnovel : o.novelty with
  | none =>
      have hcontainer : Reads .run (o.recordContainer w.ports) := by
        cases o with
        | service p name lifetime => cases hnovel
        | crud _ | action _ _ | constant _ _ | enum _ _ => exact .pure _
      have hrests : ∀ answer provider settled, o.Settles d answer provider settled →
          (∀ t ∈ o.tasks d.locator provider, t.Rests root s.tree.content)
            ∧ o.record settled = d := by
        intro answer provider settled hsettles
        obtain ⟨htasks, rfl⟩ := h.settles ho hsettles
        rw [htasks]
        exact ⟨h.rests (hT _) o ho, (h.recorded o ho).record_eq h.orderly⟩
      obtain ⟨r, s', hrun, hsame, hreport⟩ := Change.make_rests (w := w) h.project hw h.sound
        h.descriptor hc hrests hcontainer options
      rw [hrun]
      exact ⟨hsame, hreport⟩
  | some m =>
      have hnot := h.not_novel (hT _) ho (by rw [hnovel]; rfl)
      obtain ⟨answer, hends⟩ := Change.make_outcome (T := ∅) h.project (apart_empty _ root)
        (hw.within ∅) h.sound h.descriptor hc options
      rcases hrun : execute (c.make w.ports options root) s with ⟨e | report, s'⟩ <;>
        rw [hrun] at hends
      · obtain hsame | ⟨hadmitted, -⟩ := hends.failed e rfl
        · exact ⟨hsame.mono (by decide), nofun⟩
        · exact absurd hadmitted.novel hnot
      · exact absurd (hends.ended report rfl).1.novel hnot

theorem Reached.repeated_calm (h : Reached T root os s d) (hT : ∀ l, Apart l root T)
    (hw : w.Idle) (hcalm : w.Calm) (hc : c.Orders o) (ho : o ∈ os) (options : Options) :
    (o.novelty = none → ∃ report, (execute (c.make w.ports options root) s).1 = .ok report)
      ∧ (o.novelty.isSome = true → ∃ capability artifact key,
          (execute (c.make w.ports options root) s).1
            = .error (.request (.alreadyPresent capability artifact key))) := by
  obtain ⟨answer, hends⟩ := Change.make_outcome (T := ∅) h.project (apart_empty _ root)
    (hw.within ∅) h.sound h.descriptor hc options
  have hgrounded := h.grounded o ho
  refine ⟨fun hnone => hends.calm hcalm ⟨hgrounded, fun m hm => ?_⟩ (h.settled ho answer),
    fun hsome => (hends.refused hcalm hgrounded (h.not_novel (hT _) ho hsome)).2⟩
  rw [hnone] at hm
  cases hm

/-- **A request that succeeded alters nothing when it is made again**, whatever came in between: no
file is written and no directory made, and neither store is saved. Where no call fails, it succeeds
without a change if it was for the canonical use cases, a constant or an enum, and it is refused as
being there already if it was for an action or a service. -/
theorem Run.repeated (hw : w.Frank) (hidle : w.Idle) {history : List Change}
    (h : Run w root history s) (hc : c ∈ history) (hidle' : w'.Idle) (options : Options) :
    s.Same .run (execute (c.make w'.ports options root) s).2
    ∧ (w'.Calm → match c with
      | .crud _ | .constant _ | .enum _ => ∃ report,
          (execute (c.make w'.ports options root) s).1 = .ok report
            ∧ changedCount report.steps = 0
      | .action _ | .service _ => ∃ capability artifact key,
          (execute (c.make w'.ports options root) s).1
            = .error (.request (.alreadyPresent capability artifact key))) := by
  have hT : ∀ l, Apart l root ∅ := fun l => apart_empty l root
  obtain ⟨d, hreached⟩ := h.reached hw hT (hidle.within ∅)
  obtain ⟨o, ho⟩ := h.ordered c hc
  have hmem : o ∈ ordersOf history := mem_ordersOf.2 ⟨c, hc, ho⟩
  obtain ⟨hsame, hunchanged⟩ := hreached.repeated_same hT hidle' ho hmem options
  refine ⟨hsame, fun hcalm => ?_⟩
  obtain ⟨hok, hrefused⟩ := hreached.repeated_calm hT hidle' hcalm ho hmem options
  have hreport : o.novelty = none → ∃ report,
      (execute (c.make w'.ports options root) s).1 = .ok report
        ∧ changedCount report.steps = 0 := by
    intro hnone
    obtain ⟨report, hr⟩ := hok hnone
    exact ⟨report, hr, hunchanged report hr⟩
  have hform := c.novelty_of_orders ho
  cases c with
  | crud r | constant r | enum r => exact hreport (by simpa [Change.isRepeatable] using hform)
  | action r | service r => exact hrefused hform

/-- A full generation that is made again succeeds and changes nothing. -/
theorem Run.repeated_invoice : ∃ s, Run .still "/work" [.crud ⟨"Invoice"⟩] s
    ∧ s.Same .run (execute ((Change.crud ⟨"Invoice"⟩).make Surroundings.still.ports {} "/work") s).2
    ∧ ∃ report, (execute ((Change.crud ⟨"Invoice"⟩).make Surroundings.still.ports {} "/work") s).1
        = .ok report ∧ changedCount report.steps = 0 := by
  obtain ⟨s, _, hrun, -, -⟩ := exists_run_invoice
  obtain ⟨hsame, hreport⟩ := Run.repeated frank_still Surroundings.idle_still hrun List.mem_cons_self
    Surroundings.idle_still {}
  exact ⟨s, hrun, hsame, hreport Surroundings.calm_still⟩

end

end Scaffold
