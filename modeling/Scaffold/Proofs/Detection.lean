import Mathlib
import Scaffold.Proofs.Run

/-!
# Detection over runs

Whether something is there already is decided by a text that is looked for on the lines of a file.
After a run this text is found if and only if a request of the run made sure of a declaration with
it, and then on one line (`Run.detected`).  So nothing is taken to be there that is not, and nothing
is put in twice.
-/

namespace Scaffold

open Scaffold.Path (components)
open Scaffold.Text

/-- The lines of a file, and none if it is not there. -/
def Scene.linesOf (s : Scene) (root : String) (p : RelativePath) : List String :=
  (s.tree.content.linesAt (components (p.under root))).getD []

/-- A request makes sure that something with a detection is declared in a file of a project. -/
def Change.Ensures (d : Descriptor) (p : RelativePath) (detection : String) (c : Change) : Prop :=
  ∃ o, c.Orders o ∧ ∃ t ∈ o.tasks d.locator d.theProvider,
    t.path = p ∧ t.action.declares detection = true

section

variable {w : Surroundings} {T : Set (List Component)} {root : String} {s : Scene}
  {history : List Change}

theorem any_declares_iff {d : Descriptor} {p : RelativePath} {detection : String} :
    (actionsOn p (tasksOf d (ordersOf history))).any (Action.declares detection) = true
      ↔ ∃ c ∈ history, c.Ensures d p detection := by
  simp only [List.any_eq_true, mem_actionsOn, tasksOf, List.mem_flatMap, mem_ordersOf,
    Change.Ensures]
  constructor
  · rintro ⟨_, ⟨t, ⟨o, ⟨c, hc, ho⟩, ht⟩, hpath, rfl⟩, hdeclares⟩
    exact ⟨c, hc, o, ho, t, ht, hpath, hdeclares⟩
  · rintro ⟨c, hc, o, ho, t, ht, hpath, hdeclares⟩
    exact ⟨_, ⟨t, ⟨o, ⟨c, hc, ho⟩, ht⟩, hpath, rfl⟩, hdeclares⟩

/-- How often a detection is found after a run. -/
theorem Reached.countP {os : List Order} {d : Descriptor} (h : Reached T root os s d)
    (hT : Apart d.locator root T) {m : Member} (hm : m.WellNamed) :
    (s.linesOf root (m.path d.locator)).countP (contains · (m.declaration d.locator).detection)
      = if (actionsOn (m.path d.locator) (tasksOf d os)).any
          (Action.declares (m.declaration d.locator).detection) then 1 else 0 := by
  obtain ⟨layer, hplace⟩ := m.place (l := d.locator) hm
  exact (h.written hT hplace).countP h.project hm rfl rfl

/-- A detection that an order made sure of is found once. -/
theorem Reached.countP_of_mem {os : List Order} {d : Descriptor} (h : Reached T root os s d)
    (hT : Apart d.locator root T) {m : Member} (hm : m.WellNamed) {ctx : Context}
    (hmem : .declare (m.declaration d.locator) ctx
      ∈ actionsOn (m.path d.locator) (tasksOf d os)) :
    (s.linesOf root (m.path d.locator)).countP (contains · (m.declaration d.locator).detection) = 1 := by
  have hany : (actionsOn (m.path d.locator) (tasksOf d os)).any
      (Action.declares (m.declaration d.locator).detection) = true :=
    List.any_eq_true.2 ⟨_, hmem, beq_self_eq_true _⟩
  rw [h.countP hT hm, if_pos hany]

/-- **Detection is exact over runs.**  In every file of a project the detection of a member is found
if and only if a request of the run that succeeded made sure of a declaration with this detection in
this file, and then it is found on exactly one line. -/
theorem Run.detected (hw : w.Frank) (hT : ∀ l, Apart l root T) (hwithin : w.Within T)
    (h : Run w root history s) : ∃ d, s.descriptor = some d ∧ ∀ m : Member, m.WellNamed →
      ((∃ x ∈ s.linesOf root (m.path d.locator),
          contains x (m.declaration d.locator).detection = true)
        ↔ ∃ c ∈ history, c.Ensures d (m.path d.locator) (m.declaration d.locator).detection)
      ∧ ((∃ c ∈ history, c.Ensures d (m.path d.locator) (m.declaration d.locator).detection) →
        (s.linesOf root (m.path d.locator)).countP
          (contains · (m.declaration d.locator).detection) = 1) := by
  obtain ⟨d, hreached⟩ := h.reached hw hT hwithin
  refine ⟨d, hreached.descriptor, fun m hm => ?_⟩
  have hcount := hreached.countP (hT _) hm
  refine ⟨⟨fun ⟨x, hx, hfound⟩ => ?_, fun h => ?_⟩, fun h =>
    hcount.trans (if_pos (any_declares_iff.2 h))⟩
  · by_contra hnot
    have hnone := hcount.trans (if_neg fun hany => hnot (any_declares_iff.1 hany))
    exact List.countP_eq_zero.1 hnone x hx hfound
  · have hpos : 0 < (s.linesOf root (m.path d.locator)).countP
        (contains · (m.declaration d.locator).detection) := by
      rw [hcount, if_pos (any_declares_iff.2 h)]
      exact Nat.one_pos
    exact List.countP_pos_iff.1 hpos

/-- The set of an entity that was generated is found on one line. -/
theorem Run.detected_invoice : ∃ s d, Run .still "/work" [.crud ⟨"Invoice"⟩] s
    ∧ s.descriptor = some d
    ∧ (s.linesOf "/work" d.locator.dbContext).countP (contains · "DbSet<Invoice> ") = 1 := by
  obtain ⟨s, d, hrun, hreached, -⟩ := exists_run_invoice
  obtain ⟨d', hd, hdetected⟩ := Run.detected frank_still (apart_empty · "/work")
    (Surroundings.idle_still.within ∅) hrun
  obtain rfl := Option.some.inj (hreached.descriptor.symm.trans hd)
  have htasks : ∀ t ∈ Site.persistence ⟨d.locator, 0⟩ invoice d.theProvider,
      t ∈ (Order.crud invoice).tasks d.locator d.theProvider := by
    intro t ht
    simp only [Order.tasks, Order.plan, Site.crudPlan, List.mem_append]
    tauto
  have hensures : (Change.crud ⟨"Invoice"⟩).Ensures d d.locator.dbContext
      (Detection.dbSet invoice.name) :=
    ⟨_, orders_invoice, _, htasks _ List.mem_cons_self, rfl, beq_self_eq_true _⟩
  exact ⟨s, d, hrun, hd, (hdetected (.dbSet invoice) (hreached.wellNamed _ List.mem_cons_self)).2
    ⟨_, List.mem_cons_self, hensures⟩⟩

end

end Scaffold
