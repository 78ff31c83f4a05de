import Mathlib
import Scaffold.Proofs.Change

/-!
# What orders record

An order marks its entity in the descriptor.  On entities in order (`Entities.Orderly`) a mark that
was made stays (`Order.Recorded.of_record`), because the marks of different orders do not undo each
other, and making it again changes nothing (`Order.Recorded.record_eq`).
-/

namespace Scaffold

/-! ## Entities -/

namespace Entities

/-- The entities stand in the order of their names, each once. -/
def Orderly (es : Entities) : Prop := es.Pairwise fun a b => a.1 < b.1

variable {name n : String} {g : Capabilities → Capabilities} {c : Capabilities} {es : Entities}

theorem mem_update_of_ne (hne : n ≠ name) (h : (n, c) ∈ es) : (n, c) ∈ es.update name g := by
  induction es with
  | nil => cases h
  | cons e es ih =>
      obtain ⟨m, b⟩ := e
      unfold update
      split
      next heq =>
        subst heq
        rcases List.mem_cons.1 h with h | h
        · cases h
          exact absurd rfl hne
        · exact List.mem_cons_of_mem _ h
      next =>
        split
        · exact List.mem_cons_of_mem _ h
        · rcases List.mem_cons.1 h with h | h
          · exact h ▸ List.mem_cons_self
          · exact List.mem_cons_of_mem _ (ih h)

/-- The entity of an update is there afterwards. -/
theorem mem_update_self (name : String) (g : Capabilities → Capabilities) (es : Entities) :
    ∃ c, (name, g c) ∈ es.update name g := by
  induction es with
  | nil => exact ⟨{}, List.mem_cons_self⟩
  | cons e es ih =>
      obtain ⟨m, b⟩ := e
      unfold update
      split
      next heq =>
        subst heq
        exact ⟨b, List.mem_cons_self⟩
      next =>
        split
        · exact ⟨{}, List.mem_cons_self⟩
        · obtain ⟨c, hc⟩ := ih
          exact ⟨c, List.mem_cons_of_mem _ hc⟩

theorem fst_mem_update {e : String × Capabilities} (h : e ∈ es.update name g) :
    e.1 = name ∨ ∃ c, (e.1, c) ∈ es := by
  induction es with
  | nil => exact .inl (List.mem_singleton.1 h ▸ rfl)
  | cons d es ih =>
      obtain ⟨m, b⟩ := d
      unfold update at h
      split at h
      next heq =>
        subst heq
        rcases List.mem_cons.1 h with rfl | h
        · exact .inl rfl
        · exact .inr ⟨e.2, List.mem_cons_of_mem _ h⟩
      next =>
        split at h
        · rcases List.mem_cons.1 h with rfl | h
          · exact .inl rfl
          · exact .inr ⟨e.2, h⟩
        · rcases List.mem_cons.1 h with rfl | h
          · exact .inr ⟨b, List.mem_cons_self⟩
          · exact (ih h).imp_right fun ⟨c, hc⟩ => ⟨c, List.mem_cons_of_mem _ hc⟩

theorem Orderly.update (h : es.Orderly) (name : String) (g : Capabilities → Capabilities) :
    (es.update name g).Orderly := by
  induction es with
  | nil => exact List.pairwise_singleton _ _
  | cons e es ih =>
      obtain ⟨m, b⟩ := e
      obtain ⟨hhead, htail⟩ := List.pairwise_cons.1 h
      unfold Entities.update
      split
      · exact List.pairwise_cons.2 ⟨hhead, htail⟩
      next hne =>
        split
        next hlt =>
          refine List.pairwise_cons.2 ⟨fun d hd => ?_, h⟩
          rcases List.mem_cons.1 hd with rfl | hd
          · exact hlt
          · exact hlt.trans (hhead d hd)
        next hge =>
          have hmlt : m < name := lt_of_le_of_ne (not_lt.1 hge) (Ne.symm hne)
          refine List.pairwise_cons.2 ⟨fun d hd => ?_, ih htail⟩
          rcases fst_mem_update hd with heq | ⟨c, hc⟩
          · exact heq ▸ hmlt
          · exact hhead (d.1, c) hc

/-- An update that finds its entity as it would leave it changes nothing. -/
theorem Orderly.update_eq (h : es.Orderly) (hmem : (name, c) ∈ es) (hc : g c = c) :
    es.update name g = es := by
  induction es with
  | nil => cases hmem
  | cons e es ih =>
      obtain ⟨m, b⟩ := e
      obtain ⟨hhead, htail⟩ := List.pairwise_cons.1 h
      unfold Entities.update
      rcases List.mem_cons.1 hmem with heq | hmem
      · cases heq
        rw [if_pos rfl, hc]
      · have hlt := hhead (name, c) hmem
        rw [if_neg (ne_of_gt hlt), if_neg (not_lt_of_gt hlt), ih htail hmem]

/-- An update of an entity that is there changes its capabilities. -/
theorem Orderly.mem_update (h : es.Orderly) (hmem : (name, c) ∈ es) :
    (name, g c) ∈ es.update name g := by
  induction es with
  | nil => cases hmem
  | cons e es ih =>
      obtain ⟨m, b⟩ := e
      obtain ⟨hhead, htail⟩ := List.pairwise_cons.1 h
      unfold Entities.update
      rcases List.mem_cons.1 hmem with heq | hmem
      · cases heq
        rw [if_pos rfl]
        exact List.mem_cons_self
      · have hlt := hhead (name, c) hmem
        rw [if_neg (ne_of_gt hlt), if_neg (not_lt_of_gt hlt)]
        exact List.mem_cons_of_mem _ (ih htail hmem)

end Entities

/-! ## Marks -/

namespace Order

/-- What an order marks, and how. -/
def mark : Order → Option (String × (Capabilities → Capabilities))
  | .crud f => some (f.name, fun c => { c with hasCrud := true })
  | .action f _ => some (f.name, fun c => { c with hasAction := true })
  | .service (.featureLocal f) _ _ | .enum f _ => some (f.name, id)
  | .service .shared _ _ | .service (.external _) _ _ | .constant _ _ => none

theorem record_eq_mark (d : Descriptor) (o : Order) :
    o.record d = match o.mark with
      | some (name, g) => d.updateEntity name g
      | none => d := by
  cases o with
  | service p name lifetime => cases p <;> rfl
  | _ => rfl

/-- Marks are made once, and do not undo each other. -/
theorem mark_commute {o o' : Order} {n n' : String} {g g' : Capabilities → Capabilities}
    (h : o.mark = some (n, g)) (h' : o'.mark = some (n', g')) (c : Capabilities) :
    g (g c) = g c ∧ g (g' c) = g' (g c) := by
  have hform : ∀ {o : Order} {n : String} {g : Capabilities → Capabilities}, o.mark = some (n, g) →
      g = (fun c => { c with hasCrud := true }) ∨ g = (fun c => { c with hasAction := true })
        ∨ g = id := by
    intro o n g h
    cases o with
    | service p name lifetime =>
        cases p with
        | featureLocal f =>
            cases h
            exact .inr (.inr rfl)
        | shared => cases h
        | external e => cases h
    | crud f =>
        cases h
        exact .inl rfl
    | action f r =>
        cases h
        exact .inr (.inl rfl)
    | constant f name => cases h
    | enum f name =>
        cases h
        exact .inr (.inr rfl)
  rcases hform h with rfl | rfl | rfl <;> rcases hform h' with rfl | rfl | rfl <;> exact ⟨rfl, rfl⟩

/-- The mark of an order was made. -/
def Recorded (es : Entities) (o : Order) : Prop :=
  ∀ n g, o.mark = some (n, g) → ∃ c, (n, c) ∈ es ∧ g c = c

/-- Recording does nothing but mark the entity. -/
theorem record_frame (d : Descriptor) (o : Order) :
    o.record d = { d with entities := (o.record d).entities } := by
  rw [record_eq_mark]
  cases o.mark <;> rfl

theorem orderly_record {d : Descriptor} (h : d.entities.Orderly) (o : Order) :
    (o.record d).entities.Orderly := by
  rw [record_eq_mark]
  cases o.mark with
  | none => exact h
  | some mark => exact h.update _ _

/-- What an order records is recorded. -/
theorem recorded_record (d : Descriptor) (o : Order) : o.Recorded (o.record d).entities := by
  intro n g hmark
  rw [record_eq_mark, hmark]
  obtain ⟨c, hc⟩ := Entities.mem_update_self n g d.entities
  exact ⟨g c, hc, (mark_commute hmark hmark c).1⟩

namespace Recorded

variable {d : Descriptor} {o : Order}

/-- What is recorded stays recorded. -/
theorem of_record (h : o.Recorded d.entities) (hd : d.entities.Orderly) (o' : Order) :
    o.Recorded (o'.record d).entities := by
  intro n g hmark
  obtain ⟨c, hmem, hc⟩ := h n g hmark
  rw [record_eq_mark]
  cases hmark' : o'.mark with
  | none => exact ⟨c, hmem, hc⟩
  | some mark =>
      obtain ⟨n', g'⟩ := mark
      by_cases hn : n = n'
      · subst hn
        refine ⟨g' c, hd.mem_update hmem, ?_⟩
        rw [(mark_commute hmark hmark' c).2, hc]
      · exact ⟨c, Entities.mem_update_of_ne hn hmem, hc⟩

/-- Recording again changes nothing. -/
theorem record_eq (h : o.Recorded d.entities) (hd : d.entities.Orderly) : o.record d = d := by
  rw [record_eq_mark]
  cases hmark : o.mark with
  | none => rfl
  | some mark =>
      obtain ⟨n, g⟩ := mark
      obtain ⟨c, hmem, hc⟩ := h n g hmark
      show { d with entities := d.entities.update n g } = d
      rw [hd.update_eq hmem hc]

end Recorded

end Order

end Scaffold
