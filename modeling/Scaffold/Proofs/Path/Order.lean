import Mathlib
import Scaffold.Path

/-!
# The order of paths

Lists of components are ordered like words are, letter by letter, where the letters are the
components with an order of their own (`componentsLt_iff`).  So of two different lists one comes
before the other, and below one directory the order of the paths is that of the last names
(`componentsLt_concat_name`).
-/

namespace Scaffold

namespace Component

/-- What components are ordered by: the kind, and of one kind the text. -/
def key (c : Component) : ℕ ×ₗ String := toLex (c.rank, c.text)

theorem key_injective : Function.Injective key := by
  intro a b h
  have hkey := Prod.ext_iff.1 (toLex_inj.1 h)
  cases a <;> cases b <;> simp_all [rank, text]

theorem lt_iff (a b : Component) : a.lt b = true ↔ a.key < b.key := by
  rw [key, key, Prod.Lex.toLex_lt_toLex]
  cases a <;> cases b <;> simp [lt, rank, text]

end Component

theorem componentsLt_iff (as bs : List Component) :
    componentsLt as bs = true ↔ as.map Component.key < bs.map Component.key := by
  induction as generalizing bs with
  | nil => cases bs <;> simp [componentsLt]
  | cons a as ih =>
      cases bs with
      | nil => simp [componentsLt]
      | cons b bs =>
          rw [componentsLt, List.map_cons, List.map_cons, List.cons_lt_cons_iff]
          split
          next heq => simp [heq, ih]
          next hne => simp [Component.key_injective.eq_iff, hne, Component.lt_iff]

variable {as bs cs : List Component}

theorem componentsLt_trans (h : componentsLt as bs = true) (h' : componentsLt bs cs = true) :
    componentsLt as cs = true := by
  rw [componentsLt_iff] at *
  exact h.trans h'

theorem componentsLt_of_not (hne : as ≠ bs) (h : ¬ componentsLt as bs = true) :
    componentsLt bs as = true := by
  rw [componentsLt_iff] at *
  exact (lt_or_gt_of_ne (Component.key_injective.list_map.ne hne)).resolve_left h

/-- In one directory the names are in order. -/
theorem componentsLt_concat_name (dir : List Component) {a b : String} :
    componentsLt (dir ++ [.name a]) (dir ++ [.name b]) = true ↔ a < b := by
  induction dir with
  | nil => by_cases h : a = b <;> simp [componentsLt, Component.lt, h]
  | cons c dir ih => simpa [componentsLt] using ih

end Scaffold
