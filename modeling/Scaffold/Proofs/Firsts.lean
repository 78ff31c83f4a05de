import Mathlib

/-!
# The first of each key

Of things that are told apart by a key, often only the first one with each key counts: a method that
is ordered again, a declaration that is found already.  `firstsBy` keeps these in their order.
-/

namespace Scaffold

variable {α β : Type}

/-- The first ones with each key, in their order. -/
def firstsBy (key : α → String) (xs : List α) : List α :=
  xs.foldl (fun found x => if found.any (key · == key x) then found else found ++ [x]) []

variable {key : α → String} {xs ys : List α} {x : α}

theorem firstsBy_concat : firstsBy key (xs ++ [x])
    = if (firstsBy key xs).any (key · == key x) then firstsBy key xs else firstsBy key xs ++ [x] := by
  rw [firstsBy, List.foldl_append]
  rfl

/-- Every key is there. -/
theorem any_firstsBy (k : String) : (firstsBy key xs).any (key · == k) = xs.any (key · == k) := by
  induction xs using List.reverseRecOn with
  | nil => rfl
  | append_singleton xs x ih =>
      rw [firstsBy_concat, List.any_append, List.any_cons, List.any_nil, Bool.or_false, ← ih]
      split
      next hfound =>
        by_cases heq : key x = k
        · rw [← heq, hfound, Bool.true_or]
        · rw [beq_eq_false_iff_ne.2 heq, Bool.or_false]
      · rw [List.any_append, List.any_cons, List.any_nil, Bool.or_false]

theorem mem_of_mem_firstsBy (h : x ∈ firstsBy key xs) : x ∈ xs := by
  induction xs using List.reverseRecOn with
  | nil => exact h
  | append_singleton xs y ih =>
      rw [firstsBy_concat] at h
      split at h
      · exact List.mem_append_left _ (ih h)
      · exact (List.mem_append.1 h).elim (fun h => List.mem_append_left _ (ih h))
          (List.mem_append_right _)

/-- What no other one has the key of is there. -/
theorem mem_firstsBy_of_unique (hx : x ∈ xs) (hunique : ∀ y ∈ xs, key y = key x → y = x) :
    x ∈ firstsBy key xs := by
  have hany : (firstsBy key xs).any (key · == key x) = true := by
    rw [any_firstsBy]
    exact List.any_eq_true.2 ⟨x, hx, beq_self_eq_true _⟩
  obtain ⟨y, hy, hkey⟩ := List.any_eq_true.1 hany
  exact hunique y (mem_of_mem_firstsBy hy) (beq_iff_eq.1 hkey) ▸ hy

/-- Where the keys are all different, all are first. -/
theorem firstsBy_of_nodup (h : (xs.map key).Nodup) : firstsBy key xs = xs := by
  induction xs using List.reverseRecOn with
  | nil => rfl
  | append_singleton xs x ih =>
      rw [List.map_append, List.nodup_append] at h
      have hnew : ¬ (firstsBy key xs).any (key · == key x) = true := by
        rw [any_firstsBy, List.any_eq_true]
        rintro ⟨y, hy, heq⟩
        exact h.2.2 _ (List.mem_map_of_mem hy) _ (List.mem_singleton_self _) (beq_iff_eq.1 heq)
      rw [firstsBy_concat, ih h.1, if_neg (ih h.1 ▸ hnew)]

/-- No key is there twice. -/
theorem nodup_firstsBy (key : α → String) (xs : List α) : ((firstsBy key xs).map key).Nodup := by
  induction xs using List.reverseRecOn with
  | nil => exact List.nodup_nil
  | append_singleton xs x ih =>
      rw [firstsBy_concat]
      split
      · exact ih
      next hfound =>
        rw [List.map_append, List.nodup_append]
        refine ⟨ih, List.nodup_singleton _, fun k hk k' hk' heq => hfound ?_⟩
        obtain ⟨y, hy, rfl⟩ := List.mem_map.1 hk
        cases List.mem_singleton.1 hk'
        exact List.any_eq_true.2 ⟨y, hy, beq_iff_eq.2 heq⟩

theorem firstsBy_congr (key' : α → String) (h : ∀ x y, (key x == key y) = (key' x == key' y)) :
    firstsBy key xs = firstsBy key' xs := by
  simp only [firstsBy, h]

theorem firstsBy_map (key : β → String) (g : α → β) (xs : List α) :
    firstsBy key (xs.map g) = (firstsBy (fun x => key (g x)) xs).map g := by
  induction xs using List.reverseRecOn with
  | nil => rfl
  | append_singleton xs x ih =>
      rw [List.map_append, List.map_singleton, firstsBy_concat, firstsBy_concat, ih, List.any_map]
      split <;> split <;> simp_all [Function.comp_def]

end Scaffold
