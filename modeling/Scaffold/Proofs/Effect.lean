import Mathlib
import Scaffold.Proofs.Refusal

/-!
# What computations leave

However a computation ends, the scene it leaves stands in some relation to the one it started in
(`Leads`).  Sequences compose such relations, and the calls of the files are all that carrying tasks
out is made of (`performAll_ind`).

The templates and the plurals are arbitrary here, and so is the tree.
-/

namespace Scaffold

section

variable {α β : Type} {R R' R'' : Scene → Scene → Prop}

/-- However a computation ends, what it leaves is related to where it started. -/
def Leads (R : Scene → Scene → Prop) (x : InScene α) : Prop := ∀ s, R s (execute x s).2

namespace Leads

theorem pure (hrefl : ∀ s, R s s) (a : α) : Leads R (Pure.pure a : InScene α) := fun s => hrefl s

theorem throw (hrefl : ∀ s, R s s) (e : Error) : Leads R (MonadExcept.throw e : InScene α) :=
  fun s => hrefl s

theorem lift_except (hrefl : ∀ s, R s s) (x : Except Error α) : Leads R (x : InScene α) := by
  intro s
  rw [execute_lift_except]
  exact hrefl s

theorem of_reads {r : Reach} (hsame : ∀ s s', Scene.Same r s s' → R s s') {x : InScene α}
    (h : Reads r x) : Leads R x := fun s => hsame s _ (h s)

/-- What a computation leads to from the scene it was run in. -/
theorem holds {x : InScene α} (h : Leads R x) {s s' : Scene} {r : Except Error α}
    (hrun : execute x s = (r, s')) : R s s' := by
  have hs := h s
  rwa [hrun] at hs

theorem mono {x : InScene α} (h : Leads R x) (hR : ∀ s s', R s s' → R' s s') :
    Leads R' x := fun s => hR s _ (h s)

/-- A sequence leaves what its first part leaves, or what the second leaves of that. -/
theorem seq {x : InScene α} {f : α → InScene β} (hx : Leads R x) (hf : ∀ a, Leads R' (f a))
    (hfirst : ∀ s s', R s s' → R'' s s')
    (hboth : ∀ s s' s'', R s s' → R' s' s'' → R'' s s'') : Leads R'' (x >>= f) := by
  intro s
  have hs := hx s
  rw [execute_bind]
  rcases hrun : execute x s with ⟨e | a, s₁⟩ <;> rw [hrun] at hs
  · exact hfirst s s₁ hs
  · exact hboth s s₁ _ hs (hf a s₁)

theorem bind (htrans : ∀ s s' s'', R s s' → R s' s'' → R s s'') {x : InScene α}
    {f : α → InScene β} (hx : Leads R x) (hf : ∀ a, Leads R (f a)) : Leads R (x >>= f) :=
  hx.seq hf (fun _ _ h => h) htrans

end Leads

end

/-! ## Carrying tasks out -/

section

variable {m : Type → Type} [Monad m] {files : FilePort m} {templates : Templates}
  {motive : ∀ {α : Type}, Fallible m α → Prop}

/-- What holds of the calls of the files holds of carrying tasks out. -/
theorem performAll_ind (hexcept : ∀ {α : Type} (x : Except Error α), motive (x : Fallible m α))
    (hbind : ∀ {α β : Type} {x : Fallible m α} {f : α → Fallible m β}, motive x →
      (∀ a, motive (f a)) → motive (x >>= f))
    (hexists : ∀ path, motive (files.pathExists path : Fallible m Bool))
    (hread : ∀ path, motive (files.read path)) (hdirs : ∀ path, motive (files.createDirs path))
    (hwrite : ∀ path content, motive (files.write path content)) (root : String)
    (ts : List Task) : motive (performAll files templates root ts) := by
  have hpure : ∀ {α : Type} (a : α), motive (pure a : Fallible m α) := fun a => hexcept (.ok a)
  have hstore : ∀ a : Artifact, motive (storeArtifact files a) := by
    intro a
    unfold storeArtifact
    cases Path.parent a.path with
    | none => exact hwrite _ _
    | some dir => exact hbind (hdirs dir) fun _ => hwrite _ _
  have hinspect : ∀ t : Task, motive (t.inspect files root) := by
    intro t
    have hload : motive (loadArtifact files (t.path.under root)) := by
      refine hbind (hread _) fun content => ?_
      cases content <;> exact hpure _
    unfold Task.inspect
    cases t.action with
    | file template ctx =>
        refine hbind (hexists _) fun found => ?_
        cases found <;> exact hpure _
    | declare _ _ | importLine _ | clean _ | dependency _ _ _ | reference _ _ => exact hload
  induction ts with
  | nil => exact hpure _
  | cons t ts ih =>
      refine hbind (hbind (hinspect t) fun current => hbind (hexcept _) fun next => ?_)
        fun step => hbind ih fun steps => hpure _
      obtain ⟨outcome, next⟩ := next
      simp only
      split
      · exact hbind (hstore next) fun _ => hpure _
      · exact hpure _

/-- Tasks and then others are carried out one list after the other. -/
theorem performAll_append [LawfulMonad m] (root : String) (ts ts' : List Task) :
    performAll files templates root (ts ++ ts') = (do
      let steps ← performAll files templates root ts
      let steps' ← performAll files templates root ts'
      return steps ++ steps') := by
  induction ts with
  | nil => simp [performAll]
  | cons t ts ih => simp [performAll, ih]

end

/-- Tasks leave what each of them leaves. -/
theorem leads_performAll_of_forall {w : Surroundings} {templates : Templates} {root : String}
    {R : Scene → Scene → Prop} (hrefl : ∀ s, R s s) (htrans : ∀ s s' s'', R s s' → R s' s'' → R s s'')
    {ts : List Task} (hts : ∀ t ∈ ts, Leads R (t.perform w.files templates root)) :
    Leads R (performAll w.files templates root ts) := by
  induction ts with
  | nil => exact .pure hrefl _
  | cons t ts ih =>
      obtain ⟨hfirst, hrest⟩ := List.forall_mem_cons.1 hts
      exact hfirst.bind htrans fun step => (ih hrest).bind htrans fun steps => .pure hrefl _

end Scaffold
