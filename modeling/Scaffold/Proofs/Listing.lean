import Mathlib
import Scaffold.Proofs.Confinement
import Scaffold.Proofs.Noninterference

/-!
# The migrations of a project

Migrations lie in a directory of the infrastructure that no artifact lies in
(`IsPlace.not_in_migrations`).  So what a request generates leaves the names of the files in it
(`Change.generate_lists`), and only the tool adds to them.

The tree, the templates and the surroundings are arbitrary.
-/

namespace Scaffold

open Scaffold.Path (components parentComponents)

/-! ## Places and migrations -/

theorem parentComponents_placeBelow (root : String) {segments : List String} (hne : segments ≠ []) :
    parentComponents (placeBelow root segments) = some (placeBelow root segments.dropLast) := by
  obtain ⟨front, last, rfl⟩ : ∃ front last, segments = front ++ [last] :=
    ⟨_, _, (List.dropLast_concat_getLast hne).symm⟩
  have hlast : placeBelow root (front ++ [last]) = placeBelow root front ++ [.name last] := by
    simp [placeBelow]
  rw [hlast, Path.parentComponents_concat_name, List.dropLast_concat]

theorem components_migrationsDir {l : Locator} (hl : IsProject l.project) (root : String) :
    components (l.migrationsDir.under root)
      = placeBelow root ["src", l.moduleName .infrastructure, "Migrations"] := by
  have hmodule : Path.IsSegment (l.moduleName .infrastructure) := isSegment_moduleName hl (by decide)
  refine components_under (by simp) (fun s hs => ?_) root
  simp only [List.mem_cons, List.not_mem_nil, or_false] at hs
  obtain rfl | rfl | rfl := hs
  · exact ⟨by decide, by decide, by decide, by decide⟩
  · exact hmodule
  · exact ⟨by decide, by decide, by decide, by decide⟩

/-- No artifact lies among the migrations. -/
theorem IsPlace.not_in_migrations {l : Locator} (hl : IsProject l.project) {layer : Layer}
    {kind : ArtifactKind} {p : RelativePath} (h : IsPlace l layer kind p) (root : String) :
    parentComponents (components (p.under root)) ≠ some (components (l.migrationsDir.under root)) := by
  obtain ⟨dirs, file, rfl, hdirs, hfile, hkind⟩ := h.parts
  rw [components_place hl hdirs hfile,
    parentComponents_placeBelow root (segments_ne_nil l layer dirs file),
    components_migrationsDir hl]
  intro heq
  have hsegments := placeBelow_inj (Option.some.inj heq)
  by_cases hroot : layer = .root
  · subst hroot
    have hnil : dirs = ["src", l.moduleName .infrastructure, "Migrations"] := by
      simpa [Locator.segments] using hsegments
    rw [hnil] at hkind
    cases hkind
  · have hrest : l.moduleName layer = l.moduleName .infrastructure ∧ dirs = ["Migrations"] := by
      cases layer <;> first
        | exact absurd rfl hroot
        | simpa only [Locator.segments, ← List.cons_append, List.dropLast_concat, List.cons.injEq,
            true_and] using hsegments
    obtain rfl := moduleName_injective (l := l) hroot (by decide) hrest.1
    rw [hrest.2] at hkind
    cases hkind

/-- Where migrations lie, with the directories that they need. -/
def Locator.migrationPlaces (l : Locator) (root : String) : Set (List Component) :=
  {c | c <+: components (l.migrationsDir.under root)
    ∨ parentComponents c = some (components (l.migrationsDir.under root))}

theorem apart_migrationPlaces {l : Locator} (hl : IsProject l.project) (root : String) :
    Apart l root (l.migrationPlaces root) := by
  rintro layer kind p hplace (habove | hin)
  · rw [components_migrationsDir hl] at habove
    exact hplace.not_above_directory hl (by decide : ∀ d ∈ ["Migrations"], IsDirectory d)
      .infrastructure root
      habove
  · exact hplace.not_in_migrations hl root hin

/-! ## Requests -/

/-- The names of the files in a directory stay. -/
def Scene.Lists (dir : String) (s s' : Scene) : Prop := s'.tree.listFiles dir = s.tree.listFiles dir

namespace Scene.Lists

variable {dir : String} {s s' s'' : Scene}

theorem refl (s : Scene) : Lists dir s s := rfl

theorem trans (h : Lists dir s s') (h' : Lists dir s' s'') : Lists dir s s'' := Eq.trans h' h

theorem of_same {r : Reach} (h : s.Same r s') :
    Lists dir s s' := congrArg (MemoryTree.listFiles · dir) h.tree

end Scene.Lists

section

variable {w : Surroundings} {templates : Templates} {pluralize : String → String} {root : String}

/-- A task elsewhere leaves the names of the files in a directory. -/
theorem Task.leads_lists {t : Task} {dir : String}
    (h : parentComponents (components (t.path.under root)) ≠ some (components dir)) :
    Leads (Scene.Lists dir) (t.perform w.files templates root) := by
  refine Task.leads (fun _ _ => .of_same) (fun _ _ _ => .trans) (fun made _ s => ?_) fun content s => ?_
  · rw [execute_createDirs]
    cases w.fault (s.after (.makeDirs made)).calls with
    | some e => exact .refl s
    | none => exact s.tree.listFiles_createDirs _ dir
  · rw [execute_write]
    cases w.fault (s.after (.write (t.path.under root) content)).calls with
    | some e => exact .refl s
    | none =>
        cases hwrite : s.tree.write (t.path.under root) content with
        | error e => exact .refl s
        | ok tree => exact MemoryTree.listFiles_write hwrite h

theorem Order.leads_lists_recordContainer (dir : String) (o : Order) :
    Leads (Scene.Lists dir) (o.recordContainer (w.portsWith templates pluralize)) := by
  refine recordContainer_ind (motive := fun x => Leads (Scene.Lists dir) x) (.pure .refl _)
    (fun c s => ?_) o
  rw [execute_saveContainer]
  cases w.fault (s.after (.saveContainer c)).calls <;> exact .refl s

/-- What a request generates leaves the migrations. -/
theorem Change.generate_lists {c : Change} {d : Descriptor} (hd : IsProject d.name) {s s' : Scene}
    (hs : s.descriptor = some d) {r : Except Error Generated}
    (h : execute (c.generate (w.portsWith templates Plural.english) root) s = (r, s')) :
    s.Lists (d.locator.migrationsDir.under root) s' := by
  obtain ⟨hsame, -⟩ | ⟨o, loaded, p, s₁, horder, hloaded, hlocator, hsame, h⟩ :=
    Change.prepared_cases h
  · exact .of_same hsame
  obtain rfl : d = loaded := Option.some.inj (hs.symm.trans hloaded)
  have hbelongs : ∀ t ∈ o.plan p.site p.provider, t.Belongs d.locator :=
    o.plan_belongs_of_site hd (c.order_wellNamed horder) hlocator
  have hgenerate : Leads (Scene.Lists (d.locator.migrationsDir.under root)) (do
      let steps ← carryOut (w.portsWith templates Plural.english) root (o.plan p.site p.provider)
      o.recordContainer (w.portsWith templates Plural.english)
      return (⟨o, d, p, steps⟩ : Generated)) := by
    refine Leads.bind (fun _ _ _ => .trans) (leads_performAll_of_forall .refl (fun _ _ _ => .trans)
      fun t ht => ?_) fun steps => Leads.bind (fun _ _ _ => .trans) (o.leads_lists_recordContainer _)
      fun _ => .pure .refl _
    obtain ⟨layer, kind, hplace, -⟩ := hbelongs t ht
    exact Task.leads_lists (hplace.not_in_migrations hd root)
  exact (Scene.Lists.of_same hsame).trans (hgenerate.holds h)

end

end Scaffold
