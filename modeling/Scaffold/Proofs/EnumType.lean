import Mathlib
import Scaffold.Proofs.Delivery
import Scaffold.Proofs.Plan.Files

/-!
# Enums and their namesakes

An enum is taken to be in its file if `enum` and its name are on a line, whatever comes after the
name.  So the declaration of a longer name passes for it.  A request that succeeds leaves the enum
declared in its file exactly if it was declared there before or nothing passed for it
(`Change.enum_declares`).  The property of the entity is looked for up to its opening brace, and it
is always there in the end.
-/

namespace Scaffold

open Scaffold.Manifest (isWordChar)
open Scaffold.Path (components)
open Scaffold.Text

/-! ## Whole names -/

/-- A line declares an enum: no character of a word follows the name. -/
def DeclaresEnum (name line : String) : Prop :=
  ∃ front rest, line.toList = front ++ ((Detection.enumDeclaration name).toList ++ rest)
    ∧ ∀ c ∈ rest.head?, isWordChar c = false

/-- What follows the occurrences of a detection on a line. -/
def tailsAfter (detection line : String) : List (List Char) :=
  line.toList.tails.filterMap (dropStart? detection.toList)

theorem mem_tailsAfter {detection line : String} {rest : List Char} :
    rest ∈ tailsAfter detection line ↔ ∃ front, line.toList = front ++ (detection.toList ++ rest) := by
  simp only [tailsAfter, List.mem_filterMap, List.mem_tails, dropStart?_eq_some]
  constructor
  · rintro ⟨_, ⟨front, hfront⟩, rfl⟩
    exact ⟨front, hfront.symm⟩
  · rintro ⟨front, hfront⟩
    exact ⟨_, ⟨front, hfront.symm⟩, rfl⟩

instance (name line : String) : Decidable (DeclaresEnum name line) :=
  decidable_of_iff ((tailsAfter (Detection.enumDeclaration name) line).any
      (fun rest => rest.head?.all fun c => !isWordChar c) = true) <| by
    simp only [List.any_eq_true, Option.all_eq_true, Bool.not_eq_true', mem_tailsAfter]
    exact ⟨fun ⟨rest, ⟨front, hline⟩, hrest⟩ => ⟨front, rest, hline, hrest⟩,
      fun ⟨front, rest, hline, hrest⟩ => ⟨rest, ⟨front, hline⟩, hrest⟩⟩

/-- An enum is declared in a text. -/
def EnumIn (name text : String) : Prop := ∃ line ∈ Text.lines text, DeclaresEnum name line

instance (name text : String) : Decidable (EnumIn name text) :=
  inferInstanceAs (Decidable (∃ line ∈ Text.lines text, DeclaresEnum name line))

/-! ## The declaration of an enum -/

theorem enumBlock_eq (name : String) :
    enumBlock name = ["public enum " ++ name, "\x7b", "    None = 0,", "\x7d"] := rfl

/-- The first line of the block declares the enum. -/
theorem declaresEnum_enumBlock (name : String) : DeclaresEnum name ("public enum " ++ name) :=
  ⟨"public ".toList, [], by simp [Detection.enumDeclaration], nofun⟩

theorem plainLine_enumBlock {name : String} (h : IsName name) :
    ∀ l ∈ enumBlock name, FileEdit.PlainLine l := by
  rw [enumBlock_eq, List.forall_mem_cons]
  refine ⟨⟨?_, ?_⟩, by decide⟩
  · simp [h.2.not_mem (c := '\n') (by decide)]
  · simp [h.2.not_mem (c := '\r') (by decide)]

/-- An enum is declared in the text its declaration leaves exactly if it was declared before or
nothing passed for it. -/
theorem enumIn_putInto_iff {name : String} (h : IsName name) (l : Locator) (path text : String) :
    EnumIn name (((Member.enumType name).declaration l).putInto path text)
      ↔ EnumIn name text ∨ lineContains text (Detection.enumDeclaration name) = false := by
  cases hfound : lineContains text (Detection.enumDeclaration name) with
  | true =>
      rw [Declaration.putInto_of_contains (d := (Member.enumType name).declaration l) hfound]
      simp
  | false =>
      obtain ⟨old, gap, hlines, -⟩ := Declaration.lines_putInto ((Member.enumType name).declaration l)
        path rfl (plainLine_enumBlock h) ⟨"\x7d", rfl, by decide⟩ hfound
      refine iff_of_true ⟨_, ?_, declaresEnum_enumBlock name⟩ (.inr rfl)
      rw [hlines]
      exact List.mem_append_right _ (List.mem_append_right _ List.mem_cons_self)

/-! ## The request -/

section

variable {w : Surroundings} {templates : Templates} {pluralize : String → String} {root : String}
  {s s' : Scene}

/-- The property of an enum is put in with its detection. -/
theorem evident_property {name : String} (h : IsName name) (l : Locator) (f : Feature) (ctx : Context) :
    (Action.declare ((Member.property f name).declaration l) ctx).Evident := by
  refine .declare (by simp [Member.declaration, Detection.property]) (List.forall_mem_singleton.2 ⟨?_, ?_⟩)
    ⟨_, List.mem_singleton_self _, ?_⟩
  · simp [propertyLine, h.2.not_mem (c := '\n') (by decide)]
  · simp [propertyLine, h.2.not_mem (c := '\r') (by decide)]
  · rw [contains, occursIn_iff]
    exact ⟨"public".toList,
      " get; set; \x7d".toList, by simp [Member.declaration, Detection.property, propertyLine]⟩

/-- The file of an entity does not depend on its plural. -/
theorem place_entityType_featureOf {entity : String} (h : IsName entity) (l : Locator) :
    IsPlace l .domain .entityType (l.entityType (featureOf pluralize entity)) := by
  have hname : (featureOf pluralize entity).name = (featureOf Plural.english entity).name := rfl
  rw [Locator.entityType, hname]
  exact place_entityType (ofNames_wellNamed h)

/-- **An enum is there after its request unless a longer name passes for it.**  For every tree, all
templates and plurals, and wherever a call fails: let a request for an enum succeed.  Then the
property of the enum is on a line of the entity file.  The file of the enum is there, and the enum
is declared in it exactly if it was declared there before, or in the template if there was no file,
or if `enum` and its name were on no line at all. -/
theorem Change.enum_declares {r a : EnumRequest} (haccept : r.accept = .ok a) {d : Descriptor}
    (hd : s.descriptor = some d) (hproject : IsProject d.name) {options : Options} {report : Report}
    (hmake : execute ((Change.enum r).make (w.portsWith templates pluralize) options root) s = (.ok report, s')) :
    let enumAt := components ((d.locator.enumType a.name).under root)
    let entityAt := components ((d.locator.entityType (featureOf pluralize a.entity)).under root)
    (∃ text, s'.tree.content entityAt = some text
      ∧ lineContains text (Detection.property a.name a.name) = true)
      ∧ ∃ start text, s'.tree.content enumAt = some text
        ∧ (∀ old, s.tree.content enumAt = some old → start = old)
        ∧ (s.tree.content enumAt = none → ∃ ctx, templates Template.enumType.name ctx = .ok start)
        ∧ (EnumIn a.name text
            ↔ EnumIn a.name start ∨ lineContains start (Detection.enumDeclaration a.name) = false) := by
  intro enumAt entityAt
  obtain ⟨hentity, hname⟩ := EnumRequest.accept_isName haccept
  obtain ⟨o, site, provider, s₁, s₂, steps, ho, hsite, htree, htasks, hturns⟩ := Change.delivers hd hmake
  obtain rfl : o = .enum (featureOf pluralize a.entity) a.name := by
    rw [Change.order, haccept] at ho
    exact (Except.ok.inj ho).symm
  have hkept : ∀ place, Scene.Turns place Eq s₂ s' := fun place =>
    hturns place fun htool => absurd htool Bool.false_ne_true
  refine ⟨?_, ?_⟩
  · -- the property is the last task
    obtain ⟨s₃, s₄, step, hstep, -, hfile⟩ := performAll_split (t := ⟨"enum property", _, _⟩)
      [_, Site.importLine _ _] [] htasks
    obtain ⟨text, htext, hholds⟩ :=
      (evident_property hname site.locator (featureOf pluralize a.entity) _).holdsIn_fileIn hstep
    refine ⟨text, ?_, (Action.holdsIn_declare_iff (d := (Member.property (featureOf pluralize a.entity)
      a.name).declaration site.locator)).1 hholds⟩
    have hlast := (hkept _).fileIn ((hfile (List.forall_mem_nil _)).trans htext)
    rwa [Task.fileIn, Task.place, hsite] at hlast
  · -- the enum is the first task, and the others look after the entity file
    have hother : ∀ u : Task, u.path = site.locator.entityType (featureOf pluralize a.entity) →
        components ((site.locator.enumType a.name).under root) ≠ u.place root := by
      intro u hu
      have hlies : u.LiesIn site.locator [.entityType] :=
        lies (hu ▸ place_entityType_featureOf hentity site.locator) (List.mem_singleton_self _)
      exact hlies.place_ne (hsite ▸ hproject) (place_enumType hname) (by decide) root
    obtain ⟨start, hbegins, htext⟩ := performAll_delivers
      (t := ⟨"enum type", _, .declare ((Member.enumType a.name).declaration site.locator) _⟩) [] _ rfl
      (List.forall_mem_cons.2 ⟨hother _ rfl, List.forall_mem_singleton.2 (hother _ rfl)⟩) htasks
    replace htext := (hkept _).fileIn htext
    rw [Task.fileIn, htree, Task.place, hsite] at hbegins
    rw [Task.fileIn, Task.place, hsite] at htext
    obtain ⟨hold, hnone⟩ := hbegins.of_template rfl
    exact ⟨start, _, htext, hold, hnone, enumIn_putInto_iff hname _ _ start⟩

end

/-- A project with an entity and an enum whose name is longer than that of its file. -/
def Scene.namesake : Scene where
  tree := { files := [⟨"/work/src/Acme.Domain/Entities/Invoice.cs", "public class Invoice\n\x7b\n\x7d\n"⟩,
    ⟨"/work/src/Acme.Domain/Enums/Status.cs", "public enum StatusKind\n\x7b\n    None = 0,\n\x7d\n"⟩] }
  descriptor := some ⟨⟨0⟩, "Acme", "/work", "Acme.Api", none, .routes, ⟨0, 0⟩, ⟨0, 0⟩, []⟩
  container := none
  calls := []

/-- The request for the enum of the file succeeds, the entity has the property, and the enum is not
there. -/
theorem Change.enum_declares_namesake : ∃ report s' entity text,
    execute ((Change.enum ⟨"Invoice", "Status"⟩).make
      (Surroundings.still.portsWith (fun _ _ => .ok "") id) {} "/work") .namesake = (.ok report, s')
    ∧ s'.tree.content (components "/work/src/Acme.Domain/Entities/Invoice.cs") = some entity
    ∧ lineContains entity " Status Status \x7b" = true
    ∧ s'.tree.content (components "/work/src/Acme.Domain/Enums/Status.cs") = some text
    ∧ ¬ EnumIn "Status" text := by
  generalize hrun : execute _ Scene.namesake = run
  have hends : run.1.toOption.isSome = true := by
    rw [← hrun]
    decide +kernel
  obtain ⟨r, s'⟩ := run
  cases r with
  | error e => cases hends
  | ok report =>
      obtain ⟨⟨entity, hentity, hproperty⟩, start, text, htext, hstart, -, hiff⟩ := Change.enum_declares
        (r := ⟨"Invoice", "Status"⟩) (a := ⟨"Invoice", "Status"⟩) (by decide +kernel) rfl
          (by decide +kernel) hrun
      obtain rfl := hstart "public enum StatusKind\n\x7b\n    None = 0,\n\x7d\n" (by decide +kernel)
      exact ⟨report, s', entity, text, rfl, hentity, hproperty, htext,
        fun h => absurd (hiff.1 h) (by decide +kernel)⟩

end Scaffold
