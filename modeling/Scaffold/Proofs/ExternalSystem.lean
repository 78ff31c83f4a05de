import Mathlib
import Scaffold.Proofs.Delivery
import Scaffold.Proofs.Plan.Files
import Scaffold.Proofs.Retry

/-!
# The variable and the container of an external system

An external system needs a variable in the environment file and a container in the compose file.
Each is taken to be there if a text is on some line, wherever it stands on it: the name of a longer
variable, a comment, or an entry of the same name under another key passes for it.  What is put in
goes to the end of the file, and a container belongs to whatever list stands open there.  So it
comes to the services exactly if no other key of the first column follows theirs
(`Change.external_scaffolds`).

What is at the first column is read off the lines of the file without the blanks at their ends, so a
carriage return that a line gives up makes no difference.
-/

namespace Scaffold

open Scaffold.Path (components)
open Scaffold.Text

/-! ## The environment file -/

/-- A variable is assigned in an environment file. -/
def Assigned (key text : String) : Prop := ∃ line ∈ Text.lines text, beginsWith line (key ++ "=") = true

instance (key text : String) : Decidable (Assigned key text) :=
  inferInstanceAs (Decidable (∃ line ∈ Text.lines text, beginsWith line (key ++ "=") = true))

/-- A variable is assigned in the file it was put into exactly if it was assigned before or nothing
passed for it. -/
theorem assigned_putInto_iff (e : ExternalSystem) (l : Locator) (path text : String) :
    Assigned e.variableName (((Member.setting e).declaration l).putInto path text)
      ↔ Assigned e.variableName text ∨ lineContains text (e.variableName ++ "=") = false := by
  cases hfound : lineContains text (e.variableName ++ "=") with
  | true =>
      rw [Declaration.putInto_of_contains (d := (Member.setting e).declaration l) hfound]
      simp
  | false =>
      have hplain : ∀ line ∈ ((Member.setting e).declaration l).block, FileEdit.PlainLine line := by
        cases e <;> exact List.forall_mem_singleton.2 (by decide)
      obtain ⟨old, gap, hlines, -⟩ := Declaration.lines_putInto ((Member.setting e).declaration l)
        path rfl hplain ⟨_, rfl, by cases e <;> decide⟩ hfound
      refine iff_of_true ⟨e.variableName ++ "=" ++ e.variableValue, ?_, ?_⟩ (.inr rfl)
      · rw [hlines]
        exact List.mem_append_right _ (List.mem_append_right _ (List.mem_singleton_self _))
      · rw [beginsWith, List.isPrefixOf_iff_prefix]
        exact ⟨e.variableValue.toList, String.toList_append.symm⟩

example : ¬ Assigned "REDIS_CONNECTION"
    (((Member.setting .cache).declaration ⟨"Acme", .routes⟩).putInto ".env"
    "# REDIS_CONNECTION=cache:6379\n") := by decide +kernel

/-! ## The compose file -/

/-- Decide whether a line begins at the first column and is no comment. -/
def isTopLine (line : String) : Bool := line.toList.head?.any fun c => !isBlank c && c != '#'

/-- The last line at the first column, without the blanks at its end. -/
def lastTop (lines : List String) : Option String := ((lines.map trimEnd).filter isTopLine).getLast?

/-- A service is a direct child of the services: the last line at the first column before it is
theirs. -/
def IsService (name : String) (lines : List String) : Prop :=
  ∃ before line after, lines = before ++ line :: after ∧ trimEnd line = "  " ++ name ++ ":"
    ∧ lastTop before = some "services:"

/-- Lines that are alike but for blanks at their ends have the same services. -/
theorem IsService.congr {name : String} {lines lines' : List String}
    (h : lines.map trimEnd = lines'.map trimEnd)
    (hservice : IsService name lines) : IsService name lines' := by
  obtain ⟨before, line, after, rfl, hline, htop⟩ := hservice
  rw [List.map_append, List.map_cons] at h
  obtain ⟨before', rest, rfl, hbefore, hrest⟩ := List.map_eq_append_iff.1 h.symm
  obtain ⟨line', after', rfl, hline', -⟩ := List.map_eq_cons_iff.1 hrest
  exact ⟨before', line', after', rfl, hline'.trans hline, by rw [lastTop, hbefore]; exact htop⟩

/-- A block that begins with a service and has no line at the first column brings the service to the
list that stands open. -/
theorem isService_append_iff (name : String) (old block : List String)
    (hhead : ∃ line ∈ block.head?, trimEnd line = "  " ++ name ++ ":")
    (hindented : ∀ line ∈ block, isTopLine (trimEnd line) = false) :
    IsService name (old ++ block) ↔ IsService name old ∨ lastTop old = some "services:" := by
  constructor
  · rintro ⟨before, line, after, hsplit, hline, htop⟩
    obtain ⟨front, rfl, hblock⟩ | ⟨rest, rfl, hrest⟩ := List.append_eq_append_iff.1 hsplit
    · -- the line is in the block, and no line at the first column is between
      refine .inr ?_
      have hfront : (front.map trimEnd).filter isTopLine = [] := by
        rw [List.filter_eq_nil_iff, List.forall_mem_map]
        intro l hl
        rw [hindented l (hblock ▸ List.mem_append_left _ hl)]
        exact Bool.false_ne_true
      rwa [lastTop, List.map_append, List.filter_append, hfront, List.append_nil] at htop
    · cases rest with
      | nil =>
          rw [List.append_nil]
          exact .inr htop
      | cons first rest =>
          rw [List.cons_append, List.cons.injEq] at hrest
          obtain ⟨rfl, -⟩ := hrest
          exact .inl ⟨before, line, rest, rfl, hline, htop⟩
  · rintro (⟨before, line, after, rfl, hline, htop⟩ | htop)
    · exact ⟨before, line, after ++ block, by simp, hline, htop⟩
    · obtain ⟨line, hline, hname⟩ := hhead
      obtain ⟨rest, rfl⟩ := List.head?_eq_some_iff.1 hline
      exact ⟨old, line, rest, rfl, hname, htop⟩

/-- A container is a service of the file it was put into exactly if it was one before, or nothing
passed for it and the services stand open at the end. -/
theorem isService_putInto_iff (e : ExternalSystem) (l : Locator) (path text : String) :
    IsService e.container.name (Text.lines (((Member.container e).declaration l).putInto path text))
      ↔ IsService e.container.name (Text.lines text)
        ∨ lineContains text e.composeDetection = false ∧ lastTop (Text.lines text) = some "services:" := by
  cases hfound : lineContains text e.composeDetection with
  | true =>
      rw [Declaration.putInto_of_contains (d := (Member.container e).declaration l) hfound]
      simp
  | false =>
      have hplain : ∀ line ∈ e.composeBlock, FileEdit.PlainLine line := by cases e <;> decide
      obtain ⟨old, gap, hlines, hold, -, hgap⟩ := Declaration.lines_putInto
        ((Member.container e).declaration l) path rfl hplain
        (by cases e <;> exact ⟨_, rfl, by decide⟩) hfound
      obtain rfl : gap = [] := hgap rfl
      have htrim := map_trimEnd_of_isReturned hold
      have htops : lastTop old = lastTop (Text.lines text) := by rw [lastTop, lastTop, htrim]
      have hblock := isService_append_iff e.container.name old e.composeBlock
        (by cases e <;> exact ⟨_, rfl, by decide⟩) (by cases e <;> decide)
      rw [hlines, List.nil_append]
      refine hblock.trans (or_congr ⟨.congr htrim, .congr htrim.symm⟩ ?_)
      rw [htops, eq_self_iff_true, true_and]

example : lastTop ["services:", "  web:", "# none", "volumes: ", "  data:"] = some "volumes:" := by
  decide +kernel

/-! ## The request -/

/-- A service for an external system belongs to no entity. -/
theorem ServiceRequest.accept_external {r : ServiceRequest} {a : AcceptedService} {e : ExternalSystem}
    (h : r.accept = .ok a) (he : a.external = some e) : a.entity = none := by
  obtain ⟨name, -, h⟩ := bind_eq_ok.1 h
  obtain ⟨owner, -, h⟩ := bind_eq_ok.1 h
  cases hr : r.external <;> cases owner <;> rw [hr] at h <;> cases h
  case none.some => cases he
  all_goals rfl

namespace Site

variable {s : Site}

/-- The task of the variable of an external system. -/
def settingTask (s : Site) (e : ExternalSystem) : Task :=
  ⟨"environment entry", s.locator.environment, .declare ((Member.setting e).declaration s.locator) s.context⟩

/-- The task of the container of an external system. -/
def containerTask (s : Site) (e : ExternalSystem) : Task :=
  ⟨"compose service", s.locator.compose, .declare ((Member.container e).declaration s.locator) s.context⟩

/-- The plan for an external system ends with these two tasks, and the others have files of other
kinds. -/
theorem servicePlan_external (hs : IsProject s.project) (e : ExternalSystem) {name : String}
    (hname : IsName name)
    (lifetime : Lifetime) :
    ∃ before, s.servicePlan (.external e) name lifetime = before ++ [s.settingTask e, s.containerTask e]
      ∧ ∀ u ∈ before, u.LiesIn s.locator [.serviceContract, .wiring, .manifest] := by
  refine ⟨s.service (.external e) name lifetime ++ (s.externalSystem e).take 3, ?_,
    List.forall_mem_append.2 ⟨fun u hu => ?_, ?_⟩⟩
  · rw [List.append_assoc]
    rfl
  · exact (service_lies (by rintro _ ⟨⟩) hname lifetime u hu).mono (by simp)
  · have hwiring : IsPlace s.locator .infrastructure .wiring (s.locator.wiring .infrastructure) :=
      place_wiring (.inr rfl)
    simp only [externalSystem, List.take_succ_cons, List.take_zero, List.forall_mem_cons, List.not_mem_nil,
      false_imp_iff, implies_true, and_true]
    exact ⟨package_lies hs (by decide) (by simp) _ _, lies hwiring (by simp), lies hwiring (by simp)⟩

end Site

section

variable {w : Surroundings} {templates : Templates} {pluralize : String → String} {root : String}
  {s s' : Scene}

end

end Scaffold
