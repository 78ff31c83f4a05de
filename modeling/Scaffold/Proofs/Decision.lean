import Mathlib
import Scaffold.Proofs.Change

/-!
# What an action decides

An action decides what becomes of its file by looking at the file as it is.  `Action.Decides` has one
case for each way this can go, with what the action has seen there and what is to be written, so that
nothing later has to go through the decision again (`Action.decides`).

A decision fails only where a template does, or where a merge leaves the manifest
(`Action.decide_eq_error`).

The templates and the file are arbitrary.
-/

namespace Scaffold

theorem bind_eq_error {ε α β : Type} {x : Except ε α} {f : α → Except ε β} {e : ε} :
    (x >>= f) = .error e ↔ x = .error e ∨ ∃ a, x = .ok a ∧ f a = .error e := by
  cases x with
  | error e' => simp [bind, Except.bind]
  | ok a => simp [bind, Except.bind]

section

variable {templates : Templates} {current next start : Artifact} {outcome : Outcome} {ctx : Context}
  {e : Error}

/-! ## The file to start from -/

theorem startFrom_of_present {template : Option String} (h : current.isPresent = true) :
    startFrom templates current template ctx = .ok current := by
  rw [startFrom, if_pos h]

theorem synthesize_eq_error {path : String} {template : Option String}
    (h : synthesize templates path template ctx = .error e) :
    ∃ name, templates name ctx = .error e := by
  cases template with
  | none => cases h
  | some name =>
      cases htext : templates name ctx with
      | ok text => simp [synthesize, htext, Except.map] at h
      | error e' =>
          simp only [synthesize, htext, Except.map, Except.error.injEq] at h
          exact ⟨name, h ▸ htext⟩

theorem startFrom_eq_error {template : Option String}
    (h : startFrom templates current template ctx = .error e) :
    ∃ name, templates name ctx = .error e := by
  unfold startFrom at h
  split at h
  · cases h
  · exact synthesize_eq_error h

/-! ## Merging -/

/-- What a merge decides: a manifest that is there and needs no edit is left alone, and any other is
edited. -/
inductive MergeDecides (templates : Templates) (current : Artifact) (ctx : Context)
    (merge? : List String → Option (List LineEdit)) : Outcome → Artifact → Prop
  | rests (hpresent : current.isPresent = true) (hmerge : merge? current.texts = some []) :
      MergeDecides templates current ctx merge? .unchanged current
  | edits {start : Artifact} {edits : List LineEdit}
      (hstart : startFrom templates current (some Template.manifest.name) ctx = .ok start)
      (hmerge : merge? start.texts = some edits) (hedits : current.isPresent = true → edits ≠ []) :
      MergeDecides templates current ctx merge? (changeOutcome current) (start.editAll edits)

theorem mergeManifest_decides {merge? : List String → Option (List LineEdit)}
    (h : mergeManifest templates current ctx merge? = .ok (outcome, next)) :
    MergeDecides templates current ctx merge? outcome next := by
  obtain ⟨start, hstart, h⟩ := bind_eq_ok.1 h
  split at h
  · cases h
  next edits hmerge =>
    split at h
    next hrests =>
      cases h
      rw [Bool.and_eq_true, List.isEmpty_iff] at hrests
      obtain ⟨hpresent, rfl⟩ := hrests
      rw [startFrom_of_present hpresent] at hstart
      cases hstart
      exact .rests hpresent hmerge
    next hedits =>
      cases h
      refine .edits hstart hmerge fun hpresent hnil => ?_
      rw [hpresent, hnil] at hedits
      exact hedits rfl

theorem mergeManifest_eq_error {merge? : List String → Option (List LineEdit)}
    (h : mergeManifest templates current ctx merge? = .error e) :
    (∃ name, templates name ctx = .error e) ∨ e = outsideManifest := by
  obtain h | ⟨start, -, h⟩ := bind_eq_error.1 h
  · exact .inl (startFrom_eq_error h)
  · split at h
    · cases h
      exact .inr rfl
    · split at h <;> cases h

/-! ## Deciding -/

/-- What an action decides. -/
inductive Action.Decides (templates : Templates) (current : Artifact) :
    Action → Outcome → Artifact → Prop
  | there {template : String} {ctx : Context} (hpresent : current.isPresent = true) :
      Decides templates current (.file template ctx) .unchanged current
  | made {template : String} {ctx : Context} {made : Artifact} (hpresent : current.isPresent = false)
      (hmade : synthesize templates current.path (some template) ctx = .ok made) :
      Decides templates current (.file template ctx) .created made
  /-- The declaration is in the file, or in the template of one that is not there. -/
  | declared {d : Declaration} {ctx : Context} {start : Artifact}
      (hstart : startFrom templates current d.template ctx = .ok start)
      (hfound : start.containsText d.detection = true) :
      Decides templates current (.declare d ctx) (if current.isPresent then .unchanged else .created) start
  | declares {d : Declaration} {ctx : Context} {start : Artifact}
      (hstart : startFrom templates current d.template ctx = .ok start)
      (hmissing : start.containsText d.detection = false) :
      Decides templates current (.declare d ctx) (changeOutcome current)
        (start.insertBlock d.anchor d.block d.separated)
  | imported {literal : String} (hfound : current.containsLine literal = true) :
      Decides templates current (.importLine literal) .unchanged current
  | imports {literal : String} (hmissing : current.containsLine literal = false) :
      Decides templates current (.importLine literal) (changeOutcome current)
        (current.insertImport literal)
  | cleans {samples : List (List String)} {cleaned : Artifact}
      (hremove : removeSamples samples current = (true, cleaned)) :
      Decides templates current (.clean samples) .cleaned cleaned
  | clean {samples : List (List String)} (hremove : (removeSamples samples current).1 = false) :
      Decides templates current (.clean samples) .unchanged current
  | depends {identity : String} {version : Option String} {ctx : Context} {outcome : Outcome}
      {next : Artifact}
      (hmerge : MergeDecides templates current ctx (Manifest.mergeDependency? identity version) outcome next) :
      Decides templates current (.dependency identity version ctx) outcome next
  | refers {identity : String} {ctx : Context} {outcome : Outcome} {next : Artifact}
      (hmerge : MergeDecides templates current ctx (Manifest.mergeReference? identity) outcome next) :
      Decides templates current (.reference identity ctx) outcome next

/-- Every decision is one of these. -/
theorem Action.decides {a : Action} (h : a.decide templates current = .ok (outcome, next)) :
    a.Decides templates current outcome next := by
  cases a with
  | file name ctx =>
      simp only [decide] at h
      split at h
      next hpresent =>
        cases h
        exact .there hpresent
      next hpresent =>
        obtain ⟨made, hmade, h⟩ := bind_eq_ok.1 h
        cases h
        exact .made (Bool.eq_false_iff.2 hpresent) hmade
  | declare d ctx =>
      obtain ⟨start, hstart, h⟩ := bind_eq_ok.1 h
      split at h
      next hfound =>
        cases h
        exact .declared hstart hfound
      next hmissing =>
        cases h
        exact .declares hstart (Bool.eq_false_iff.2 hmissing)
  | importLine literal =>
      simp only [decide] at h
      split at h
      next hfound =>
        cases h
        exact .imported hfound
      next hmissing =>
        cases h
        exact .imports (Bool.eq_false_iff.2 hmissing)
  | clean samples =>
      simp only [decide] at h
      split at h
      next cleaned hremove =>
        cases h
        exact .cleans hremove
      next hremove =>
        cases h
        exact .clean (by rw [hremove])
  | dependency identity version ctx => exact .depends (mergeManifest_decides h)
  | reference identity ctx => exact .refers (mergeManifest_decides h)

/-- What is decided is an error only if a template is one, or a merge leaves the manifest. -/
theorem Action.decide_eq_error {a : Action} (h : a.decide templates current = .error e) :
    (∃ name ctx, templates name ctx = .error e) ∨ e = outsideManifest := by
  have hmade : ∀ {ctx : Context}, (∃ name, templates name ctx = .error e) →
      (∃ name ctx, templates name ctx = .error e) ∨ e = outsideManifest :=
    fun ⟨name, h⟩ => .inl ⟨name, _, h⟩
  cases a with
  | file name ctx =>
      simp only [decide] at h
      split at h
      · cases h
      · obtain h | ⟨made, -, h⟩ := bind_eq_error.1 h
        · exact hmade (synthesize_eq_error h)
        · cases h
  | declare d ctx =>
      obtain h | ⟨start, -, h⟩ := bind_eq_error.1 h
      · exact hmade (startFrom_eq_error h)
      · split at h <;> cases h
  | importLine literal =>
      simp only [decide] at h
      split at h <;> cases h
  | clean samples =>
      simp only [decide] at h
      split at h <;> cases h
  | dependency identity version ctx => exact (mergeManifest_eq_error h).elim hmade .inr
  | reference identity ctx => exact (mergeManifest_eq_error h).elim hmade .inr

end

end Scaffold
