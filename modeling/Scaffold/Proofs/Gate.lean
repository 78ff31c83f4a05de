import Mathlib
import Scaffold.Proofs.Perform
import Scaffold.Proofs.Refusal

/-!
# Passing the gates

On a tree whose files are such as tasks write them, an order passes its gates exactly if it is
*admitted* (`Order.Admitted`): the class of the entity it builds on is there (`Order.Grounded`), and
the member it brings is not (`Order.Novel`).
-/

namespace Scaffold

open Scaffold.Path (components)
open Scaffold.Text

/-! ## What the gates ask -/

/-- A member is declared in its file. -/
def Member.Present (l : Locator) (root : String) (F : Files) (m : Member) : Prop :=
  ∃ ls ∈ F.linesAt (components ((m.path l).under root)),
    ∃ x ∈ ls, contains x (m.declaration l).detection = true

namespace Order

/-- The entity whose class has to be there. -/
def builtOn : Order → Option Feature
  | .action f _ | .service (.featureLocal f) _ _ | .enum f _ => some f
  | .constant f _ => f
  | .crud _ | .service .shared _ _ | .service (.external _) _ _ => none

/-- The member that must not be there yet. -/
def novelty : Order → Option Member
  | .action f r => some (.exposure f (r.useCase f))
  | .service p name lifetime => some (.service p name lifetime)
  | .crud _ | .constant _ _ | .enum _ _ => none

/-- What an order builds on is there. -/
def Grounded (l : Locator) (root : String) (F : Files) (o : Order) : Prop :=
  ∀ f ∈ o.builtOn, (F (components ((l.entityType f).under root))).isSome = true

/-- What an order brings is not there yet. -/
def Novel (l : Locator) (root : String) (F : Files) (o : Order) : Prop :=
  ∀ m ∈ o.novelty, ¬ m.Present l root F

/-- Nothing refuses an order. -/
structure Admitted (l : Locator) (root : String) (F : Files) (o : Order) : Prop where
  grounded : o.Grounded l root F
  novel : o.Novel l root F

end Order

section

variable {w : Surroundings} {l : Locator} {root : String} {s : Scene}

theorem execute_requireEntity (hs : s.tree.Sound l root) {f : Feature} (hf : f.WellNamed) :
    ∃ r s', execute (requireEntity w.files root l f) s = (r, s') ∧ s.Same .look s'
      ∧ ((s.tree.content (components ((l.entityType f).under root))).isSome = true → r = .ok ())
      ∧ ((s.tree.content (components ((l.entityType f).under root))).isSome = false →
          r = .error (.run (.prerequisiteMissing ("entity '" ++ f.name ++ "'")
            (l.entityType f).slashed))) := by
  unfold requireEntity
  rw [execute_bind, execute_pathExists, hs.hasPath_eq (place_entityType hf)]
  have hsame : s.Same .look (s.after (.probe ((l.entityType f).under root))) :=
    .after s (Reach.look_le _)
  cases (s.tree.content (components ((l.entityType f).under root))).isSome with
  | true => exact ⟨_, _, rfl, hsame, fun _ => rfl, nofun⟩
  | false => exact ⟨_, _, rfl, hsame, nofun, fun _ => rfl⟩

/-- What a gate sees of the file of a member. -/
theorem execute_loadArtifact_member (hs : s.tree.Sound l root) {m : Member} (hm : m.WellNamed) :
    ∃ r s', execute (loadArtifact w.files ((m.path l).under root)) s = (r, s') ∧ s.Same .look s'
      ∧ (∀ a, r = .ok a →
          (lineContains a.render (m.declaration l).detection = true ↔ m.Present l root s.tree.content)
          ∧ (a.containsText (m.declaration l).detection = true ↔ m.Present l root s.tree.content))
      ∧ (w.Calm → ∃ a, r = .ok a) := by
  obtain ⟨r, s', hrun, hsame, hread, hcalm⟩ :=
    execute_loadArtifact (w := w) (s := s) ((m.path l).under root)
  refine ⟨r, s', hrun, hsame, fun a ha => ?_, hcalm⟩
  obtain ⟨layer, hplace⟩ := m.place (l := l) hm
  rw [hread a ha]
  unfold Member.Present Files.linesAt
  cases hcontent : s.tree.content (components ((m.path l).under root)) with
  | none =>
      have hnone : lines "" = [] := by decide
      have hrender : (Artifact.absent ((m.path l).under root)).render = "" := rfl
      have htexts : (Artifact.absent ((m.path l).under root)).texts = [] := rfl
      simp [lineContains, Artifact.containsText, hrender, htexts, hnone]
  | some text =>
      obtain ⟨ls, rfl, hkept⟩ := hs.legit layer m.kind _ hplace text hcontent
      simp only [Artifact.parse_unlines hkept.plain, Artifact.render_ofLines, lineContains,
        lines_unlines hkept.plain, Artifact.containsText, Artifact.texts_ofLines, Option.map_some,
        Option.mem_some_iff, exists_eq_left', List.any_eq_true, and_self]

/-- A gate asks whether a member is there. -/
theorem execute_requireAbsent (hs : s.tree.Sound l root) {m : Member} (hm : m.WellNamed)
    (gate : InScene Unit) {e : Error} (found : Artifact → Bool)
    (hgate : gate = do
      let file ← loadArtifact w.files ((m.path l).under root)
      if found file then throw e)
    (hfound : ∀ a : Artifact, found a = lineContains a.render (m.declaration l).detection
      ∨ found a = a.containsText (m.declaration l).detection) :
    ∃ r s', execute gate s = (r, s') ∧ s.Same .look s'
      ∧ (r = .ok () → ¬ m.Present l root s.tree.content)
      ∧ (w.Calm → ¬ m.Present l root s.tree.content → r = .ok ())
      ∧ (w.Calm → m.Present l root s.tree.content → r = .error e) := by
  obtain ⟨r, s', hrun, hsame, hread, hcalm⟩ :=
    execute_loadArtifact_member (w := w) hs hm
  rw [hgate, execute_bind, hrun]
  cases r with
  | error e' =>
      have hno : ¬ w.Calm := fun h => by
        obtain ⟨a, ha⟩ := hcalm h
        cases ha
      exact ⟨_, _, rfl, hsame, nofun, fun h => absurd h hno, fun h => absurd h hno⟩
  | ok a =>
      have hiff : found a = true ↔ m.Present l root s.tree.content := by
        rcases hfound a with h | h <;> rw [h]
        · exact (hread a rfl).1
        · exact (hread a rfl).2
      simp only
      cases hf : found a with
      | true =>
          rw [hf] at hiff
          have hpresent := hiff.1 rfl
          exact ⟨_, _, rfl, hsame, nofun, fun _ h => absurd hpresent h, fun _ _ => rfl⟩
      | false =>
          rw [hf] at hiff
          have habsent : ¬ m.Present l root s.tree.content := fun h => by
            have := hiff.2 h
            cases this
          exact ⟨_, _, rfl, hsame, fun _ => habsent, fun _ _ => rfl, fun _ h => absurd h habsent⟩

theorem execute_requireUnexposed (hs : s.tree.Sound l root) {f : Feature} (hf : f.WellNamed)
    {u : UseCase} (hu : u.WellNamed) :
    ∃ r s', execute (requireUnexposed w.files root l f u.entry) s = (r, s') ∧ s.Same .look s'
      ∧ (r = .ok () → ¬ (Member.exposure f u).Present l root s.tree.content)
      ∧ (w.Calm → ¬ (Member.exposure f u).Present l root s.tree.content → r = .ok ())
      ∧ (w.Calm → (Member.exposure f u).Present l root s.tree.content →
          ∃ capability artifact key, r = .error (.request (.alreadyPresent capability artifact key))) := by
  have hdetection : ((Member.exposure f u).declaration l).detection = u.entry.detection l.style := by
    unfold Member.declaration Site.exposureDeclaration UseCase.detection
    cases l.style <;> rfl
  obtain ⟨r, s', hrun, hsame, hok, hpass, hrefuse⟩ := execute_requireAbsent (w := w) hs
    (m := .exposure f u) ⟨hf, hu⟩ (requireUnexposed w.files root l f u.entry)
    (fun a => lineContains a.render (u.entry.detection l.style)) rfl
    (fun a => .inl (by rw [hdetection]))
  exact ⟨r, s', hrun, hsame, hok, hpass, fun hcalm h => ⟨_, _, _, hrefuse hcalm h⟩⟩

theorem execute_requireUnregistered (hs : s.tree.Sound l root) {p : Placement} (hp : p.WellNamed)
    {name : String} (hname : IsName name) (lifetime : Lifetime) :
    ∃ r s', execute (requireUnregistered w.files root l p name) s = (r, s') ∧ s.Same .look s'
      ∧ (r = .ok () → ¬ (Member.service p name lifetime).Present l root s.tree.content)
      ∧ (w.Calm → ¬ (Member.service p name lifetime).Present l root s.tree.content → r = .ok ())
      ∧ (w.Calm → (Member.service p name lifetime).Present l root s.tree.content →
          ∃ capability artifact key, r = .error (.request (.alreadyPresent capability artifact key))) := by
  obtain ⟨r, s', hrun, hsame, hok, hpass, hrefuse⟩ := execute_requireAbsent (w := w) hs
    (m := .service p name lifetime) ⟨hp, hname⟩ (requireUnregistered w.files root l p name)
    (fun a => a.containsText (Detection.serviceRegistration name)) rfl
    (fun a => .inr rfl)
  exact ⟨r, s', hrun, hsame, hok, hpass, fun hcalm h => ⟨_, _, _, hrefuse hcalm h⟩⟩

/-! ### The gates of an order -/

/-- Require what an order builds on. -/
def Order.requireGround (ports : Ports (StateM Scene)) (root : String) (l : Locator) (o : Order) :
    InScene Unit :=
  match o.builtOn with
  | some f => requireEntity ports.files root l f
  | none => pure ()

/-- Require that what an order brings is not there. -/
def Order.requireNovel (ports : Ports (StateM Scene)) (root : String) (l : Locator) :
    Order → InScene Unit
  | .action f r => requireUnexposed ports.files root l f (r.useCase f).entry
  | .service p name _ => requireUnregistered ports.files root l p name
  | .crud _ | .constant _ _ | .enum _ _ => pure ()

/-- The gates of an order, what it builds on first. -/
theorem Order.gates_eq (ports : Ports (StateM Scene)) (root : String) (l : Locator) (o : Order) :
    o.gates ports root l
      = (o.requireGround ports root l >>= fun _ => o.requireNovel ports root l) := by
  cases o with
  | crud f => rfl
  | action f r => rfl
  | service p name lifetime => cases p <;> rfl
  | constant f name =>
      cases f with
      | none => rfl
      | some f => exact (bind_pure _).symm
  | enum f name => exact (bind_pure _).symm

theorem Order.builtOn_wellNamed {o : Order} (ho : o.WellNamed) : ∀ f ∈ o.builtOn, f.WellNamed := by
  cases o with
  | crud f => nofun
  | action f r =>
      rintro _ ⟨⟩
      exact ho.1
  | service p name lifetime =>
      cases p with
      | featureLocal f =>
          rintro _ ⟨⟩
          exact ho.1 f rfl
      | shared => nofun
      | external e => nofun
  | constant f name => exact ho.1
  | enum f name =>
      rintro _ ⟨⟩
      exact ho.1

theorem Order.execute_requireGround (hs : s.tree.Sound l root) {o : Order} (ho : o.WellNamed) :
    ∃ r s', execute (o.requireGround w.ports root l) s = (r, s') ∧ s.Same .look s'
      ∧ (r = .ok () ↔ o.Grounded l root s.tree.content) := by
  unfold requireGround
  cases hbuilt : o.builtOn with
  | none =>
      refine ⟨_, _, rfl, .refl _ s, fun _ f hf => ?_, fun _ => rfl⟩
      rw [hbuilt] at hf
      cases hf
  | some f =>
      obtain ⟨r, s', hrun, hsame, hthere, hmissing⟩ :=
        execute_requireEntity (w := w) hs (o.builtOn_wellNamed ho f hbuilt)
      refine ⟨r, s', hrun, hsame, fun hr g hg => ?_, fun h => hthere (h f hbuilt)⟩
      rw [hbuilt, Option.mem_some_iff] at hg
      subst hg
      by_contra hnot
      rw [hr] at hmissing
      cases hmissing (by simpa using hnot)

theorem Order.execute_requireNovel (hs : s.tree.Sound l root) {o : Order} (ho : o.WellNamed) :
    ∃ r s', execute (o.requireNovel w.ports root l) s = (r, s') ∧ s.Same .look s'
      ∧ (r = .ok () → o.Novel l root s.tree.content)
      ∧ (w.Calm → o.Novel l root s.tree.content → r = .ok ())
      ∧ (w.Calm → ¬ o.Novel l root s.tree.content →
          ∃ capability artifact key, r = .error (.request (.alreadyPresent capability artifact key))) := by
  have hpass : o.novelty = none → ∃ r s', execute (pure () : InScene Unit) s = (r, s')
      ∧ s.Same .look s' ∧ (r = .ok () → o.Novel l root s.tree.content)
      ∧ (w.Calm → o.Novel l root s.tree.content → r = .ok ())
      ∧ (w.Calm → ¬ o.Novel l root s.tree.content → ∃ capability artifact key,
          r = .error (.request (.alreadyPresent capability artifact key))) := by
    intro hnone
    have hnovel : o.Novel l root s.tree.content := by
      intro m hm
      rw [hnone] at hm
      cases hm
    exact ⟨_, _, rfl, .refl _ s, fun _ => hnovel, fun _ _ => rfl, fun _ h => absurd hnovel h⟩
  have hgate : ∀ {gate : InScene Unit} {m : Member}, o.novelty = some m →
      (∃ r s', execute gate s = (r, s') ∧ s.Same .look s'
        ∧ (r = .ok () → ¬ m.Present l root s.tree.content)
        ∧ (w.Calm → ¬ m.Present l root s.tree.content → r = .ok ())
        ∧ (w.Calm → m.Present l root s.tree.content → ∃ capability artifact key,
            r = .error (.request (.alreadyPresent capability artifact key)))) →
      ∃ r s', execute gate s = (r, s') ∧ s.Same .look s'
        ∧ (r = .ok () → o.Novel l root s.tree.content)
        ∧ (w.Calm → o.Novel l root s.tree.content → r = .ok ())
        ∧ (w.Calm → ¬ o.Novel l root s.tree.content → ∃ capability artifact key,
            r = .error (.request (.alreadyPresent capability artifact key))) := by
    rintro gate m hm ⟨r, s', hrun, hsame, hok, hpass, hrefuse⟩
    have hiff : o.Novel l root s.tree.content ↔ ¬ m.Present l root s.tree.content := by
      simp [Novel, hm]
    refine ⟨r, s', hrun, hsame, fun h => hiff.2 (hok h), fun hcalm h => hpass hcalm (hiff.1 h),
      fun hcalm h => hrefuse hcalm ?_⟩
    rwa [hiff, not_not] at h
  cases o with
  | crud f => exact hpass rfl
  | action f r => exact hgate rfl (execute_requireUnexposed hs ho.1 (useCase_wellNamed ho.1 ho.2))
  | service p name lifetime =>
      exact hgate rfl (execute_requireUnregistered hs ho.1 ho.2 lifetime)
  | constant f name => exact hpass rfl
  | enum f name => exact hpass rfl

/-- An order passes its gates if it is admitted; one that brings what is there is refused. -/
theorem Order.execute_gates (hs : s.tree.Sound l root) {o : Order} (ho : o.WellNamed) :
    ∃ r s', execute (o.gates w.ports root l) s = (r, s') ∧ s.Same .look s'
      ∧ (r = .ok () → o.Admitted l root s.tree.content)
      ∧ (w.Calm → o.Admitted l root s.tree.content → r = .ok ())
      ∧ (w.Calm → o.Grounded l root s.tree.content → ¬ o.Novel l root s.tree.content →
          ∃ capability artifact key, r = .error (.request (.alreadyPresent capability artifact key))) := by
  obtain ⟨r, s₁, hrun, hsame, hgrounded⟩ := execute_requireGround (w := w) hs ho
  rw [Order.gates_eq, execute_bind, hrun]
  cases r with
  | error e =>
      have hnot : ¬ o.Grounded l root s.tree.content := fun h => by cases hgrounded.2 h
      exact ⟨_, _, rfl, hsame, nofun, fun _ h => absurd h.grounded hnot, fun _ h => absurd h hnot⟩
  | ok _ =>
      have hthere := hgrounded.1 rfl
      obtain ⟨r, s₂, hrun', hsame', hok, hpass, hrefuse⟩ :=
        execute_requireNovel (w := w) (s := s₁) (hsame.tree ▸ hs) ho
      rw [hsame.tree] at hok hpass hrefuse
      exact ⟨r, s₂, hrun', hsame.trans hsame', fun h => ⟨hthere, hok h⟩,
        fun hcalm h => hpass hcalm h.novel, fun hcalm _ h => hrefuse hcalm h⟩

end

end Scaffold
