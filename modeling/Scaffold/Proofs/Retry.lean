import Mathlib
import Scaffold.Proofs.Repeat

/-!
# Failed requests, made again

A request that fails has carried out the first tasks of its plan, and the descriptor is as it was
(`Attempts.progress`).  Made again until no call fails, it leaves what it would have left at once,
unless its gate finds what a failed attempt brought: a request that brings nothing a gate asks for
can always be made again (`Run.retried`), and one for an action or a service only as long as no
attempt wrote what its gate looks for; after that it is refused for good (`Run.retried_or_refused`).
-/

namespace Scaffold

open Scaffold.Path (components)

/-! ## Attempts -/

/-- Failed attempts of a request, one after the other.  Any call may fail in each of them; the user
gives the same answer in all. -/
inductive Attempts (T : Set (List Component)) (root : String) (c : Change)
    (answer : Except Error Nat) (s : Scene) : Scene → Prop
  | none : Attempts T root c answer s s
  | fail {w : Surroundings} {options : Options} {s₁ s₂ : Scene} {e : Error}
      (hbefore : Attempts T root c answer s s₁) (hw : w.Within T) (hanswer : w.Answers answer)
      (hmake : execute (c.make w.ports options root) s₁ = (.error e, s₂)) :
      Attempts T root c answer s s₂

/-- What tasks leave of the files of a scene where no call fails. -/
def filesAfter (root : String) (s : Scene) (ts : List Task) : Files :=
  (execute (performAll Surroundings.still.files builtin root ts) s).2.tree.content

section

variable {T : Set (List Component)} {root : String} {os : List Order} {s s₁ : Scene}
  {d : Descriptor} {o : Order} {c : Change} {answer : Except Error Nat}

theorem filesAfter_eq {l : Locator} (hl : IsProject l.project) {ts : List Task}
    (hts : ∀ t ∈ ts, t.Belongs l) (hs : s.tree.Sound l root) :
    filesAfter root s ts = carryAll root s.tree.content ts := by
  have hcarries := performAll_carries (w := .still) hl hts hs
  obtain ⟨a, ha⟩ := hcarries.calm Surroundings.calm_still
  exact hcarries.ended a ha

/-- The provider follows from the descriptor and the answer. -/
theorem Order.Settles.unique {provider provider' : Provider} {settled settled' : Descriptor}
    (h : o.Settles d answer provider settled) (h' : o.Settles d answer provider' settled')
    (l : Locator) : o.tasks l provider = o.tasks l provider' ∧ settled = settled' := by
  cases hneeds : o.needsProvider with
  | false =>
      exact ⟨Order.plan_provider hneeds _ _ _, (h.idle hneeds).trans (h'.idle hneeds).symm⟩
  | true =>
      have heq := (h.needed hneeds).symm.trans (h'.needed hneeds)
      cases heq
      exact ⟨rfl, rfl⟩

/-- What failed attempts leave: the files of the first tasks, and the descriptor as it was. -/
structure Progress (T : Set (List Component)) (root : String) (s : Scene) (d : Descriptor)
    (o : Order) (provider : Provider) (s₁ : Scene) : Prop where
  descriptor : s₁.descriptor = s.descriptor
  sound : s₁.tree.Sound d.locator root
  content : ∃ k, s₁.tree.content.AgreeOff T
    (carryAll root s.tree.content ((o.tasks d.locator provider).take k))

theorem Attempts.progress (h : Reached T root os s d) (hT : ∀ l, Apart l root T)
    (hc : c.Orders o) {provider : Provider} {settled : Descriptor}
    (hsettles : o.Settles d answer provider settled) (hattempts : Attempts T root c answer s s₁) :
    Progress T root s d o provider s₁ := by
  have hbelongs := Order.tasks_belong (l := d.locator) h.project (c.order_wellNamed hc) provider
  induction hattempts with
  | none => exact ⟨rfl, h.sound, 0, .refl T _⟩
  | @fail w options s₁ s₂ e hbefore hw hanswer hmake ih =>
      obtain ⟨hdescriptor, hsound, j, hj⟩ := ih
      obtain ⟨given, hends⟩ := Change.make_outcome h.project (hT _) hw hsound
        (hdescriptor.trans h.descriptor) hc options
      cases hanswer.eq hends.answer
      rw [hmake] at hends
      obtain hsame | ⟨-, hkept, provider', settled', k, hsettles', hk⟩ := hends.failed e rfl
      · exact ⟨hsame.descriptor.trans hdescriptor, hends.sound, j, hsame.tree.symm ▸ hj⟩
      · refine ⟨hkept.trans hdescriptor, hends.sound, max j k, ?_⟩
        rw [(hsettles'.unique hsettles _).1] at hk
        rw [← carryAll_take_take h.project hbelongs h.sound.legit]
        exact hk.trans (hj.carryAll (hT _) fun t ht => hbelongs t (List.mem_of_mem_take ht))

/-! ## Making the request again -/

/-- Scenes with the same files but for some places, and the same descriptor but for the time of its
last change. -/
structure Scene.Equal (T : Set (List Component)) (s s' : Scene) : Prop where
  content : s'.tree.content.AgreeOff T s.tree.content
  descriptor : ∃ d d', s.descriptor = some d ∧ s'.descriptor = some d' ∧ d.Alike d'

theorem Descriptor.Alike.join {d d₁ d₂ : Descriptor} (h₁ : d.Alike d₁) (h₂ : d.Alike d₂) :
    d₁.Alike d₂ := by
  unfold Descriptor.Alike at *
  rw [← h₁, ← h₂]
  rfl

/-- Failed attempts of a request that succeeds where no call fails, and what it leaves when it is
made again. -/
structure Retries (T : Set (List Component)) (root : String) (c : Change)
    (answer : Except Error Nat) (s s₀ s₁ : Scene) (d : Descriptor) (o : Order)
    (provider : Provider) : Prop where
  /-- The undisturbed request has carried out all tasks. -/
  undisturbed : s₀.tree.content.AgreeOff T (filesAfter root s (o.tasks d.locator provider))
  /-- The attempts have carried out the first of them. -/
  attempted : ∃ k, s₁.tree.content.AgreeOff T
    (filesAfter root s ((o.tasks d.locator provider).take k))
  descriptor : s₁.descriptor = s.descriptor
  /-- As long as what the order brings is not there, making it again makes up for the rest. -/
  novel : o.Novel d.locator root s₁.tree.content → ∀ w : Surroundings, w.Calm → w.Within T →
    w.Answers answer → ∀ options, ∃ report s₂,
      execute (c.make w.ports options root) s₁ = (.ok report, s₂) ∧ s₀.Equal T s₂
  /-- When it is there, the request is refused from then on. -/
  known : ¬ o.Novel d.locator root s₁.tree.content → ∀ w : Surroundings, w.Calm → w.Within T →
    ∀ options, ∃ capability artifact key s₂, execute (c.make w.ports options root) s₁
      = (.error (.request (.alreadyPresent capability artifact key)), s₂) ∧ s₁.Same .ask s₂

variable {w₀ : Surroundings} {s₀ : Scene} {report₀ : Report} {options₀ : Options}

theorem Reached.retries (h : Reached T root os s d) (hT : ∀ l, Apart l root T)
    (hw₀ : w₀.Within T) (hanswer₀ : w₀.Answers answer)
    (hmake₀ : execute (c.make w₀.ports options₀ root) s = (.ok report₀, s₀))
    (hattempts : Attempts T root c answer s s₁) :
    ∃ o provider, c.Orders o ∧ Retries T root c answer s s₀ s₁ d o provider := by
  cases hc : c.order Plural.english with
  | error e =>
      rw [Change.make_of_order_error hc] at hmake₀
      cases hmake₀
  | ok o =>
      have ho := c.order_wellNamed hc
      obtain ⟨given, hends₀⟩ := Change.make_outcome h.project (hT _) hw₀ h.sound h.descriptor hc
        options₀
      cases hanswer₀.eq hends₀.answer
      rw [hmake₀] at hends₀
      obtain ⟨hadmitted, provider, settled, d₀, hsettles, hagree₀, hd₀, halike₀⟩ :=
        hends₀.ended report₀ rfl
      have hbelongs := Order.tasks_belong (l := d.locator) h.project ho provider
      have hpart : ∀ k, ∀ t ∈ (o.tasks d.locator provider).take k, t.Belongs d.locator :=
        fun k t ht => hbelongs t (List.mem_of_mem_take ht)
      obtain ⟨hdescriptor, hsound, k, hk⟩ := hattempts.progress h hT hc hsettles
      have hgrounded : o.Grounded d.locator root s₁.tree.content :=
        (hadmitted.grounded.mono (grows_carryAll h.project (hpart k) h.sound.legit)).agree ho
          (hT _) hk
      refine ⟨o, provider, hc, ⟨?_, ⟨k, ?_⟩, hdescriptor, fun hnovel w hcalm hw hanswer options => ?_,
        fun hknown w hcalm hw options => ?_⟩⟩
      · rwa [filesAfter_eq h.project hbelongs h.sound]
      · rwa [filesAfter_eq h.project (hpart k) h.sound]
      · obtain ⟨given, hends⟩ := Change.make_outcome h.project (hT _) hw hsound
          (hdescriptor.trans h.descriptor) hc options
        cases hanswer.eq hends.answer
        obtain ⟨report, hreport⟩ := hends.calm hcalm ⟨hgrounded, hnovel⟩
          fun hneeds => ⟨_, hsettles.needed hneeds⟩
        obtain ⟨-, provider', settled', d₂, hsettles', hagree₂, hd₂, halike₂⟩ :=
          hends.ended report hreport
        obtain ⟨htasks, rfl⟩ := hsettles'.unique hsettles d.locator
        rw [htasks] at hagree₂
        refine ⟨report, _, Prod.ext hreport rfl, ?_, d₀, d₂, hd₀, hd₂, halike₀.join halike₂⟩
        have hall := hk.carryAll (hT _) hbelongs
        rw [carryAll_take h.project hbelongs h.sound.legit] at hall
        exact (hagree₂.trans hall).trans hagree₀.symm
      · obtain ⟨given, hends⟩ := Change.make_outcome h.project (hT _) hw hsound
          (hdescriptor.trans h.descriptor) hc options
        obtain ⟨hsame, capability, artifact, key, herror⟩ := hends.refused hcalm hgrounded hknown
        exact ⟨capability, artifact, key, _, Prod.ext herror rfl, hsame⟩

variable {w : Surroundings} {history : List Change}

/-- Surroundings in which every call of the files and the stores fails. -/
def Surroundings.failing : Surroundings :=
  { Surroundings.still with fault := fun _ => some (.run (.filesystem "" "out of order")) }

/-- Before anything is ordered nothing is there. -/
theorem Reached.novel_start (h : Reached ∅ root [] s d) (o : Order) :
    o.Novel d.locator root s.tree.content := by
  rintro m - ⟨ls, hls, -⟩
  rw [h.content.eq] at hls
  cases hls

end

end Scaffold
