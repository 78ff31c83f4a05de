import Mathlib
import Scaffold.Proofs.Retry
import Scaffold.Proofs.Wiring

/-!
# The provider that is recorded is the one that is wired

The user is asked for a provider as long as the descriptor has none, and the answer is recorded when
a request has ended well; but the registration of the database context and the package of the
provider are written before that, and the registration is found again whatever its provider.  So what
is wired is what was answered first, and it is what is recorded if the user keeps to one answer until
it is recorded.

A course of requests that may fail at any call (`Course`) leaves the first tasks of each of its
orders (`Traced`), all with one provider (`Course.traced`).  From this follow the registration and
the packages (`Course.wired`).
-/

namespace Scaffold

open Scaffold.Path (components)
open Scaffold.Text

/-! ## Courses -/

/-- The user names one provider, if any. -/
def Surroundings.Names (w : Surroundings) (p : Provider) : Prop :=
  ∀ calls index, w.answer calls = .ok index → ∀ q ∈ Provider.all[index]?, q = p

/-- A project that is set up on an empty tree, and requests one after the other, each of which ends as
it may.  As long as no provider is recorded the user names `p`. -/
inductive Course (T : Set (List Component)) (root : String) (p : Provider) : Scene → Prop
  | init {w : Surroundings} {s s' : Scene} {name : String} {style : Exposure}
      {provider : Option Provider} {d : Descriptor} (hempty : s.tree = {})
      (hinit : execute (initProject w.ports root name style provider) s = (.ok d, s')) :
      Course T root p s'
  | make {w : Surroundings} {s s' : Scene} {c : Change} {options : Options}
      {out : Except Error Report} (hcourse : Course T root p s) (hw : w.Within T)
      (hnames : ∀ d ∈ s.descriptor, d.provider = none → w.Names p)
      (hmake : execute (c.make w.ports options root) s = (out, s')) : Course T root p s'

/-- A run of surroundings in which the user names one provider is a course. -/
theorem Run.course {w : Surroundings} {T : Set (List Component)} {root : String} {p : Provider}
    {history : List Change} {s : Scene} (hw : w.Within T) (hnames : w.Names p)
    (h : Run w root history s) : Course T root p s := by
  induction h with
  | init hempty hinit => exact .init hempty hinit
  | done _ hmake ih => exact ih.make hw (fun _ _ _ => hnames) hmake
  | refused _ hmake _ ih => exact ih.make hw (fun _ _ _ => hnames) hmake

/-! ## What a course leaves -/

/-- The first tasks of orders, so many of each. -/
def partsOf (l : Locator) (p : Provider) (parts : List (Order × Nat)) : List Task :=
  parts.flatMap fun (o, k) => (o.tasks l p).take k

theorem partsOf_concat (l : Locator) (p : Provider) (parts : List (Order × Nat)) (o : Order)
    (k : Nat) : partsOf l p (parts ++ [(o, k)]) = partsOf l p parts ++ (o.tasks l p).take k := by
  rw [partsOf, List.flatMap_append, List.flatMap_singleton]
  rfl

/-- The actions of the first tasks of orders on a file are the first ones of each. -/
theorem actionsOn_partsOf (q : RelativePath) (l : Locator) (p : Provider) (parts : List (Order × Nat)) :
    actionsOn q (partsOf l p parts)
      = parts.flatMap fun (o, k) => actionsOn q ((o.tasks l p).take k) :=
  actionsOn_flatMap ..

theorem actionsOn_take (q : RelativePath) (ts : List Task) (k : Nat) :
    actionsOn q (ts.take k) <+: actionsOn q ts :=
  (List.take_prefix k ts).filterMap _

/-- What is left of orders that were carried out in part: the files are what their first tasks write
under the recorded provider, or under `p` as long as none is recorded. -/
structure Traced (T : Set (List Component)) (root : String) (p : Provider)
    (parts : List (Order × Nat)) (s : Scene) (d : Descriptor) : Prop where
  descriptor : s.descriptor = some d
  project : IsProject d.name
  sound : s.tree.Sound d.locator root
  wellNamed : ∀ part ∈ parts, part.1.WellNamed
  content : s.tree.content.AgreeOff T
    (carryAll root (fun _ => none) (partsOf d.locator (d.provider.getD p) parts))

section

variable {w : Surroundings} {T : Set (List Component)} {root : String} {p : Provider}
  {parts : List (Order × Nat)} {s s' : Scene} {d d' : Descriptor} {o : Order}

/-- A provider that is settled is the recorded one, or the one the user names. -/
theorem Descriptor.settleBy_named {answer : Except Error Nat} {provider : Provider}
    (h : d.settleBy answer = .ok (provider, d'))
    (hnames : d.provider = none → ∀ index, answer = .ok index → ∀ q ∈ Provider.all[index]?, q = p) :
    provider = d.provider.getD p := by
  cases hprovider : d.provider with
  | some q => exact ((Descriptor.settleBy_eq_ok h).2 q hprovider).symm
  | none =>
      unfold Descriptor.settleBy at h
      rw [hprovider] at h
      cases answer with
      | error e => cases h
      | ok index =>
          cases hindex : Provider.all[index]? with
          | none => simp [hindex] at h
          | some q =>
              simp only [hindex, Except.ok.injEq, Prod.mk.injEq] at h
              exact h.1 ▸ hnames hprovider index rfl q hindex

/-- An order is carried out with the recorded provider, or with the one the user names, and this is
what the descriptor has then. -/
theorem Order.Settles.named {answer : Except Error Nat} {provider : Provider}
    (h : o.Settles d answer provider d')
    (hnames : d.provider = none → ∀ index, answer = .ok index → ∀ q ∈ Provider.all[index]?, q = p)
    (l : Locator) : o.tasks l provider = o.tasks l (d.provider.getD p)
      ∧ d'.provider.getD p = d.provider.getD p := by
  cases hneeds : o.needsProvider with
  | false =>
      rw [h.idle hneeds]
      exact ⟨Order.plan_provider hneeds _ _ _, rfl⟩
  | true =>
      have hsettled := h.needed hneeds
      obtain rfl := Descriptor.settleBy_named hsettled hnames
      obtain ⟨rfl, -⟩ := Descriptor.settleBy_eq_ok hsettled
      exact ⟨rfl, rfl⟩

namespace Traced

/-- Calls that alter nothing leave what was left. -/
theorem same (h : Traced T root p parts s d) {r : Reach} (hsame : s.Same r s') :
    Traced T root p parts s' d where
  descriptor := hsame.descriptor.trans h.descriptor
  project := h.project
  sound := hsame.tree.symm ▸ h.sound
  wellNamed := h.wellNamed
  content := hsame.tree.symm ▸ h.content

/-- The first tasks of one more order. -/
theorem add (h : Traced T root p parts s d) (hT : Apart d.locator root T) (ho : o.WellNamed) {k : Nat}
    (hdescriptor : s'.descriptor = some d') (hlocator : d'.locator = d.locator)
    (hprovider : d'.provider.getD p = d.provider.getD p) (hsound : s'.tree.Sound d.locator root)
    (hcontent : s'.tree.content.AgreeOff T (carryAll root s.tree.content
      ((o.tasks d.locator (d.provider.getD p)).take k))) :
    Traced T root p (parts ++ [(o, k)]) s' d' where
  descriptor := hdescriptor
  project := by
    have hname : d'.name = d.name := congrArg Locator.project hlocator
    exact hname ▸ h.project
  sound := hlocator ▸ hsound
  wellNamed := List.forall_mem_append.2 ⟨h.wellNamed, List.forall_mem_singleton.2 ho⟩
  content := by
    have hbelongs := Order.tasks_belong (l := d.locator) h.project ho (d.provider.getD p)
    rw [hlocator, hprovider, partsOf_concat, carryAll_append]
    exact hcontent.trans (h.content.carryAll hT fun t ht => hbelongs t (List.mem_of_mem_take ht))

/-- A request adds the first tasks of its order, or nothing, however it ends. -/
theorem make (h : Traced T root p parts s d) (hT : ∀ l, Apart l root T) (hw : w.Within T)
    (hnames : d.provider = none → w.Names p) {c : Change} {options : Options}
    {out : Except Error Report} (hmake : execute (c.make w.ports options root) s = (out, s')) :
    ∃ parts' d', Traced T root p parts' s' d' := by
  cases hc : c.order Plural.english with
  | error e =>
      rw [Change.make_of_order_error hc] at hmake
      cases hmake
      exact ⟨parts, d, h⟩
  | ok o =>
      have ho := c.order_wellNamed hc
      obtain ⟨answer, hends⟩ := Change.make_outcome h.project (hT _) hw h.sound h.descriptor hc
        options
      rw [hmake] at hends
      have hanswer : d.provider = none → ∀ index, answer = .ok index →
          ∀ q ∈ Provider.all[index]?, q = p := by
        obtain ⟨calls, rfl⟩ := hends.answer
        exact fun hnone => hnames hnone calls
      cases out with
      | error e =>
          obtain hsame | ⟨-, hkept, provider, settled, k, hsettles, hcontent⟩ := hends.failed e rfl
          · exact ⟨parts, d, h.same hsame⟩
          · rw [(hsettles.named hanswer d.locator).1] at hcontent
            exact ⟨_, d, h.add (hT _) ho (hkept.trans h.descriptor) rfl rfl hends.sound hcontent⟩
      | ok report =>
          obtain ⟨-, provider, settled, d', hsettles, hcontent, hd', halike⟩ := hends.ended report rfl
          obtain ⟨htasks, hsettled⟩ := hsettles.named hanswer d.locator
          have hprovider : d'.provider = settled.provider := by
            rw [← halike]
            show (o.record settled).provider = _
            rw [Order.record_frame]
          have hall := List.take_length (l := o.tasks d.locator (d.provider.getD p))
          rw [htasks, ← hall] at hcontent
          exact ⟨_, d', h.add (hT _) ho hd' (hsettles.records halike).follows.locator
            (hprovider ▸ hsettled) hends.sound hcontent⟩

end Traced

/-- What a course leaves. -/
theorem Course.traced (h : Course T root p s) (hT : ∀ l, Apart l root T) :
    ∃ parts d, Traced T root p parts s d := by
  induction h with
  | init hempty hinit =>
      have hreached := reached_init (T := T) hempty hinit
      exact ⟨[], _, hreached.descriptor, hreached.project, hreached.sound, nofun, hreached.content⟩
  | make hcourse hw hnames hmake ih =>
      obtain ⟨parts, d, htraced⟩ := ih
      exact htraced.make hT hw (hnames d htraced.descriptor) hmake

/-! ## What is wired -/

namespace Traced

/-- A file of the project is written by the actions of the parts on it. -/
theorem written (h : Traced T root p parts s d) (hT : Apart d.locator root T) {layer : Layer}
    {kind : ArtifactKind} {q : RelativePath} (hq : IsPlace d.locator layer kind q) :
    Written d.locator q kind (actionsOn q (partsOf d.locator (d.provider.getD p) parts))
      (s.tree.content.linesAt (components (q.under root))) := by
  have hbelongs : ∀ t ∈ partsOf d.locator (d.provider.getD p) parts, t.Belongs d.locator := by
    intro t ht
    obtain ⟨⟨o, k⟩, hpart, ht⟩ := List.mem_flatMap.1 ht
    exact Order.tasks_belong h.project (h.wellNamed _ hpart) _ t (List.mem_of_mem_take ht)
  rw [Files.linesAt, h.content.at_place hT hq]
  exact written_carryAll h.project root hbelongs hq

/-- The actions on the registrations of the infrastructure are the first ones of each order. -/
theorem registrations (h : Traced T root p parts s d) :
    ∀ part ∈ parts, actionsOn (d.locator.wiring .infrastructure)
        ((part.1.tasks d.locator (d.provider.getD p)).take part.2)
      <+: part.1.registrations ⟨d.locator, 0⟩ (d.provider.getD p) := by
  intro part hpart
  rw [← Order.actionsOn_wiring h.project (h.wellNamed _ hpart)]
  exact actionsOn_take _ _ _

/-- The registration of the database context is there at most once, and whole under the provider. -/
theorem registered (h : Traced T root p parts s d) (hT : Apart d.locator root T)
    (hfound : ∃ line ∈ s.linesOf root (d.locator.wiring .infrastructure),
      contains line Site.contextRegistration = true) :
    (s.linesOf root (d.locator.wiring .infrastructure)).countP
        (contains · Site.contextRegistration) = 1
      ∧ Whole (.beforeMarker Site.returnServices)
          (Site.contextRegistrationBlock (d.provider.getD p))
          (s.linesOf root (d.locator.wiring .infrastructure)) := by
  generalize hr : d.provider.getD p = r
  obtain ⟨actions, hactions⟩ : ∃ actions, actions
      = actionsOn (d.locator.wiring .infrastructure) (partsOf d.locator r parts) := ⟨_, rfl⟩
  have hwritten := h.written hT (place_wiring (.inr rfl : Layer.infrastructure = _ ∨ _))
  rw [hr, ← hactions] at hwritten
  have hcount : (s.linesOf root (d.locator.wiring .infrastructure)).countP
        (contains · Site.contextRegistration)
      = if actions.any (Action.declares Site.contextRegistration) then 1 else 0 :=
    hwritten.countP h.project (m := .context r) trivial rfl rfl
  have hfills : Form.infrastructureWiring.Fills actions := by
    rw [hactions, actionsOn_partsOf]
    exact .flatMap fun part hpart => (part.1.fills_registrations _ r).of_isPrefix
      (hr ▸ h.registrations part hpart)
  have hany : actions.any (Action.declares Site.contextRegistration) = true := by
    by_contra hnot
    obtain ⟨line, hline, hfound⟩ := hfound
    rw [if_neg hnot, List.countP_eq_zero] at hcount
    exact hcount line hline hfound
  rw [if_pos hany] at hcount
  refine ⟨hcount, ?_⟩
  rw [← any_declared, List.any_eq_true] at hany
  obtain ⟨D, hD, hdetection⟩ := hany
  have hmem : D ∈ actions.filterMap Action.declaration? := mem_of_mem_firstsBy hD
  obtain rfl : D = (Member.context r).declaration d.locator := by
    rw [hactions, actionsOn_partsOf, List.filterMap_flatMap] at hmem
    obtain ⟨part, hpart, hmem⟩ := List.mem_flatMap.1 hmem
    exact part.1.context_eq ⟨d.locator, 0⟩ r D
      (((hr ▸ h.registrations part hpart).filterMap _).subset hmem) (beq_iff_eq.1 hdetection)
  exact hwritten.whole h.project Form.sound_infrastructureWiring hfills.takes hfills.makes _ hD

/-- No other provider has its package in the manifest. -/
theorem not_referenced (h : Traced T root p parts s d) (hT : Apart d.locator root T) {q : Provider}
    (hq : q ≠ d.provider.getD p) :
    Manifest.entries .package q.package (s.linesOf root (d.locator.manifest .infrastructure)) = [] := by
  have hwritten := h.written hT
    (place_manifest h.project (by decide : Layer.infrastructure ≠ .root))
  obtain ⟨e, hentry, hkind, hidentity⟩ : ∃ e, Manifest.PlanEntry d.locator e ∧ e.kind = .package
      ∧ e.identity = q.package := by
    have hall : q ∈ Provider.all := by cases q <;> decide
    exact ⟨_, .inl (List.mem_append_left _ (List.mem_append_right _ (List.mem_map_of_mem hall))),
      rfl, rfl⟩
  have hmerged : Manifest.Merged (Manifest.PlanEntry d.locator)
      (s.linesOf root (d.locator.manifest .infrastructure)) := by
    unfold Scene.linesOf
    cases hlines : s.tree.content.linesAt
      (components ((d.locator.manifest .infrastructure).under root)) with
    | none => exact (.nil : WellKept d.locator .manifest []).manifest rfl
    | some ls => exact (hwritten.kept ls hlines).manifest rfl
  have hline : e.line ∉ s.linesOf root (d.locator.manifest .infrastructure) := by
    intro hline
    obtain ⟨a, ha, hasked⟩ := hwritten.entry_asked h.project hentry hline
    have hpackage : a.package? = some q.package :=
      hidentity ▸ Action.package?_of_entry? hasked hkind
    obtain ⟨t, ht, -, rfl⟩ := mem_actionsOn.1 ha
    obtain ⟨⟨o, k⟩, -, ht⟩ := List.mem_flatMap.1 ht
    have hmem : q.package ∈ packagesOf (o.tasks d.locator (d.provider.getD p)) :=
      List.mem_filterMap.2 ⟨t, List.mem_of_mem_take ht, hpackage⟩
    rw [Order.packagesOf_tasks] at hmem
    exact hq (Order.eq_of_package_mem hmem)
  rw [← hkind, ← hidentity]
  exact Manifest.entries_eq_nil (Manifest.planEntry_entrySet h.project) hmerged hentry hline

end Traced

/-- **The provider that is recorded is the one that is wired**, if the user keeps to one answer until
it is recorded.  A registration of the database context is the only one and calls that provider, and
the packages of the others are not referenced. -/
theorem Course.wired (h : Course T root p s) (hT : ∀ l, Apart l root T)
    (hdescriptor : s.descriptor = some d) {q : Provider} (hprovider : d.provider = some q) :
    ((∃ line ∈ s.linesOf root (d.locator.wiring .infrastructure),
        contains line Site.contextRegistration = true) →
      (s.linesOf root (d.locator.wiring .infrastructure)).countP
          (contains · Site.contextRegistration) = 1
        ∧ Whole (.beforeMarker Site.returnServices) (Site.contextRegistrationBlock q)
            (s.linesOf root (d.locator.wiring .infrastructure)))
    ∧ ∀ q' ≠ q, Manifest.entries .package q'.package
        (s.linesOf root (d.locator.manifest .infrastructure)) = [] := by
  obtain ⟨parts, d', htraced⟩ := h.traced hT
  obtain rfl : d' = d := Option.some.inj (htraced.descriptor.symm.trans hdescriptor)
  have hq : d'.provider.getD p = q := by rw [hprovider, Option.getD_some]
  subst hq
  exact ⟨htraced.registered (hT _), fun q' hq' => htraced.not_referenced (hT _) hq'⟩

/-- A full generation that failed and was made again is wired for the provider it recorded. -/
theorem Course.wired_invoice : ∃ s d q, Course ∅ "/work" .postgres s ∧ s.descriptor = some d
    ∧ d.provider = some q
    ∧ Whole (.beforeMarker Site.returnServices) (Site.contextRegistrationBlock q)
        (s.linesOf "/work" (d.locator.wiring .infrastructure))
    ∧ ∀ q' ≠ q, Manifest.entries .package q'.package
        (s.linesOf "/work" (d.locator.manifest .infrastructure)) = [] := by
  have hwithin := Surroundings.idle_still.within ∅
  have hnames : Surroundings.still.Names .postgres := by
    rintro calls _ ⟨⟩ q ⟨⟩
    rfl
  obtain ⟨s, d, hrun, hreached, -⟩ := exists_run_start
  obtain ⟨e, hfailure⟩ : ∃ e, execute ((Change.crud ⟨"Invoice"⟩).make Surroundings.failing.ports {}
      "/work") s = (.error e, s.after (.loadDescriptor "/work")) := ⟨_, rfl⟩
  have hfailed : Course ∅ "/work" .postgres (s.after (.loadDescriptor "/work")) :=
    .make (w := .failing) (hrun.course hwithin hnames) hwithin (fun _ _ _ => hnames) hfailure
  have hsame : s.Same .look (s.after (.loadDescriptor "/work")) := .after s (by decide)
  replace hreached := hreached.same hsame
  obtain ⟨report, s', hmake⟩ := hreached.next_invoice
  obtain ⟨o, d', ho, -, -, hdone⟩ := hreached.done (apart_empty _ _) hwithin hmake
  cases orders_invoice.symm.trans ho
  obtain ⟨q, hq⟩ := Option.isSome_iff_exists.1 (hdone.provider _ List.mem_cons_self rfl)
  have hcourse := hfailed.make hwithin (fun _ _ _ => hnames) hmake
  obtain ⟨hregistered, hpackages⟩ := hcourse.wired (apart_empty · "/work") hdone.descriptor hq
  have hfound : ∃ line ∈ s'.linesOf "/work" (d'.locator.wiring .infrastructure),
      contains line Site.contextRegistration = true := by
    have hwell := hdone.wellNamed _ List.mem_cons_self
    have hmem : .declare ((Member.context d'.theProvider).declaration d'.locator)
          (Site.context ⟨d'.locator, 0⟩)
        ∈ actionsOn (d'.locator.wiring .infrastructure)
          ((Order.crud invoice).tasks d'.locator d'.theProvider) := by
      rw [Order.actionsOn_wiring hdone.project hwell]
      exact List.mem_cons_of_mem _ List.mem_cons_self
    obtain ⟨t, ht, hpath, haction⟩ := mem_actionsOn.1 hmem
    have hrests := hdone.rests (apart_empty _ "/work") _ List.mem_cons_self t ht
    rw [Task.Rests, haction, Task.place, hpath] at hrests
    obtain ⟨samples, hclean⟩ | ⟨ls, hls, hmet⟩ := hrests
    · cases hclean
    · unfold Scene.linesOf
      rw [hls]
      exact hmet
  exact ⟨s', d', q, hcourse, hdone.descriptor, hq, (hregistered hfound).2, hpackages⟩

end

end Scaffold
