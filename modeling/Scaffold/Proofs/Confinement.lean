import Mathlib
import Scaffold.Proofs.Calls
import Scaffold.Proofs.History

/-!
# Nothing outside the root

Whatever a request is asked for, it alters nothing outside the root of the project
(`Change.confined`).  The reason is in three parts.

* names: a name that is accepted is made of letters and digits alone, and so is its plural; the name
  of a project may have dots and underscores too, and its modules have an ending on top of it.
* places: every file of a plan lies at a place of the layout, and the segments of a place are plain
  names.  None of them is empty, so none is left out of the path.
* calls: a request alters the tree by its tasks alone (`Change.leads_calls`).

The root, the tree, the templates and the surroundings are arbitrary, and so is what is asked for.
-/

namespace Scaffold

open Scaffold.Text
open Scaffold.Path (IsSegment)

/-! ## Descriptors -/

/-- A descriptor that was made for a new project and changed by requests alone, whatever came of them
and whatever happened to the files in between. -/
inductive Descriptor.Grown : Descriptor → Prop
  | created {id : Uuid} {now : Instant} {name root : String} {style : Exposure}
      {provider : Option Provider} {d : Descriptor}
      (h : Descriptor.create id now name root style provider = .ok d) : Grown d
  | changed {w : Surroundings} {templates : Templates} {pluralize : String → String}
      {options : Options} {root : String} {c : Change} {s s' : Scene} {r : Except Error Report}
      {d d' : Descriptor} (hd : Grown d) (hs : s.descriptor = some d)
      (hmake : execute (c.make (w.portsWith templates pluralize) options root) s = (r, s'))
      (hs' : s'.descriptor = some d') : Grown d'

/-- A new project has the name that was accepted. -/
theorem Descriptor.isProject_create {id : Uuid} {now : Instant} {name root : String}
    {style : Exposure} {provider : Option Provider} {d : Descriptor}
    (h : Descriptor.create id now name root style provider = .ok d) : IsProject d.name := by
  obtain ⟨accepted, haccept, hd⟩ := bind_eq_ok.1 h
  cases hd
  exact acceptProjectName_isProject haccept

/-- A request leaves the name of a project. -/
theorem Change.name_eq {w : Surroundings} {templates : Templates} {pluralize : String → String}
    {options : Options} {root : String} {c : Change} {s s' : Scene} {r : Except Error Report}
    {d d' : Descriptor}
    (hmake : execute (c.make (w.portsWith templates pluralize) options root) s = (r, s'))
    (hs : s.descriptor = some d) (hs' : s'.descriptor = some d') : d'.name = d.name := by
  have hsaves := Change.saves hmake hs
  cases r with
  | error e =>
      rw [hsaves.failed e rfl, hs] at hs'
      cases hs'
      rfl
  | ok report =>
      obtain ⟨o, d₁, provider, -, hd₁, hcommits⟩ := hsaves.succeeded report rfl
      cases hd₁.symm.trans hs'
      obtain ⟨now, rfl⟩ := hcommits.frame
      rfl

theorem Descriptor.Grown.isProject {d : Descriptor} (h : d.Grown) : IsProject d.name := by
  induction h with
  | created h => exact isProject_create h
  | changed hd hs hmake hs' ih => rwa [Change.name_eq hmake hs hs']

/-! ## Names -/

/-- The use cases of an order. -/
def Order.useCases : Order → List UseCase
  | .crud f => UseCase.fullSet f
  | .action f r => [r.useCase f]
  | .service _ _ _ | .constant _ _ | .enum _ _ => []

/-- The name of a service, a constant or an enum. -/
def Order.ownName : Order → Option String
  | .crud _ | .action _ _ => none
  | .service _ name _ | .constant _ name | .enum _ name => some name

/-- The names that the files of an order and their directories are called after. -/
def Order.names (o : Order) : List String :=
  o.feature.toList.flatMap (fun f => [f.name, f.plural]) ++ o.useCases.map UseCase.name
    ++ o.ownName.toList

theorem IsName.isSegment {s : String} (h : IsName s) : IsSegment s := h.isDirectory.isSegment

theorem Order.WellNamed.feature {o : Order} (ho : o.WellNamed) : ∀ f ∈ o.feature, f.WellNamed := by
  cases o with
  | crud f =>
      rintro _ ⟨⟩
      exact ho
  | action f r =>
      rintro _ ⟨⟩
      exact ho.1
  | service p name lifetime =>
      cases p with
      | featureLocal f =>
          rintro _ ⟨⟩
          exact ho.1 f rfl
      | shared | external _ => rintro _ ⟨⟩
  | constant f name => exact ho.1
  | enum f name =>
      rintro _ ⟨⟩
      exact ho.1

theorem Order.WellNamed.useCases {o : Order} (ho : o.WellNamed) : ∀ u ∈ o.useCases, u.WellNamed := by
  cases o with
  | crud f => exact Site.fullSet_wellNamed ho
  | action f r =>
      intro u hu
      rw [List.mem_singleton.1 hu]
      exact useCase_wellNamed ho.1 ho.2
  | service _ _ _ | constant _ _ | enum _ _ => rintro u ⟨⟩

theorem Order.WellNamed.ownName {o : Order} (ho : o.WellNamed) : ∀ n ∈ o.ownName, IsName n := by
  cases o with
  | crud _ | action _ _ => rintro _ ⟨⟩
  | service _ _ _ | constant _ _ | enum _ _ =>
      rintro _ ⟨⟩
      exact ho.2

/-- Every name of an order is made of letters and digits, and none is empty. -/
theorem Order.WellNamed.names {o : Order} (ho : o.WellNamed) : ∀ n ∈ o.names, IsName n := by
  intro n hn
  rcases List.mem_append.1 hn with hn | hn
  · rcases List.mem_append.1 hn with hn | hn
    · obtain ⟨f, hf, hn⟩ := List.mem_flatMap.1 hn
      have hfeature := ho.feature f (Option.mem_toList.1 hf)
      rcases List.mem_cons.1 hn with rfl | hn
      · exact hfeature.name
      · rw [List.mem_singleton.1 hn]
        exact hfeature.plural
    · obtain ⟨u, hu, rfl⟩ := List.mem_map.1 hn
      exact (ho.useCases u hu).name
  · exact ho.ownName n (Option.mem_toList.1 hn)

/-! ## Paths -/

/-- A path names the components of a root, and after them only plain names. -/
structure LeadsBelow (root path : String) (names : List String) : Prop where
  /-- There is no way up, no root and no dot among the names. -/
  plain : ∀ n ∈ names, IsSegment n
  components : Path.components path = Path.components root ++ names.map Component.name

/-- A path is that of an artifact: a root, joined with the segments of its place, at least one and
none of them left out. -/
structure IsArtifactPath (l : Locator) (root path : String) (segments : List String) : Prop where
  place : ∃ layer kind, IsPlace l layer kind (.ofSegments segments)
  joined : path = (RelativePath.ofSegments segments).under root
  ne_nil : segments ≠ []
  text : (RelativePath.ofSegments segments).text = joinWith "/" segments
  below : LeadsBelow root path segments

/-- A call alters the tree only below a root. -/
def PortCall.Confined (l : Locator) (root : String) : PortCall → Prop
  | .write path _ => ∃ segments, IsArtifactPath l root path segments
  | .makeDirs path => ∃ names, LeadsBelow root path names
  | .probe _ | .read _ | .list _ | .command _ _ _ | .choose _ _ | .loadDescriptor _
  | .saveDescriptor _ _ | .saveContainer _ | .clock | .identify => True

theorem PortCall.aside_confined (l : Locator) (root : String) :
    PortCall.Aside (PortCall.Confined l root) where
  run c hc := by
    have hno : ¬ Reach.alter ≤ Reach.run := by decide
    cases c with
    | write _ _ | makeDirs _ => exact absurd hc hno
    | probe _ | read _ | list _ | command _ _ _ | choose _ _ | loadDescriptor _
    | saveDescriptor _ _ | saveContainer _ | clock | identify => trivial
  descriptor _ _ := trivial
  container _ := trivial

section

variable {l : Locator} {root : String}

/-- A place below a root is reached through plain names. -/
theorem IsPlace.artifactPath (hl : IsProject l.project) {layer : Layer} {kind : ArtifactKind}
    {p : RelativePath} (h : IsPlace l layer kind p) (root : String) :
    ∃ segments, p = .ofSegments segments ∧ IsArtifactPath l root (p.under root) segments := by
  obtain ⟨dirs, file, rfl, hdirs, hfile, hkind⟩ := h.parts
  have hsegments : ∀ n ∈ l.segments layer dirs file, IsSegment n :=
    segments_isSegment hl hdirs hfile
  have hne := segments_ne_nil l layer dirs file
  exact ⟨_, rfl, ⟨layer, kind, h⟩, rfl, hne, Path.text_ofSegments hne hsegments, hsegments,
    components_under hne hsegments root⟩

/-- The directory of what lies below a root is the root or lies below it. -/
theorem LeadsBelow.parent {path dir : String} {names : List String}
    (h : LeadsBelow root path names) (hne : names ≠ []) (hdir : Path.parent path = some dir) :
    LeadsBelow root dir names.dropLast where
  plain n hn := h.plain n (List.mem_of_mem_dropLast hn)
  components := by
    rw [Path.components_parent hdir, h.components, List.map_dropLast,
      List.dropLast_append_of_ne_nil (by simpa using hne)]

/-- A task of a project alters nothing outside the root. -/
theorem Task.Belongs.alters_confined (hl : IsProject l.project) {t : Task} (ht : t.Belongs l)
    {c : PortCall}
    (hc : t.Alters root c) : c.Confined l root := by
  obtain ⟨layer, kind, hplace, -⟩ := ht
  obtain ⟨segments, hp, hpath⟩ := hplace.artifactPath hl root
  cases hc with
  | makeDirs hdir => exact ⟨_, hpath.below.parent hpath.ne_nil hdir⟩
  | write content => exact ⟨segments, hpath⟩

end

/-! ## Requests -/

/-- **A request alters nothing outside the root of the project**, however it ends.  Every file it
writes is the root joined with the segments of an artifact's place, which are plain names and all of
them there; every directory it makes is the root or is reached from it through plain names.  The
names that are asked for are arbitrary: where they are accepted, none of the names that the paths
are made of is empty or leads anywhere else. -/
theorem Change.confined {d : Descriptor} (hd : d.Grown) {s : Scene} (hs : s.descriptor = some d)
    (w : Surroundings) (templates : Templates) (options : Options) (root : String) (c : Change) :
    (∃ new, (execute (c.make (w.portsWith templates Plural.english) options root) s).2.calls
        = s.calls ++ new ∧ ∀ call ∈ new, call.Confined d.locator root)
      ∧ (∀ o, c.order Plural.english = .ok o → ∀ n ∈ o.names, IsSegment n)
      ∧ ∀ layer, layer ≠ .root → IsSegment (d.locator.moduleName layer) := by
  have hl : IsProject d.locator.project := hd.isProject
  refine ⟨?_, fun o ho n hn => ((c.order_wellNamed ho).names n hn).isSegment,
    fun layer => isSegment_moduleName hl⟩
  refine c.leads_calls (PortCall.aside_confined d.locator root) options ?_
  intro d' hd' o ho site hsite provider t ht call hcall
  obtain rfl : d = d' := Option.some.inj (hs.symm.trans hd')
  have hproject : IsProject site.project := by
    rw [Site.project, hsite]
    exact hl
  have hbelongs := Order.plan_belongs hproject (c.order_wellNamed ho) provider t ht
  rw [hsite] at hbelongs
  exact hbelongs.alters_confined hl hcall

/-- A constant that is asked for with blanks in its name, for a project with dots in its own and at a
root that leads upwards. -/
theorem Change.confined_constant : ∃ d new,
    Descriptor.create ⟨0⟩ ⟨0, 0⟩ "..Acme_1." "/work" .routes none = .ok d
    ∧ (execute ((Change.constant ⟨none, " max Retries "⟩).make
        (Surroundings.still.portsWith (fun _ _ => .ok "\x7b\n\x7d\n") Plural.english) {} "../work/.")
        ⟨{}, some d, none, []⟩).2.calls = [] ++ new
    ∧ (∀ call ∈ new, call.Confined d.locator "../work/.") ∧ new.any (fun call => call.reach = .alter) := by
  have hcreate : Descriptor.create ⟨0⟩ ⟨0, 0⟩ "..Acme_1." "/work" .routes none
      = .ok ⟨⟨0⟩, "..Acme_1.", "/work", "..Acme_1..Api", none, .routes, ⟨0, 0⟩, ⟨0, 0⟩, []⟩ := rfl
  obtain ⟨⟨new, hnew, hconfined⟩, -⟩ := Change.confined (.created hcreate) (s := ⟨{}, some _, none, []⟩)
    rfl .still (fun _ _ => .ok "\x7b\n\x7d\n") {} "../work/." (.constant ⟨none, " max Retries "⟩)
  refine ⟨_, new, hcreate, hnew, hconfined, ?_⟩
  rw [← List.nil_append new, ← hnew]
  rfl

end Scaffold
