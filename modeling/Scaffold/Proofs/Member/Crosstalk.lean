import Mathlib
import Scaffold.Proofs.Change
import Scaffold.Proofs.Member.Distinct
import Scaffold.Proofs.Plan.Tasks

/-!
# No crosstalk between generated blocks

A block is found by the detection of another member of its file only if the two detections are one
text, and never below its first line (`Member.found`).  What is left is to read the member off its
detection.  For most that is the name between fixed texts.  For an exposure it is the verb and the
route: a verb ends at the first character that is no letter, and a route shows whether it has an
identifier by a brace, which no segment has (`Route.template_injective`,
`Entrypoint.detection_injective`).
-/

namespace Scaffold

open Scaffold.Text

/-! ## Routes -/

namespace Route

theorem template_segment (segment : String) : template ⟨some segment, false⟩ = segment := rfl

theorem template_segment_id (segment : String) :
    template ⟨some segment, true⟩ = segment ++ "/" ++ idSegment := rfl

/-- Only the identifier of a route has a brace. -/
theorem WellNamed.brace_mem_iff {r : Route} (hr : r.WellNamed) :
    '\x7b' ∈ r.template.toList ↔ r.hasId = true := by
  obtain ⟨segment, hasId⟩ := r
  cases segment with
  | none => cases hasId <;> decide
  | some segment =>
      have hsegment := (hr segment rfl).2.not_mem (c := '\x7b') (by decide)
      cases hasId with
      | false => simp [template_segment, hsegment]
      | true => simp [template_segment_id, idSegment]

/-- A route without a segment and one with a segment have different templates. -/
theorem template_ne_of_segment {segment : String} (hne : segment ≠ "") (hasId : Bool) :
    template ⟨none, hasId⟩ ≠ template ⟨some segment, hasId⟩ := by
  intro h
  cases hasId with
  | false => exact hne (h.symm.trans rfl)
  | true =>
      have hslash : '/' ∈ (template ⟨none, true⟩).toList := by
        rw [h, template_segment_id]
        simp
      revert hslash
      decide

/-- A route can be read off its template. -/
theorem template_injective {r r' : Route} (hr : r.WellNamed) (hr' : r'.WellNamed)
    (h : r.template = r'.template) : r = r' := by
  have hid : r.hasId = r'.hasId := by
    rw [Bool.eq_iff_iff, ← hr.brace_mem_iff, ← hr'.brace_mem_iff, h]
  obtain ⟨segment, hasId⟩ := r
  obtain ⟨segment', hasId'⟩ := r'
  obtain rfl : hasId = hasId' := hid
  cases segment with
  | none =>
      cases segment' with
      | none => rfl
      | some segment' => exact absurd h (template_ne_of_segment (hr' segment' rfl).1 hasId)
  | some segment =>
      cases segment' with
      | none => exact absurd h.symm (template_ne_of_segment (hr segment rfl).1 hasId)
      | some segment' =>
          obtain rfl : segment = segment' := by
            cases hasId with
            | false => exact h
            | true => simpa [template_segment_id] using h
          rfl

/-- What stands behind the verb in the detection of an entrypoint. -/
def written (style : Exposure) (r : Route) : String :=
  match style with
  | .routes => "(\"" ++ r.path ++ "\","
  | .controllers => if r.template.isEmpty then "]" else "(\"" ++ r.template ++ "\")]"

theorem written_head (style : Exposure) (r : Route) :
    ∃ c rest, (r.written style).toList = c :: rest ∧ c.isAlphanum = false := by
  have hopen : ∀ text tail : String,
      ("(\"" ++ text ++ tail).toList = '(' :: '"' :: (text.toList ++ tail.toList) := by
    intro text tail
    simp
  cases style with
  | routes => exact ⟨'(', _, hopen r.path "\",", by decide⟩
  | controllers =>
      unfold written
      dsimp only
      split
      · exact ⟨']', [], rfl, by decide⟩
      · exact ⟨'(', _, hopen r.template "\")]", by decide⟩

theorem template_of_written {style : Exposure} {r r' : Route} (h : r.written style = r'.written style) :
    r.template = r'.template := by
  have hhead : ∀ template : String, "]" ≠ "(\"" ++ template ++ "\")]" := by
    intro template heq
    have hlist := congrArg String.toList heq
    simp at hlist
  cases style with
  | routes => simpa [written, path] using h
  | controllers =>
      simp only [written] at h
      split at h <;> split at h
      next hr hr' => rw [String.isEmpty_iff.1 hr, String.isEmpty_iff.1 hr']
      next => exact absurd h (hhead _)
      next => exact absurd h.symm (hhead _)
      next => simpa using h

end Route

/-! ## Detections -/

/-- A verb is written in letters. -/
theorem Verb.token_made (v : Verb) : Made Char.isAlphanum v.token := by cases v <;> decide

theorem Verb.token_injective {v v' : Verb} (h : v.token = v'.token) : v = v' := by
  cases v <;> cases v' <;> first | rfl | exact absurd h (by decide)

/-- A detection is a fixed text, the verb and the route. -/
theorem Entrypoint.detection_eq_written (style : Exposure) (e : Entrypoint) : e.detection style
    = (match style with | .routes => "group.Map" | .controllers => "[Http") ++ e.verb.token
      ++ e.route.written style := by
  cases style with
  | routes => simp only [detection, detectionOf, Route.written, String.append_assoc]
  | controllers =>
      simp only [detection, detectionOf, Route.written]
      split
      · rfl
      · simp only [String.append_assoc]

/-- The verb and the route of an entrypoint can be read off its detection. -/
theorem Entrypoint.detection_injective {style : Exposure} {e e' : Entrypoint} (he : e.route.WellNamed)
    (he' : e'.route.WellNamed) (h : e.detection style = e'.detection style) :
    e.verb = e'.verb ∧ e.route = e'.route := by
  rw [detection_eq_written, detection_eq_written, String.append_assoc, String.append_assoc,
    String.append_right_inj] at h
  -- the verb ends at the first character that is no letter
  have htoken : e.verb.token = e'.verb.token := by
    obtain ⟨c, rest, hc, hother⟩ := Route.written_head style e.route
    obtain ⟨c', rest', hc', hother'⟩ := Route.written_head style e'.route
    have hlist := congrArg String.toList h
    rw [String.toList_append, String.toList_append, hc, hc'] at hlist
    have hprefix : e.verb.token.toList ++ c :: rest <+: e'.verb.token.toList ++ c' :: rest' := by
      rw [hlist]
    exact String.toList_injective
      (eq_of_prefix_run e.verb.token_made e'.verb.token_made hother hother' hprefix)
  rw [htoken, String.append_right_inj] at h
  exact ⟨Verb.token_injective htoken, Route.template_injective he he' (Route.template_of_written h)⟩

/-- A name that is written twice can be read off the text. -/
theorem eq_of_written_twice (start middle stop : String) {a b : String}
    (h : start ++ a ++ middle ++ a ++ stop = start ++ b ++ middle ++ b ++ stop) : a = b := by
  have hlist : a.toList ++ (middle.toList ++ (a.toList ++ stop.toList))
      = b.toList ++ (middle.toList ++ (b.toList ++ stop.toList)) := by
    have := congrArg String.toList h
    simpa only [String.toList_append, List.append_assoc, List.append_cancel_left_eq] using this
  have hlength : a.toList.length = b.toList.length := by
    have := congrArg List.length hlist
    simp only [List.length_append] at this
    omega
  exact String.toList_injective (List.append_inj_left hlist hlength)

namespace Detection

theorem repositoryMethod_injective {a b : String} (h : repositoryMethod a = repositoryMethod b) :
    a = b := by
  simpa [repositoryMethod] using h

theorem dbSet_injective {a b : String} (h : dbSet a = dbSet b) : a = b := by
  simpa [dbSet] using h

theorem endpointMapping_injective {a b : String} (h : endpointMapping a = endpointMapping b) : a = b := by
  simpa [endpointMapping] using h

theorem constant_injective {a b : String} (h : constant a = constant b) : a = b := by
  simpa [constant] using h

theorem serviceRegistration_injective {a b : String} (h : serviceRegistration a = serviceRegistration b) :
    a = b :=
  eq_of_written_twice "<I" "Service, " "Service>();" h

theorem repositoryRegistration_injective {f g : Feature}
    (h : repositoryRegistration f = repositoryRegistration g) : f.name = g.name :=
  eq_of_written_twice "services.AddScoped<I" "Repository, " "Repository>();"
    ((Member.repositoryRegistration_parts f).symm.trans (h.trans (Member.repositoryRegistration_parts g)))

/-- The registration of a repository shows the singular of the entity only. -/
theorem repositoryRegistration_congr {f g : Feature} (h : f.name = g.name) :
    repositoryRegistration f = repositoryRegistration g := by
  have hparts := Member.repositoryRegistration_parts f
  rw [h] at hparts
  exact hparts.trans (Member.repositoryRegistration_parts g).symm

end Detection

/-! ## Blocks -/

/-- A detection is found in a block exactly under a condition, and on the first line at most. -/
structure MarkedBy (block : List String) (detection : String) (same : Prop) : Prop where
  found : (∃ x ∈ block, contains x detection = true) ↔ same
  below : ∀ x ∈ block.tail, contains x detection = false

theorem MarkedBy.congr {block : List String} {detection : String} {same same' : Prop}
    (h : MarkedBy block detection same) (hiff : same ↔ same') : MarkedBy block detection same' :=
  ⟨h.found.trans hiff, h.below⟩

/-- The block of a member is marked by the detection of a member of the same file if that is its
own. -/
theorem Member.marked {l : Locator} (hl : IsProject l.project) (m m' : Member) (hm : m.WellNamed)
    (hm' : m'.WellNamed) (hpath : m.path l = m'.path l) :
    MarkedBy (m'.declaration l).block (m.declaration l).detection
      ((m.declaration l).detection = (m'.declaration l).detection) := by
  have hunindented : ∀ block : List String, block.map (Artifact.indentBy "") = block := fun block =>
    (List.map_congr_left fun line _ => Artifact.indentBy_empty line).trans (List.map_id _)
  constructor
  · have hcount := count_block hl hm hm' hpath Anchor.isIndent_empty
    rw [hunindented] at hcount
    rw [← List.countP_pos_iff, hcount]
    split
    next heq => exact ⟨fun _ => heq, fun _ => Nat.one_pos⟩
    next hne => exact ⟨fun hpos => absurd hpos (Nat.lt_irrefl 0), fun heq => absurd heq hne⟩
  · obtain ⟨layer, hplace⟩ := m.place (l := l) hm
    obtain ⟨layer', hplace'⟩ := m'.place (l := l) hm'
    have hkind := hplace.kind_eq hl (hpath ▸ hplace')
    obtain ⟨head, tail, hblock, -, htail, -⟩ := m'.block_spec (l := l) hm'
    rw [hblock]
    intro x hx
    have hclear := (htail x hx).clear (l := l) hm hkind Anchor.isIndent_empty
    rwa [Artifact.indentBy_empty] at hclear

theorem isProject_app : IsProject "App" := by decide

section

variable {f g : Feature} {u v : UseCase} {m n : RepositoryMethod} {a b : String}

/-- The block of an exposure tells its verb and its route. -/
theorem exposureBlock_marked (hf : f.WellNamed) (hu : u.WellNamed) (hv : v.WellNamed) (style : Exposure) :
    MarkedBy (u.exposureBlock style f) (v.detection style)
      (u.verb = v.verb ∧ u.entry.route = v.entry.route) := by
  have hmarked := Member.marked (l := ⟨"App", style⟩) isProject_app (.exposure f v) (.exposure f u)
    ⟨hf, hv⟩
    ⟨hf, hu⟩ rfl
  have hiff : v.detection style = u.detection style ↔ u.verb = v.verb ∧ u.entry.route = v.entry.route := by
    refine ⟨fun h => Entrypoint.detection_injective hu.route hv.route h.symm, fun ⟨hverb, hroute⟩ => ?_⟩
    have hsame : u.entry.verb = v.entry.verb := hverb
    rw [UseCase.detection, Entrypoint.detection, ← hsame, ← hroute]
    rfl
  cases style <;> exact hmarked.congr hiff

/-- The contract and the body of a repository method tell its name, whatever it does. -/
theorem repositoryMethod_marked (hf : f.WellNamed) (hm : IsName m.name) (hn : IsName n.name) :
    MarkedBy (m.contractBlock f.name) n.detection (m.name = n.name)
      ∧ MarkedBy (m.implBlock f) n.detection (m.name = n.name) := by
  have hiff : n.detection = m.detection ↔ m.name = n.name :=
    ⟨fun h => (Detection.repositoryMethod_injective h).symm,
      fun h => congrArg Detection.repositoryMethod h.symm⟩
  have hcontract := Member.marked (l := ⟨"App", .routes⟩) isProject_app (.contractMethod f n)
    (.contractMethod f m) ⟨hf, hn⟩ ⟨hf, hm⟩ rfl
  have himpl := Member.marked (l := ⟨"App", .routes⟩) isProject_app (.implMethod f n) (.implMethod f m)
    ⟨hf, hn⟩ ⟨hf, hm⟩ rfl
  exact ⟨hcontract.congr hiff, himpl.congr hiff⟩

/-- The set, the registration and the mapping of an entity tell its name. -/
theorem feature_marked (hf : f.WellNamed) (hg : g.WellNamed) :
    MarkedBy [dbSetLine f] (Detection.dbSet g.name) (f.name = g.name)
      ∧ MarkedBy [Detection.repositoryRegistration f] (Detection.repositoryRegistration g)
        (f.name = g.name)
      ∧ MarkedBy [Detection.endpointMapping f.name] (Detection.endpointMapping g.name)
        (f.name = g.name) := by
  have hset := Member.marked (l := ⟨"App", .routes⟩) isProject_app (.dbSet g) (.dbSet f) hg hf rfl
  have hrepository := Member.marked (l := ⟨"App", .routes⟩) isProject_app (.repository g)
    (.repository f) hg hf
    rfl
  have hmapping := Member.marked (l := ⟨"App", .routes⟩) isProject_app (.mapping g) (.mapping f) hg hf rfl
  have hset' : Detection.dbSet g.name = Detection.dbSet f.name ↔ f.name = g.name :=
    ⟨fun h => (Detection.dbSet_injective h).symm, fun h => congrArg Detection.dbSet h.symm⟩
  have hrepository' : Detection.repositoryRegistration g = Detection.repositoryRegistration f
      ↔ f.name = g.name :=
    ⟨fun h => (Detection.repositoryRegistration_injective h).symm,
      fun h => Detection.repositoryRegistration_congr h.symm⟩
  have hmapping' : Detection.endpointMapping g.name = Detection.endpointMapping f.name ↔ f.name = g.name :=
    ⟨fun h => (Detection.endpointMapping_injective h).symm,
      fun h => congrArg Detection.endpointMapping h.symm⟩
  exact ⟨hset.congr hset', hrepository.congr hrepository', hmapping.congr hmapping'⟩

theorem serviceRegistration_marked (ha : IsName a) (hb : IsName b) (lifetime : Lifetime) :
    MarkedBy ["services." ++ lifetime.registration ++ Detection.serviceRegistration a]
      (Detection.serviceRegistration b) (a = b) :=
  (Member.marked (l := ⟨"App", .routes⟩) isProject_app (.service .shared b lifetime)
    (.service .shared a lifetime) ⟨nofun, hb⟩ ⟨nofun, ha⟩ rfl).congr
    ⟨fun h => (Detection.serviceRegistration_injective h).symm,
      fun h => congrArg Detection.serviceRegistration h.symm⟩

theorem constantLine_marked (ha : IsName a) (hb : IsName b) :
    MarkedBy [constantLine a] (Detection.constant b) (a = b) :=
  (Member.marked (l := ⟨"App", .routes⟩) isProject_app (.constant none b) (.constant none a) ⟨nofun, hb⟩
    ⟨nofun, ha⟩ rfl).congr
    ⟨fun h => (Detection.constant_injective h).symm, fun h => congrArg Detection.constant h.symm⟩

end

/-- **Blocks and detections agree, without crosstalk.**  Take an entity with good names.  Every
canonical operation on it and every action that is accepted for it is a use case with good names.
In both styles the block of a use case has the detection of another one on some line exactly if the
two have the same verb and the same route, and never below the first line.  In the same way the
contract and the body of a repository method, whatever it does, have the detection of a method
exactly if it has the same name, and the set, the repository registration and the endpoint mapping
of an entity, the registration of a service and the line of a constant have the detection of another
exactly if it has the same name. -/
theorem block_marked_iff {f : Feature} (hf : f.WellNamed) :
    (∀ op, (UseCase.canonical f op).WellNamed)
    ∧ (∀ raw r : ActionRequest, raw.accept = .ok r → (r.useCase f).WellNamed)
    ∧ (∀ (style : Exposure) (u v : UseCase), u.WellNamed → v.WellNamed →
        MarkedBy (u.exposureBlock style f) (v.detection style)
          (u.verb = v.verb ∧ u.entry.route = v.entry.route))
    ∧ (∀ m n : RepositoryMethod, IsName m.name → IsName n.name →
        MarkedBy (m.contractBlock f.name) n.detection (m.name = n.name)
          ∧ MarkedBy (m.implBlock f) n.detection (m.name = n.name))
    ∧ (∀ g : Feature, g.WellNamed →
        MarkedBy [dbSetLine f] (Detection.dbSet g.name) (f.name = g.name)
          ∧ MarkedBy [Detection.repositoryRegistration f] (Detection.repositoryRegistration g)
            (f.name = g.name)
          ∧ MarkedBy [Detection.endpointMapping f.name] (Detection.endpointMapping g.name)
            (f.name = g.name))
    ∧ ∀ a b : String, IsName a → IsName b →
        (∀ lifetime : Lifetime,
          MarkedBy ["services." ++ lifetime.registration ++ Detection.serviceRegistration a]
            (Detection.serviceRegistration b) (a = b))
          ∧ MarkedBy [constantLine a] (Detection.constant b) (a = b) :=
  ⟨Site.canonical_wellNamed hf, fun _ _ h => useCase_wellNamed hf (ActionRequest.accept_isName h).2,
    fun style _ _ hu hv => exposureBlock_marked hf hu hv style,
    fun _ _ hm hn => repositoryMethod_marked hf hm hn, fun _ hg => feature_marked hf hg,
    fun _ _ ha hb => ⟨fun lifetime => serviceRegistration_marked ha hb lifetime,
      constantLine_marked ha hb⟩⟩

/-- The block for a page is not taken for one for all, though both read the collection. -/
theorem block_marked_iff_page : ¬ ∃ x ∈ (UseCase.canonical ⟨"Invoice", "Invoices"⟩ .readPage).exposureBlock .routes
      ⟨"Invoice", "Invoices"⟩,
    contains x ((UseCase.canonical ⟨"Invoice", "Invoices"⟩ .readAll).detection .routes) = true := by
  obtain ⟨hcanonical, -, hexposure, -⟩ :=
    @block_marked_iff ⟨"Invoice", "Invoices"⟩ ⟨by decide, by decide⟩
  rw [(hexposure .routes _ _ (hcanonical .readPage) (hcanonical .readAll)).found]
  decide

end Scaffold
