import Mathlib
import Scaffold.Proofs.Artifact.Pieces
import Scaffold.Proofs.Refusal
import Scaffold.Proofs.StepLog

/-!
# What is there already

Whether a text is on some line of a file is asked twice: by the gate of a request, which splits what
the file says into lines, and by the task that would put the text in, which asks the file as it was
read.  A line is a piece between line feeds for both, without one carriage return at its end if a
line feed follows (`Artifact.texts_parse`), so they see the same lines in every text.  A request is
refused exactly if its task would find its work done (`gate_iff_skips`).
-/

namespace Scaffold

open Scaffold.Path (components)
open Scaffold.Text

/-! ## Lines -/

/-- The text of a line is its piece without a carriage return at the end. -/
theorem Line.text_ofPiece (piece : List Char) :
    (Line.ofPiece piece).text = String.ofList (dropReturn piece) := by
  cases piece using List.reverseRecOn with
  | nil => rfl
  | append_singleton front c =>
      by_cases hc : c = '\r'
      · subst hc
        have hdrop : dropTail? ['\r'] (front ++ ['\r']) = some front := dropTail?_eq_some.2 rfl
        simp [ofPiece, hdrop, dropReturn]
      · have hdrop : dropTail? ['\r'] (front ++ [c]) = none := by
          simp [dropTail?, dropStart?, Ne.symm hc]
        simp [ofPiece, hdrop, dropReturn, hc]

namespace Artifact

/-- A file is read with the lines of its text. -/
theorem texts_parse (path content : String) : (parse path content).texts = Text.lines content := by
  obtain ⟨front, last, hpieces⟩ := exists_pieces content
  have hfront : (front.map Line.ofPiece).map Line.text = (front.map dropReturn).map String.ofList := by
    rw [List.map_map, List.map_map]
    exact List.map_congr_left fun piece _ => Line.text_ofPiece piece
  rw [parse_of_pieces path hpieces, Text.lines]
  simp only [hpieces, List.getLast?_concat, List.dropLast_concat]
  rw [texts, List.map_append, List.map_append, hfront]
  cases last <;> rfl

/-- A file that was read contains what its text contains. -/
theorem containsText_parse (path content needle : String) :
    (parse path content).containsText needle = lineContains content needle := by
  rw [containsText, texts_parse, lineContains]

end Artifact

/-! ## Reading a file -/

namespace Scene

/-- There is a file at a path, and a text is on one of its lines. -/
def Shows (s : Scene) (path needle : String) : Prop :=
  ∃ text, s.tree.content (components path) = some text ∧ lineContains text needle = true

variable {s : Scene} {path needle : String}

/-- A file that was loaded contains what is on a line of the file. -/
theorem containsText_fileAt : (s.fileAt path).containsText needle = true ↔ s.Shows path needle := by
  unfold fileAt Shows
  cases s.tree.content (components path) with
  | some text => simp [Artifact.containsText_parse]
  | none => simp [Artifact.absent, Artifact.containsText, Artifact.texts]

theorem lineContains_fileAt :
    lineContains (s.fileAt path).render needle = (s.fileAt path).containsText needle := by
  unfold fileAt
  cases s.tree.content (components path) with
  | some text => rw [Artifact.render_parse, Artifact.containsText_parse]
  | none => rfl

theorem Shows.isPresent (h : s.Shows path needle) : (s.fileAt path).isPresent = true := by
  obtain ⟨text, htext, -⟩ := h
  rw [fileAt, htext]
  exact Artifact.isPresent_parse path text

end Scene

section

variable {w : Surroundings} {root : String} {s : Scene}

/-! ## Finding the work done -/

namespace Task

variable {templates : Templates} {t : Task}

/-- A task that finds its work done succeeds at that. -/
theorem execute_perform_unchanged {current next : Artifact} {s₁ : Scene}
    (hinspect : execute (t.inspect w.files root) s = (.ok current, s₁))
    (hdecide : t.action.decide templates current = .ok (.unchanged, next)) :
    execute (t.perform w.files templates root) s = (.ok ⟨t.what, t.path.slashed, .unchanged⟩, s₁) := by
  rw [perform, execute_bind, hinspect]
  simp only
  rw [execute_bind, execute_lift_except, hdecide]
  rfl

/-- A task is done without a change, as it finds its work done. -/
def Skips (w : Surroundings) (templates : Templates) (root : String) (t : Task) (s : Scene) : Prop :=
  ∃ step, (execute (t.perform w.files templates root) s).1 = .ok step ∧ step.outcome = .unchanged

theorem skips_iff : t.Skips w templates root s ↔ ∃ current s₁ next,
    execute (t.inspect w.files root) s = (.ok current, s₁)
      ∧ t.action.decide templates current = .ok (.unchanged, next) := by
  constructor
  · rintro ⟨step, hrun, hunchanged⟩
    have hpair : execute (t.perform w.files templates root) s
        = (.ok step, (execute (t.perform w.files templates root) s).2) := Prod.ext hrun rfl
    obtain ⟨current, s₁, outcome, next, rfl, hinspect, hdecide, -⟩ := perform_ok hpair
    obtain rfl : outcome = .unchanged := hunchanged
    exact ⟨current, s₁, next, hinspect, hdecide⟩
  · rintro ⟨current, s₁, next, hinspect, hdecide⟩
    exact ⟨_, congrArg Prod.fst (execute_perform_unchanged hinspect hdecide), rfl⟩

end Task

/-- Only what is there already is left alone. -/
theorem Action.decide_declare_unchanged_iff {templates : Templates} {d : Declaration} {ctx : Context}
    {current : Artifact} :
    (∃ next, (Action.declare d ctx).decide templates current = .ok (.unchanged, next))
      ↔ current.isPresent = true ∧ current.containsText d.detection = true := by
  constructor
  · rintro ⟨next, hdecide⟩
    generalize houtcome : Outcome.unchanged = outcome at hdecide
    cases hpresent : current.isPresent with
    | false =>
        cases Action.decides hdecide <;> simp [changeOutcome, hpresent] at houtcome
    | true =>
        cases Action.decides hdecide with
        | declared hstart hfound =>
            rw [startFrom_of_present hpresent] at hstart
            cases hstart
            exact ⟨rfl, hfound⟩
        | declares => simp [changeOutcome, hpresent] at houtcome
  · rintro ⟨hpresent, hfound⟩
    refine ⟨current, ?_⟩
    rw [decide, startFrom, if_pos hpresent]
    change (if current.containsText d.detection then _ else _) = _
    rw [if_pos hfound, if_pos hpresent]
    rfl

/-! ## The gate and the task -/

/-- A gate refuses as what it asks for is there already. -/
def Conflicts (gate : InScene Unit) (s : Scene) : Prop :=
  ∃ capability artifact key,
    (execute gate s).1 = .error (.request (.alreadyPresent capability artifact key))

/-- A gate that looks for a text in a file refuses if it finds it. -/
theorem conflicts_iff (hw : w.Frank) (found : Artifact → Bool) {gate : InScene Unit}
    {path needle capability artifact key : String} (hgate : gate = do
      let file ← loadArtifact w.files path
      if found file then throw (.request (.alreadyPresent capability artifact key)))
    (hfound : found (s.fileAt path) = (s.fileAt path).containsText needle) :
    Conflicts gate s ↔ w.fault (s.after (.read path)).calls = none ∧ s.Shows path needle := by
  rw [Conflicts, hgate, execute_bind, execute_loadArtifact_eq, ← Scene.containsText_fileAt, ← hfound]
  cases hfault : w.fault (s.after (.read path)).calls with
  | some e =>
      have hfrank := hw.fault _ e hfault
      refine ⟨?_, fun h => nomatch h.1⟩
      rintro ⟨c, a, k, h⟩
      cases h
      cases hfrank
  | none =>
      simp only [true_and]
      cases found (s.fileAt path) with
      | true => exact ⟨fun _ => rfl, fun _ => ⟨_, _, _, rfl⟩⟩
      | false => exact ⟨fun ⟨_, _, _, h⟩ => (nomatch h), fun h => (nomatch h)⟩

/-- A task that makes sure of a declaration in a file, which a given text proves to be there. -/
def Task.Declares (t : Task) (path : RelativePath) (detection : String) : Prop :=
  t.path = path ∧ ∃ d ctx, t.action = .declare d ctx ∧ d.detection = detection

/-- A task that makes sure of a declaration finds its work done if the text is in the file. -/
theorem Task.Declares.skips_iff {templates : Templates} {t : Task} {path : RelativePath}
    {detection : String}
    (h : t.Declares path detection) : t.Skips w templates root s
      ↔ w.fault (s.after (.read (path.under root))).calls = none
        ∧ s.Shows (path.under root) detection := by
  obtain ⟨rfl, d, ctx, haction, rfl⟩ := h
  have hinspect : t.inspect w.files root = loadArtifact w.files (t.path.under root) := by
    rw [Task.inspect, haction]
  rw [Task.skips_iff, hinspect, haction, execute_loadArtifact_eq]
  cases w.fault (s.after (.read (t.path.under root))).calls with
  | some e => exact ⟨fun ⟨_, _, _, h, _⟩ => (nomatch h), fun h => (nomatch h.1)⟩
  | none =>
      simp only [true_and]
      constructor
      · rintro ⟨current, s₁, next, hload, hdecide⟩
        cases hload
        exact Scene.containsText_fileAt.1 (Action.decide_declare_unchanged_iff.1 ⟨next, hdecide⟩).2
      · intro hshows
        obtain ⟨next, hdecide⟩ : ∃ next, (Action.declare d ctx).decide templates
            (s.fileAt (t.path.under root)) = .ok (.unchanged, next) :=
          Action.decide_declare_unchanged_iff.2 ⟨hshows.isPresent, Scene.containsText_fileAt.2 hshows⟩
        exact ⟨_, _, next, rfl, hdecide⟩

end

/-- The generator's task for an entrypoint declares it in the exposure of its entity. -/
theorem Site.exposure_declares (site : Site) (f : Feature) (u : UseCase) : ∃ t ∈ site.exposure f u,
    t.Declares (site.locator.exposure f) (u.entry.detection site.locator.style) := by
  refine ⟨_, List.mem_cons_self, rfl, _, _, rfl, ?_⟩
  unfold Site.exposureDeclaration UseCase.detection
  cases site.locator.style <;> rfl

/-- The generator's task for a service declares its registration in the wiring. -/
theorem Site.service_declares (site : Site) (p : Placement) (name : String) (lifetime : Lifetime) :
    ∃ t ∈ site.service p name lifetime,
      t.Declares (site.locator.wiring p.wiringLayer) (Detection.serviceRegistration name) :=
  ⟨_, List.mem_append_left _ (List.mem_cons_of_mem _ (List.mem_cons_of_mem _ List.mem_cons_self)),
    rfl, _, _,
    rfl, rfl⟩

/-- **The gate of a request and the task it guards see the same.**  In every text and for every
needle, the three ways to ask for the needle agree: on the lines of the text, in the file as it was
read, and on the lines of what is written back.  So for every content of the exposure of an entity,
in both styles, the gate of an action refuses exactly if a task that makes sure of the detection of
its use case would find it there, and the generator's task is one.  The same holds for the gate of a
service and its registration in the wiring. -/
theorem gate_iff_skips {w : Surroundings} (hw : w.Frank) (templates : Templates) (root : String) (site : Site)
    (s : Scene) :
    (∀ path content needle,
      lineContains content needle = (Artifact.parse path content).containsText needle
        ∧ (Artifact.parse path content).containsText needle
          = lineContains (Artifact.parse path content).render needle)
    ∧ (∀ (f : Feature) (u : UseCase),
        let detection := u.entry.detection site.locator.style
        (∃ t ∈ site.exposure f u, t.Declares (site.locator.exposure f) detection)
          ∧ ∀ t : Task, t.Declares (site.locator.exposure f) detection →
            (Conflicts (requireUnexposed w.files root site.locator f u.entry) s
              ↔ t.Skips w templates root s))
    ∧ ∀ (p : Placement) (name : String) (lifetime : Lifetime),
        let detection := Detection.serviceRegistration name
        (∃ t ∈ site.service p name lifetime, t.Declares (site.locator.wiring p.wiringLayer) detection)
          ∧ ∀ t : Task, t.Declares (site.locator.wiring p.wiringLayer) detection →
            (Conflicts (requireUnregistered w.files root site.locator p name) s
              ↔ t.Skips w templates root s) := by
  refine ⟨fun path content needle => ?_, fun f u => ⟨site.exposure_declares f u, fun t ht => ?_⟩,
    fun p name lifetime => ⟨site.service_declares p name lifetime, fun t ht => ?_⟩⟩
  · rw [Artifact.render_parse, Artifact.containsText_parse]
    exact ⟨rfl, rfl⟩
  · rw [ht.skips_iff]
    exact conflicts_iff hw (fun file => lineContains file.render _) rfl Scene.lineContains_fileAt
  · rw [ht.skips_iff]
    exact conflicts_iff hw (fun file => file.containsText _) rfl rfl

/-- A project whose wiring registers a service, with a carriage return in the terminator. -/
def Scene.registered : Scene where
  tree := { files := [⟨"/work/src/Acme.Application/DependencyInjection.cs",
    "    services.AddSingleton<IMailService, MailService>();\r\n"⟩] }
  descriptor := none
  container := none
  calls := []

/-- A service that is registered is refused, under another lifetime as well. -/
theorem gate_iff_skips_registered : Conflicts
    (requireUnregistered Surroundings.still.files "/work" ⟨"Acme", .routes⟩ .shared "Mail") .registered := by
  obtain ⟨-, -, hservice⟩ := gate_iff_skips frank_still (fun _ _ => .ok "") "/work" ⟨⟨"Acme", .routes⟩, 0⟩
    .registered
  obtain ⟨⟨t, -, ht⟩, hiff⟩ := hservice .shared "Mail" .scoped
  exact (hiff t ht).2 (ht.skips_iff.2 ⟨rfl, "    services.AddSingleton<IMailService, MailService>();\r\n",
    by decide +kernel, by decide +kernel⟩)

end Scaffold
