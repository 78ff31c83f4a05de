import Mathlib
import Scaffold.Proofs.Action
import Scaffold.Proofs.Commands
import Scaffold.Proofs.Commute

/-!
# Migrations

A migration is named after what its request does and the entity that it does it to
(`Subject.migration`).  Both run together in the name: two requests share it if they do the same to
the same entity, whatever the verb, or if the end of what one does begins the entity of the other
(`Subject.migration_eq_iff`).  A full generation adds its entity, so it shares its name with an
action that does.

A tool that leaves a file for every migration that it adds, and no other file among them, adds each
of them once over all requests.  A request is told that its migration is there exactly if one that
shares its name added it (`Turn.migrations`).  What one command does to the migrations
(`Surroundings.Migrates`) makes up what a request does (`Turn.adds`) and what many do
(`Turn.adds_logFrom`).

The templates, the calls that fail and what the tool answers are arbitrary.
-/

namespace Scaffold

open Scaffold.Path (components parentComponents)

/-! ## Names -/

/-- What a migration is made for. -/
structure Subject where
  /-- What is done. -/
  action : String
  /-- The entity that it is done to. -/
  entity : String
deriving DecidableEq

namespace Subject

/-- The name of the migration. -/
def migration (x : Subject) : String := x.action ++ x.entity

/-- The end of what one does begins the entity of the other. -/
def Shifts (x y : Subject) : Prop := ∃ t ≠ "", x.action = y.action ++ t ∧ y.entity = t ++ x.entity

/-- Two migrations share their name if they are made for the same, or if the names part elsewhere. -/
theorem migration_eq_iff {x y : Subject} :
    x.migration = y.migration ↔ x = y ∨ x.Shifts y ∨ y.Shifts x := by
  obtain ⟨a, e⟩ := x
  obtain ⟨b, f⟩ := y
  simp only [migration, Shifts, mk.injEq]
  constructor
  · intro h
    have hchars : a.toList ++ e.toList = b.toList ++ f.toList := by
      rw [← String.toList_append, h, String.toList_append]
    obtain ⟨t, hb, he⟩ | ⟨t, ha, hf⟩ := List.append_eq_append_iff.1 hchars
    · have hb : b = a ++ String.ofList t := String.toList_inj.1 (by simpa using hb)
      have he : e = String.ofList t ++ f := String.toList_inj.1 (by simpa using he)
      by_cases ht : String.ofList t = ""
      · rw [ht] at hb he
        exact .inl ⟨by simpa using hb.symm, by simpa using he⟩
      · exact .inr (.inr ⟨_, ht, hb, he⟩)
    · have ha : a = b ++ String.ofList t := String.toList_inj.1 (by simpa using ha)
      have hf : f = String.ofList t ++ e := String.toList_inj.1 (by simpa using hf)
      by_cases ht : String.ofList t = ""
      · rw [ht] at ha hf
        exact .inl ⟨by simpa using ha, by simpa using hf.symm⟩
      · exact .inr (.inl ⟨_, ht, ha, hf⟩)
  · rintro (⟨rfl, rfl⟩ | ⟨t, -, rfl, rfl⟩ | ⟨t, -, rfl, rfl⟩)
    · rfl
    · exact String.append_assoc
    · exact String.append_assoc.symm

end Subject

/-- What an order asks a migration for. -/
def Order.subject (options : Options) : Order → Option Subject
  | .crud f => some ⟨"Add", f.name⟩
  | .action f r => if options.migrateActions then some ⟨r.action, f.name⟩ else none
  | .service _ _ _ | .constant _ _ | .enum _ _ => none

theorem Order.migration_eq (options : Options) (o : Order) :
    o.migration options = (o.subject options).map Subject.migration := by
  cases o with
  | action f r =>
      have hname : (r.useCase f).name = r.action ++ f.name := by
        unfold ActionRequest.useCase
        cases r.canonical <;> rfl
      rw [migration, subject, hname]
      cases options.migrateActions <;> rfl
  | crud _ | service _ _ _ | constant _ _ | enum _ _ => rfl

theorem Order.isName_migration {options : Options} {o : Order} (ho : o.WellNamed) {x : Subject}
    (hx : o.subject options = some x) : IsName x.migration := by
  cases o with
  | crud f =>
      cases hx
      exact IsName.prepend (by decide : Made Char.isAlphanum "Add") (Feature.WellNamed.name ho)
  | action f r =>
      rw [subject] at hx
      split at hx
      · cases hx
        exact ho.2.append ho.1.name.2
      · cases hx
  | service _ _ _ | constant _ _ | enum _ _ => cases hx

/-- What a request asks a migration for. -/
def Turn.subject (t : Turn) : Option Subject :=
  (t.change.order Plural.english).toOption.bind (Order.subject t.options)

theorem Turn.subject_of_order {t : Turn} {o : Order} (h : t.change.order Plural.english = .ok o) :
    t.subject = o.subject t.options := by
  rw [subject, h]
  rfl

theorem Turn.isName_migration {t : Turn} {x : Subject} (hx : t.subject = some x) : IsName x.migration := by
  cases ho : t.change.order Plural.english with
  | error e =>
      rw [subject, ho] at hx
      cases hx
  | ok o =>
      rw [subject_of_order ho] at hx
      exact Order.isName_migration (t.change.order_wellNamed ho) hx

/-! ## Files of migrations -/

/-- What comes after the last of a character is told by the whole. -/
theorem eq_of_append_cons {c : Char} {a b x y : List Char} (ha : c ∉ a) (hb : c ∉ b)
    (h : x ++ c :: a = y ++ c :: b) : a = b := by
  obtain ⟨t, rfl, hcons⟩ | ⟨t, rfl, hcons⟩ := List.append_eq_append_iff.1 h
  · cases t with
    | nil => exact (List.cons.inj hcons).2
    | cons d t => exact absurd ((List.cons.inj hcons).2 ▸ by simp) ha
  · cases t with
    | nil => exact (List.cons.inj hcons).2.symm
    | cons d t => exact absurd ((List.cons.inj hcons).2 ▸ by simp) hb

/-- The file of a migration ends like that of another one only if they share the name. -/
theorem endsWith_migrationSuffix (stamp : String) {a b : String} (ha : IsName a) (hb : IsName b) :
    Text.endsWith (stamp ++ migrationSuffix a) (migrationSuffix b) = true ↔ a = b := by
  have hchars (s : String) : (migrationSuffix s).toList = '_' :: s.toList ++ ".cs".toList := by
    simp [migrationSuffix]
  rw [Text.endsWith, List.isSuffixOf_iff_suffix, String.toList_append, hchars, hchars]
  constructor
  · rintro ⟨front, hfront⟩
    rw [← List.append_assoc, ← List.append_assoc, List.append_left_inj] at hfront
    exact String.toList_inj.1
      (eq_of_append_cons (hb.2.not_mem (by decide)) (ha.2.not_mem (by decide)) hfront).symm
  · rintro rfl
    exact List.suffix_append _ _

/-- There is a migration of a name. -/
def Scene.HasMigration (l : Locator) (root name : String) (s : Scene) : Prop :=
  (s.tree.listFiles (l.migrationsDir.under root)).any (Text.endsWith · (migrationSuffix name)) = true

/-- The descriptor has a layout. -/
def Scene.LaidOut (l : Locator) (s : Scene) : Prop := ∃ d, s.descriptor = some d ∧ d.locator = l

theorem Scene.Lists.hasMigration {l : Locator} {root name : String} {s s' : Scene}
    (h : s.Lists (l.migrationsDir.under root) s') :
    s'.HasMigration l root name ↔ s.HasMigration l root name := by
  rw [HasMigration, HasMigration, h]

/-- Decide whether a command has added a migration of a name. -/
def Ran.adds (l : Locator) (name : String) (r : Ran) : Bool :=
  r.program == buildTool && r.arguments == migrationArguments l name && r.succeeded

theorem Ran.adds_iff {l : Locator} {name : String} {r : Ran} : r.adds l name = true
    ↔ r.program = buildTool ∧ r.arguments = migrationArguments l name ∧ r.succeeded = true := by
  simp [adds, and_assoc]

theorem migrationArguments_inj {l : Locator} {a b : String} :
    migrationArguments l a = migrationArguments l b ↔ a = b := by
  simp [migrationArguments]

/-- The tool leaves a file with its name for every migration that it adds, and no other among them. -/
structure Surroundings.Migrates (w : Surroundings) (l : Locator) (root : String) : Prop where
  /-- A build leaves none. -/
  build : ∀ s : Scene, s.Lists (l.migrationsDir.under root) (s.ran w root ["build"])
  /-- Nor does what fails. -/
  failed : ∀ (s : Scene) (name : String), IsName name →
    (s.command w root (migrationArguments l name)).succeeded = false →
    s.Lists (l.migrationsDir.under root) (s.ran w root (migrationArguments l name))
  /-- Otherwise there is a file with a time before the name. -/
  added : ∀ (s : Scene) (name : String), IsName name →
    (s.command w root (migrationArguments l name)).succeeded = true → ∃ stamp : String, ∀ file,
      file ∈ (s.ran w root (migrationArguments l name)).tree.listFiles (l.migrationsDir.under root)
        ↔ file ∈ s.tree.listFiles (l.migrationsDir.under root) ∨ file = stamp ++ migrationSuffix name

/-- The commands from one scene to another add a migration that is new afterwards, and only once. -/
structure Scene.Adds (l : Locator) (root name : String) (s s' : Scene) (rs : List Ran) : Prop where
  /-- It is there afterwards if it was before or was added. -/
  present : s'.HasMigration l root name ↔ s.HasMigration l root name ∨ ∃ r ∈ rs, r.adds l name = true
  /-- It is added once at most. -/
  once : rs.countP (Ran.adds l name) ≤ 1
  /-- It is not added if it was there. -/
  new : s.HasMigration l root name → rs.countP (Ran.adds l name) = 0

namespace Scene.Adds

variable {l : Locator} {root name : String} {s s' s'' : Scene} {rs rs' : List Ran}

theorem of_lists (h : s.Lists (l.migrationsDir.under root) s') (hrs : ∀ r ∈ rs, r.adds l name = false) :
    s.Adds l root name s' rs := by
  have hcount : rs.countP (Ran.adds l name) = 0 := List.countP_eq_zero.2 fun r hr => by simp [hrs r hr]
  refine ⟨h.hasMigration.trans (iff_self_or.2 ?_), hcount ▸ Nat.zero_le 1, fun _ => hcount⟩
  rintro ⟨r, hr, hadds⟩
  cases (hrs r hr).symm.trans hadds

theorem trans (h : s.Adds l root name s' rs) (h' : s'.Adds l root name s'' rs') :
    s.Adds l root name s'' (rs ++ rs') := by
  refine ⟨?_, ?_, fun hs => ?_⟩
  · rw [h'.present, h.present, or_assoc]
    simp only [List.mem_append, or_and_right, exists_or]
  · rw [List.countP_append]
    by_cases hadds : ∃ r ∈ rs, r.adds l name = true
    · have := h.once
      have := h'.new (h.present.2 (.inr hadds))
      omega
    · have hnone : rs.countP (Ran.adds l name) = 0 :=
        List.countP_eq_zero.2 fun r hr hr' => hadds ⟨r, hr, hr'⟩
      have := h'.once
      omega
  · rw [List.countP_append, h.new hs, h'.new (h.present.2 (.inl hs))]

end Scene.Adds

/-! ## Requests -/

section

variable {w : Surroundings} {templates : Templates} {l : Locator} {root name : String} {options : Options}
  {s s' : Scene} {rs : List Ran}

/-- A command that was run is not skipped. -/
theorem Ran.status_ne_skipped {r : Ran} {reason : String} : r.status ≠ .ok (.skipped reason) := by
  unfold status
  split
  · split <;> nofun
  · split <;> nofun
  · nofun

/-- A command adds its migration if there is none of the name. -/
theorem Surroundings.Migrates.adds_ran (hw : w.Migrates l root) (hname : IsName name) {other : String}
    (hother : IsName other) (hnew : ¬ s.HasMigration l root other) :
    s.Adds l root name (s.ran w root (migrationArguments l other))
      [s.command w root (migrationArguments l other)] := by
  let r := s.command w root (migrationArguments l other)
  have hadds : r.adds l name = true ↔ other = name ∧ r.succeeded = true := by
    rw [Ran.adds_iff]
    exact (and_iff_right rfl).trans (and_congr_left fun _ => migrationArguments_inj)
  cases hsucceeded : r.succeeded with
  | false =>
      refine .of_lists (hw.failed s other hother hsucceeded) ?_
      rintro _ (_ | ⟨_, ⟨⟩⟩)
      exact Bool.eq_false_iff.2 fun h => by cases hsucceeded.symm.trans (hadds.1 h).2
  | true =>
      obtain ⟨stamp, hfiles⟩ := hw.added s other hother hsucceeded
      refine ⟨?_, List.countP_le_length, fun hs => List.countP_eq_zero.2 ?_⟩
      · have hsuffix := endsWith_migrationSuffix stamp hother hname
        simp only [Scene.HasMigration, List.any_eq_true, hfiles, or_and_right, exists_or, exists_eq_left,
          hsuffix, List.mem_singleton]
        exact or_congr_right ((hadds.trans (and_iff_left hsucceeded)).symm)
      · rintro _ (_ | ⟨_, ⟨⟩⟩) h
        exact hnew ((hadds.1 h).1 ▸ hs)

theorem Migrated.adds {build : CheckpointStatus} {other : String} {r : Except Error CheckpointStatus}
    (hw : w.Migrates l root) (hname : IsName name) (hother : IsName other)
    (h : Migrated w root options l build other s r s' rs) : s.Adds l root name s' rs := by
  cases h with
  | unbuilt _ | skipped _ _ | unlisted _ _ _ | found _ _ _ => exact .of_lists rfl nofun
  | ran _ _ hnew =>
      have hlisted : s.Adds l root name (s.after (.list (l.migrationsDir.under root))) [] :=
        .of_lists rfl nofun
      exact hlisted.trans (hw.adds_ran hname hother (Bool.eq_false_iff.1 hnew))

theorem Built.adds {r : Except Error CheckpointStatus} (hw : w.Migrates l root)
    (h : Built w root options s r s' rs) : s.Adds l root name s' rs := by
  refine .of_lists (h.lists hw.build) ?_
  cases h with
  | skipped _ => exact nofun
  | ran _ =>
      rintro _ (_ | ⟨_, ⟨⟩⟩)
      exact Bool.eq_false_iff.2 fun h =>
        absurd (List.cons.inj (Ran.adds_iff.1 h).2.1).1 (by decide : "build" ≠ "ef")

theorem Checked.adds {migration : Option String} {checkpoints : Except Error (List Checkpoint)}
    (hw : w.Migrates l root) (hname : IsName name) (hmigration : ∀ other ∈ migration, IsName other)
    (h : Checked w root options l s migration checkpoints s' rs) : s.Adds l root name s' rs := by
  cases h with
  | broken hbuilt => exact hbuilt.adds hw
  | built hbuilt => exact hbuilt.adds hw
  | migrated hbuilt hmigrated =>
      exact (hbuilt.adds hw).trans (hmigrated.adds hw hname (hmigration _ rfl))

namespace Turn

/-- A request leaves the layout. -/
theorem laidOut (t : Turn) (hs : s.LaidOut l) : (t.make w templates Plural.english s).2.LaidOut l := by
  obtain ⟨d, hd, rfl⟩ := hs
  rcases hmake : t.make w templates Plural.english s with ⟨r, s'⟩
  have hsaves := Change.saves hmake hd
  cases r with
  | error e => exact ⟨d, (hsaves.failed e rfl).trans hd, rfl⟩
  | ok report =>
      obtain ⟨o, d', provider, -, hd', hcommits⟩ := hsaves.succeeded report rfl
      obtain ⟨now, rfl⟩ := hcommits.frame
      exact ⟨_, hd', rfl⟩

variable (templates) in
/-- A request adds its migration at most once, and not if it is there. -/
theorem adds (t : Turn) (hw : w.Migrates l t.root) (hl : IsProject l.project) (hs : s.LaidOut l)
    (hname : IsName name) : s.Adds l t.root name (t.make w templates Plural.english s).2
      (s.commandsTo w (t.make w templates Plural.english s).2) := by
  obtain ⟨rs, hgoes, hruns⟩ := t.make_goes w templates Plural.english s
  rw [hruns.commandsTo_eq]
  obtain ⟨d, hd, rfl⟩ := hs
  rcases hmake : t.make w templates Plural.english s with ⟨r, s'⟩
  rw [hmake] at hgoes
  cases hgoes with
  | stopped hgenerate => exact .of_lists (Change.generate_lists hl hd hgenerate) nofun
  | unchecked hgenerate htool htree hreport =>
      exact .of_lists ((congrArg (MemoryTree.listFiles · _) htree).trans
        (Change.generate_lists hl hd hgenerate)) nofun
  | @checked g _ s₁ s₂ _ _ rs hgenerate htool hchecked htree hreport =>
      obtain ⟨ho, hlocator⟩ := Change.generate_eq_ok hgenerate
      rw [hlocator d hd] at hchecked
      have hgenerated : s.Adds d.locator t.root name s₁ [] :=
        .of_lists (Change.generate_lists hl hd hgenerate) nofun
      have hmigration : ∀ other ∈ g.order.migration t.options, IsName other := fun other hother => by
        rw [Order.migration_eq] at hother
        obtain ⟨x, hx, rfl⟩ := Option.map_eq_some_iff.1 hother
        exact Order.isName_migration (t.change.order_wellNamed ho) hx
      have hcommitted : s₂.Adds d.locator t.root name s' [] :=
        .of_lists (congrArg (MemoryTree.listFiles · _) htree) nofun
      simpa using (hgenerated.trans (hchecked.adds hw hname hmigration)).trans hcommitted

/-! ### What a request runs and reports -/

/-- A command of a request that adds a migration adds the one that the request asks for. -/
theorem subject_of_isMigration {t : Turn} {r : Ran} (hs : s.LaidOut l)
    (hr : r ∈ s.commandsTo w (t.make w templates Plural.english s).2) (hm : r.isMigration = true) :
    ∃ x, t.subject = some x ∧ r.arguments = migrationArguments l x.migration := by
  obtain ⟨rs, hgoes, hruns⟩ := t.make_goes w templates Plural.english s
  rw [hruns.commandsTo_eq] at hr
  obtain ⟨d, hd, rfl⟩ := hs
  rcases hmake : t.make w templates Plural.english s with ⟨_, s'⟩
  rw [hmake] at hgoes
  have hbuild {options : Options} {s s' : Scene} {result : Except Error CheckpointStatus} {rs : List Ran}
      (h : Built w t.root options s result s' rs) : r ∉ rs := by
    cases h with
    | skipped _ => exact nofun
    | ran _ =>
        rintro (_ | ⟨_, ⟨⟩⟩)
        cases hm.symm.trans (Ran.isMigration_of_isBuild rfl)
  cases hgoes with
  | stopped _ | unchecked _ _ _ _ => cases hr
  | @checked g _ s₁ s₂ _ checkpoints rs hgenerate htool hchecked htree hreport =>
      obtain ⟨ho, hlocator⟩ := Change.generate_eq_ok hgenerate
      rw [hlocator d hd] at hchecked
      generalize hmigration : g.order.migration t.options = migration at hchecked
      cases hchecked with
      | broken hbuilt | built hbuilt => exact absurd hr (hbuild hbuilt)
      | @migrated name _ _ _ rs rs' _ hbuilt hmigrated =>
          rw [Order.migration_eq] at hmigration
          obtain ⟨x, hx, rfl⟩ := Option.map_eq_some_iff.1 hmigration
          refine ⟨x, (subject_of_order ho).trans hx, ?_⟩
          rcases List.mem_append.1 hr with hr | hr
          · exact absurd hr (hbuild hbuilt)
          · cases hmigrated with
            | unbuilt _ | skipped _ _ | unlisted _ _ _ | found _ _ _ => cases hr
            | ran _ _ _ =>
                obtain rfl := List.mem_singleton.1 hr
                rfl

/-- A request that succeeds reports a migration only if it asks for it. -/
theorem migration_of_mem {t : Turn} {report : Report} {status : CheckpointStatus}
    (hmake : t.make w templates Plural.english s = (.ok report, s'))
    (hmem : ⟨.migration name, status⟩ ∈ report.checkpoints) :
    ∃ o, t.change.order Plural.english = .ok o ∧ o.migration t.options = some name := by
  obtain ⟨rs, hgoes, -⟩ := t.make_goes w templates Plural.english s
  rw [hmake] at hgoes
  cases hgoes with
  | unchecked _ _ _ hreport =>
      rw [hreport report rfl] at hmem
      cases hmem
  | @checked g _ s₁ s₂ _ checkpoints rs hgenerate htool hchecked htree hreport =>
      refine ⟨g.order, (Change.generate_eq_ok hgenerate).1, ?_⟩
      have hcheckpoints := hreport report rfl
      generalize g.order.migration t.options = migration at hchecked
      cases hchecked with
      | broken _ => cases hcheckpoints
      | built _ =>
          rw [← Except.ok.inj hcheckpoints] at hmem
          cases List.mem_singleton.1 hmem
      | @migrated _ _ _ _ _ _ result _ _ =>
          cases result with
          | error e => cases hcheckpoints
          | ok status' =>
              rw [← Except.ok.inj hcheckpoints] at hmem
              rcases List.mem_pair.1 hmem with heq | heq <;> cases heq
              rfl

/-- A request is told that its migration is there exactly if it gets so far and there is one. -/
theorem reports_found {t : Turn} {report : Report} {o : Order} (hw : w.Migrates l t.root)
    (hl : IsProject l.project) (hs : s.LaidOut l)
    (hmake : t.make w templates Plural.english s = (.ok report, s'))
    (ho : t.change.order Plural.english = .ok o) (hname : o.migration t.options = some name) :
    ∃ build status, report.checkpoints = [⟨.build, build⟩, ⟨.migration name, status⟩]
      ∧ (∃ s₁ s₂ rs, Built w t.root t.options s₁ (.ok build) s₂ rs)
      ∧ (status = .skipped "migration already exists" ↔ t.options.skipMigration = false
        ∧ build.isFailure = false ∧ s.HasMigration l t.root name) := by
  obtain ⟨d, hd, rfl⟩ := hs
  obtain ⟨g, s₁, s₂, s₃, build, status, rs, rs', hgenerate, hbuilt, hmigrated, hcheckpoints, -, -⟩ :=
    checkpoints_of_ok hmake ho hname
  refine ⟨build, status, hcheckpoints, ⟨_, _, _, hbuilt⟩, ?_⟩
  rw [(Change.generate_eq_ok hgenerate).2 d hd] at hmigrated
  have hlists := (Change.generate_lists hl hd hgenerate).trans (hbuilt.lists hw.build)
  rw [← hlists.hasMigration]
  generalize hr : (Except.ok status : Except Error CheckpointStatus) = r at hmigrated
  cases hmigrated with
  | unbuilt hfailed =>
      cases hr
      simp [hfailed]
  | skipped hpassed hskip =>
      cases hr
      simp [hskip]
  | unlisted _ _ _ => cases hr
  | found hpassed hskip hfound =>
      cases hr
      exact iff_of_true rfl ⟨hskip, hpassed, hfound⟩
  | ran hpassed hskip hnew =>
      refine iff_of_false ?_ fun h => Bool.eq_false_iff.1 hnew h.2.2
      rintro rfl
      exact Ran.status_ne_skipped hr.symm

/-! ### Many requests -/

theorem laidOut_makeAll (hs : s.LaidOut l) (ts : List Turn) :
    (makeAll w templates Plural.english ts s).LaidOut l := by
  induction ts generalizing s with
  | nil => exact hs
  | cons t ts ih => exact ih (t.laidOut hs)

variable (templates) in
/-- Requests add a migration at most once, and not if it is there. -/
theorem adds_logFrom (hw : w.Migrates l root) (hl : IsProject l.project) (hname : IsName name)
    {ts : List Turn}
    (hts : ∀ t ∈ ts, t.root = root) (hs : s.LaidOut l) (k : Nat) :
    s.Adds l root name (makeAll w templates Plural.english ts s)
      ((logFrom w templates Plural.english k ts s).map Prod.snd) := by
  induction ts generalizing s k with
  | nil => exact .of_lists rfl nofun
  | cons t ts ih =>
      obtain ⟨rfl, hts⟩ := List.forall_mem_cons.1 hts
      have hfirst := t.adds templates hw hl hs hname
      have hrest := ih (s := (t.make w templates Plural.english s).2) hts (t.laidOut hs) (k + 1)
      have hown : Prod.snd ∘ (Prod.mk k) = (id : Ran → Ran) := rfl
      rw [logFrom, List.map_append, List.map_map, hown, List.map_id]
      exact hfirst.trans hrest

/-! ### The log of requests -/

section

variable {ts : List Turn} {n : Nat} {r : Ran}

/-- A command in the log that adds a migration adds the one that its request asks for. -/
theorem named_of_mem_log (hs : s.LaidOut l) (hmem : (n, r) ∈ log w templates Plural.english ts s)
    (hm : r.isMigration = true) :
    ∃ t x, ts[n]? = some t ∧ t.subject = some x ∧ r.arguments = migrationArguments l x.migration := by
  obtain ⟨i, t, hget, rfl, hr⟩ := mem_logFrom hmem
  obtain ⟨x, hx, harguments⟩ := subject_of_isMigration (laidOut_makeAll hs (ts.take i)) hr hm
  exact ⟨t, x, by rwa [Nat.zero_add], hx, harguments⟩

/-- The request of a command that has added a migration asked for one of its name. -/
theorem added_of_mem_log (hs : s.LaidOut l) (hmem : (n, r) ∈ log w templates Plural.english ts s)
    (hadds : r.adds l name = true) : ∃ t x, ts[n]? = some t ∧ t.subject = some x ∧ x.migration = name := by
  obtain ⟨hprogram, harguments, -⟩ := Ran.adds_iff.1 hadds
  have hm : r.isMigration = true := by
    rw [Ran.isMigration, hprogram, harguments]
    rfl
  obtain ⟨t, x, hget, hx, hx'⟩ := named_of_mem_log hs hmem hm
  exact ⟨t, x, hget, hx, migrationArguments_inj.1 (hx'.symm.trans harguments)⟩

/-- After requests in a project without migrations there are those that they added. -/
theorem hasMigration_makeAll_iff (hw : w.Migrates l root) (hl : IsProject l.project) (hs : s.LaidOut l)
    (hnone : s.tree.listFiles (l.migrationsDir.under root) = []) (hts : ∀ t ∈ ts, t.root = root)
    (hname : IsName name) : (makeAll w templates Plural.english ts s).HasMigration l root name
      ↔ ∃ n r, (n, r) ∈ log w templates Plural.english ts s ∧ r.adds l name = true := by
  have hstart : ¬ s.HasMigration l root name := by
    rw [Scene.HasMigration, hnone]
    exact nofun
  rw [(adds_logFrom templates hw hl hname hts hs 0).present, or_iff_right hstart]
  simp only [log, List.mem_map, Prod.exists, exists_eq_right]
  constructor
  · rintro ⟨r, ⟨n, hr⟩, hadds⟩
    exact ⟨n, r, hr, hadds⟩
  · rintro ⟨n, r, hr, hadds⟩
    exact ⟨r, ⟨n, hr⟩, hadds⟩

/-- Requests add each migration at most once. -/
theorem countP_adds_log_le (hw : w.Migrates l root) (hl : IsProject l.project) (hs : s.LaidOut l)
    (hts : ∀ t ∈ ts, t.root = root) (name : String) :
    (log w templates Plural.english ts s).countP (fun x => x.2.adds l name) ≤ 1 := by
  by_cases hname : IsName name
  · have honce := (adds_logFrom templates hw hl hname hts hs 0).once
    rwa [List.countP_map] at honce
  · -- no request asks for a migration of such a name
    refine (List.countP_eq_zero.2 fun x hx hadds => hname ?_).trans_le (Nat.zero_le 1)
    obtain ⟨t, y, -, hy, rfl⟩ := added_of_mem_log hs hx hadds
    exact isName_migration hy

end

end Turn

end

/-! ## The migrations of a project -/

section

variable (w : Surroundings) (templates : Templates) (l : Locator) (root : String) (ts : List Turn)
    (s : Scene)

/-- What is known of the migrations of requests that are made one after the other. -/
structure Turn.Migrations : Prop where
  /-- A command that adds a migration adds the one that its request asks for. -/
  named : ∀ n r, (n, r) ∈ log w templates Plural.english ts s → r.isMigration = true →
    ∃ t x, ts[n]? = some t ∧ t.subject = some x ∧ r.arguments = migrationArguments l x.migration
  /-- Two requests ask for one under the same name if they do the same to the same entity, or if the
  end of what one does begins the entity of the other. -/
  shared : ∀ (t t' : Turn) (x y : Subject), t.subject = some x → t'.subject = some y →
    (migrationArguments l x.migration = migrationArguments l y.migration
      ↔ x = y ∨ x.Shifts y ∨ y.Shifts x)
  /-- No migration is added twice. -/
  once : ∀ name, (log w templates Plural.english ts s).countP (fun x => x.2.adds l name) ≤ 1
  /-- The next request is told that its migration is there exactly if its build did not fail,
  migrations are not switched off, and a request before it that asked for one under the same name
  added it. -/
  found : ∀ (t : Turn) (report : Report) (s' : Scene), t.root = root →
    t.make w templates Plural.english (makeAll w templates Plural.english ts s) = (.ok report, s') →
    ∀ name status, ⟨.migration name, status⟩ ∈ report.checkpoints →
      ∃ x, t.subject = some x ∧ name = x.migration
        ∧ (status = .skipped "migration already exists" ↔ t.options.skipMigration = false
          ∧ (∃ build, ⟨.build, build⟩ ∈ report.checkpoints ∧ build.isFailure = false)
          ∧ ∃ n t' y r, ts[n]? = some t' ∧ t'.subject = some y ∧ (y = x ∨ y.Shifts x ∨ x.Shifts y)
            ∧ (n, r) ∈ log w templates Plural.english ts s ∧ r.adds l name = true)

end

namespace Turn

/-- **Two requests share a migration only if they share its name, and each name is added once.**
The tool leaves a file for every migration that it adds, and no other file among them; apart from
that it answers as it likes, and any call may fail.  Then over all requests that are made in a
project without migrations, under any options and whatever comes of them, no migration is added
twice, and one is told to be there exactly if it was added under its name by a request before: one
that did the same to the same entity, or one for which the end of what one of the two does begins
the entity of the other. -/
theorem migrations {w : Surroundings} {l : Locator} {root : String} (hw : w.Migrates l root)
    (hl : IsProject l.project) {s : Scene} (hs : s.LaidOut l)
    (hnone : s.tree.listFiles (l.migrationsDir.under root) = []) (templates : Templates) {ts : List Turn}
    (hts : ∀ t ∈ ts, t.root = root) : Migrations w templates l root ts s := by
  refine ⟨fun n r => named_of_mem_log hs, fun t t' x y _ _ => migrationArguments_inj.trans
    Subject.migration_eq_iff, countP_adds_log_le hw hl hs hts,
      fun t report s' hroot hmake name status hmem => ?_⟩
  subst hroot
  obtain ⟨o, ho, hname⟩ := migration_of_mem hmake hmem
  obtain ⟨build, status', hcheckpoints, -, hfound⟩ :=
    reports_found hw hl (laidOut_makeAll hs ts) hmake ho hname
  rw [Order.migration_eq] at hname
  obtain ⟨x, hx, rfl⟩ := Option.map_eq_some_iff.1 hname
  rw [← subject_of_order ho] at hx
  rw [hcheckpoints] at hmem ⊢
  obtain rfl : status = status' := by
    rcases List.mem_pair.1 hmem with heq | heq <;> cases heq
    rfl
  refine ⟨x, hx, rfl, hfound.trans (and_congr_right fun _ => and_congr ?_ ?_)⟩
  · constructor
    · exact fun hpassed => ⟨build, List.mem_cons_self, hpassed⟩
    · rintro ⟨build', hbuild', hpassed⟩
      rcases List.mem_pair.1 hbuild' with heq | heq <;> cases heq
      exact hpassed
  · rw [hasMigration_makeAll_iff hw hl hs hnone hts (isName_migration hx)]
    constructor
    · rintro ⟨n, r, hmem, hadds⟩
      obtain ⟨t', y, hget, hy, hyx⟩ := added_of_mem_log hs hmem hadds
      exact ⟨n, t', y, r, hget, hy, Subject.migration_eq_iff.1 hyx, hmem, hadds⟩
    · rintro ⟨n, t', y, r, -, -, -, hmem, hadds⟩
      exact ⟨n, r, hmem, hadds⟩

end Turn

/-! ## A tool that adds migrations -/

/-- The file of a migration that is added at a time. -/
def Locator.migrationFile (l : Locator) (root name : String) : String :=
  Path.join (l.migrationsDir.under root) ("20261019120000" ++ migrationSuffix name)

theorem components_migrationFile (l : Locator) (root : String) {name : String} (hname : IsName name) :
    components (l.migrationFile root name) = components (l.migrationsDir.under root)
      ++ [.name ("20261019120000" ++ migrationSuffix name)] := by
  have hchars : ("20261019120000" ++ migrationSuffix name).toList
      = "20261019120000_".toList ++ (name.toList ++ ".cs".toList) := by
    simp [migrationSuffix]
  have hsegment : Path.IsSegment ("20261019120000" ++ migrationSuffix name) := by
    refine ⟨?_, ?_, ?_, ?_⟩
    · intro h
      simp [h] at hchars
    · intro h
      simp [h] at hchars
    · intro h
      simp [h] at hchars
    · rw [hchars, List.mem_append, List.mem_append]
      rintro (h | h | h)
      · exact absurd h (by decide)
      · exact hname.2.not_mem (by decide) h
      · exact absurd h (by decide)
  have hpieces := Path.splitOnChar_of_not_mem hsegment.no_slash
  rw [Locator.migrationFile, Path.components_join _ (Path.isAbsolute_of_head hsegment.no_slash), hpieces,
    Path.filterMap_component?_of_isSegment (by simpa using hsegment)]
  · rfl
  · rw [hpieces]
    exact fun h => hsegment.ne_dot (Option.some.inj h)

/-- Surroundings in which nothing fails and nothing happens but that migrations are added to a
project. -/
def Surroundings.migrating (l : Locator) (root : String) : Surroundings :=
  { still with leaves := fun calls t => match calls.getLast? with
      | some (.command _ ("ef" :: "migrations" :: "add" :: name :: _) _) =>
          if IsName name then t.seed (l.migrationFile root name) "" else t
      | _ => t }

namespace Surroundings

variable (l : Locator) (root : String)

theorem calm_migrating : (migrating l root).Calm := ⟨fun _ => rfl, nofun⟩

theorem toolWorks_migrating : (migrating l root).ToolWorks := fun _ => ⟨_, rfl, rfl⟩

theorem within_migrating : (migrating l root).Within (l.migrationPlaces root) := by
  intro calls t c hc
  show (Surroundings.leaves _ calls t).content c = _ ∧ (Surroundings.leaves _ calls t).hasDir c = _
  unfold migrating
  simp only
  split
  next name _ _ _ =>
    split
    next hname =>
      have hfile := components_migrationFile l root hname
      refine ⟨MemoryTree.content_seed hfile t "" ?_, MemoryTree.hasDir_seed hfile t "" fun h =>
        hc (.inl h)⟩
      rintro rfl
      refine hc (.inr ?_)
      rw [hfile, Path.parentComponents_concat_name]
    next => exact ⟨rfl, rfl⟩
  next => exact ⟨rfl, rfl⟩

theorem migrates_migrating : (migrating l root).Migrates l root := by
  have hran (s : Scene) (arguments : List String) : (s.ran (migrating l root) root arguments).tree
      = (migrating l root).leaves (s.calls ++ [.command buildTool arguments root]) s.tree := rfl
  refine ⟨fun s => ?_, fun s name hname hfailed => ?_,
    fun s name hname _ => ⟨"20261019120000", fun file => ?_⟩⟩
  · rw [Scene.Lists, hran, migrating]
    simp only [List.getLast?_concat]
    rfl
  · cases ((toolWorks_migrating l root).succeeded s _).symm.trans hfailed
  · rw [hran, migrating]
    simp only [List.getLast?_concat, migrationArguments, if_pos hname]
    exact MemoryTree.mem_listFiles_seed (components_migrationFile l root hname) s.tree "" file

end Surroundings

/-- The project of the examples. -/
def acme : Locator := ⟨"Acme", .routes⟩

/-- A new project, with a tool that adds migrations. -/
theorem exists_run_migrating : ∃ s d, Run (.migrating acme "/work") "/work" [] s
    ∧ Reached (acme.migrationPlaces "/work") "/work" [] s d ∧ d.locator = acme ∧ s.tree = {} := by
  obtain ⟨d, s, hinit, hlocator⟩ : ∃ d s, execute (initProject (Surroundings.migrating acme "/work").ports
      "/work" "Acme" .routes none) ⟨{}, none, none, []⟩ = (.ok d, s) ∧ d.locator = acme := ⟨_, _, rfl, rfl⟩
  exact ⟨s, d, .init rfl hinit, reached_init rfl hinit, hlocator, (initProject_ok hinit).1⟩

section

variable {s : Scene} {d : Descriptor} {os : List Order}

/-- Where migrations lie is no place of the project. -/
theorem Reached.apart_migrationPlaces {T : Set (List Component)} (h : Reached T "/work" os s d)
    (hlocator : d.locator = acme) : Apart d.locator "/work" (acme.migrationPlaces "/work") := by
  have hproject : IsProject d.locator.project := h.project
  rw [hlocator] at hproject ⊢
  exact Scaffold.apart_migrationPlaces hproject "/work"

/-- A full generation of the entity of the examples in a new project adds its migration. -/
theorem Reached.adds_invoice (h : Reached (acme.migrationPlaces "/work") "/work" [] s d)
    (hlocator : d.locator = acme) (htree : s.tree = {}) : ∃ report s₁ d₁,
      (Turn.generateInvoice {}).make (.migrating acme "/work") builtin Plural.english s = (.ok report, s₁)
      ∧ Reached (acme.migrationPlaces "/work") "/work" [.crud invoice] s₁ d₁ ∧ d₁.locator = acme
      ∧ ∃ r ∈ s.commandsTo (.migrating acme "/work") s₁, r.adds acme "AddInvoice" = true := by
  have hwithin := Surroundings.within_migrating acme "/work"
  obtain ⟨report, s₁, hmake⟩ := h.next_crud (h.apart_migrationPlaces hlocator) hwithin
    (Surroundings.calm_migrating acme "/work") (fun _ => rfl) orders_invoice
    (by rw [Descriptor.settleBy]; cases d.provider <;> exact ⟨_, rfl⟩) {}
  obtain ⟨provider, d₁, hreached₁, -, halike⟩ :=
    h.done_crud (h.apart_migrationPlaces hlocator) hwithin (fun _ => rfl) orders_invoice hmake
  obtain ⟨front, m, hcommands, hsucceeded, hprogram, harguments⟩ := Turn.runs_migration
    (t := Turn.generateInvoice {}) hmake orders_invoice
    (rfl : (Order.crud invoice).migration {} = some "AddInvoice") h.project h.descriptor rfl
    (Surroundings.toolWorks_migrating acme "/work")
    (by rw [hlocator]; exact (Surroundings.migrates_migrating acme "/work").build) (by rw [htree]; rfl)
  rw [hlocator] at harguments
  refine ⟨report, s₁, d₁, hmake, hreached₁, ?_, m, hcommands ▸ by simp,
    Ran.adds_iff.2 ⟨hprogram, harguments, hsucceeded⟩⟩
  rw [← halike]
  exact hlocator

end

namespace Turn

/-- A full generation is told that its migration is there when it is made again. -/
theorem migrations_invoice : ∃ s s₁ s₂ report report', Run (.migrating acme "/work") "/work" [] s
    ∧ (generateInvoice {}).make (.migrating acme "/work") builtin Plural.english s = (.ok report, s₁)
    ∧ (generateInvoice {}).make (.migrating acme "/work") builtin Plural.english s₁ = (.ok report', s₂)
    ∧ Migrations (.migrating acme "/work") builtin acme "/work" [generateInvoice {}] s
    ∧ ⟨.migration "AddInvoice", .skipped "migration already exists"⟩ ∈ report'.checkpoints := by
  obtain ⟨s, d, hrun, hreached, hlocator, htree⟩ := exists_run_migrating
  obtain ⟨report, s₁, d₁, hmake, hreached₁, hlocator₁, r, hr, hadds⟩ :=
    hreached.adds_invoice hlocator htree
  obtain ⟨report', s₂, hmake'⟩ := hreached₁.next_crud (hreached₁.apart_migrationPlaces hlocator₁)
    (Surroundings.within_migrating acme "/work") (Surroundings.calm_migrating acme "/work") (fun _ => rfl)
    orders_invoice (by rw [Descriptor.settleBy]; cases d₁.provider <;> exact ⟨_, rfl⟩) {}
  have hproject : IsProject acme.project := hlocator ▸ hreached.project
  have hmigrations := migrations (Surroundings.migrates_migrating acme "/work") hproject
    ⟨d, hreached.descriptor, hlocator⟩ (by rw [htree]; rfl) builtin
    (show ∀ t ∈ [generateInvoice {}], t.root = "/work" by simp [generateInvoice])
  have hafter : makeAll (.migrating acme "/work") builtin Plural.english [generateInvoice {}] s = s₁ := by
    rw [makeAll, List.foldl_cons, hmake]
    rfl
  obtain ⟨build, status, hcheckpoints, ⟨_, _, _, hbuilt⟩, -⟩ := reports_found (t := generateInvoice {})
    (Surroundings.migrates_migrating acme "/work") hproject ⟨d₁, hreached₁.descriptor, hlocator₁⟩ hmake'
    orders_invoice (rfl : (Order.crud invoice).migration {} = some "AddInvoice")
  have hmem : ⟨.migration "AddInvoice", status⟩ ∈ report'.checkpoints := by
    rw [hcheckpoints]
    exact List.mem_cons_of_mem _ List.mem_cons_self
  obtain ⟨x, hx, -, hfound⟩ := hmigrations.found (generateInvoice {}) report' s₂ rfl
    (by rw [hafter]; exact hmake') _ status hmem
  have hlog : (0, r) ∈ log (.migrating acme "/work") builtin Plural.english [generateInvoice {}] s := by
    rw [log, logFrom, hmake]
    exact List.mem_append_left _ (List.mem_map_of_mem hr)
  have hstatus := hfound.2 ⟨rfl, ⟨build, by rw [hcheckpoints]; exact List.mem_cons_self,
    hbuilt.not_isFailure (Surroundings.toolWorks_migrating acme "/work")⟩, 0, generateInvoice {}, x,
      r, rfl, hx,
    .inl rfl, hlog, hadds⟩
  exact ⟨s, s₁, s₂, report, report', hrun, hmake, hmake', hmigrations, hstatus ▸ hmem⟩

/-- An action that adds the entity of the examples. -/
def addInvoice : Turn := ⟨{ migrateActions := true }, "/work", .action ⟨"Invoice", "Add", .put, false⟩⟩

theorem orders_addInvoice :
    addInvoice.change.Orders (.action invoice ⟨"Invoice", "Add", .put, false⟩) := by
  unfold Change.Orders
  decide +kernel

/-- An action is told that its migration is there though it was not made before: the full generation
of the entity has added one of the name. -/
theorem migration_shared : ∃ s s₁ s₂ report report', Run (.migrating acme "/work") "/work" [] s
    ∧ (generateInvoice {}).make (.migrating acme "/work") builtin Plural.english s = (.ok report, s₁)
    ∧ (∃ r ∈ s.commandsTo (.migrating acme "/work") s₁, r.adds acme "AddInvoice" = true)
    ∧ addInvoice.make (.migrating acme "/work") builtin Plural.english s₁ = (.ok report', s₂)
    ∧ ⟨.build, .passed⟩ ∈ report'.checkpoints
    ∧ ⟨.migration "AddInvoice", .skipped "migration already exists"⟩ ∈ report'.checkpoints := by
  obtain ⟨s, d, hrun, hreached, hlocator, htree⟩ := exists_run_migrating
  obtain ⟨report, s₁, d₁, hmake, hreached₁, hlocator₁, hadds⟩ := hreached.adds_invoice hlocator htree
  have hapart := hreached₁.apart_migrationPlaces hlocator₁
  have hmigrates := Surroundings.migrates_migrating acme "/work"
  have htool := Surroundings.toolWorks_migrating acme "/work"
  have hnew : ∀ u ∈ UseCase.fullSet invoice, u.detection d₁.style
      ≠ ((⟨"Invoice", "Add", .put, false⟩ : ActionRequest).useCase invoice).detection d₁.style := by
    rw [show d₁.style = .routes from congrArg Locator.style hlocator₁]
    decide +kernel
  obtain ⟨report', s₂, hmake'⟩ := hreached₁.next hapart (Surroundings.within_migrating acme "/work")
    (Surroundings.calm_migrating acme "/work") (fun _ => rfl) orders_addInvoice
    (hreached₁.admitted_action hapart (addInvoice.change.order_wellNamed orders_addInvoice) hnew)
    (fun _ => by rw [Descriptor.settleBy]; cases d₁.provider <;> exact ⟨_, rfl⟩) { migrateActions := true }
  have hmake' : addInvoice.make (.migrating acme "/work") builtin Plural.english s₁ = (.ok report', s₂) :=
    hmake'
  have hproject : IsProject acme.project := hlocator ▸ hreached.project
  have hfirst := (generateInvoice {}).adds builtin hmigrates hproject ⟨d, hreached.descriptor, hlocator⟩
    (by decide : IsName "AddInvoice")
  rw [hmake] at hfirst
  have hlaidOut : s₁.LaidOut acme := ⟨d₁, hreached₁.descriptor, hlocator₁⟩
  obtain ⟨build, status, hcheckpoints, ⟨_, _, _, hbuilt⟩, hfound⟩ := reports_found hmigrates hproject
    hlaidOut hmake' orders_addInvoice
      (rfl : Order.migration { migrateActions := true } _ = some "AddInvoice")
  obtain rfl := hbuilt.eq_passed htool rfl
  obtain rfl := hfound.2 ⟨rfl, rfl, hfirst.present.2 (.inr hadds)⟩
  exact ⟨s, s₁, s₂, report, report', hrun, hmake, hadds, hmake', hcheckpoints ▸ by simp⟩

end Turn

end Scaffold
