import Mathlib
import Scaffold.Proofs.Change
import Scaffold.Proofs.Path

/-!
# Which tasks touch the entry point

The sample code of a new project is cleaned out of its entry point once in a plan, and before that no
task changes the entry point (`Order.plan_gentle`).  The names in the paths are arbitrary here, so the
paths are told apart by how their texts end (`EndsAside.place_ne`).
-/

namespace Scaffold

open Scaffold.Text
open Scaffold.Path (components)

/-! ## How paths end -/

/-- A text without separators at the end lengthens the last piece. -/
theorem Text.piecesBy_append {p : Char → Bool} (as bs : List Char)
    (hbs : ∀ c ∈ bs, p c = false) :
    ∃ front piece, piecesBy p (as ++ bs) = front ++ [piece ++ bs] := by
  induction as with
  | nil => exact ⟨[], [], piecesBy_of_forall hbs⟩
  | cons c as ih =>
      obtain ⟨front, piece, hpieces⟩ := ih
      rw [List.cons_append]
      by_cases hc : p c = true
      · exact ⟨[] :: front, piece, by simp [piecesBy, hc, hpieces]⟩
      · cases front with
        | nil => exact ⟨[], c :: piece, by simp [piecesBy, hc, hpieces]⟩
        | cons first front => exact ⟨(c :: first) :: front, piece, by simp [piecesBy, hc, hpieces]⟩

/-- A text that can end the last piece of a path and makes it a name. -/
structure IsEnd (σ : String) : Prop where
  no_slash : '/' ∉ σ.toList
  long : 2 < σ.toList.length

theorem component?_append {σ : String} (h : IsEnd σ) (piece : String) :
    Path.component? (piece ++ σ) = some (.name (piece ++ σ)) := by
  have hlong : 2 < (piece ++ σ).toList.length := by
    have := h.long
    rw [String.toList_append, List.length_append]
    omega
  have hne : ∀ text : String, text.toList.length ≤ 2 → piece ++ σ ≠ text := by
    rintro text htext rfl
    omega
  have hempty : (piece ++ σ).isEmpty = false := by
    rw [Bool.eq_false_iff]
    intro hempty
    exact hne "" (by decide) (String.isEmpty_iff.1 hempty)
  simp [Path.component?, hempty, hne "." (by decide), hne ".." (by decide)]

theorem components_getLast?_of_pieces {path : String} {front : List String} {last : String}
    {c : Component} (hpieces : splitOnChar '/' path = front ++ [last])
    (hlast : Path.component? last = some c) : (components path).getLast? = some c := by
  have hrest : (splitOnChar '/' path).filterMap Path.component?
      = front.filterMap Path.component? ++ [c] := by
    rw [hpieces, List.filterMap_append, List.filterMap_cons_some hlast, List.filterMap_nil]
  unfold components
  simp only [hrest]
  split
  · rw [← List.cons_append, List.getLast?_concat]
  · split
    · rw [← List.cons_append, List.getLast?_concat]
    · exact List.getLast?_concat

/-- The last component of a path whose text ends in some way ends in that way. -/
theorem components_getLast?_append {σ : String} (h : IsEnd σ) (x : String) :
    ∃ piece, (components (x ++ σ)).getLast? = some (.name (piece ++ σ)) := by
  obtain ⟨front, piece, hpieces⟩ := Text.piecesBy_append (p := (· == '/')) x.toList σ.toList
    fun c hc => by
      rw [beq_eq_false_iff_ne]
      rintro rfl
      exact h.no_slash hc
  have hsplit : splitOnChar '/' (x ++ σ)
      = front.map String.ofList ++ [String.ofList piece ++ σ] := by
    rw [splitOnChar, String.toList_append, hpieces]
    simp [String.ofList_append]
  exact ⟨_, components_getLast?_of_pieces hsplit (component?_append h _)⟩

/-- The last component of a path whose last piece is known. -/
theorem components_getLast?_slash {σ : String} (h : IsEnd σ) (x : String) :
    (components (x ++ "/" ++ σ)).getLast? = some (.name σ) := by
  have hsplit : splitOnChar '/' (x ++ "/" ++ σ) = splitOnChar '/' x ++ [σ] := by
    rw [Path.splitOnChar_slash, Path.splitOnChar_of_not_mem h.no_slash]
  have hname := component?_append h ""
  rw [String.empty_append] at hname
  exact components_getLast?_of_pieces hsplit hname

theorem join_ends (base rest : String) : ∃ x, Path.join base rest = x ++ rest := by
  unfold Path.join
  split
  · exact ⟨"", (String.empty_append).symm⟩
  · split
    · exact ⟨base, rfl⟩
    · exact ⟨base ++ "/", rfl⟩

/-- A relative path after another is set off by a slash. -/
theorem join_slash {base rest : String} (hbase : base ≠ "") (hrest : Path.isAbsolute rest = false) :
    ∃ x, Path.join base rest = x ++ "/" ++ rest := by
  unfold Path.join
  rw [hrest]
  simp only [Bool.false_eq_true, if_false]
  split
  next hlast =>
    have hempty : base.isEmpty = false := by
      rw [Bool.eq_false_iff]
      exact fun h => hbase (String.isEmpty_iff.1 h)
    simp only [hempty, Bool.false_or, beq_iff_eq] at hlast
    obtain ⟨front, hfront⟩ := List.getLast?_eq_some_iff.1 hlast
    refine ⟨String.ofList front, ?_⟩
    have : base = String.ofList front ++ "/" := by
      apply String.toList_injective
      rw [hfront]
      simp
    rw [this]
  · exact ⟨base, rfl⟩

theorem text_ofSegments_concat (segments : List String) {last : String} (h : last ≠ "") :
    ∃ base, (RelativePath.ofSegments (segments ++ [last])).text = Path.join base last := by
  refine ⟨(segments.filter (!·.isEmpty)).foldl Path.join "", ?_⟩
  have hempty : last.isEmpty = false := by
    rw [Bool.eq_false_iff]
    exact fun hlast => h (String.isEmpty_iff.1 hlast)
  simp [RelativePath.ofSegments, hempty]

/-- The path of a file of a layer ends in the name of the file. -/
theorem Locator.text_file (l : Locator) (layer : Layer) (rest : List String) {last : String}
    (h : last ≠ "") : ∃ x, (l.file layer (rest ++ [last])).text = x ++ last := by
  have hsegments : ∀ segments : List String,
      ∃ x, (RelativePath.ofSegments (segments ++ [last])).text = x ++ last := by
    intro segments
    obtain ⟨base, hbase⟩ := text_ofSegments_concat segments h
    obtain ⟨x, hx⟩ := join_ends base last
    exact ⟨x, hbase.trans hx⟩
  unfold Locator.file
  split
  · exact hsegments rest
  · exact hsegments ("src" :: l.moduleName layer :: rest)

/-- A path that ends otherwise than the entry point of a project. -/
structure EndsAside (p : RelativePath) : Prop where
  ends : ∃ x σ, p.text = x ++ σ ∧ IsEnd σ ∧ ¬ σ.toList <:+ "Program.cs".toList

theorem EndsAside.file {l : Locator} {layer : Layer} (rest : List String) (front σ : String)
    {last : String} (hlast : last = front ++ σ) (hσ : IsEnd σ)
    (hprogram : ¬ σ.toList <:+ "Program.cs".toList) :
    EndsAside (l.file layer (rest ++ [last])) := by
  subst hlast
  have hne : front ++ σ ≠ "" := by
    intro h
    have hlong := hσ.long
    have hlength : (front ++ σ).toList.length = 0 := by rw [h]; rfl
    rw [String.toList_append, List.length_append] at hlength
    omega
  obtain ⟨x, hx⟩ := Locator.text_file l layer rest hne
  exact ⟨x ++ front, σ, by rw [hx, String.append_assoc], hσ, hprogram⟩

theorem isEnd_program : IsEnd "Program.cs" := ⟨by decide, by decide⟩

/-- The entry point of a project has its own name. -/
theorem Locator.entryPoint_last (l : Locator) (root : String) :
    (components (l.entryPoint.under root)).getLast? = some (.name "Program.cs") := by
  have hmodule : l.moduleName .api ≠ "" := by
    intro h
    have hlength := congrArg (List.length ∘ String.toList) h
    simp [Locator.moduleName, Layer.spelling] at hlength
  have hempty : (l.moduleName .api).isEmpty = false := by
    rw [Bool.eq_false_iff]
    exact fun h => hmodule (String.isEmpty_iff.1 h)
  have htext : l.entryPoint.text = Path.join (Path.join "src" (l.moduleName .api)) "Program.cs" := by
    have hsrc : Path.join "" "src" = "src" := by decide
    simp [Locator.entryPoint, Locator.file, RelativePath.ofSegments, hempty, hsrc]
  obtain ⟨y, hy⟩ := join_ends "src" (l.moduleName .api)
  have hbase : Path.join "src" (l.moduleName .api) ≠ "" := by
    rw [hy]
    exact fun h => hmodule (String.append_eq_empty_iff.1 h).2
  obtain ⟨x, hx⟩ := join_slash hbase (by decide : Path.isAbsolute "Program.cs" = false)
  obtain ⟨z, hz⟩ := join_ends root l.entryPoint.text
  rw [RelativePath.under, hz, htext, hx, ← String.append_assoc, ← String.append_assoc]
  exact components_getLast?_slash isEnd_program (z ++ x)

/-- A path that ends otherwise names another file. -/
theorem EndsAside.place_ne {p : RelativePath} (h : EndsAside p) (l : Locator) (root : String) :
    components (p.under root) ≠ components (l.entryPoint.under root) := by
  intro heq
  obtain ⟨x, σ, hx, hσ, hprogram⟩ := h.ends
  obtain ⟨z, hz⟩ := join_ends root p.text
  obtain ⟨piece, hpiece⟩ := components_getLast?_append hσ (z ++ x)
  rw [String.append_assoc, ← hx, ← hz] at hpiece
  have hlast := hpiece.symm.trans ((congrArg List.getLast? heq).trans (l.entryPoint_last root))
  have hname : piece ++ σ = "Program.cs" := Component.name.inj (Option.some.inj hlast)
  refine hprogram ⟨piece.toList, ?_⟩
  rw [← String.toList_append, hname]

/-! ## Plans -/

/-- A task that only puts text into files that are not manifests. -/
def Task.PutsIn (l : Locator) (t : Task) : Prop :=
  match t.action with
  | .file _ _ | .declare _ _ | .importLine _ => True
  | .clean _ => False
  | .dependency _ _ _ | .reference _ _ => ∃ layer, layer ≠ .root ∧ t.path = l.manifest layer

/-- A task that leaves the entry point as it is if it is there. -/
def Task.IsAside (t : Task) : Prop := (∃ template ctx, t.action = .file template ctx) ∨ EndsAside t.path

/-- Tasks that only put text into files that are no manifests, but that sample code may be cleaned out
of the entry point once.  Before that the entry point stays as it is. -/
inductive Gentle (l : Locator) : List Task → Prop
  | plain {ts : List Task} (hts : ∀ t ∈ ts, t.PutsIn l) : Gentle l ts
  | cleaning {before after : List Task} (what : String)
      (hbefore : ∀ t ∈ before, t.PutsIn l ∧ t.IsAside) (hafter : ∀ t ∈ after, t.PutsIn l) :
      Gentle l (before ++ ⟨what, l.entryPoint, .clean Site.weatherSample⟩ :: after)

namespace Site

variable {s : Site} {f : Feature} {provider : Provider}

theorem file_gentle {what : String} {path : RelativePath} {template : Template} {ctx : Context}
    {l : Locator} : (file what path template ctx).PutsIn l ∧ (file what path template ctx).IsAside :=
  ⟨trivial, .inl ⟨_, _, rfl⟩⟩

theorem manifest_aside (l : Locator) (layer : Layer) : EndsAside (l.manifest layer) :=
  .file [] _ ".csproj" rfl ⟨by decide, by decide⟩ (by decide)

theorem package_gentle {layer : Layer} (hlayer : layer ≠ .root) (identity version : String) :
    (s.package layer identity version).PutsIn s.locator ∧ (s.package layer identity version).IsAside :=
  ⟨⟨layer, hlayer, rfl⟩, .inr (manifest_aside _ _)⟩

theorem reference_gentle {layer : Layer} (hlayer : layer ≠ .root) (target : Layer) :
    (s.reference layer target).PutsIn s.locator ∧ (s.reference layer target).IsAside :=
  ⟨⟨layer, hlayer, rfl⟩, .inr (manifest_aside _ _)⟩

theorem layerGraph_gentle : ∀ t ∈ s.layerGraph, t.PutsIn s.locator ∧ t.IsAside := by
  simp only [layerGraph, List.forall_mem_cons]
  exact ⟨file_gentle, reference_gentle (by decide) _, reference_gentle (by decide) _,
    reference_gentle (by decide) _, reference_gentle (by decide) _, by rintro _ ⟨⟩⟩

theorem persistence_gentle : ∀ t ∈ s.persistence f provider, t.PutsIn s.locator ∧ t.IsAside := by
  have hcontext : EndsAside s.locator.dbContext :=
    .file ["Persistence"] "" "AppDbContext.cs" String.empty_append.symm
      ⟨by decide, by decide⟩ (by decide)
  simp only [persistence, List.forall_mem_cons]
  exact ⟨⟨trivial, .inr hcontext⟩, ⟨trivial, .inr hcontext⟩, package_gentle (by decide) _ _,
    package_gentle (by decide) _ _, by rintro _ ⟨⟩⟩

theorem repository_gentle (methods : List RepositoryMethod) :
    ∀ t ∈ s.repository f methods, t.PutsIn s.locator ∧ t.IsAside := by
  have hcontract : EndsAside (s.locator.repositoryContract f) :=
    .file ["Interfaces", "Repositories"] ("I" ++ f.name) "Repository.cs"
      (by rw [Feature.repositoryContract, String.append_assoc]; rfl) ⟨by decide, by decide⟩ (by decide)
  have himpl : EndsAside (s.locator.repositoryImpl f) :=
    .file ["Repositories"] f.name "Repository.cs"
      (by rw [Feature.repositoryImpl, String.append_assoc]; rfl) ⟨by decide, by decide⟩ (by decide)
  intro t ht
  rcases List.mem_append.1 ht with ht | ht
  · obtain ⟨m, -, rfl⟩ := List.mem_map.1 ht
    exact ⟨trivial, .inr hcontract⟩
  · obtain ⟨m, -, rfl⟩ := List.mem_map.1 ht
    exact ⟨trivial, .inr himpl⟩

theorem applicationLayer_gentle : ∀ t ∈ s.applicationLayer, t.PutsIn s.locator ∧ t.IsAside := by
  simp only [applicationLayer, List.forall_mem_cons]
  exact ⟨package_gentle (by decide) _ _, package_gentle (by decide) _ _, file_gentle, by rintro _ ⟨⟩⟩

theorem useCase_gentle (u : UseCase) : ∀ t ∈ s.useCase f u, t.PutsIn s.locator ∧ t.IsAside := by
  have hfile : ∀ type front σ, type ++ ".cs" = front ++ σ → IsEnd σ →
      ¬ σ.toList <:+ "Program.cs".toList → EndsAside (s.locator.useCaseFile f u type) :=
    fun type front σ => .file ["Features", f.plural, u.kind.folder, u.name] front σ
  have hkind : IsEnd (u.kind.suffix ++ ".cs")
      ∧ ¬ (u.kind.suffix ++ ".cs").toList <:+ "Program.cs".toList := by
    cases u.kind <;> exact ⟨⟨by decide, by decide⟩, by decide⟩
  have hrequest : EndsAside (s.locator.useCaseRequest f u) :=
    hfile u.requestType u.name _ (String.append_assoc ..) hkind.1 hkind.2
  have hhandler : EndsAside (s.locator.useCaseHandler f u) :=
    hfile u.handlerType u.requestType ("Handler" ++ ".cs") (String.append_assoc ..)
      ⟨by decide, by decide⟩ (by decide)
  have hvalidator : EndsAside (s.locator.useCaseValidator f u) :=
    hfile u.validatorType u.requestType ("Validator" ++ ".cs") (String.append_assoc ..)
      ⟨by decide, by decide⟩ (by decide)
  simp only [useCase, List.forall_mem_cons]
  exact ⟨⟨trivial, .inr hrequest⟩, ⟨trivial, .inr hhandler⟩, ⟨trivial, .inr hvalidator⟩, by rintro _ ⟨⟩⟩

theorem exposure_gentle (u : UseCase) : ∀ t ∈ s.exposure f u, t.PutsIn s.locator ∧ t.IsAside := by
  have hexposure : EndsAside (s.locator.exposure f) := by
    unfold Locator.exposure
    cases s.locator.style with
    | routes =>
        exact .file ["Endpoints"] f.name "Endpoints.cs" rfl
          ⟨by decide, by decide⟩ (by decide)
    | controllers =>
        exact .file ["Controllers"] f.plural "Controller.cs" rfl
          ⟨by decide, by decide⟩ (by decide)
  simp only [exposure, List.forall_mem_cons]
  exact ⟨⟨trivial, .inr hexposure⟩, ⟨trivial, .inr hexposure⟩, by rintro _ ⟨⟩⟩

theorem infrastructureWiring_putsIn :
    ∀ t ∈ s.infrastructureWiring f provider, t.PutsIn s.locator := by
  simp only [infrastructureWiring, List.forall_mem_append, List.forall_mem_cons, List.forall_mem_map]
  exact ⟨⟨trivial, trivial, trivial, by rintro _ ⟨⟩⟩, fun _ _ => trivial⟩

theorem servicePlan_putsIn (p : Placement) (name : String) (lifetime : Lifetime) :
    ∀ t ∈ s.servicePlan p name lifetime, t.PutsIn s.locator := by
  have hservice : ∀ t ∈ s.service p name lifetime, t.PutsIn s.locator := by
    refine List.forall_mem_append.2 ⟨?_, ?_⟩
    · simp only [List.forall_mem_cons]
      exact ⟨trivial, trivial, trivial, trivial, by rintro _ ⟨⟩⟩
    · split
      · rintro _ ⟨⟩
      · exact List.forall_mem_singleton.2 trivial
  refine List.forall_mem_append.2 ⟨hservice, ?_⟩
  cases p with
  | external e =>
      simp only [externalSystem, List.forall_mem_cons]
      exact ⟨(package_gentle (by decide) _ _).1, trivial, trivial, trivial, trivial, by rintro _ ⟨⟩⟩
  | featureLocal f | shared => rintro _ ⟨⟩

/-- The tasks before the sample code is cleaned out, that one, and those after it. -/
theorem gentle_entryPoint {before after : List Task}
    (hbefore : ∀ t ∈ before, t.PutsIn s.locator ∧ t.IsAside)
    (hafter : ∀ t ∈ after, t.PutsIn s.locator) :
    Gentle s.locator (before ++ s.entryPoint f ++ after) := by
  have hrest : ∀ t ∈ s.entryRegistrations.map
        (lineBefore "var app = builder.Build();" · s.locator.entryPoint s.entryTemplate s.context)
      ++ [lineBefore "app.Run();" (s.entryMapping f) s.locator.entryPoint s.entryTemplate s.context]
      ++ s.entryImports.map (importLine s.locator.entryPoint)
      ++ [s.package .api "Microsoft.EntityFrameworkCore.Design" "9.0.0"]
      ++ after, t.PutsIn s.locator := by
    simp only [List.forall_mem_append, List.forall_mem_map, List.forall_mem_singleton]
    exact ⟨⟨⟨⟨fun _ _ => trivial, trivial⟩, fun _ _ => trivial⟩,
      (package_gentle (by decide) _ _).1⟩, hafter⟩
  have hfirst : ∀ t ∈ before ++ [file "entry point" s.locator.entryPoint s.entryTemplate s.context],
      t.PutsIn s.locator ∧ t.IsAside :=
    List.forall_mem_append.2 ⟨hbefore, by simpa only [List.forall_mem_singleton] using file_gentle⟩
  have hplan := Gentle.cleaning "sample endpoint" hfirst hrest
  simpa only [entryPoint, List.append_assoc, List.cons_append, List.nil_append] using hplan

end Site

/-- The sample code is cleaned out of the entry point once in a plan, and before that the entry point
stays as it is. -/
theorem Order.plan_gentle (s : Site) (provider : Provider) (o : Order) :
    Gentle s.locator (o.plan s provider) := by
  cases o with
  | crud f =>
      refine Site.gentle_entryPoint ?_ Site.infrastructureWiring_putsIn
      simp only [List.forall_mem_append, List.forall_mem_cons]
      refine ⟨⟨⟨⟨⟨⟨Site.layerGraph_gentle, ?_⟩, Site.persistence_gentle⟩, Site.repository_gentle _⟩,
        Site.applicationLayer_gentle⟩, ?_⟩, ?_⟩
      · exact ⟨Site.file_gentle, Site.file_gentle, nofun⟩
      · exact fun t ht => by
          obtain ⟨u, -, ht⟩ := List.mem_flatMap.1 ht
          exact Site.useCase_gentle u t ht
      · exact fun t ht => by
          obtain ⟨u, -, ht⟩ := List.mem_flatMap.1 ht
          exact Site.exposure_gentle u t ht
  | action f r =>
      refine Site.gentle_entryPoint ?_ Site.infrastructureWiring_putsIn
      simp only [List.forall_mem_append]
      exact ⟨⟨⟨⟨⟨Site.layerGraph_gentle, Site.persistence_gentle⟩, Site.repository_gentle _⟩,
        Site.applicationLayer_gentle⟩, Site.useCase_gentle _⟩, Site.exposure_gentle _⟩
  | service p name lifetime =>
      exact .plain (Site.servicePlan_putsIn p name lifetime)
  | constant f name =>
      exact .plain (by simp only [plan, Site.constantPlan, List.forall_mem_singleton]; trivial)
  | enum f name =>
      refine .plain ?_
      simp only [plan, Site.enumPlan, List.forall_mem_cons]
      exact ⟨trivial, trivial, trivial, nofun⟩

end Scaffold
