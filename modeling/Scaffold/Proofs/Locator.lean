import Mathlib
import Scaffold.Locator
import Scaffold.Proofs.Names
import Scaffold.Proofs.Path

/-!
# Places of artifacts

Every artifact has its place: a layer, directories without dots in their names, and a file with
one.  From the place the layer and the kind of the artifact can be read back (`IsPlace.unique`), so
two artifacts of different kinds never share a file; and since no directory has a dot in its
name, no artifact lies where another one needs a directory (`IsPlace.not_above`).

An interface and an implementation of services are one kind here: the interface of `Cache` and
the implementation of a service called `ICache` are one file.
-/

namespace Scaffold

open Scaffold.Text

namespace Locator

/-- The segments of a file of a layer. -/
def segments (l : Locator) (layer : Layer) (dirs : List String) (file : String) : List String :=
  match layer with
  | .root => dirs ++ [file]
  | _ => "src" :: l.moduleName layer :: (dirs ++ [file])

/-- The kind of artifact a file is, by its layer, its directories and its name. -/
def kindOf (layer : Layer) (dirs : List String) (file : String) : Option ArtifactKind :=
  match layer, dirs with
  | .root, [] =>
      if file = ".env" then some .environment
      else if file = "docker-compose.yml" then some .compose
      else none
  | .root, _ :: _ => none
  | _, [] =>
      if file = "Program.cs" then some .entryPoint
      else if file = "DependencyInjection.cs" then some .wiring
      else if endsWith file ".csproj" then some .manifest
      else none
  | _, [dir] =>
      if dir = "Entities" then some .entityType
      else if dir = "Enums" then some .enumType
      else if dir = "Constants" then some .constants
      else if dir = "Persistence" then some .dbContext
      else if dir = "Repositories" then some .repositoryImpl
      else if dir = "Endpoints" ∨ dir = "Controllers" then some .exposure
      else if dir = "Caching" ∨ dir = "Messaging" then some .serviceContract
      else none
  | _, [dir, _] =>
      if dir = "Interfaces" then some .repositoryContract
      else if dir = "Persistence" then some .persistenceMapping
      else if dir = "Common" then some .serviceContract
      else none
  | _, [_, _, _] => some .serviceContract
  | _, [_, _, _, _] =>
      if endsWith file "Handler.cs" then some .useCaseHandler
      else if endsWith file "Validator.cs" then some .useCaseValidator
      else some .useCaseRequest
  | _, _ => none

/-- No artifact of a tree lies in a directory beside its modules. -/
theorem kindOf_root_cons (dir : String) (dirs : List String) (file : String) :
    kindOf .root (dir :: dirs) file = none := rfl

theorem kindOf_module {layer : Layer} (h : layer ≠ .root) (file : String) :
    kindOf layer [] file = if file = "Program.cs" then some .entryPoint
      else if file = "DependencyInjection.cs" then some .wiring
      else if endsWith file ".csproj" then some .manifest
      else none := by
  cases layer <;> first | exact absurd rfl h | rfl

theorem kindOf_useCase (top plural folder name file : String) :
    kindOf .application [top, plural, folder, name] file
      = if endsWith file "Handler.cs" then some .useCaseHandler
        else if endsWith file "Validator.cs" then some .useCaseValidator
        else some .useCaseRequest := rfl

end Locator

/-- A text that can name a directory of artifacts. -/
structure IsDirectory (s : String) : Prop where
  ne_empty : s ≠ ""
  no_dot : '.' ∉ s.toList
  no_slash : '/' ∉ s.toList

/-- A text that can name an artifact. -/
structure IsFile (s : String) : Prop where
  dot : '.' ∈ s.toList
  no_slash : '/' ∉ s.toList
  ne_dot : s ≠ "."
  ne_dots : s ≠ ".."

/-- The place of an artifact of a kind in a layer. -/
structure IsPlace (l : Locator) (layer : Layer) (kind : ArtifactKind) (p : RelativePath) : Prop where
  /-- Where the artifact lies. -/
  parts : ∃ dirs file, p = .ofSegments (l.segments layer dirs file)
    ∧ (∀ d ∈ dirs, IsDirectory d) ∧ IsFile file ∧ Locator.kindOf layer dirs file = some kind

instance (s : String) : Decidable (IsDirectory s) :=
  decidable_of_iff (s ≠ "" ∧ '.' ∉ s.toList ∧ '/' ∉ s.toList)
    ⟨fun h => ⟨h.1, h.2.1, h.2.2⟩, fun h => ⟨h.ne_empty, h.no_dot, h.no_slash⟩⟩

theorem IsDirectory.isSegment {s : String} (h : IsDirectory s) : Path.IsSegment s where
  ne_empty := h.ne_empty
  ne_dot := by
    rintro rfl
    exact h.no_dot (by decide)
  ne_dots := by
    rintro rfl
    exact h.no_dot (by decide)
  no_slash := h.no_slash

theorem IsFile.isSegment {s : String} (h : IsFile s) : Path.IsSegment s where
  ne_empty := by
    rintro rfl
    exact absurd h.dot (by decide)
  ne_dot := h.ne_dot
  ne_dots := h.ne_dots
  no_slash := h.no_slash

theorem IsName.isDirectory {s : String} (h : IsName s) : IsDirectory s :=
  ⟨h.1, h.2.not_mem (by decide), h.2.not_mem (by decide)⟩

section

variable {l : Locator}

/-- The module of a layer is a segment. -/
theorem isSegment_moduleName (hl : IsProject l.project) {layer : Layer} (h : layer ≠ .root) :
    Path.IsSegment (l.moduleName layer) := by
  have hspelling : 3 ≤ layer.spelling.length ∧ '/' ∉ layer.spelling.toList := by
    cases layer <;> first | exact absurd rfl h | decide
  have hname : l.moduleName layer = l.project ++ "." ++ layer.spelling := by
    cases layer <;> first | exact absurd rfl h | rfl
  have hlength : 3 ≤ (l.moduleName layer).length := by
    rw [hname, String.length_append]
    omega
  have hslash : '/' ∉ l.project.toList := hl.2.not_mem (by decide)
  constructor
  · intro heq
    exact absurd (heq ▸ hlength) (by decide)
  · intro heq
    exact absurd (heq ▸ hlength) (by decide)
  · intro heq
    exact absurd (heq ▸ hlength) (by decide)
  · rw [hname]
    simp [hslash, hspelling.2]

/-- Layers are told apart by their modules. -/
theorem moduleName_injective {layer layer' : Layer} (h : layer ≠ .root) (h' : layer' ≠ .root)
    (heq : l.moduleName layer = l.moduleName layer') : layer = layer' := by
  cases layer <;> cases layer' <;> first
    | rfl
    | exact absurd rfl h
    | exact absurd rfl h'
    | simp [Locator.moduleName, Layer.spelling] at heq

theorem segments_isSegment (hl : IsProject l.project) {layer : Layer} {dirs : List String}
    {file : String} (hdirs : ∀ d ∈ dirs, IsDirectory d) (hfile : IsFile file) :
    ∀ s ∈ l.segments layer dirs file, Path.IsSegment s := by
  have hrest : ∀ s ∈ dirs ++ [file], Path.IsSegment s := by
    intro s hs
    rcases List.mem_append.1 hs with hs | hs
    · exact (hdirs s hs).isSegment
    · rw [List.mem_singleton.1 hs]
      exact hfile.isSegment
  have hsrc : Path.IsSegment "src" := ⟨by decide, by decide, by decide, by decide⟩
  intro s hs
  by_cases hroot : layer = .root
  · subst hroot
    exact hrest s hs
  · have hs : s ∈ "src" :: l.moduleName layer :: (dirs ++ [file]) := by
      cases layer <;> first | exact absurd rfl hroot | exact hs
    rcases List.mem_cons.1 hs with rfl | hs
    · exact hsrc
    rcases List.mem_cons.1 hs with rfl | hs
    · exact isSegment_moduleName hl hroot
    · exact hrest s hs

theorem segments_ne_nil (l : Locator) (layer : Layer) (dirs : List String) (file : String) :
    l.segments layer dirs file ≠ [] := by
  cases layer <;> simp [Locator.segments]

/-- The components of an artifact below a root. -/
theorem components_place (hl : IsProject l.project) {layer : Layer} {dirs : List String}
    {file : String} (hdirs : ∀ d ∈ dirs, IsDirectory d) (hfile : IsFile file) (root : String) :
    Path.components ((RelativePath.ofSegments (l.segments layer dirs file)).under root)
      = placeBelow root (l.segments layer dirs file) :=
  components_under (segments_ne_nil l layer dirs file) (segments_isSegment hl hdirs hfile) root

theorem file_eq_segments (l : Locator) (layer : Layer) (dirs : List String) (file : String) :
    l.file layer (dirs ++ [file]) = .ofSegments (l.segments layer dirs file) := by
  cases layer <;> rfl

/-- Files of a layer are told apart by their directories and their names. -/
theorem file_injective (hl : IsProject l.project) {layer : Layer} {dirs dirs' : List String}
    {file file' : String} (hdirs : ∀ d ∈ dirs, IsDirectory d) (hdirs' : ∀ d ∈ dirs', IsDirectory d)
    (hfile : IsFile file) (hfile' : IsFile file')
    (h : l.file layer (dirs ++ [file]) = l.file layer (dirs' ++ [file'])) :
    dirs = dirs' ∧ file = file' := by
  have hcomponents : Path.components ((l.file layer (dirs ++ [file])).under "")
      = Path.components ((l.file layer (dirs' ++ [file'])).under "") := by rw [h]
  rw [file_eq_segments, file_eq_segments, components_place hl hdirs hfile,
    components_place hl hdirs' hfile'] at hcomponents
  have hsegments := placeBelow_inj hcomponents
  have happend : dirs ++ [file] = dirs' ++ [file'] := by
    cases layer <;> simpa only [Locator.segments, List.cons.injEq, true_and] using hsegments
  obtain ⟨hdirs, hfiles⟩ := List.append_inj' happend rfl
  exact ⟨hdirs, (List.cons.inj hfiles).1⟩

/-! ## Reading a place back -/

namespace IsPlace

variable {layer layer' : Layer} {kind kind' : ArtifactKind} {p p' : RelativePath}

/-- Where an artifact lies tells what it is. -/
theorem unique (hl : IsProject l.project) (h : IsPlace l layer kind p) (h' : IsPlace l layer' kind' p')
    {root : String} (heq : Path.components (p.under root) = Path.components (p'.under root)) :
    layer = layer' ∧ kind = kind' ∧ p = p' := by
  obtain ⟨dirs, file, rfl, hdirs, hfile, hkind⟩ := h.parts
  obtain ⟨dirs', file', rfl, hdirs', hfile', hkind'⟩ := h'.parts
  rw [components_place hl hdirs hfile, components_place hl hdirs' hfile'] at heq
  have hsegments := placeBelow_inj heq
  have hlayer : layer = layer' := by
    by_cases hroot : layer = .root
    · subst hroot
      by_contra hne
      cases dirs with
      | cons d ds => cases (Locator.kindOf_root_cons ..).symm.trans hkind
      | nil => cases layer' <;> first | exact hne rfl | simp [Locator.segments] at hsegments
    · by_cases hroot' : layer' = .root
      · subst hroot'
        cases dirs' with
        | cons d ds => cases (Locator.kindOf_root_cons ..).symm.trans hkind'
        | nil => cases layer <;> first | exact absurd rfl hroot | simp [Locator.segments] at hsegments
      · refine moduleName_injective (l := l) hroot hroot' ?_
        cases layer <;> cases layer' <;> first
          | exact absurd rfl hroot
          | exact absurd rfl hroot'
          | exact (List.cons.inj (List.cons.inj hsegments).2).1
  subst hlayer
  have hrest : dirs ++ [file] = dirs' ++ [file'] := by
    cases layer <;> first
      | exact hsegments
      | exact (List.cons.inj (List.cons.inj hsegments).2).2
  obtain ⟨rfl, hfiles⟩ := List.append_inj' hrest rfl
  cases hfiles
  exact ⟨rfl, Option.some.inj (hkind.symm.trans hkind'), rfl⟩

/-- A path is that of an artifact of one layer. -/
theorem layer_eq (hl : IsProject l.project) (h : IsPlace l layer kind p)
    (h' : IsPlace l layer' kind' p) : layer = layer' :=
  (h.unique hl h' (rfl : Path.components (p.under "") = _)).1

/-- A path is that of one kind of artifact. -/
theorem kind_eq (hl : IsProject l.project) (h : IsPlace l layer kind p)
    (h' : IsPlace l layer' kind' p) : kind = kind' :=
  (h.unique hl h' (rfl : Path.components (p.under "") = _)).2.1

/-- No artifact lies at or above a directory of a module. -/
theorem not_above_directory (hl : IsProject l.project) (h : IsPlace l layer kind p) {dirs' : List String}
    (hdirs' : ∀ d ∈ dirs', IsDirectory d) (layer' : Layer) (root : String) :
    ¬ Path.components (p.under root) <+: placeBelow root ("src" :: l.moduleName layer' :: dirs') := by
  obtain ⟨dirs, file, rfl, hdirs, hfile, hkind⟩ := h.parts
  rw [components_place hl hdirs hfile, placeBelow, placeBelow, List.prefix_append_right_inj]
  intro hmap
  have hinj : Function.Injective Component.name := fun x y hxy => by cases hxy; rfl
  have hpre := (List.prefix_map_iff_of_injective hinj).1 hmap
  by_cases hroot : layer = .root
  · subst hroot
    cases dirs with
    | cons d ds => cases (Locator.kindOf_root_cons ..).symm.trans hkind
    | nil =>
        have hsrc : file = "src" := (List.cons_prefix_cons.1 hpre).1
        exact absurd (hsrc ▸ hfile.dot) (by decide)
  · have hrest : dirs ++ [file] <+: dirs' := by
      cases layer <;> first
        | exact absurd rfl hroot
        | exact (List.cons_prefix_cons.1 (List.cons_prefix_cons.1 hpre).2).2
    exact (hdirs' file (hrest.subset (by simp))).no_dot hfile.dot

/-- No artifact lies at a directory that another one needs. -/
theorem not_above (hl : IsProject l.project) (h : IsPlace l layer kind p)
    (h' : IsPlace l layer' kind' p') (root : String) :
    ¬ Path.components (p.under root) <+: (Path.components (p'.under root)).dropLast := by
  obtain ⟨dirs', file', rfl, hdirs', hfile', hkind'⟩ := h'.parts
  rw [components_place hl hdirs' hfile', placeBelow,
    List.dropLast_append_of_ne_nil (by simp [segments_ne_nil]), ← List.map_dropLast]
  by_cases hroot' : layer' = .root
  · subst hroot'
    cases dirs' with
    | cons d ds => cases (Locator.kindOf_root_cons ..).symm.trans hkind'
    | nil =>
        obtain ⟨dirs, file, rfl, hdirs, hfile, -⟩ := h.parts
        rw [components_place hl hdirs hfile, placeBelow, List.prefix_append_right_inj]
        exact fun hpre => segments_ne_nil l layer dirs file (by simpa [Locator.segments] using hpre)
  · have hsegments : (l.segments layer' dirs' file').dropLast = "src" :: l.moduleName layer' :: dirs' := by
      cases layer' <;> first
        | exact absurd rfl hroot'
        | simp only [Locator.segments, ← List.cons_append, List.dropLast_concat]
    rw [hsegments]
    exact h.not_above_directory hl hdirs' layer' root

end IsPlace

/-! ## The places of the artifacts -/

/-- A name with an ending that has a dot. -/
theorem IsName.isFile {s ending : String} (h : IsName s)
    (hending : '.' ∈ ending.toList ∧ '/' ∉ ending.toList) : IsFile (s ++ ending) := by
  obtain ⟨c, cs, hcs⟩ := List.exists_cons_of_ne_nil (mt String.toList_eq_nil_iff.1 h.1)
  have hc : c ≠ '.' := by
    rintro rfl
    exact h.2.not_mem (c := '.') (by decide) (by simp [hcs])
  have hslash : '/' ∉ s.toList := h.2.not_mem (by decide)
  refine ⟨by simp [hending.1], by simp [hslash, hending.2], ?_, ?_⟩
  · intro heq
    have := congrArg String.toList heq
    simp [hcs, hc] at this
  · intro heq
    have := congrArg String.toList heq
    simp [hcs, hc] at this

/-- A file below directories has its place. -/
theorem place_file {layer : Layer} {kind : ArtifactKind} (dirs : List String) {file : String}
    (hdirs : ∀ d ∈ dirs, IsDirectory d) (hfile : IsFile file)
    (hkind : Locator.kindOf layer dirs file = some kind) :
    IsPlace l layer kind (l.file layer (dirs ++ [file])) :=
  ⟨dirs, file, file_eq_segments l layer dirs file, hdirs, hfile, hkind⟩

theorem isDirectory_lit {s : String} (h : s ≠ "" ∧ '.' ∉ s.toList ∧ '/' ∉ s.toList) :
    IsDirectory s := ⟨h.1, h.2.1, h.2.2⟩

/-- A text that ends in one way does not end in another. -/
theorem endsWith_append_eq_false {a b tail : String} (hno : ¬ b.toList <:+ tail.toList)
    (hno' : ¬ tail.toList <:+ b.toList) : endsWith (a ++ b) tail = false := by
  rw [Bool.eq_false_iff]
  intro hends
  rw [endsWith, List.isSuffixOf_iff_suffix, String.toList_append] at hends
  exact (List.suffix_or_suffix_of_suffix (List.suffix_append _ _) hends).elim hno hno'

theorem endsWith_append_self (a tail : String) : endsWith (a ++ tail) tail = true := by
  rw [endsWith, List.isSuffixOf_iff_suffix, String.toList_append]
  exact List.suffix_append _ _

/-- The names a use case is generated under. -/
structure UseCase.WellNamed (u : UseCase) : Prop where
  /-- The name the types start with. -/
  name : IsName u.name
  /-- The name of the action. -/
  action : ∀ verb action, u.entry = .named verb action → IsName action

/-- A route with a segment in kebab case that is not empty, if it has one. -/
def Route.WellNamed (r : Route) : Prop := ∀ segment ∈ r.segment, segment ≠ "" ∧ Made isKebabChar segment

theorem UseCase.WellNamed.route {u : UseCase} (hu : u.WellNamed) : u.entry.route.WellNamed := by
  intro segment hsegment
  cases hentry : u.entry with
  | canonical op =>
      rw [hentry] at hsegment
      cases op <;> cases hsegment
      exact ⟨by decide, by decide⟩
  | named verb action =>
      rw [hentry] at hsegment
      cases hsegment
      exact (hu.action verb action hentry).kebabCase

/-- A placement beside the use cases of an entity with good names. -/
def Placement.WellNamed (p : Placement) : Prop := ∀ f, p = .featureLocal f → f.WellNamed

section

variable {f : Feature} {u : UseCase} {name : String}

theorem place_entityType (hf : f.WellNamed) : IsPlace l .domain .entityType (l.entityType f) :=
  place_file ["Entities"] (by simpa using isDirectory_lit (by decide)) (hf.name.isFile (by decide)) rfl

theorem place_enumType (h : IsName name) : IsPlace l .domain .enumType (l.enumType name) :=
  place_file ["Enums"] (by simpa using isDirectory_lit (by decide)) (h.isFile (by decide)) rfl

theorem place_constants {f : Option Feature} (hf : ∀ g ∈ f, g.WellNamed) :
    IsPlace l .domain .constants (l.constants f) := by
  refine place_file ["Constants"] (by simpa using isDirectory_lit (by decide)) ?_ rfl
  cases f with
  | none => exact ⟨by decide, by decide, by decide, by decide⟩
  | some f => exact (hf f rfl).name.isFile (by decide)

theorem place_repositoryContract (hf : f.WellNamed) :
    IsPlace l .application .repositoryContract (l.repositoryContract f) :=
  place_file ["Interfaces", "Repositories"]
    (by simpa using ⟨isDirectory_lit (by decide), isDirectory_lit (by decide)⟩)
    (((IsName.prepend (by decide) hf.name).append (by decide)).isFile (by decide)) rfl

theorem place_repositoryImpl (hf : f.WellNamed) :
    IsPlace l .infrastructure .repositoryImpl (l.repositoryImpl f) :=
  place_file ["Repositories"] (by simpa using isDirectory_lit (by decide))
    ((hf.name.append (by decide)).isFile (by decide)) rfl

theorem place_persistenceMapping (hf : f.WellNamed) :
    IsPlace l .infrastructure .persistenceMapping (l.persistenceMapping f) :=
  place_file ["Persistence", "Configurations"]
    (by simpa using ⟨isDirectory_lit (by decide), isDirectory_lit (by decide)⟩)
    (hf.name.isFile (by decide)) rfl

theorem place_dbContext : IsPlace l .infrastructure .dbContext l.dbContext :=
  place_file ["Persistence"] (by simpa using isDirectory_lit (by decide))
    ⟨by decide, by decide, by decide, by decide⟩ rfl

/-- The route table or the controller of an entity. -/
theorem place_exposure (hf : f.WellNamed) : IsPlace l .api .exposure (l.exposure f) := by
  unfold Locator.exposure
  cases l.style with
  | routes =>
      exact place_file ["Endpoints"] (by simpa using isDirectory_lit (by decide))
        (hf.name.isFile (by decide)) rfl
  | controllers =>
      exact place_file ["Controllers"] (by simpa using isDirectory_lit (by decide))
        (hf.plural.isFile (by decide)) rfl

theorem place_entryPoint : IsPlace l .api .entryPoint l.entryPoint :=
  place_file [] (by simp) ⟨by decide, by decide, by decide, by decide⟩ rfl

theorem place_wiring {layer : Layer} (h : layer = .application ∨ layer = .infrastructure) :
    IsPlace l layer .wiring (l.wiring layer) := by
  refine place_file [] (by simp) ⟨by decide, by decide, by decide, by decide⟩ ?_
  rcases h with rfl | rfl <;> rfl

theorem place_environment : IsPlace l .root .environment l.environment :=
  place_file [] (by simp) ⟨by decide, by decide, by decide, by decide⟩ rfl

theorem place_compose : IsPlace l .root .compose l.compose :=
  place_file [] (by simp) ⟨by decide, by decide, by decide, by decide⟩ rfl

/-! ### Use cases -/

theorem kind_folder_isDirectory (u : UseCase) : IsDirectory u.kind.folder := by
  cases u.kind <;> exact isDirectory_lit (by decide)

/-- The directories of a use case. -/
theorem useCaseDirs (hf : f.WellNamed) (hu : u.WellNamed) :
    ∀ d ∈ ["Features", f.plural, u.kind.folder, u.name], IsDirectory d := by
  simpa using ⟨isDirectory_lit (by decide), hf.plural.isDirectory, kind_folder_isDirectory u,
    hu.name.isDirectory⟩

theorem UseCase.requestType_isName (hu : u.WellNamed) : IsName u.requestType :=
  hu.name.append (by cases u.kind <;> decide)

/-- The request's type ends like no handler and no validator. -/
theorem requestType_file (u : UseCase) : endsWith (u.requestType ++ ".cs") "Handler.cs" = false
    ∧ endsWith (u.requestType ++ ".cs") "Validator.cs" = false := by
  rw [UseCase.requestType, String.append_assoc]
  cases u.kind <;>
    exact ⟨endsWith_append_eq_false (by decide) (by decide),
      endsWith_append_eq_false (by decide) (by decide)⟩

theorem place_useCaseRequest (hf : f.WellNamed) (hu : u.WellNamed) :
    IsPlace l .application .useCaseRequest (l.useCaseRequest f u) := by
  refine place_file ["Features", f.plural, u.kind.folder, u.name] (useCaseDirs hf hu)
    ((UseCase.requestType_isName hu).isFile (by decide)) ?_
  obtain ⟨hhandler, hvalidator⟩ := requestType_file u
  simp [Locator.kindOf_useCase, hhandler, hvalidator]

theorem place_useCaseHandler (hf : f.WellNamed) (hu : u.WellNamed) :
    IsPlace l .application .useCaseHandler (l.useCaseHandler f u) := by
  refine place_file ["Features", f.plural, u.kind.folder, u.name] (useCaseDirs hf hu)
    (((UseCase.requestType_isName hu).append (by decide)).isFile (by decide)) ?_
  have hends : endsWith (u.handlerType ++ ".cs") "Handler.cs" = true := by
    rw [UseCase.handlerType, String.append_assoc]
    exact endsWith_append_self _ _
  simp [Locator.kindOf_useCase, hends]

theorem place_useCaseValidator (hf : f.WellNamed) (hu : u.WellNamed) :
    IsPlace l .application .useCaseValidator (l.useCaseValidator f u) := by
  refine place_file ["Features", f.plural, u.kind.folder, u.name] (useCaseDirs hf hu)
    (((UseCase.requestType_isName hu).append (by decide)).isFile (by decide)) ?_
  have hhandler : endsWith (u.validatorType ++ ".cs") "Handler.cs" = false := by
    rw [UseCase.validatorType, String.append_assoc]
    exact endsWith_append_eq_false (b := "Validator.cs") (by decide) (by decide)
  have hends : endsWith (u.validatorType ++ ".cs") "Validator.cs" = true := by
    rw [UseCase.validatorType, String.append_assoc]
    exact endsWith_append_self _ _
  simp [Locator.kindOf_useCase, hhandler, hends]

/-! ### Services and manifests -/

/-- The folder of the interface of a service. -/
def Placement.folder : Placement → List String
  | .featureLocal f => ["Features", f.plural, "Services"]
  | .shared => ["Common", "Services"]
  | .external _ => ["Common", "Interfaces"]

/-- The folder of the implementation of a service. -/
def Placement.implFolder : Placement → List String
  | .external system => [system.folder]
  | p => p.folder

theorem serviceContract_eq (l : Locator) (p : Placement) (name : String) :
    l.serviceContract p name = l.file .application (p.folder ++ ["I" ++ name ++ "Service.cs"]) := by
  cases p <;> rfl

theorem serviceImpl_eq (l : Locator) (p : Placement) (name : String) :
    l.serviceImpl p name = l.file p.wiringLayer (p.implFolder ++ [name ++ "Service.cs"]) := by
  cases p <;> rfl

theorem Placement.WellNamed.folder {p : Placement} (hp : p.WellNamed) :
    ∀ d ∈ p.folder, IsDirectory d := by
  cases p with
  | featureLocal f =>
      simpa [Placement.folder] using ⟨isDirectory_lit (by decide), (hp f rfl).plural.isDirectory,
        isDirectory_lit (by decide)⟩
  | shared => exact (by decide : ∀ d ∈ ["Common", "Services"], IsDirectory d)
  | external system => exact (by decide : ∀ d ∈ ["Common", "Interfaces"], IsDirectory d)

theorem Placement.WellNamed.implFolder {p : Placement} (hp : p.WellNamed) :
    ∀ d ∈ p.implFolder, IsDirectory d := by
  cases p with
  | featureLocal f => exact hp.folder
  | shared => exact hp.folder
  | external system => cases system <;> simpa [Placement.implFolder] using isDirectory_lit (by decide)

theorem place_serviceContract {p : Placement} (hp : p.WellNamed) (h : IsName name) :
    IsPlace l .application .serviceContract (l.serviceContract p name) :=
  serviceContract_eq l p name ▸ place_file p.folder hp.folder
    ((IsName.prepend (by decide) h).isFile (by decide)) (by cases p <;> rfl)

/-- The implementation of a service, of one kind with the interfaces. -/
theorem place_serviceImpl {p : Placement} (hp : p.WellNamed) (h : IsName name) :
    IsPlace l p.wiringLayer .serviceContract (l.serviceImpl p name) :=
  serviceImpl_eq l p name ▸ place_file p.implFolder hp.implFolder (h.isFile (by decide)) (by
    cases p with
    | external system => cases system <;> rfl
    | _ => rfl)

theorem place_manifest (hl : IsProject l.project) {layer : Layer} (h : layer ≠ .root) :
    IsPlace l layer .manifest (l.manifest layer) := by
  have hmodule := isSegment_moduleName hl h
  have hends : endsWith (l.moduleName layer ++ ".csproj") ".csproj" = true := endsWith_append_self _ _
  have hcs : ∀ s : String, s.toList.getLast? = some 's' → l.moduleName layer ++ ".csproj" ≠ s := by
    rintro s hs rfl
    simp at hs
  have hfile : IsFile (l.moduleName layer ++ ".csproj") := by
    refine ⟨by simp, by simp [hmodule.no_slash], ?_, ?_⟩
    · intro heq
      simpa using congrArg (fun s => s.toList.length) heq
    · intro heq
      simpa using congrArg (fun s => s.toList.length) heq
  refine place_file [] (by simp) hfile ?_
  rw [Locator.kindOf_module h, if_neg (hcs "Program.cs" (by decide)),
    if_neg (hcs "DependencyInjection.cs" (by decide)), if_pos hends]

/-! ### The names in a path -/

/-- The name in a file's name, between a beginning and an ending that are fixed. -/
theorem named_injective (hl : IsProject l.project) (layer : Layer) (dirs : List String)
    (start ending : String)
    (hfixed : (∀ d ∈ dirs, IsDirectory d) ∧ Made Char.isAlphanum start
      ∧ '.' ∈ ending.toList ∧ '/' ∉ ending.toList)
    {s t : String} (hs : IsName s) (ht : IsName t)
    (h : l.file layer (dirs ++ [start ++ s ++ ending]) = l.file layer (dirs ++ [start ++ t ++ ending])) :
    s = t := by
  obtain ⟨hdirs, hstart, hending⟩ := hfixed
  obtain ⟨-, hfile⟩ := file_injective hl hdirs hdirs ((IsName.prepend hstart hs).isFile hending)
    ((IsName.prepend hstart ht).isFile hending) h
  rwa [String.append_left_inj, String.append_right_inj] at hfile

theorem enumType_injective (hl : IsProject l.project) {name name' : String} (h : IsName name)
    (h' : IsName name') (heq : l.enumType name = l.enumType name') : name = name' :=
  named_injective hl .domain ["Enums"] "" ".cs" (by decide) h h' (by simpa [Locator.enumType] using heq)

variable {g : Feature} {v : UseCase} (hl : IsProject l.project) (hf : f.WellNamed)
  (hg : g.WellNamed)

include hl hf hg

theorem entityType_injective (h : l.entityType f = l.entityType g) : f.name = g.name :=
  named_injective hl .domain ["Entities"] "" ".cs" (by decide) hf.name hg.name
    (by simpa [Locator.entityType] using h)

theorem persistenceMapping_injective (h : l.persistenceMapping f = l.persistenceMapping g) :
    f.name = g.name :=
  named_injective hl .infrastructure ["Persistence", "Configurations"] "" "Configuration.cs" (by decide)
    hf.name hg.name (by simpa [Locator.persistenceMapping] using h)

theorem repositoryContract_injective (h : l.repositoryContract f = l.repositoryContract g) :
    f.name = g.name :=
  named_injective hl .application ["Interfaces", "Repositories"] "I" "Repository.cs" (by decide)
    hf.name hg.name
    (by simpa [Locator.repositoryContract, Feature.repositoryContract, String.append_assoc] using h)

theorem repositoryImpl_injective (h : l.repositoryImpl f = l.repositoryImpl g) :
    f.name = g.name :=
  named_injective hl .infrastructure ["Repositories"] "" "Repository.cs" (by decide) hf.name hg.name
    (by simpa [Locator.repositoryImpl, Feature.repositoryImpl, String.append_assoc] using h)

/-- The exposures of two entities are one file only if the names it is made of are the same. -/
theorem exposure_injective (h : l.exposure f = l.exposure g) : match l.style with
    | .routes => f.name = g.name
    | .controllers => f.plural = g.plural := by
  unfold Locator.exposure at h
  cases hstyle : l.style with
  | routes =>
      simp only [hstyle] at h
      exact named_injective hl .api ["Endpoints"] "" "Endpoints.cs" (by decide) hf.name hg.name
        (by simpa using h)
  | controllers =>
      simp only [hstyle] at h
      exact named_injective hl .api ["Controllers"] "" "Controller.cs" (by decide) hf.plural hg.plural
        (by simpa using h)

/-- A file of a use case tells the plural of its entity, its folder and its name. -/
theorem useCaseFile_injective (hu : u.WellNamed) (hv : v.WellNamed) {type type' : String}
    (htype : IsName type) (htype' : IsName type')
    (h : l.useCaseFile f u type = l.useCaseFile g v type') :
    f.plural = g.plural ∧ u.kind = v.kind ∧ u.name = v.name := by
  obtain ⟨hdirs, -⟩ := file_injective hl (useCaseDirs hf hu) (useCaseDirs hg hv)
    (htype.isFile (by decide)) (htype'.isFile (by decide)) h
  simp only [List.cons.injEq, true_and, and_true] at hdirs
  obtain ⟨hplural, hfolder, hname⟩ := hdirs
  refine ⟨hplural, ?_, hname⟩
  revert hfolder
  cases u.kind <;> cases v.kind <;> first
    | exact fun _ => rfl
    | exact fun h => absurd h (by decide)

end

end

end Scaffold
