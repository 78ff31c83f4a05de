import Mathlib
import Scaffold.Proofs.Member

/-!
# The blocks of members

Every line of a block is some blanks and a text of a shape, and on the shapes it is checked that
no detection of the same kind of file is found where it should not be.  A line is *quiet* if no
detection of its kind of file is found in it.  A *head* may hold the detection of its own sort of
member, and then only under its own name.

A block is a head, which holds the detection, and quiet lines (`Member.block_spec`).
-/

namespace Scaffold

open Scaffold.Text

namespace Member

/-! ## Checks of shapes -/

/-- Decide whether a detection is not found in a line of a shape, however it is indented. -/
def isClear (apart : Bool) (needle shape : List Atom) : Bool :=
  !mayOccur apart needle (.some .blank :: shape)

/-- Decide whether a detection shows where its name ends. -/
def isDelimited (needle : List Atom) : Bool :=
  (needle.any fun
    | .var _ => true
    | _ => false)
    && match needle.getLast? with
      | some (.char _) => true
      | _ => false

/-- Decide whether no detection of a kind of file is found in the lines of a shape. -/
def isQuiet (kind : ArtifactKind) (shape : List Atom) : Bool :=
  Shaped.isPlainShape shape && (needles kind).all fun n => isClear false n shape

/-- Decide whether no detection of a kind of file but its own is found in the lines of a shape,
and its own not under another name. -/
def isHead (kind : ArtifactKind) (own shape : List Atom) : Bool :=
  Shaped.isPlainShape shape
    && (needles kind).all fun n =>
      if n == own then !isDelimited n || isClear true n shape else isClear false n shape

/-- A line is some blanks and a text whose shape passes a check. -/
def Passes (check : List Atom → Bool) (name line : String) : Prop :=
  ∃ indent base shape, Made CharKind.blank.has indent ∧ line = indent ++ base
    ∧ Shaped name shape base ∧ check shape = true

/-- All lines of a block are quiet. -/
def QuietBlock (kind : ArtifactKind) (name : String) (block : List String) : Prop :=
  ∀ x ∈ block, Passes (isQuiet kind) name x

section

variable {check : List Atom → Bool} {name line : String} {shape : List Atom} {kind : ArtifactKind}
  {block block' : List String}

/-- A text whose shape passes.  Where nothing else is said, the shape is put together from the
shapes at hand, and the check is evaluated on it. -/
theorem passes
    (h : Shaped name shape line := by
      with_reducible repeat' first
        | assumption
        | apply Shaped.append
        | exact Shaped.chars _)
    (hcheck : check shape = true := by
      simp only [isHead, isQuiet, kind, needle, needles]
      repeat rw [String.toList_ofList]
      rfl) : Passes check name line :=
  ⟨"", line, shape, by decide, String.empty_append.symm, h, hcheck⟩

namespace Passes

theorem prepend {indent : String} (hindent : Made CharKind.blank.has indent)
    (h : Passes check name line) : Passes check name (indent ++ line) := by
  obtain ⟨i, base, shape, hblank, rfl, hbase, hcheck⟩ := h
  exact ⟨indent ++ i, base, shape, hindent.append hblank, String.append_assoc.symm, hbase, hcheck⟩

theorem indentLine (h : Passes check name line) : Passes check name (indentLine line) := by
  unfold Scaffold.indentLine
  split
  next hempty =>
    rw [String.isEmpty_iff] at hempty
    exact hempty ▸ h
  · exact h.prepend (by decide)

theorem indentBy {indent : String} (hindent : Anchor.IsIndent indent)
    (h : Passes check name line) : Passes check name (Artifact.indentBy indent line) := by
  unfold Artifact.indentBy
  split
  next hempty =>
    rw [String.isEmpty_iff] at hempty
    exact hempty ▸ h
  · refine h.prepend fun c hc => ?_
    have hn : c ≠ '\n' := fun heq => hindent.plain.1 (heq ▸ hc)
    have hr : c ≠ '\r' := fun heq => hindent.plain.2 (heq ▸ hc)
    simp [CharKind.has, hindent.blank c hc, isPlainChar, hn, hr]

theorem isPlain (h : Passes check name line)
    (hplain : ∀ shape, check shape = true → Shaped.isPlainShape shape = true) : IsPlain line := by
  obtain ⟨indent, base, shape, hblank, rfl, hbase, hcheck⟩ := h
  refine IsPlain.append ?_ (hbase.isPlain (hplain shape hcheck))
  exact (Shaped.hole .blank hblank : Shaped name _ _).isPlain rfl

/-- A detection is not found in a line whose shape is clear of it. -/
theorem not_contains {needle : List Atom} {name' detection : String}
    (h : Passes check name line) (hneedle : Shaped name' needle detection)
    (hclear : ∀ shape, check shape = true → isClear false needle shape = true) :
    contains line detection = false := by
  obtain ⟨indent, base, shape, hblank, rfl, hbase, hcheck⟩ := h
  exact hneedle.not_contains ((Shaped.hole .blank hblank).append hbase)
    (by simpa [isClear, hole] using hclear shape hcheck)

/-- A detection is not found under another name in a line whose shape keeps names apart. -/
theorem not_contains_of_ne {needle : List Atom} {name' detection : String}
    (h : Passes check name line) (hneedle : Shaped name' needle detection)
    (hclear : ∀ shape, check shape = true → isClear true needle shape = true) (hne : name' ≠ name) :
    contains line detection = false := by
  obtain ⟨indent, base, shape, hblank, rfl, hbase, hcheck⟩ := h
  exact hneedle.not_contains_of_ne ((Shaped.hole .blank hblank).append hbase)
    (by simpa [isClear, hole] using hclear shape hcheck) hne

end Passes

namespace QuietBlock

theorem nil : QuietBlock kind name [] := fun _ hx => absurd hx List.not_mem_nil

theorem cons (h : Passes (isQuiet kind) name line) (hs : QuietBlock kind name block) :
    QuietBlock kind name (line :: block) := List.forall_mem_cons.2 ⟨h, hs⟩

theorem append (h : QuietBlock kind name block) (h' : QuietBlock kind name block') :
    QuietBlock kind name (block ++ block') := List.forall_mem_append.2 ⟨h, h'⟩

theorem indentBlock (h : QuietBlock kind name block) :
    QuietBlock kind name (indentBlock block) := by
  intro x hx
  obtain ⟨y, hy, rfl⟩ := List.mem_map.1 hx
  exact (h y hy).indentLine

/-- The lines of a body in braces below its head. -/
theorem body (h : QuietBlock kind name block)
    (hopen : Passes (isQuiet kind) name "\x7b" := by exact passes)
    (hclose : Passes (isQuiet kind) name "\x7d" := by exact passes) :
    QuietBlock kind name ("\x7b" :: (Scaffold.indentBlock block ++ ["\x7d"])) :=
  .cons hopen (.append h.indentBlock (.cons hclose .nil))

end QuietBlock

end

theorem braced_eq (head : String) (block : List String) :
    braced head block = head :: "\x7b" :: (indentBlock block ++ ["\x7d"]) := rfl

/-! ## Types of results -/

theorem made_typeName {entity : String} (h : Made Char.isAlphanum entity) (r : Response) :
    Made isTypeChar (r.typeName entity) := by
  have hentity : Made isTypeChar entity := h.mono fun c hc => by simp [isTypeChar, hc]
  cases r with
  | single => exact hentity.append (by decide)
  | list => exact (Made.append (by decide) hentity).append (by decide)
  | identifier => exact (by decide : Made isTypeChar "Guid")
  | flag => exact (by decide : Made isTypeChar "bool")
  | count => exact (by decide : Made isTypeChar "int")

/-! ## Repository methods -/

section

variable {f : Feature} {m : RepositoryMethod}

/-- The line that declares a method. -/
theorem passes_signature (hf : f.WellNamed) (hm : IsName m.name) {start stop : String}
    (hstart : start = "" ∨ start = "public async ") (hstop : stop = "" ∨ stop = ";") :
    Passes (isHead .repositoryContract (fixed " ".toList ++ [.var .name] ++ fixed "Async(".toList))
      m.name (start ++ (m.signature f.name ++ stop)) := by
  have hself := Shaped.var .name hm.2
  have hentity := (Shaped.hole .name hf.name.2 : Shaped m.name _ _)
  have htype := (Shaped.hole .type (made_typeName hf.name.2 m.op.response) : Shaped m.name _ _)
  unfold RepositoryMethod.signature
  generalize m.op.response.typeName f.name = type at htype
  rcases hstart with rfl | rfl <;> rcases hstop with rfl | rfl <;>
    cases m.op <;> unfold RowOperation.parameters <;> dsimp only
  all_goals exact passes

/-- The body of a method. -/
theorem quiet_rowOperation (hf : f.WellNamed) (op : RowOperation) (name : String) :
    QuietBlock .repositoryImpl name (op.body ("_context." ++ f.plural)) := by
  have hset : Shaped name _ (String.ofList "_context.".toList ++ f.plural) :=
    (Shaped.chars _).append (.hole .name hf.plural.2)
  rw [String.ofList_toList] at hset
  generalize "_context." ++ f.plural = set at hset
  cases op <;> unfold RowOperation.body <;>
    dsimp only [RowOperation.changeFound, RowOperation.findIn, RowOperation.saveChanges]
  all_goals
    with_reducible repeat' first
      | exact QuietBlock.nil
      | apply QuietBlock.cons
  all_goals exact passes

end

/-! ## Use cases -/

section

variable {f : Feature} {u : UseCase}

theorem made_handlerType (hu : u.WellNamed) : Made Char.isAlphanum u.handlerType :=
  ((UseCase.requestType_isName hu).append (by decide)).2

theorem made_validatorType (hu : u.WellNamed) : Made Char.isAlphanum u.validatorType :=
  ((UseCase.requestType_isName hu).append (by decide)).2

theorem passes_requestBlock (hf : f.WellNamed) (hu : u.WellNamed) :
    Passes (isHead .useCaseRequest (fixed "record ".toList ++ [.var .name] ++ fixed "(".toList))
      u.requestType ("public record " ++ u.requestType ++ "(" ++ u.fields.declaration
        ++ ") : IRequest<" ++ u.response.typeName f.name ++ ">;") := by
  have hself := Shaped.var .name (UseCase.requestType_isName hu).2
  have htype := (Shaped.hole .type (made_typeName hf.name.2 u.response) : Shaped u.requestType _ _)
  generalize u.requestType = request at *
  generalize u.response.typeName f.name = type at *
  cases u.fields <;> unfold RequestFields.declaration <;> dsimp only
  all_goals exact passes

/-- The statements of a handler. -/
theorem quiet_behaviour (hf : f.WellNamed) (hu : u.WellNamed) (name : String) :
    QuietBlock .useCaseHandler name (u.behaviour f.name).body := by
  have hentity := (Shaped.hole .name hf.name.2 : Shaped name _ _)
  have haction : ∀ verb action, u.entry = .named verb action →
      Shaped name (hole .name) action := fun verb action h =>
    Shaped.hole .name (hu.action verb action h).2
  unfold UseCase.behaviour
  cases hentry : u.entry with
  | canonical op =>
      cases op <;> dsimp only [Operation.behaviour, returnCall]
      all_goals
        with_reducible repeat' first
          | exact QuietBlock.nil
          | apply QuietBlock.cons
      all_goals exact passes
  | named verb action =>
      have haction := haction verb action hentry
      cases verb <;> dsimp only [ActionClass.ofVerb, ActionClass.behaviour, returnCall]
      all_goals
        refine .cons ?_ .nil
        exact passes

/-- The head of a class, whatever comes after its name. -/
theorem passes_handlerHead (hf : f.WellNamed) (hu : u.WellNamed) :
    Passes (isHead .useCaseHandler (fixed "class ".toList ++ [.var .name] ++ fixed " ".toList))
      u.handlerType ("public class " ++ u.handlerType ++ " : IRequestHandler<" ++ u.requestType
        ++ ", " ++ u.response.typeName f.name ++ ">") := by
  have hself := Shaped.var .name (made_handlerType hu)
  have hrequest := (Shaped.hole .name (UseCase.requestType_isName hu).2 : Shaped u.handlerType _ _)
  have htype := (Shaped.hole .type (made_typeName hf.name.2 u.response) : Shaped u.handlerType _ _)
  exact passes

/-- The lines of a handler below its head. -/
theorem quiet_handlerBody (hf : f.WellNamed) (hu : u.WellNamed) :
    QuietBlock .useCaseHandler u.handlerType
      (["private readonly " ++ f.repositoryContract ++ " _repository;", ""]
        ++ braced ("public " ++ u.handlerType ++ "(" ++ f.repositoryContract ++ " repository)")
          ["_repository = repository;"]
        ++ [""]
        ++ braced ("public async Task<" ++ u.response.typeName f.name ++ "> Handle("
            ++ u.requestType ++ " request, CancellationToken cancellationToken)")
          (u.behaviour f.name).body) := by
  have hbody := quiet_behaviour hf hu u.handlerType
  have hself := Shaped.var .name (made_handlerType hu)
  have hrequest := (Shaped.hole .name (UseCase.requestType_isName hu).2 : Shaped u.handlerType _ _)
  have htype := (Shaped.hole .type (made_typeName hf.name.2 u.response) : Shaped u.handlerType _ _)
  have hentity := (Shaped.hole .name hf.name.2 : Shaped u.handlerType _ _)
  rw [braced_eq, braced_eq]
  unfold Feature.repositoryContract
  refine .append (.append (.append (.cons ?_ (.cons ?_ .nil)) (.cons ?_ (.body (.cons ?_ .nil))))
    (.cons ?_ .nil)) (.cons ?_ hbody.body)
  all_goals exact passes

theorem passes_validatorHead (hu : u.WellNamed) :
    Passes (isHead .useCaseValidator (fixed "class ".toList ++ [.var .name] ++ fixed " ".toList))
      u.validatorType ("public class " ++ u.validatorType ++ " : AbstractValidator<"
        ++ u.requestType ++ ">") := by
  have hself := Shaped.var .name (made_validatorType hu)
  have hrequest := (Shaped.hole .name (UseCase.requestType_isName hu).2 : Shaped u.validatorType _ _)
  exact passes

/-- The lines of a validator below its head. -/
theorem quiet_validatorBody (hu : u.WellNamed) :
    QuietBlock .useCaseValidator u.validatorType
      (braced ("public " ++ u.validatorType ++ "()") u.fields.rules) := by
  have hself := Shaped.var .name (made_validatorType hu)
  have hrules : QuietBlock .useCaseValidator u.validatorType u.fields.rules := by
    cases u.fields <;> dsimp only [RequestFields.rules]
    all_goals
      with_reducible repeat' first
        | exact QuietBlock.nil
        | apply QuietBlock.cons
    all_goals exact passes
  rw [braced_eq]
  exact .cons passes hrules.body

/-! ## Exposures -/

theorem made_routePart {r : Route} (h : ∀ s ∈ r.segment, Made isKebabChar s) :
    Made isRouteChar r.template := by
  refine Made.joinWith (by decide) fun s hs => ?_
  rcases List.mem_append.1 hs with hs | hs
  · exact (h s (Option.mem_toList.1 hs)).mono fun c hc => by simp [isRouteChar, hc]
  · split at hs
    · rw [List.mem_singleton.1 hs]
      decide
    · cases hs

theorem made_exposed (hu : u.WellNamed) (style : Exposure) : Made isRouteChar (exposed style u.entry) := by
  have hverb : Made isRouteChar u.entry.verb.token := by cases u.entry.verb <;> decide
  have hroute : Made isRouteChar u.entry.route.template :=
    made_routePart fun segment hsegment => (hu.route segment hsegment).2
  cases style with
  | routes => exact ((hverb.append (by decide)).append (Made.append (by decide) hroute)).append (by decide)
  | controllers =>
      unfold exposed
      dsimp only
      split
      · exact hverb
      · exact ((hverb.append (by decide)).append hroute).append (by decide)

theorem detection_routes (e : Entrypoint) :
    e.detection .routes = "group.Map" ++ exposed .routes e ++ "," := by
  have hends : "\"," = "\"" ++ "," := by decide
  simp only [Entrypoint.detection, Entrypoint.detectionOf, exposed, hends, String.append_assoc]

theorem detection_controllers (e : Entrypoint) :
    e.detection .controllers = "[Http" ++ exposed .controllers e ++ "]" := by
  have hends : "\")]" = "\")" ++ "]" := by decide
  simp only [Entrypoint.detection, Entrypoint.detectionOf, exposed]
  split
  · rfl
  · simp only [hends, String.append_assoc]

/-- The shape of an exposure's detection. -/
theorem shaped_exposed (hu : u.WellNamed) (style : Exposure) :
    Shaped (exposed style u.entry) (needle ⟨"", style⟩ (.exposure ⟨"", ""⟩ u))
      (u.detection style) := by
  have hself := Shaped.var .route (made_exposed hu style)
  cases style with
  | routes =>
      rw [UseCase.detection, detection_routes]
      exact ((Shaped.lit _).append hself).append (.lit _)
  | controllers =>
      rw [UseCase.detection, detection_controllers]
      exact ((Shaped.lit _).append hself).append (.lit _)

theorem passes_routeHead (hu : u.WellNamed) :
    Passes (isHead .exposure (fixed "group.Map".toList ++ [.var .route] ++ fixed ",".toList))
      (exposed .routes u.entry) (u.detection .routes ++ " async (" ++ u.fields.routeParameters
        ++ "ISender sender, CancellationToken ct) =>") := by
  have hself := Shaped.var .route (made_exposed hu .routes)
  rw [UseCase.detection, detection_routes]
  cases u.fields <;> dsimp only [RequestFields.routeParameters]
  all_goals exact passes

theorem passes_controllerHead (hu : u.WellNamed) :
    Passes (isHead .exposure (fixed "[Http".toList ++ [.var .route] ++ fixed "]".toList))
      (exposed .controllers u.entry) (u.detection .controllers) := by
  have hself := Shaped.var .route (made_exposed hu .controllers)
  rw [UseCase.detection, detection_controllers]
  exact passes (((Shaped.chars _).append hself).append (.chars _))

theorem quiet_routeBody (hf : f.WellNamed) (hu : u.WellNamed) (name : String) :
    QuietBlock .exposure name (u.routeBlock f).tail := by
  have hrequest := (Shaped.hole .name (UseCase.requestType_isName hu).2 : Shaped name _ _)
  have hkebab := (Shaped.hole .kebab hf.plural.kebabCase.2 : Shaped name _ _)
  unfold UseCase.routeBlock UseCase.send
  cases u.fields <;> cases u.response <;>
    dsimp only [RequestFields.routeArguments, List.tail_cons]
  all_goals
    refine .cons ?_ .nil
    exact passes

theorem quiet_controllerBody (hu : u.WellNamed) (name : String) :
    QuietBlock .exposure name u.controllerBlock.tail := by
  have hrequest := (Shaped.hole .name (UseCase.requestType_isName hu).2 : Shaped name _ _)
  have hname := (Shaped.hole .name hu.name.2 : Shaped name _ _)
  unfold UseCase.controllerBlock UseCase.send
  rw [List.tail_cons, braced_eq]
  cases u.fields <;> cases u.response <;>
    dsimp only [RequestFields.controllerParameters, RequestFields.controllerArguments]
  all_goals
    refine .cons ?_ (.body (.cons ?_ (.cons ?_ .nil)))
  all_goals exact passes

end

/-! ## All members -/

/-- The registration of a repository shows the singular of the entity twice. -/
theorem repositoryRegistration_parts (f : Feature) :
    "services.AddScoped<" ++ f.repositoryContract ++ ", " ++ f.repositoryImpl ++ ">();"
      = "services.AddScoped<I" ++ f.name ++ "Repository, " ++ f.name ++ "Repository>();" := by
  refine String.toList_injective ?_
  simp [Feature.repositoryContract, Feature.repositoryImpl]

/-- A detection has the shape of its sort, under the name of the member. -/
theorem shaped_detection {l : Locator} {m : Member} (hm : m.WellNamed) :
    Shaped (m.label l) (m.needle l) (m.declaration l).detection := by
  cases m with
  | property f name =>
      have hself := Shaped.var .name hm.2.2
      exact ((((Shaped.lit _).append hself).append (.lit _)).append hself).append (.lit _)
  | enumType name => exact (Shaped.lit _).append (.var .name hm.2)
  | constant f name => exact ((Shaped.lit _).append (.var .name hm.2.2)).append (.lit _)
  | dbSet f => exact ((Shaped.lit _).append (.var .name hm.name.2)).append (.lit _)
  | contractMethod f m =>
      exact ((Shaped.lit _).append (.var .name hm.2.2)).append (.lit _)
  | implMethod f m => exact ((Shaped.lit _).append (.var .name hm.2.2)).append (.lit _)
  | request f u =>
      exact ((Shaped.lit _).append
        (.var .name (UseCase.requestType_isName hm.2).2)).append (.lit _)
  | handler f u =>
      exact ((Shaped.lit _).append (.var .name (made_handlerType hm.2))).append (.lit _)
  | validator f u =>
      exact ((Shaped.lit _).append (.var .name (made_validatorType hm.2))).append (.lit _)
  | exposure f u =>
      have hshaped := shaped_exposed hm.2 l.style
      obtain ⟨project, style⟩ := l
      cases style <;> exact hshaped
  | registration line => exact Shaped.lit line
  | mapping f =>
      obtain ⟨project, style⟩ := l
      cases style with
      | routes => exact ((Shaped.lit _).append (.var .name hm.name.2)).append (.lit _)
      | controllers => exact Shaped.lit _
  | service p name lifetime =>
      have hself := Shaped.var .name hm.2.2
      exact ((((Shaped.lit _).append hself).append (.lit _)).append hself).append (.lit _)
  | context provider => exact Shaped.lit _
  | repository f =>
      have hself := Shaped.var .name hm.name.2
      have hshaped := ((((Shaped.lit "services.AddScoped<I").append hself).append
        (.lit "Repository, ")).append hself).append (.lit "Repository>();")
      rw [← repositoryRegistration_parts] at hshaped
      exact hshaped
  | client e => cases e <;> exact Shaped.lit _
  | setting e =>
      cases e with
      | cache => exact Shaped.lit "REDIS_CONNECTION="
      | broker => exact Shaped.lit "RABBITMQ_HOST="
  | container e =>
      cases e with
      | cache => exact Shaped.lit "  redis:"
      | broker => exact Shaped.lit "  rabbitmq:"

theorem contains_append (a d b : String) : contains (a ++ d ++ b) d = true := by
  rw [contains, occursIn_iff]
  exact ⟨a.toList, b.toList, by simp⟩

theorem contains_self (d : String) : contains d d = true := by
  rw [contains, occursIn_iff]

/-- A text that stands between two others is contained. -/
theorem contains_of_eq {s d : String} (a b : String) (h : a ++ d ++ b = s) : contains s d = true :=
  h ▸ contains_append a d b

theorem contains_propertyLine (name : String) :
    contains (propertyLine name name) (Detection.property name name) = true := by
  have hstart : "public " = "public" ++ " " := by decide
  have hend : " \x7b get; set; \x7d" = " \x7b" ++ " get; set; \x7d" := by decide
  refine contains_of_eq "public" " get; set; \x7d" ?_
  unfold propertyLine Detection.property
  rw [hstart, hend]
  simp only [String.append_assoc]

theorem contains_enumBlock (name : String) :
    contains ("public enum " ++ name) (Detection.enumDeclaration name) = true := by
  have hstart : "public enum " = "public " ++ "enum " := by decide
  refine contains_of_eq "public " "" ?_
  unfold Detection.enumDeclaration
  rw [hstart, String.append_empty, String.append_assoc]

theorem contains_constantLine (name : String) :
    contains (constantLine name) (Detection.constant name) = true := by
  have hstart : "public const string " = "public " ++ "const string " := by decide
  have hmid : " = \"" = " " ++ "= \"" := by decide
  refine contains_of_eq "public " ("= \"" ++ (name ++ "\";")) ?_
  unfold constantLine Detection.constant
  rw [hstart, hmid]
  simp only [String.append_assoc]

theorem contains_dbSetLine (f : Feature) :
    contains (dbSetLine f) (Detection.dbSet f.name) = true := by
  have hstart : "public DbSet<" = "public " ++ "DbSet<" := by decide
  refine contains_of_eq "public " (f.plural ++ (" => Set<" ++ (f.name ++ ">();"))) ?_
  unfold dbSetLine Detection.dbSet
  rw [hstart]
  simp only [String.append_assoc]

theorem contains_signature (m : RepositoryMethod) (entity start stop : String) :
    contains (start ++ (m.signature entity ++ stop)) m.detection = true := by
  have hmid : "> " = ">" ++ " " := by decide
  refine contains_of_eq (start ++ ("Task<" ++ (m.op.response.typeName entity ++ ">")))
    (m.op.parameters entity ++ ("CancellationToken cancellationToken = default)" ++ stop)) ?_
  unfold RepositoryMethod.signature RepositoryMethod.detection Detection.repositoryMethod
  rw [hmid]
  simp only [String.append_assoc]

theorem contains_requestBlock (type rest : String) :
    contains ("public record " ++ type ++ "(" ++ rest) (Detection.useCaseRequest type) = true := by
  have hstart : "public record " = "public " ++ "record " := by decide
  refine contains_of_eq "public " rest ?_
  unfold Detection.useCaseRequest
  rw [hstart]
  simp only [String.append_assoc]

theorem contains_classHead (type : String) {base more : String} (hbase : base = " " ++ more)
    (rest : String) :
    contains ("public class " ++ type ++ base ++ rest) (Detection.useCaseClass type) = true := by
  have hstart : "public class " = "public " ++ "class " := by decide
  refine contains_of_eq "public " (more ++ rest) ?_
  unfold Detection.useCaseClass
  rw [hstart, hbase]
  simp only [String.append_assoc]

/-- The lines of an enum below its head. -/
theorem quiet_enumBody (name : String) :
    QuietBlock .enumType name ("\x7b" :: (indentBlock ["None = 0,"] ++ ["\x7d"])) :=
  QuietBlock.body (.cons passes .nil)

/-- The line that names the provider. -/
theorem quiet_contextBody (provider : Provider) (name : String) :
    QuietBlock .wiring name (Site.contextRegistrationBlock provider).tail := by
  unfold Site.contextRegistrationBlock
  rw [List.tail_cons]
  refine .cons ?_ .nil
  cases provider <;> exact passes (((Shaped.chars _).append (.chars _)).append (.chars _))

/-- The line that makes a client. -/
theorem quiet_clientBody (e : ExternalSystem) (name : String) :
    QuietBlock .wiring name e.clientBlock.tail := by
  unfold ExternalSystem.clientBlock
  rw [List.tail_cons]
  refine .cons ?_ .nil
  cases e <;> exact passes (((Shaped.chars _).append (((((Shaped.chars _).append (.chars _)).append
    (.chars _)).append (.chars _)).append (.chars _))).append (.chars _))

/-- The lines of a container below its name. -/
theorem quiet_composeBody (e : ExternalSystem) (name : String) :
    QuietBlock .compose name e.composeBlock.tail := by
  unfold ExternalSystem.composeBlock
  rw [List.tail_cons]
  refine .cons ?_ (.cons passes (.cons ?_ .nil))
  · cases e <;> exact passes ((Shaped.chars _).append (.chars _))
  · cases e <;> exact passes (((Shaped.chars _).append (.chars _)).append (.chars _))

/-- The line that registers a service. -/
theorem passes_serviceRegistration {name : String} (hname : IsName name) (lifetime : Lifetime) :
    Passes (isHead .wiring (fixed "<I".toList ++ [.var .name] ++ fixed "Service, ".toList ++ [.var .name]
        ++ fixed "Service>();".toList)) name
      ("services." ++ lifetime.registration ++ Detection.serviceRegistration name) := by
  have hself := Shaped.var .name hname.2
  unfold Detection.serviceRegistration
  cases lifetime <;> exact passes (((Shaped.chars _).append (.chars _)).append
    (((((Shaped.chars _).append hself).append (.chars _)).append hself).append (.chars _)))

/-- A block is a head, which holds the detection, and quiet lines. -/
theorem block_spec {l : Locator} {m : Member} (hm : m.WellNamed) :
    ∃ head tail, (m.declaration l).block = head :: tail
      ∧ Passes (isHead m.kind (m.needle l)) (m.label l) head
      ∧ QuietBlock m.kind (m.label l) tail
      ∧ contains head (m.declaration l).detection = true := by
  cases m <;> dsimp only [kind, needle, label]
  case property f name =>
      have hself := Shaped.var .name hm.2.2
      exact ⟨_, _, rfl,
        passes (((((Shaped.chars _).append hself).append (.chars _)).append hself).append (.chars _)),
        .nil, contains_propertyLine name⟩
  case enumType name =>
      exact ⟨_, _, rfl, passes ((Shaped.chars _).append (.var .name hm.2)), quiet_enumBody name,
        contains_enumBlock name⟩
  case constant f name =>
      have hself := Shaped.var .name hm.2.2
      exact ⟨_, _, rfl,
        passes (((((Shaped.chars _).append hself).append (.chars _)).append hself).append (.chars _)),
        .nil, contains_constantLine name⟩
  case dbSet f =>
      have hself := Shaped.var .name hm.name.2
      have hplural := (Shaped.hole .name hm.plural.2 : Shaped f.name _ _)
      exact ⟨_, _, rfl, passes ((((((Shaped.chars _).append hself).append (.chars _)).append
        hplural).append (.chars _)).append hself |>.append (.chars _)), .nil, contains_dbSetLine f⟩
  case contractMethod f m =>
      refine ⟨_, _, rfl, ?_, .nil, ?_⟩
      · have := passes_signature (m := m) hm.1 hm.2 (.inl rfl) (.inr rfl)
        rwa [String.empty_append] at this
      · have := contains_signature m f.name "" ";"
        rwa [String.empty_append] at this
  case implMethod f m =>
      refine ⟨_, _, rfl, ?_, (quiet_rowOperation hm.1 m.op m.name).body, ?_⟩
      · have := passes_signature (m := m) hm.1 hm.2 (.inr rfl) (.inl rfl)
        rwa [String.append_empty] at this
      · have := contains_signature m f.name "public async " ""
        rwa [String.append_empty] at this
  case request f u =>
      refine ⟨_, _, rfl, passes_requestBlock hm.1 hm.2, .nil, ?_⟩
      have := contains_requestBlock u.requestType (u.fields.declaration ++ (") : IRequest<"
        ++ (u.response.typeName f.name ++ ">;")))
      simp only [← String.append_assoc] at this
      exact this
  case handler f u =>
      refine ⟨_, _, rfl, passes_handlerHead hm.1 hm.2, (quiet_handlerBody hm.1 hm.2).body, ?_⟩
      have hbase : " : IRequestHandler<" = " " ++ ": IRequestHandler<" := by decide
      have := contains_classHead u.handlerType hbase (u.requestType
        ++ (", " ++ (u.response.typeName f.name ++ ">")))
      simp only [← String.append_assoc] at this
      exact this
  case validator f u =>
      refine ⟨_, _, rfl, passes_validatorHead hm.2, (quiet_validatorBody hm.2).body, ?_⟩
      have hbase : " : AbstractValidator<" = " " ++ ": AbstractValidator<" := by decide
      have := contains_classHead u.validatorType hbase (u.requestType ++ ">")
      simp only [← String.append_assoc] at this
      exact this
  case exposure f u =>
      obtain ⟨project, style⟩ := l
      cases style with
      | routes =>
          refine ⟨_, _, rfl, passes_routeHead hm.2, quiet_routeBody hm.1 hm.2 _, ?_⟩
          refine contains_of_eq "" (" async (" ++ (u.fields.routeParameters
            ++ "ISender sender, CancellationToken ct) =>")) ?_
          rw [String.empty_append, ← String.append_assoc, ← String.append_assoc]
          rfl
      | controllers =>
          exact ⟨_, _, rfl, passes_controllerHead hm.2, quiet_controllerBody hm.2 _,
            contains_self _⟩
  case registration line =>
      refine ⟨_, _, rfl, ?_, .nil, contains_self line⟩
      simp only [WellNamed, registrations, List.mem_cons, List.not_mem_nil, or_false] at hm
      rcases hm with rfl | rfl | rfl <;> exact passes (Shaped.chars _)
  case mapping f =>
      obtain ⟨project, style⟩ := l
      have hself := Shaped.var .name hm.name.2
      refine ⟨_, _, rfl, ?_, .nil, contains_self _⟩
      cases style with
      | routes => exact passes (((Shaped.chars _).append hself).append (.chars _))
      | controllers => exact passes (Shaped.chars _)
  case service p name lifetime =>
      refine ⟨_, _, rfl, passes_serviceRegistration hm.2 lifetime, .nil, ?_⟩
      refine contains_of_eq ("services." ++ lifetime.registration) "" ?_
      rw [String.append_empty]
      rfl
  case context provider =>
      refine ⟨_, _, rfl, passes ((Shaped.chars _).append (.chars _)), quiet_contextBody provider _,
        contains_of_eq "" "options =>" ?_⟩
      rw [String.empty_append]
      rfl
  case repository f =>
      have hself := Shaped.var .name hm.name.2
      exact ⟨_, _, rfl, passes (((((Shaped.chars _).append (((Shaped.chars _).append hself).append
        (.chars _))).append (.chars _)).append (hself.append (.chars _))).append (.chars _)), .nil,
        contains_self _⟩
  case client e =>
      refine ⟨_, _, rfl, ?_, quiet_clientBody e _,
        contains_append "services." e.clientDetection "(_ =>"⟩
      cases e <;> exact passes (((Shaped.chars _).append (.chars _)).append (.chars _))
  case setting e =>
      refine ⟨_, _, rfl, ?_, .nil, contains_of_eq "" e.variableValue ?_⟩
      · cases e <;> exact passes (((Shaped.chars _).append (.chars _)).append (.chars _))
      · rw [String.empty_append]
        rfl
  case container e =>
      refine ⟨_, _, rfl, ?_, quiet_composeBody e _, contains_self _⟩
      cases e <;> exact passes (((Shaped.chars _).append (.chars _)).append (.chars _))

end Member

end Scaffold
