import Mathlib
import Scaffold.Proofs.Plural
import Scaffold.Proofs.Repository

/-!
# Use cases

The use cases of a full generation have different names (`nodup_names_fullSet`) and are exposed by
different texts (`nodup_detections_fullSet`).  What a handler calls is read off its lines
(`readCall?`), and so are the types of parameters and arguments; every call is one of a method that
the use case needs, with arguments of the types of its parameters (`UseCase.calls_match`).
-/

namespace Scaffold

open Scaffold.Text

/-! ## The use cases of a full generation -/

/-- The use cases of entities with one plural have different names, and all but two show the
singular as well. -/
theorem canonical_name_injective {f g : Feature} (hplural : f.plural = g.plural)
    (hd : ¬ EndsInD f.plural) {op op' : Operation}
    (hname : (UseCase.canonical f op).name = (UseCase.canonical g op').name) :
    op = op' ∧ (op = .readAll ∨ op = .readPage ∨ f.name = g.name) := by
  have hById : ∀ name : String, "Get" ++ name ++ "ById" ≠ "GetAll" ++ f.plural := by
    intro name h
    have hall : EndsInD ("GetAll" ++ f.plural) := by
      rw [← h]
      exact (endsInD_append (by decide)).2 (by decide)
    by_cases hempty : f.plural = ""
    · rw [hempty] at hall
      revert hall
      decide
    · exact hd ((endsInD_append hempty).1 hall)
  have hPaged : ∀ name : String, "Get" ++ name ++ "ById" ≠ "Get" ++ f.plural ++ "Paged" := by
    intro name h
    have hlast := congrArg (fun s : String => s.toList.reverse.take 2) h
    simp at hlast
  have hAll : "GetAll" ++ f.plural ≠ "Get" ++ f.plural ++ "Paged" := by
    intro h
    have hlength := congrArg (fun s : String => s.toList.length) h
    simp at hlength
  unfold UseCase.canonical at hname
  rw [← hplural] at hname
  have hhead := congrArg (fun s : String => s.toList.head?) hname
  cases op <;> cases op' <;> simp at hhead
  case readOne.readOne =>
    rw [String.append_left_inj, String.append_right_inj] at hname
    exact ⟨rfl, .inr (.inr hname)⟩
  case readOne.readAll => exact absurd hname (hById f.name)
  case readOne.readPage => exact absurd hname (hPaged f.name)
  case readAll.readOne => exact absurd hname.symm (hById g.name)
  case readAll.readAll => exact ⟨rfl, .inl rfl⟩
  case readAll.readPage => exact absurd hname hAll
  case readPage.readOne => exact absurd hname.symm (hPaged g.name)
  case readPage.readAll => exact absurd hname.symm hAll
  case readPage.readPage => exact ⟨rfl, .inr (.inl rfl)⟩
  all_goals exact ⟨rfl, .inr (.inr ((String.append_right_inj _).1 hname))⟩

/-- The use cases of an entity have different names. -/
theorem nodup_names_fullSet {f : Feature} (hplural : ¬ EndsInD f.plural) :
    ((UseCase.fullSet f).map UseCase.name).Nodup := by
  rw [UseCase.fullSet, List.map_map]
  refine List.Nodup.map_on (fun op _ op' _ hname => ?_) (by decide)
  exact (canonical_name_injective rfl hplural hname).1

/-- The use cases of an entity are exposed by different texts. -/
theorem nodup_detections_fullSet (f : Feature) (style : Exposure) :
    ((UseCase.fullSet f).map (·.detection style)).Nodup := by
  have hdetections : (UseCase.fullSet f).map (·.detection style)
      = Operation.fullSet.map fun op => Entrypoint.detection style (.canonical op) := rfl
  rw [hdetections]
  cases style <;> decide

/-! ## Reading calls -/

/-- The items of a list with commas between them. -/
def items (text : String) : List String :=
  if text.isEmpty then [] else (splitOnChar ',' text).map trimStart

/-- What stands in the first parentheses of a text. -/
def inParentheses (text : String) : String :=
  String.ofList (((text.toList.dropWhile (· != '(')).drop 1).takeWhile (· != ')'))

/-- The parameters in the first parentheses of a text, each with its type. -/
def readParameters (text : String) : List (String × String) :=
  (items (inParentheses text)).map fun parameter =>
    (String.ofList (parameter.toList.dropWhile (· != ' ')).tail,
     String.ofList (parameter.toList.takeWhile (· != ' ')))

/-- A call of a repository as a line shows it. -/
structure CallText where
  /-- The name of the method, without the `Async` it is declared under. -/
  method : String
  /-- The arguments. -/
  arguments : List String
deriving Repr, DecidableEq

/-- The call of a repository in a line. -/
def readCall? (line : String) : Option CallText :=
  match cutAt? "_repository.".toList line.toList with
  | none => none
  | some (_, rest) => (dropTail? "Async".toList (rest.takeWhile (· != '('))).map fun method =>
      ⟨String.ofList method, items (inParentheses (String.ofList rest))⟩

/-- The type of an argument in a handler: a field of the request, the entity or the token. -/
def argumentType (entity : String) (fields : List (String × String)) (argument : String) :
    Option String :=
  if argument = "cancellationToken" then some "CancellationToken"
  else if argument = "entity" then some entity
  else match dropStart? "request.".toList argument.toList with
    | none => none
    | some field => fields.lookup (String.ofList field)

theorem inParentheses_eq {before inside : String} (after : String) (hbefore : '(' ∉ before.toList)
    (hinside : ')' ∉ inside.toList) :
    inParentheses (before ++ "(" ++ inside ++ ")" ++ after) = inside := by
  have hopen : ∀ c ∈ before.toList, (c != '(') = true := fun c hc =>
    bne_iff_ne.2 fun heq => hbefore (heq ▸ hc)
  have hclose : ∀ c ∈ inside.toList, (c != ')') = true := fun c hc =>
    bne_iff_ne.2 fun heq => hinside (heq ▸ hc)
  have htext : (before ++ "(" ++ inside ++ ")" ++ after).toList
      = before.toList ++ '(' :: (inside.toList ++ ')' :: after.toList) := by simp
  rw [inParentheses, htext, List.dropWhile_append_of_pos hopen,
    List.dropWhile_cons_of_neg (by decide), List.drop_one, List.tail_cons,
    List.takeWhile_append_of_pos hclose, List.takeWhile_cons_of_neg (by decide), List.append_nil,
    String.ofList_toList]

/-- A text is cut before the first place its first character is at. -/
theorem cutAt?_append {c : Char} {needle before : List Char} (hc : c ∉ before) (rest : List Char) :
    cutAt? (c :: needle) (before ++ (c :: needle) ++ rest) = some (before, rest) := by
  induction before with
  | nil =>
      have hdrop : dropStart? (c :: needle) ((c :: needle) ++ rest) = some rest :=
        dropStart?_eq_some.2 rfl
      rw [List.nil_append, List.cons_append, cutAt?, ← List.cons_append, hdrop]
  | cons d before ih =>
      rw [List.mem_cons, not_or] at hc
      have hdrop : dropStart? (c :: needle) (d :: (before ++ (c :: needle) ++ rest)) = none := by
        simp [dropStart?, hc.1]
      rw [List.cons_append, List.cons_append, cutAt?, hdrop, ih hc.2]
      rfl

theorem cutAt?_eq_none {c : Char} {needle cs : List Char} (hneedle : c ∈ needle) (hcs : c ∉ cs) :
    cutAt? needle cs = none := by
  have hdrop : ∀ {ds : List Char}, c ∉ ds → dropStart? needle ds = none := by
    intro ds hds
    rw [Option.eq_none_iff_forall_ne_some]
    rintro rest hrest
    rw [dropStart?_eq_some.1 hrest] at hds
    exact hds (List.mem_append_left _ hneedle)
  induction cs with
  | nil => simp [cutAt?, List.ne_nil_of_mem hneedle]
  | cons d cs ih =>
      rw [cutAt?, hdrop hcs, ih fun h => hcs (List.mem_cons_of_mem _ h)]
      rfl

/-- A line without one of the characters of a receiver has no call. -/
theorem readCall?_eq_none {c : Char} (hc : c ∈ "_repository.".toList) {line : String}
    (h : c ∉ line.toList) :
    readCall? line = none := by
  rw [readCall?, cutAt?_eq_none hc h]

/-- The call in a line that has one. -/
theorem readCall?_call {before method arguments : String} (after : String) (hbefore : '_' ∉ before.toList)
    (hmethod : IsName method) (harguments : ')' ∉ arguments.toList) :
    readCall? (before ++ "_repository." ++ (method ++ "Async" ++ "(" ++ arguments ++ ")" ++ after))
      = some ⟨method, items arguments⟩ := by
  have hname : '(' ∉ (method ++ "Async").toList := (hmethod.append (by decide)).2.not_mem (by decide)
  have hcut : cutAt? "_repository.".toList
      (before ++ "_repository." ++ (method ++ "Async" ++ "(" ++ arguments ++ ")" ++ after)).toList
      = some (before.toList, (method ++ "Async" ++ "(" ++ arguments ++ ")" ++ after).toList) := by
    rw [String.toList_append, String.toList_append, String.toList_ofList]
    exact cutAt?_append hbefore _
  have htake : (method ++ "Async" ++ "(" ++ arguments ++ ")" ++ after).toList.takeWhile (· != '(')
      = method.toList ++ "Async".toList := by
    have hopen : ∀ c ∈ (method ++ "Async").toList, (c != '(') = true := fun c hc =>
      bne_iff_ne.2 fun heq => hname (heq ▸ hc)
    have htext : (method ++ "Async" ++ "(" ++ arguments ++ ")" ++ after).toList
        = (method ++ "Async").toList ++ '(' :: (arguments ++ ")" ++ after).toList := by simp
    rw [htext, List.takeWhile_append_of_pos hopen, List.takeWhile_cons_of_neg (by decide),
      List.append_nil, String.toList_append]
  rw [readCall?, hcut]
  dsimp only
  rw [htake, dropTail?_eq_some.2 rfl, Option.map_some, String.ofList_toList, String.ofList_toList,
    inParentheses_eq after hname harguments]

/-- The call in a statement that returns what a method returns. -/
theorem readCall?_returnCall {method arguments : String} (hmethod : IsName method)
    (harguments : ')' ∉ arguments.toList) : readCall? (returnCall method arguments)
      = some ⟨method, items (arguments ++ "cancellationToken")⟩ := by
  have hline : returnCall method arguments = "return await " ++ "_repository."
      ++ (method ++ "Async" ++ "(" ++ (arguments ++ "cancellationToken") ++ ")" ++ ";") := by
    have hstart : "return await _repository." = "return await " ++ "_repository." := by decide
    have hname : "Async(" = "Async" ++ "(" := by decide
    have hstop : "cancellationToken);" = "cancellationToken" ++ ")" ++ ";" := by decide
    unfold returnCall
    rw [hstart, hname, hstop]
    simp only [String.append_assoc]
  have hinside : ')' ∉ (arguments ++ "cancellationToken").toList := by
    rw [String.toList_append, List.mem_append, not_or]
    exact ⟨harguments, by decide⟩
  rw [hline, readCall?_call ";" (by decide) hmethod hinside]

/-! ## Parameters and arguments -/

/-- The fields of a request, each with its type. -/
def RequestFields.typed : RequestFields → List (String × String)
  | .none => []
  | .id => [("Id", "Guid")]
  | .paging => [("Page", "int"), ("PageSize", "int")]

/-- The types of the parameters before the cancellation token. -/
def RowOperation.parameterTypes (entity : String) : RowOperation → List String
  | .findOne | .remove | .touch => ["Guid"]
  | .listPage => ["int", "int"]
  | .insert | .modify => [entity]
  | .listAll | .saveAll => []

/-- The fields of a request are read off its record. -/
theorem readParameters_requestBlock {u : UseCase} (hu : u.WellNamed) (entity : String) :
    (u.requestBlock entity).flatMap readParameters = u.fields.typed := by
  have hbefore : '(' ∉ ("public record " ++ u.requestType).toList := by
    rw [String.toList_append, List.mem_append, not_or]
    exact ⟨by decide, (UseCase.requestType_isName hu).2.not_mem (by decide)⟩
  have hinside : ')' ∉ u.fields.declaration.toList := by
    cases u.fields <;> decide
  have hline : u.requestBlock entity = ["public record " ++ u.requestType ++ "("
      ++ u.fields.declaration ++ ")" ++ (" : IRequest<" ++ u.response.typeName entity ++ ">;")] := by
    have hclose : ") : IRequest<" = ")" ++ " : IRequest<" := by decide
    unfold UseCase.requestBlock
    rw [hclose]
    simp only [String.append_assoc]
  rw [hline, List.flatMap_singleton, readParameters, inParentheses_eq _ hbefore hinside]
  cases u.fields <;> decide

/-- An item ends at a comma, and the blank behind that belongs to no item. -/
theorem items_cons {a rest : String} (ha : ',' ∉ a.toList) (hrest : rest ≠ "") :
    items (a ++ ", " ++ rest) = trimStart a :: items rest := by
  have hcomma : ∀ c ∈ a.toList, (c == ',') = false := fun c hc =>
    beq_eq_false_iff_ne.2 fun heq => ha (heq ▸ hc)
  have htext : (a ++ ", " ++ rest).toList = a.toList ++ ',' :: ' ' :: rest.toList := by simp
  have hne : (a ++ ", " ++ rest).isEmpty = false := by
    rw [Bool.eq_false_iff, ne_eq, String.isEmpty_iff, ← String.toList_eq_nil_iff, htext]
    simp
  have hrest' : rest.isEmpty = false := by
    rwa [Bool.eq_false_iff, ne_eq, String.isEmpty_iff]
  have hblank : ∀ s : String, trimStart (" " ++ s) = trimStart s := by
    intro s
    rw [trimStart, trimStart, String.toList_append, String.toList_ofList, List.singleton_append,
      List.dropWhile_cons_of_pos (by decide)]
  rw [items, items, hne, hrest', if_neg (by decide), if_neg (by decide), splitOnChar, splitOnChar, htext,
    piecesBy_append_sep (by decide), piecesBy_of_forall hcomma, piecesBy, if_neg (by decide)]
  cases hpieces : piecesBy (· == ',') rest.toList with
  | nil => exact absurd hpieces (piecesBy_ne_nil _ _)
  | cons piece pieces => simp [hblank]

theorem IsName.trimStart_append {s : String} (h : IsName s) (t : String) :
    trimStart (s ++ t) = s ++ t := by
  obtain ⟨c, cs, hcs⟩ := List.exists_cons_of_ne_nil (by simpa using h.1 : s.toList ≠ [])
  have hc := isSeparator_of_isAlphanum (h.2 c (hcs ▸ List.mem_cons_self))
  have hblank : isBlank c = false := by
    rw [isSeparator, Bool.or_eq_false_iff] at hc
    exact hc.2
  rw [trimStart, String.toList_append, hcs, List.cons_append,
    List.dropWhile_cons_of_neg (by simp [hblank]),
    ← List.cons_append, ← hcs, ← String.toList_append, String.ofList_toList]

/-- The type of a parameter, in front of its name. -/
def readType (parameter : String) : String := String.ofList (parameter.toList.takeWhile (· != ' '))

/-- The types of parameters are read off from the first one on. -/
theorem map_items_cons {type name rest : String} (htype : IsName type) (hname : IsName name)
    (hrest : rest ≠ "") :
    (items (type ++ " " ++ name ++ ", " ++ rest)).map readType = type :: (items rest).map readType := by
  have hcomma : ',' ∉ (type ++ " " ++ name).toList := by
    simp only [String.toList_append, List.mem_append, not_or]
    exact ⟨⟨htype.2.not_mem (by decide), by decide⟩, hname.2.not_mem (by decide)⟩
  have hword : readType (type ++ " " ++ name) = type := by
    have hchars : ∀ c ∈ type.toList, (c != ' ') = true := fun c hc =>
      bne_iff_ne.2 fun heq => htype.2.not_mem (c := ' ') (by decide) (heq ▸ hc)
    have htext : (type ++ " " ++ name).toList = type.toList ++ ' ' :: name.toList := by simp
    rw [readType, htext, List.takeWhile_append_of_pos hchars, List.takeWhile_cons_of_neg (by decide),
      List.append_nil, String.ofList_toList]
  rw [items_cons hcomma hrest, String.append_assoc, htype.trimStart_append, ← String.append_assoc,
    List.map_cons,
    hword]

/-- The types of the parameters of a method are read off its signature. -/
theorem readParameters_signature {m : RepositoryMethod} (hm : IsName m.name) {entity : String}
    (hentity : IsName entity) : (readParameters (m.signature entity)).map Prod.snd
      = m.op.parameterTypes entity ++ ["CancellationToken"] := by
  have hbefore : '(' ∉ ("Task<" ++ m.op.response.typeName entity ++ "> " ++ m.name
      ++ "Async").toList := by
    simp only [String.toList_append, List.mem_append, not_or]
    exact ⟨⟨⟨⟨by decide, (Member.made_typeName hentity.2 _).not_mem (by decide)⟩, by decide⟩,
      hm.2.not_mem (by decide)⟩, by decide⟩
  have hinside := (made_parameters (m := m) hentity.2).not_mem (c := ')') (by decide)
  have hline : m.signature entity = "Task<" ++ m.op.response.typeName entity ++ "> " ++ m.name
      ++ "Async" ++ "(" ++ (m.op.parameters entity ++ "CancellationToken cancellationToken = default")
      ++ ")" ++ "" := by
    have hopen : "Async(" = "Async" ++ "(" := by decide
    have hclose : "CancellationToken cancellationToken = default)"
        = "CancellationToken cancellationToken = default" ++ ")" := by decide
    unfold RepositoryMethod.signature
    rw [hopen, hclose, String.append_empty]
    simp only [String.append_assoc]
  rw [hline, readParameters, inParentheses_eq "" hbefore hinside, List.map_map]
  change (items _).map readType = _
  have htoken : (items "CancellationToken cancellationToken = default").map readType
      = ["CancellationToken"] := by
    decide
  have hne : "CancellationToken cancellationToken = default" ≠ "" := by decide
  unfold RowOperation.parameters RowOperation.parameterTypes
  cases m.op with
  | findOne | remove | touch =>
      have hid : "Guid id, " = "Guid" ++ " " ++ "id" ++ ", " := by decide
      dsimp only
      rw [hid, map_items_cons (by decide) (by decide) hne, htoken]
      rfl
  | listPage =>
      have hpages : "int page, int pageSize, " = "int" ++ " " ++ "page" ++ ", "
          ++ ("int" ++ " " ++ "pageSize" ++ ", ") := by decide
      dsimp only
      rw [hpages, @String.append_assoc ("int" ++ " " ++ "page" ++ ", "),
        map_items_cons (by decide) (by decide) fun h => hne (String.append_eq_empty_iff.1 h).2,
        map_items_cons (by decide) (by decide) hne, htoken]
      rfl
  | insert | modify =>
      have hrow : " entity, " = " " ++ "entity" ++ ", " := by decide
      dsimp only
      rw [hrow, ← String.append_assoc, ← String.append_assoc,
        map_items_cons hentity (by decide) hne, htoken]
      rfl
  | listAll | saveAll =>
      dsimp only
      rw [String.empty_append, htoken]
      rfl

section

variable {entity : String}

@[simp] theorem argumentType_token (fields : List (String × String)) :
    argumentType entity fields "cancellationToken" = some "CancellationToken" := by
  simp [argumentType]

@[simp] theorem argumentType_entity (fields : List (String × String)) :
    argumentType entity fields "entity" = some entity := by
  simp [argumentType]

theorem argumentType_field (fields : List (String × String)) (field : String) :
    argumentType entity fields ("request." ++ field) = fields.lookup field := by
  have hne : ∀ other : String, other.toList.head? ≠ some 'r' → "request." ++ field ≠ other := by
    rintro other hother rfl
    exact hother (by simp)
  rw [argumentType, if_neg (hne _ (by decide)), if_neg (hne _ (by decide)), String.toList_append,
    dropStart?_eq_some.2 rfl]
  dsimp only
  rw [String.ofList_toList]

@[simp] theorem argumentType_id :
    argumentType entity RequestFields.id.typed "request.Id" = some "Guid" :=
  argumentType_field _ "Id"

@[simp] theorem argumentType_page :
    argumentType entity RequestFields.paging.typed "request.Page" = some "int" :=
  argumentType_field _ "Page"

@[simp] theorem argumentType_pageSize :
    argumentType entity RequestFields.paging.typed "request.PageSize" = some "int" :=
  argumentType_field _ "PageSize"

/-- The calls in the handler of a canonical operation. -/
def Operation.calls : Operation → List CallText
  | .readOne => [⟨"GetById", ["request.Id", "cancellationToken"]⟩]
  | .readAll => [⟨"GetAll", ["cancellationToken"]⟩]
  | .readPage => [⟨"GetPaged", ["request.Page", "request.PageSize", "cancellationToken"]⟩]
  | .create => [⟨"Add", ["entity", "cancellationToken"]⟩]
  | .update | .patch =>
      [⟨"GetById", ["request.Id", "cancellationToken"]⟩,
       ⟨"Update", ["entity", "cancellationToken"]⟩]
  | .delete => [⟨"Delete", ["request.Id", "cancellationToken"]⟩]

theorem items_id : items ("request.Id, " ++ "cancellationToken")
      = ["request.Id", "cancellationToken"] := by
  decide

theorem items_none : items ("" ++ "cancellationToken") = ["cancellationToken"] := by decide

/-- The call that looks for the row of a request. -/
theorem readCall?_findRow :
    readCall? "var entity = await _repository.GetByIdAsync(request.Id, cancellationToken);"
    = some ⟨"GetById", ["request.Id", "cancellationToken"]⟩ := by
  have hline : "var entity = await _repository.GetByIdAsync(request.Id, cancellationToken);"
      = "var entity = await " ++ "_repository." ++ ("GetById" ++ "Async" ++ "("
        ++ ("request.Id, " ++ "cancellationToken") ++ ")" ++ ";") := by decide
  rw [hline, readCall?_call ";" (by decide) (by decide) (by decide), items_id]

theorem filterMap_returnCall {method arguments : String} {found : List String} (hmethod : IsName method)
    (harguments : ')' ∉ arguments.toList) (hfound : items (arguments ++ "cancellationToken") = found) :
    [returnCall method arguments].filterMap readCall? = [⟨method, found⟩] := by
  rw [List.filterMap_cons_some (readCall?_returnCall hmethod harguments), hfound, List.filterMap_nil]

theorem Operation.filterMap_body (hentity : Made Char.isAlphanum entity) (op : Operation) :
    (op.behaviour entity).body.filterMap readCall? = op.calls := by
  have hrow : items ("entity, " ++ "cancellationToken") = ["entity", "cancellationToken"] := by decide
  have hsilent : ∀ line : String, '_' ∉ line.toList → readCall? line = none := fun _ h =>
    readCall?_eq_none (by decide) h
  cases op with
  | readOne | delete => exact filterMap_returnCall (by decide) (by decide) items_id
  | readAll => exact filterMap_returnCall (by decide) (by decide) items_none
  | readPage => exact filterMap_returnCall (by decide) (by decide) (by decide)
  | create =>
      have hnew : readCall? ("var entity = new " ++ entity) = none := by
        refine hsilent _ ?_
        rw [String.toList_append, List.mem_append, not_or]
        exact ⟨by decide, hentity.not_mem (by decide)⟩
      rw [Operation.behaviour, List.filterMap_cons_none hnew]
      iterate 5 rw [List.filterMap_cons_none (hsilent _ (by decide))]
      exact filterMap_returnCall (by decide) (by decide) hrow
  | update | patch =>
      rw [Operation.behaviour, List.filterMap_cons_some readCall?_findRow]
      iterate 6 rw [List.filterMap_cons_none (hsilent _ (by decide))]
      rw [filterMap_returnCall (by decide) (by decide) hrow]
      rfl

/-- A call is one of a method, with arguments of the types of its parameters. -/
structure CallText.Fits (entity : String) (fields : RequestFields) (call : CallText)
    (m : RepositoryMethod) : Prop where
  method : call.method = m.name
  arguments : call.arguments.map (argumentType entity fields.typed)
    = (m.op.parameterTypes entity ++ ["CancellationToken"]).map some

theorem Operation.calls_fit (hentity : Made Char.isAlphanum entity) (op : Operation) :
    ∀ call ∈ (op.behaviour entity).body.filterMap readCall?, ∃ m ∈ (op.behaviour "").methods,
      call.Fits entity (op.behaviour "").fields m := by
  rw [op.filterMap_body hentity]
  have hgetById : CallText.Fits entity .id ⟨"GetById", ["request.Id", "cancellationToken"]⟩ .getById :=
    ⟨rfl, by simp [RepositoryMethod.getById, RowOperation.parameterTypes]⟩
  have hupdate : CallText.Fits entity .id ⟨"Update", ["entity", "cancellationToken"]⟩
      ⟨"Update", .modify⟩ := ⟨rfl, by simp [RowOperation.parameterTypes]⟩
  cases op with
  | readOne => exact List.forall_mem_singleton.2 ⟨_, List.mem_cons_self, hgetById⟩
  | readAll | readPage | create | delete =>
      exact List.forall_mem_singleton.2
        ⟨_, List.mem_cons_self, rfl, by simp [Operation.behaviour, RowOperation.parameterTypes]⟩
  | update | patch =>
      refine List.forall_mem_cons.2 ⟨⟨_, List.mem_cons_self, hgetById⟩, ?_⟩
      exact List.forall_mem_singleton.2 ⟨_, List.mem_cons_of_mem _ List.mem_cons_self, hupdate⟩

theorem ActionClass.calls_fit {action : String} (haction : IsName action) (c : ActionClass) :
    ∀ call ∈ (c.behaviour action).body.filterMap readCall?, ∃ m ∈ (c.behaviour action).methods,
      call.Fits entity (c.behaviour action).fields m := by
  cases c with
  | query | resourceCommand =>
      simp only [ActionClass.behaviour, List.filterMap_cons,
        readCall?_returnCall haction (by decide : ')' ∉ "request.Id, ".toList), items_id,
        List.filterMap_nil]
      exact List.forall_mem_singleton.2
        ⟨_, List.mem_cons_self, rfl, by simp [RowOperation.parameterTypes]⟩
  | collectionCommand =>
      simp only [ActionClass.behaviour, List.filterMap_cons,
        readCall?_returnCall haction (by decide : ')' ∉ "".toList), items_none, List.filterMap_nil]
      exact List.forall_mem_singleton.2
        ⟨_, List.mem_cons_self, rfl, by simp [RowOperation.parameterTypes]⟩

/-- A call is read off an indented line as well. -/
theorem readCall?_indentLine (line : String) : readCall? (indentLine line) = readCall? line := by
  have hblank : ∀ cs, cutAt? "_repository.".toList (' ' :: cs)
      = (cutAt? "_repository.".toList cs).map (Prod.map (' ' :: ·) id) := by
    intro cs
    have hdrop : dropStart? "_repository.".toList (' ' :: cs) = none := by
      rw [String.toList_ofList]
      rfl
    rw [cutAt?, hdrop]
    rfl
  unfold indentLine
  split
  next hempty => rw [String.isEmpty_iff.1 hempty]
  · have htext : ("    " ++ line).toList = ' ' :: ' ' :: ' ' :: ' ' :: line.toList := by
      rw [String.toList_append]
      rfl
    rw [readCall?, htext, hblank, hblank, hblank, hblank, readCall?]
    cases cutAt? "_repository.".toList line.toList <;> rfl

theorem filterMap_indentBlock (block : List String) :
    (indentBlock block).filterMap readCall? = block.filterMap readCall? := by
  rw [indentBlock, List.filterMap_map]
  exact List.filterMap_congr fun line _ => readCall?_indentLine line

theorem filterMap_braced {head : String} (hhead : readCall? head = none) (body : List String) :
    (braced head body).filterMap readCall? = body.filterMap readCall? := by
  have hbraces : readCall? "\x7b" = none ∧ readCall? "\x7d" = none := by decide
  rw [braced, List.filterMap_append, List.filterMap_append, filterMap_indentBlock]
  simp [hhead, hbraces]

/-- The calls in a handler are the calls in its body. -/
theorem filterMap_handlerBlock {f : Feature} (hf : f.WellNamed) {u : UseCase} (hu : u.WellNamed) :
    (u.handlerBlock f).filterMap readCall? = (u.behaviour f.name).body.filterMap readCall? := by
  have hdot : '.' ∈ "_repository.".toList := by decide
  have hrequest := (UseCase.requestType_isName hu).2.not_mem (c := '.') (by decide)
  have hhandler := (Member.made_handlerType hu).not_mem (c := '.') (by decide)
  have htype := (Member.made_typeName hf.name.2 u.response).not_mem (c := '.') (by decide)
  have hcontract : '.' ∉ f.repositoryContract.toList :=
    (((by decide : Made Char.isAlphanum "I").append hf.name.2).append
      (by decide : Made Char.isAlphanum "Repository")).not_mem (by decide)
  have hhead : readCall? ("public class " ++ u.handlerType ++ " : IRequestHandler<" ++ u.requestType
      ++ ", " ++ u.response.typeName f.name ++ ">") = none := by
    refine readCall?_eq_none hdot ?_
    simp only [String.toList_append, List.mem_append, not_or]
    exact ⟨⟨⟨⟨⟨⟨by decide, hhandler⟩, by decide⟩, hrequest⟩, by decide⟩, htype⟩, by decide⟩
  have hfield : readCall? ("private readonly " ++ f.repositoryContract ++ " _repository;") = none := by
    refine readCall?_eq_none hdot ?_
    simp only [String.toList_append, List.mem_append, not_or]
    exact ⟨⟨by decide, hcontract⟩, by decide⟩
  have hconstructor : readCall? ("public " ++ u.handlerType ++ "(" ++ f.repositoryContract
      ++ " repository)") = none := by
    refine readCall?_eq_none hdot ?_
    simp only [String.toList_append, List.mem_append, not_or]
    exact ⟨⟨⟨⟨by decide, hhandler⟩, by decide⟩, hcontract⟩, by decide⟩
  have hhandle : readCall? ("public async Task<" ++ u.response.typeName f.name ++ "> Handle("
      ++ u.requestType ++ " request, CancellationToken cancellationToken)") = none := by
    refine readCall?_eq_none hdot ?_
    simp only [String.toList_append, List.mem_append, not_or]
    exact ⟨⟨⟨⟨by decide, htype⟩, by decide⟩, hrequest⟩, by decide⟩
  have hfixed : readCall? "" = none ∧ readCall? "_repository = repository;" = none :=
    ⟨readCall?_eq_none hdot (by decide), readCall?_eq_none hdot (by decide)⟩
  unfold UseCase.handlerBlock
  dsimp only
  rw [filterMap_braced hhead, List.filterMap_append, List.filterMap_append, List.filterMap_append,
    filterMap_braced hconstructor, filterMap_braced hhandle]
  simp [hfield, hfixed]

/-- **Handlers call methods as they are declared**: every call in a handler is one of a method that
the use case needs, and the types of its arguments are the types of the parameters of the method. -/
theorem UseCase.calls_match {f : Feature} (hf : f.WellNamed) {u : UseCase} (hu : u.WellNamed) :
    ∀ call ∈ (u.handlerBlock f).filterMap readCall?, ∃ m ∈ u.methods, m.name = call.method
      ∧ call.arguments.map (argumentType f.name ((u.requestBlock f.name).flatMap readParameters))
        = (readParameters (m.signature f.name)).map fun parameter => some parameter.2 := by
  have hfits : ∀ call ∈ (u.behaviour f.name).body.filterMap readCall?,
      ∃ m ∈ u.methods, call.Fits f.name u.fields m := by
    have haction := hu.action
    unfold UseCase.methods UseCase.fields UseCase.behaviour
    cases hentry : u.entry with
    | canonical op => exact op.calls_fit hf.name.2
    | named verb action => exact (ActionClass.ofVerb verb).calls_fit (haction verb action hentry)
  rw [filterMap_handlerBlock hf hu]
  intro call hcall
  obtain ⟨m, hm, hfit⟩ := hfits call hcall
  refine ⟨m, hm, hfit.method.symm, ?_⟩
  rw [readParameters_requestBlock hu, hfit.arguments,
    ← readParameters_signature (Site.methods_isName hu m hm) hf.name, List.map_map]
  rfl

end

/-! ## Requests in exposures -/

theorem contains_trans {s t d : String} (h : contains s t = true) (h' : contains t d = true) :
    contains s d = true := by
  rw [contains, occursIn_iff] at *
  exact h'.trans h

/-- **Entrypoints construct requests as they are declared**: with as many arguments as the record has
fields. -/
theorem UseCase.arguments_match {u : UseCase} (hu : u.WellNamed) (style : Exposure) (f : Feature) :
    ∃ arguments, (∃ x ∈ u.exposureBlock style f,
        contains x ("new " ++ u.requestType ++ "(" ++ arguments ++ ")") = true)
      ∧ (items arguments).length = ((u.requestBlock f.name).flatMap readParameters).length := by
  have hsent : ∀ sender arguments, contains (u.send sender arguments)
      ("new " ++ u.requestType ++ "(" ++ arguments ++ ")") = true := by
    intro sender arguments
    refine Member.contains_of_eq ("await " ++ sender ++ ".Send(") ", ct)" ?_
    have hopen : ".Send(new " = ".Send(" ++ "new " := by decide
    have hclose : "), ct)" = ")" ++ ", ct)" := by decide
    unfold UseCase.send
    rw [hopen, hclose]
    simp only [String.append_assoc]
  rw [readParameters_requestBlock hu]
  cases style with
  | routes =>
      refine ⟨u.fields.routeArguments, ⟨_, List.mem_cons_of_mem _ List.mem_cons_self, ?_⟩, ?_⟩
      · refine contains_trans (Member.contains_append "    " _ ");") (contains_trans ?_
          (hsent "sender" u.fields.routeArguments))
        cases u.response with
        | single =>
            exact Member.contains_of_eq "" " is \x7b \x7d found ? Results.Ok(found) : Results.NotFound()"
              (by rw [String.empty_append])
        | list | count => exact Member.contains_append "Results.Ok(" _ ")"
        | identifier => exact Member.contains_append _ _ ")"
        | flag =>
            exact Member.contains_of_eq "" " ? Results.NoContent() : Results.NotFound()"
              (by rw [String.empty_append])
      · cases u.fields <;> decide
  | controllers =>
      refine ⟨u.fields.controllerArguments, ⟨indentLine ("var result = "
        ++ u.send "_sender" u.fields.controllerArguments ++ ";"), ?_, ?_⟩, ?_⟩
      · simp [UseCase.exposureBlock, UseCase.controllerBlock, braced, indentBlock]
      · refine Member.contains_indentBy "    " ?_
        exact contains_trans (Member.contains_append "var result = " _ ";") (hsent "_sender" _)
      · cases u.fields <;> decide

end Scaffold
