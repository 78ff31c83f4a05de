import Mathlib
import Scaffold.Template.Catalog
import Scaffold.Proofs.Text.Shape
import Scaffold.Proofs.Text.Lines

/-!
# Rendering, piece by piece

A template is read as pieces: characters that stay and slots.  Rendering replaces one variable
after another in the whole text; when no value holds a brace this is the same as filling every
slot where it stands (`foldl_replaceAll_unread`), so the order of the variables does not matter and a
variable without a slot has no influence.

Of the built-in templates it follows that rendering goes line by line (`render_source`), and
that the lines are plain.
-/

namespace Scaffold

open Scaffold.Text

/-! ## Pieces -/

/-- A part of a template. -/
inductive Piece where
  /-- A character that stays. -/
  | char (c : Char)
  /-- A slot for a variable. -/
  | slot (name : List Char)
deriving Repr, DecidableEq

namespace Piece

/-- A piece as it is written in a template. -/
def text : Piece → List Char
  | .char c => [c]
  | .slot name => '\x7b' :: '\x7b' :: (name ++ ['\x7d', '\x7d'])

/-- Pieces as they are written in a template. -/
def unread (ps : List Piece) : List Char := ps.flatMap text

/-- Read a template.  `skip` counts the characters of a slot that is already read. -/
def read (skip : Nat) : List Char → List Piece
  | [] => []
  | c :: cs =>
      match skip with
      | k + 1 => read k cs
      | 0 =>
          if c == '\x7b' && cs.head? == some '\x7b' then
            let name := (cs.drop 1).takeWhile (· != '\x7d')
            .slot name :: read (name.length + 3) cs
          else .char c :: read 0 cs

/-- Decide whether no brace that stays could be taken for the beginning of a slot. -/
def staysClear : List Piece → Bool
  | [] => true
  | .char c :: ps =>
      (c != '\x7b' || match ps with
        | [] => true
        | .char d :: _ => d != '\x7b'
        | .slot _ :: _ => false) && staysClear ps
  | .slot name :: ps =>
      !name.isEmpty && name.all (fun c => c != '\x7b' && c != '\x7d') && staysClear ps

/-- Fill one slot with a value. -/
def subst (name value : List Char) (ps : List Piece) : List Piece :=
  ps.flatMap fun
    | .char c => [.char c]
    | .slot n => if n = name then value.map .char else [.slot n]

end Piece

open Piece

@[simp] theorem unread_nil : unread [] = [] := rfl

@[simp] theorem unread_cons (p : Piece) (ps : List Piece) :
    unread (p :: ps) = p.text ++ unread ps := rfl

theorem unread_append (ps qs : List Piece) : unread (ps ++ qs) = unread ps ++ unread qs := by
  simp [unread]

theorem unread_map_char (cs : List Char) : unread (cs.map .char) = cs := by
  induction cs with
  | nil => rfl
  | cons c cs ih =>
      rw [List.map_cons, unread_cons, ih]
      rfl

/-! ## One variable -/

/-- A name that can stand in a slot. -/
def IsSlotName (name : List Char) : Prop := ∀ c ∈ name, c ≠ '\x7b' ∧ c ≠ '\x7d'

instance (name : List Char) : Decidable (IsSlotName name) :=
  List.decidableBAll (fun c => c ≠ '\x7b' ∧ c ≠ '\x7d') name

/-- The characters of an occurrence that is replaced are passed over. -/
theorem replaceFrom_skip (needle value : List Char) {front : List Char} {k : Nat}
    (hk : front.length = k) (rest : List Char) :
    replaceFrom needle value k (front ++ rest) = replaceFrom needle value 0 rest := by
  induction front generalizing k with
  | nil =>
      subst hk
      rfl
  | cons c front ih =>
      obtain ⟨j, rfl⟩ : ∃ j, k = j + 1 := ⟨front.length, hk.symm⟩
      exact ih (by simpa using hk)

/-- A character that does not begin an occurrence stays. -/
theorem replaceFrom_keep {needle value : List Char} {c : Char} {rest : List Char}
    (h : needle.isPrefixOf (c :: rest) = false) :
    replaceFrom needle value 0 (c :: rest) = c :: replaceFrom needle value 0 rest := by
  simp [replaceFrom, h]

/-- A text without opening braces stays. -/
theorem replaceFrom_keep_all {name value front : List Char} (h : '\x7b' ∉ front)
    (rest : List Char) :
    replaceFrom (Piece.slot name).text value 0 (front ++ rest)
      = front ++ replaceFrom (Piece.slot name).text value 0 rest := by
  induction front with
  | nil => rfl
  | cons c front ih =>
      rw [List.mem_cons, not_or] at h
      have hne : ('\x7b' == c) = false := by simpa using h.1
      rw [List.cons_append, replaceFrom_keep (by simp [Piece.text, List.isPrefixOf, hne]), ih h.2]
      rfl

/-- Two slots that begin at one place are of one name. -/
theorem eq_of_prefix_slot {m n tail : List Char} (hm : IsSlotName m) (hn : IsSlotName n)
    (h : m ++ ['\x7d', '\x7d'] <+: n ++ '\x7d' :: '\x7d' :: tail) : m = n := by
  induction m generalizing n with
  | nil =>
      cases n with
      | nil => rfl
      | cons d n =>
          rw [List.nil_append, List.cons_append, List.cons_prefix_cons] at h
          exact absurd h.1.symm (hn d List.mem_cons_self).2
  | cons c m ih =>
      cases n with
      | nil =>
          rw [List.nil_append, List.cons_append, List.cons_prefix_cons] at h
          exact absurd h.1 (hm c List.mem_cons_self).2
      | cons d n =>
          rw [List.cons_append, List.cons_append, List.cons_prefix_cons] at h
          rw [h.1, ih (fun e he => hm e (List.mem_cons_of_mem _ he))
            (fun e he => hn e (List.mem_cons_of_mem _ he)) h.2]

/-- What the check of a slot says. -/
theorem staysClear_slot {name : List Char} {ps : List Piece}
    (h : staysClear (.slot name :: ps) = true) :
    name ≠ [] ∧ IsSlotName name ∧ staysClear ps = true := by
  simp only [staysClear, Bool.and_eq_true, Bool.not_eq_true', List.isEmpty_eq_false_iff,
    List.all_eq_true, bne_iff_ne] at h
  exact ⟨h.1.1, h.1.2, h.2⟩

/-- A character of a clear template does not begin an occurrence of a slot. -/
theorem not_slot_prefix_of_char {c : Char} {ps : List Piece} {name : List Char}
    (h : staysClear (.char c :: ps) = true) :
    (Piece.slot name).text.isPrefixOf (c :: unread ps) = false := by
  by_cases hc : c = '\x7b'
  · subst hc
    cases ps with
    | nil => simp [Piece.text, List.isPrefixOf]
    | cons p ps =>
        cases p with
        | slot n => simp [staysClear] at h
        | char d =>
            have hd : d ≠ '\x7b' := by
              simp only [staysClear, bne_self_eq_false, Bool.false_or, Bool.and_eq_true,
                bne_iff_ne] at h
              exact h.1
            have hbeq : ('\x7b' == d) = false := by simpa using Ne.symm hd
            simp [Piece.text, List.isPrefixOf, hbeq]
  · have hbeq : ('\x7b' == c) = false := by simpa using Ne.symm hc
    simp [Piece.text, List.isPrefixOf, hbeq]

/-- A slot of another name does not begin where a slot does. -/
theorem not_slot_prefix_of_slot {m n : List Char} (hm : IsSlotName m) (hn : IsSlotName n) (hmn : n ≠ m)
    (rest : List Char) : (Piece.slot m).text.isPrefixOf ((Piece.slot n).text ++ rest) = false := by
  rw [Bool.eq_false_iff]
  intro hpre
  rw [List.isPrefixOf_iff_prefix] at hpre
  simp only [Piece.text, List.cons_append, List.cons_prefix_cons, true_and,
    List.append_assoc, List.nil_append] at hpre
  exact hmn (eq_of_prefix_slot hm hn hpre).symm

/-- Behind the two braces of a slot there is none that opens. -/
theorem not_mem_slot_tail {n : List Char} (hn : IsSlotName n) : '\x7b' ∉ n ++ ['\x7d', '\x7d'] := by
  rw [List.mem_append, not_or]
  exact ⟨fun hmem => (hn _ hmem).1 rfl, by decide⟩

/-- No slot begins at the second brace of a slot. -/
theorem not_slot_prefix_of_brace {n : List Char} (hn : IsSlotName n) (m rest : List Char) :
    (Piece.slot m).text.isPrefixOf ('\x7b' :: ((n ++ ['\x7d', '\x7d']) ++ rest)) = false := by
  have hclear := not_mem_slot_tail hn
  obtain ⟨d, others, hparts⟩ := List.exists_cons_of_ne_nil (l := n ++ ['\x7d', '\x7d']) (by simp)
  rw [hparts, List.mem_cons, not_or] at hclear
  have hd : ('\x7b' == d) = false := by simpa using hclear.1
  simp [hparts, Piece.text, List.isPrefixOf, hd]

/-- A slot of another name stays. -/
theorem replaceFrom_other_slot {m n value : List Char} (hm : IsSlotName m) (hn : IsSlotName n)
    (hmn : n ≠ m) (rest : List Char) :
    replaceFrom (Piece.slot m).text value 0 ((Piece.slot n).text ++ rest)
      = (Piece.slot n).text ++ replaceFrom (Piece.slot m).text value 0 rest := by
  calc replaceFrom (Piece.slot m).text value 0 ((Piece.slot n).text ++ rest)
      = '\x7b' :: replaceFrom (Piece.slot m).text value 0
          ('\x7b' :: ((n ++ ['\x7d', '\x7d']) ++ rest)) :=
        replaceFrom_keep (not_slot_prefix_of_slot hm hn hmn rest)
    _ = '\x7b' :: '\x7b' :: replaceFrom (Piece.slot m).text value 0
          ((n ++ ['\x7d', '\x7d']) ++ rest) := by
        rw [replaceFrom_keep (not_slot_prefix_of_brace hn m rest)]
    _ = _ := by
        rw [replaceFrom_keep_all (not_mem_slot_tail hn)]
        rfl

/-- An occurrence is replaced. -/
theorem replaceFrom_same_slot (name value rest : List Char) :
    replaceFrom (Piece.slot name).text value 0 ((Piece.slot name).text ++ rest)
      = value ++ replaceFrom (Piece.slot name).text value 0 rest := by
  have hprefix : (Piece.slot name).text.isPrefixOf ((Piece.slot name).text ++ rest) = true := by
    rw [List.isPrefixOf_iff_prefix]
    exact List.prefix_append _ _
  have hlen : ('\x7b' :: (name ++ ['\x7d', '\x7d'])).length = (Piece.slot name).text.length - 1 := by
    simp [Piece.text]
  conv_lhs => rw [show (Piece.slot name).text ++ rest
    = '\x7b' :: ('\x7b' :: (name ++ ['\x7d', '\x7d']) ++ rest) from rfl, replaceFrom]
  exact (if_pos hprefix).trans (congrArg (value ++ ·) (replaceFrom_skip _ _ hlen rest))

/-- Replacing a variable fills its slots. -/
theorem replaceFrom_unread {name value : List Char} (hname : IsSlotName name) {ps : List Piece}
    (h : staysClear ps = true) :
    replaceFrom (Piece.slot name).text value 0 (unread ps) = unread (subst name value ps) := by
  induction ps with
  | nil => rfl
  | cons p ps ih =>
      cases p with
      | char c =>
          have hps : staysClear ps = true := by
            simp only [staysClear, Bool.and_eq_true] at h
            exact h.2
          calc replaceFrom (Piece.slot name).text value 0 (c :: unread ps)
              = c :: replaceFrom (Piece.slot name).text value 0 (unread ps) :=
                replaceFrom_keep (not_slot_prefix_of_char h)
            _ = _ := by
                rw [ih hps]
                rfl
      | slot n =>
          obtain ⟨-, hn, hps⟩ := staysClear_slot h
          rw [unread_cons]
          by_cases hnm : n = name
          · subst hnm
            rw [replaceFrom_same_slot, ih hps]
            simp [subst, unread_append, unread_map_char]
          · rw [replaceFrom_other_slot hname hn hnm, ih hps]
            simp [subst, hnm]

/-- Characters that are no braces can stand before a clear template. -/
theorem staysClear_map_append {value : List Char} (hvalue : '\x7b' ∉ value) {ps : List Piece}
    (h : staysClear ps = true) : staysClear (value.map .char ++ ps) = true := by
  induction value with
  | nil => exact h
  | cons c value ih =>
      rw [List.mem_cons, not_or] at hvalue
      have hc : (c != '\x7b') = true := by simpa using Ne.symm hvalue.1
      simp only [List.map_cons, List.cons_append, staysClear, hc, Bool.true_or, Bool.true_and]
      exact ih hvalue.2

/-- Filling slots with values that hold no brace leaves a template clear. -/
theorem staysClear_subst {name value : List Char} (hvalue : '\x7b' ∉ value) {ps : List Piece}
    (h : staysClear ps = true) : staysClear (subst name value ps) = true := by
  induction ps with
  | nil => rfl
  | cons p ps ih =>
      cases p with
      | slot n =>
          simp only [staysClear, Bool.and_eq_true] at h
          have hrest := ih h.2
          by_cases hn : n = name
          · simpa [subst, hn] using staysClear_map_append hvalue hrest
          · have hself : subst name value (.slot n :: ps) = .slot n :: subst name value ps := by
              simp [subst, hn]
            rw [hself]
            simp only [staysClear, Bool.and_eq_true]
            exact ⟨h.1, hrest⟩
      | char c =>
          simp only [staysClear, Bool.and_eq_true] at h
          have hrest := ih h.2
          have hself : subst name value (.char c :: ps) = .char c :: subst name value ps := rfl
          rw [hself]
          simp only [staysClear, Bool.and_eq_true]
          refine ⟨?_, hrest⟩
          cases ps with
          | nil => exact h.1
          | cons q ps =>
              cases q with
              | char d => exact h.1
              | slot n =>
                  have hc : (c != '\x7b') = true := by simpa using h.1
                  rw [hc]
                  rfl

/-! ## All variables -/

theorem toList_slot (name : String) : (Scaffold.slot name).toList = (Piece.slot name.toList).text := by
  simp [Scaffold.slot, Piece.text]

/-- A template without braces stays. -/
theorem Context.render_of_not_mem (ctx : Context) {source : String} (h : '\x7b' ∉ source.toList) :
    ctx.render source = source := by
  unfold render
  induction ctx.environment with
  | nil => rfl
  | cons entry env ih =>
      obtain ⟨name, value⟩ := entry
      have hkeep : replaceAll source (Scaffold.slot name) value = source := by
        have hall : replaceFrom (Piece.slot name.toList).text value.toList 0 (source.toList ++ [])
            = source.toList ++ replaceFrom (Piece.slot name.toList).text value.toList 0 [] :=
          replaceFrom_keep_all h []
        rw [List.append_nil, replaceFrom, List.append_nil] at hall
        rw [replaceAll, toList_slot, hall, String.ofList_toList]
      rw [List.foldl_cons]
      simp only [hkeep]
      exact ih

namespace Context

/-- The value of a variable, by characters. -/
def value (ctx : Context) (name : List Char) : Option (List Char) :=
  (ctx.environment.lookup (String.ofList name)).map String.toList

/-- A piece with its slot filled; a slot without a value stays. -/
def fillPiece (ctx : Context) : Piece → List Char
  | .char c => [c]
  | .slot name => (ctx.value name).getD (Piece.slot name).text

/-- A line of a template with its slots filled. -/
def fill (ctx : Context) (line : String) : String :=
  String.ofList ((read 0 line.toList).flatMap ctx.fillPiece)

/-- A context whose values are dotted. -/
def Dotted (ctx : Context) : Prop :=
  ∀ entry ∈ ctx.environment, IsSlotName entry.1.toList ∧ Made isDottedChar entry.2

end Context

theorem Made.no_brace {s : String} (h : Made isDottedChar s) : '\x7b' ∉ s.toList :=
  h.not_mem (by decide)

/-- Replacing every variable in turn fills every slot. -/
theorem foldl_replaceAll_unread {env : List (String × String)}
    (henv : ∀ entry ∈ env, IsSlotName entry.1.toList ∧ '\x7b' ∉ entry.2.toList)
    {ps : List Piece} (h : staysClear ps = true) (project : String) :
    (env.foldl (fun text (name, value) => replaceAll text (slot name) value)
      (String.ofList (unread ps))).toList
      = ps.flatMap (Context.mk project env).fillPiece := by
  induction env generalizing ps with
  | nil =>
      rw [List.foldl_nil, String.toList_ofList]
      refine List.flatMap_congr fun p _ => ?_
      cases p <;> simp [Context.fillPiece, Context.value, Piece.text]
  | cons entry env ih =>
      obtain ⟨name, value⟩ := entry
      obtain ⟨hname, hvalue⟩ := henv _ List.mem_cons_self
      have hone : replaceAll (String.ofList (unread ps)) (slot name) value
          = String.ofList (unread (subst name.toList value.toList ps)) := by
        rw [replaceAll, toList_slot, String.toList_ofList, replaceFrom_unread hname h]
      simp only [List.foldl_cons]
      rw [hone, ih (fun e he => henv e (List.mem_cons_of_mem _ he))
        (staysClear_subst hvalue h), subst, List.flatMap_assoc]
      refine List.flatMap_congr fun p _ => ?_
      cases p with
      | char c => simp [Context.fillPiece]
      | slot n =>
          by_cases hn : n = name.toList
          · have hkey : (String.ofList n == name) = true := by simp [hn]
            simp [Context.fillPiece, Context.value, hn, List.flatMap_map]
          · have hkey : (String.ofList n == name) = false := by
              rw [beq_eq_false_iff_ne]
              intro heq
              exact hn (by rw [← heq, String.toList_ofList])
            simp [Context.fillPiece, Context.value, List.lookup_cons, hkey, hn]

/-! ## The built-in templates -/

/-- The variables a built-in template shows. -/
def Template.slots : Template → List String
  | .manifest => ["SDK", "MODULE_NAME"]
  | .enumType | .applicationWiring | .infrastructureWiring => ["PROJECT_NAME"]
  | .entryPointRoutes | .entryPointControllers | .compose => []
  | .entity | .persistenceMapping | .dbContext | .repositoryContract | .repositoryImpl
  | .endpoints | .controller => ["PROJECT_NAME", "ENTITY", "ENTITY_PLURAL", "ENTITY_PLURAL_KEBAB"]
  | .constants => ["PROJECT_NAME", "CLASS_NAME"]
  | .useCaseRequest | .useCaseHandler | .useCaseValidator => ["PROJECT_NAME", "NAMESPACE"]
  | .serviceContract | .serviceImpl | .serviceCacheImpl | .serviceBrokerImpl =>
      ["SERVICE_NAME", "NAMESPACE", "CONTRACT_NAMESPACE"]

/-- The variable no built-in template shows. -/
def yearName : List Char := ['Y', 'E', 'A', 'R']

/-- Decide whether a line is read as it is written, is clear, and shows only the given
variables. -/
def isWellRead (names : List (List Char)) (cs : List Char) : Bool :=
  unread (read 0 cs) == cs && staysClear (read 0 cs)
    && ((read 0 cs).all fun
        | .char _ => true
        | .slot name => names.contains name && name != yearName)
    && cs.all fun c => c != '\n' && c != '\r'

/-- Every line of every built-in template is well read. -/
theorem lines_isWellRead (t : Template) :
    ∀ l ∈ t.lines, isWellRead (t.slots.map String.toList) l.toList = true := by
  cases t <;>
  simp only [Template.lines, Template.slots, List.map_cons, List.map_nil, Template.manifestLines,
    Template.entityLines, Template.enumTypeLines,
    Template.constantsLines, Template.persistenceMappingLines, Template.dbContextLines,
    Template.repositoryContractLines, Template.repositoryImplLines, Template.useCaseRequestLines,
    Template.useCaseHandlerLines, Template.useCaseValidatorLines, Template.applicationWiringLines,
    Template.infrastructureWiringLines, Template.endpointsLines, Template.controllerLines,
    Template.entryPointRoutesLines, Template.entryPointControllersLines,
    Template.serviceContractLines, Template.serviceImplLines, Template.serviceCacheImplLines,
    Template.serviceBrokerImplLines, Template.composeLines, Template.project, Template.entityName,
    Template.entityPlural, Template.entityPluralKebab, Template.space, Template.contractSpace,
    Template.service, Template.sdk, Template.moduleName, Template.className, slot,
    List.forall_mem_cons, String.toList_append, List.not_mem_nil, false_imp_iff, implies_true] <;>
  (repeat rw [String.toList_ofList]) <;>
  decide +kernel

/-- What the check of a line says. -/
theorem isWellRead_iff {names : List (List Char)} {cs : List Char}
    (h : isWellRead names cs = true) :
    unread (read 0 cs) = cs ∧ staysClear (read 0 cs) = true
      ∧ (∀ name, .slot name ∈ read 0 cs → name ∈ names ∧ name ≠ yearName)
      ∧ ∀ c ∈ cs, c ≠ '\n' ∧ c ≠ '\r' := by
  simp only [isWellRead, Bool.and_eq_true, beq_iff_eq, List.all_eq_true, bne_iff_ne] at h
  refine ⟨h.1.1.1, h.1.1.2, fun name hname => ?_, h.2⟩
  simpa using h.1.2 _ hname

/-- A line feed separates clear templates. -/
theorem staysClear_append_lf {ps qs : List Piece} (hp : staysClear ps = true)
    (hq : staysClear qs = true) : staysClear (ps ++ .char '\n' :: qs) = true := by
  induction ps with
  | nil => simpa [staysClear] using hq
  | cons p ps ih =>
      cases p with
      | slot n =>
          simp only [staysClear, Bool.and_eq_true] at hp
          simp only [List.cons_append, staysClear, Bool.and_eq_true]
          exact ⟨hp.1, ih hp.2⟩
      | char c =>
          simp only [staysClear, Bool.and_eq_true] at hp
          simp only [List.cons_append, staysClear, Bool.and_eq_true]
          refine ⟨?_, ih hp.2⟩
          cases ps with
          | nil => simp
          | cons q ps => cases q <;> exact hp.1

/-- The pieces of lines that each end with a line feed. -/
def readLines (ls : List String) : List Piece := ls.flatMap fun l => read 0 l.toList ++ [.char '\n']

theorem unread_readLines {names : List (List Char)} {ls : List String}
    (h : ∀ l ∈ ls, isWellRead names l.toList = true) :
    unread (readLines ls) = (unlines ls).toList := by
  rw [toList_unlines, readLines, unread, List.flatMap_assoc]
  refine List.flatMap_congr fun l hl => ?_
  have hread := (isWellRead_iff (h l hl)).1
  rw [List.flatMap_append]
  exact congrArg (· ++ ['\n']) hread

theorem staysClear_readLines {names : List (List Char)} {ls : List String}
    (h : ∀ l ∈ ls, isWellRead names l.toList = true) :
    staysClear (readLines ls) = true := by
  induction ls with
  | nil => rfl
  | cons l ls ih =>
      have hl := (isWellRead_iff (h l List.mem_cons_self)).2.1
      have hls := ih fun m hm => h m (List.mem_cons_of_mem _ hm)
      have hcons : readLines (l :: ls) = read 0 l.toList ++ .char '\n' :: readLines ls := by
        simp [readLines]
      rw [hcons]
      exact staysClear_append_lf hl hls

/-- A built-in template is read line by line. -/
theorem source_eq_readLines (t : Template) : t.source = String.ofList (unread (readLines t.lines)) := by
  rw [unread_readLines (lines_isWellRead t), String.ofList_toList]
  rfl

/-- A built-in template is rendered line by line. -/
theorem render_source {ctx : Context} (h : ctx.Dotted) (t : Template) :
    ctx.render t.source = unlines (t.lines.map ctx.fill) := by
  have hlines := lines_isWellRead t
  apply String.toList_inj.1
  have hclear : ∀ entry ∈ ctx.environment, IsSlotName entry.1.toList ∧ '\x7b' ∉ entry.2.toList :=
    fun entry hentry => ⟨(h entry hentry).1, (h entry hentry).2.no_brace⟩
  rw [source_eq_readLines, Context.render,
    foldl_replaceAll_unread hclear (staysClear_readLines hlines) ctx.project,
    toList_unlines, readLines, List.flatMap_assoc, List.flatMap_map]
  refine List.flatMap_congr fun l _ => ?_
  rw [List.flatMap_append, Context.fill, String.toList_ofList]
  rfl

/-- A filled line of a built-in template is plain. -/
theorem isPlain_fill {ctx : Context} (h : ctx.Dotted) {t : Template} {l : String}
    (hl : l ∈ t.lines) : IsPlain (ctx.fill l) := by
  obtain ⟨hread, -, -, hchars⟩ := isWellRead_iff (lines_isWellRead t l hl)
  have key : ∀ c ∈ (ctx.fill l).toList, c ≠ '\n' ∧ c ≠ '\r' := by
    intro c hc
    rw [Context.fill, String.toList_ofList, List.mem_flatMap] at hc
    obtain ⟨p, hp, hc⟩ := hc
    have hstay : c ∈ p.text → c ≠ '\n' ∧ c ≠ '\r' := by
      intro hmem
      refine hchars c ?_
      rw [← hread]
      exact List.mem_flatMap.2 ⟨p, hp, hmem⟩
    cases p with
    | char d => exact hstay hc
    | slot n =>
        cases hv : ctx.value n with
        | none =>
            simp only [Context.fillPiece, hv, Option.getD_none] at hc
            exact hstay hc
        | some v =>
            simp only [Context.fillPiece, hv, Option.getD_some] at hc
            obtain ⟨s, hs, rfl⟩ := Option.map_eq_some_iff.1 hv
            obtain ⟨before, after, hsplit, -⟩ := List.lookup_eq_some_iff.1 hs
            have hmade := (h (String.ofList n, s) (by simp [hsplit])).2
            refine ⟨?_, ?_⟩
            · rintro rfl
              exact hmade.not_mem (by decide) hc
            · rintro rfl
              exact hmade.not_mem (by decide) hc
  exact ⟨fun hc => (key _ hc).1 rfl, fun hc => (key _ hc).2 rfl⟩

/-! ## Shapes of lines -/

/-- The slots for names; those of the other variables hold dotted texts. -/
def nameSlots : List (List Char) :=
  [['E', 'N', 'T', 'I', 'T', 'Y'],
   ['E', 'N', 'T', 'I', 'T', 'Y', '_', 'P', 'L', 'U', 'R', 'A', 'L'],
   ['S', 'E', 'R', 'V', 'I', 'C', 'E', '_', 'N', 'A', 'M', 'E'],
   ['C', 'L', 'A', 'S', 'S', '_', 'N', 'A', 'M', 'E']]

/-- What may stand in a slot. -/
def slotKind (name : List Char) : CharKind :=
  if nameSlots.contains name then .name else .dotted

/-- The shape of the lines a template line is filled to. -/
def shapeOfLine (ps : List Piece) : List Atom := ps.map fun
  | .char c => .char c
  | .slot name => .some (slotKind name)

/-- A context that has a value of the right kind for every slot of a template. -/
def Context.Suits (ctx : Context) (t : Template) : Prop :=
  ∀ l ∈ t.lines, ∀ name, Piece.slot name ∈ read 0 l.toList →
    ∃ v, ctx.value name = some v ∧ ∀ c ∈ v, (slotKind name).has c = true

/-- A context suits a template if it has a value for each variable the template shows. -/
theorem suits_of_slots {ctx : Context} {t : Template}
    (h : ∀ name ∈ t.slots, ∃ v, ctx.get? name = some v
      ∧ ∀ c ∈ v.toList, (slotKind name.toList).has c = true) : ctx.Suits t := by
  intro l hl name hname
  obtain ⟨hmem, -⟩ := (isWellRead_iff (lines_isWellRead t l hl)).2.2.1 name hname
  obtain ⟨slotName, hslot, rfl⟩ := List.mem_map.1 hmem
  obtain ⟨v, hv, hkind⟩ := h slotName hslot
  refine ⟨v.toList, ?_, hkind⟩
  have : ctx.environment.lookup slotName = some v := hv
  simp [Context.value, this]

/-- A filled line has the shape of its line. -/
theorem shaped_fill {ctx : Context} {t : Template} (h : ctx.Suits t) {l : String} (hl : l ∈ t.lines)
    (name : String) : Shaped name (shapeOfLine (read 0 l.toList)) (ctx.fill l) := by
  have hslots := h l hl
  unfold Shaped Context.fill
  rw [String.toList_ofList]
  generalize read 0 l.toList = ps at hslots
  induction ps with
  | nil => exact .nil
  | cons p ps ih =>
      have hrest := ih fun name hname => hslots name (List.mem_cons_of_mem _ hname)
      cases p with
      | char c => exact .char c hrest
      | slot name =>
          obtain ⟨v, hv, hkind⟩ := hslots name List.mem_cons_self
          have hfill : ctx.fillPiece (.slot name) = v := by simp [Context.fillPiece, hv]
          rw [List.flatMap_cons, hfill]
          exact .some (slotKind name) hkind hrest

/-! ## Contexts -/

namespace Context

/-- Two contexts that differ at most in the year. -/
def Alike (a b : Context) : Prop :=
  ∀ name, name ≠ "YEAR" → a.environment.lookup name = b.environment.lookup name

theorem lookup_assign (name value key : String) (env : List (String × String)) :
    (assign name value env).lookup key = if key = name then some value else env.lookup key := by
  induction env with
  | nil =>
      by_cases h : key = name <;> simp [assign, h]
  | cons entry env ih =>
      obtain ⟨n, v⟩ := entry
      unfold assign
      by_cases hn : n = name
      · subst hn
        by_cases hk : key = n
        · simp [hk]
        · have hbeq : (key == n) = false := by simpa using hk
          simp [List.lookup_cons, hbeq, hk]
      · rw [if_neg hn]
        by_cases hk : key = n
        · subst hk
          simp [hn]
        · have hbeq : (key == n) = false := by simpa using hk
          simp [List.lookup_cons, hbeq, ih]

theorem Alike.set {a b : Context} (h : Alike a b) (name value : String) :
    Alike (a.set name value) (b.set name value) := by
  intro key hkey
  simp only [Context.set, lookup_assign, h key hkey]

theorem Alike.withFeature {a b : Context} (h : Alike a b) (f : Feature) :
    Alike (a.withFeature f) (b.withFeature f) :=
  (((h.set _ _).set _ _).set _ _).set _ _

theorem ofProject_alike (year year' : Nat) (project : String) :
    Alike (ofProject year project) (ofProject year' project) := by
  intro key hkey
  have hyear : (key == "YEAR") = false := by simpa using hkey
  simp [ofProject, List.lookup_cons, hyear]

/-- A line is filled by the values of the variables it shows. -/
theorem fill_congr {a b : Context} {l : String}
    (h : ∀ name, .slot name ∈ read 0 l.toList → a.value name = b.value name) : a.fill l = b.fill l := by
  rw [fill, fill]
  congr 1
  refine List.flatMap_congr fun p hp => ?_
  cases p with
  | char c => rfl
  | slot name => simp only [fillPiece, h name hp]

/-- A line that does not show the year is filled alike. -/
theorem fill_alike {a b : Context} (h : Alike a b) {t : Template} {l : String} (hl : l ∈ t.lines) :
    a.fill l = b.fill l := by
  obtain ⟨-, -, hslots, -⟩ := isWellRead_iff (lines_isWellRead t l hl)
  refine fill_congr fun name hname => ?_
  have hyear : String.ofList name ≠ "YEAR" := by
    intro heq
    refine (hslots _ hname).2 ?_
    have : name = "YEAR".toList := by rw [← heq, String.toList_ofList]
    rw [this]
    rfl
  rw [value, value, h _ hyear]

/-- A value that is set is dotted if the value is. -/
theorem Dotted.set {ctx : Context} (h : ctx.Dotted) {name value : String}
    (hname : IsSlotName name.toList) (hvalue : Made isDottedChar value) :
    (ctx.set name value).Dotted := by
  have key : ∀ {env : List (String × String)},
      (∀ e ∈ env, IsSlotName e.1.toList ∧ Made isDottedChar e.2) →
      ∀ e ∈ assign name value env, IsSlotName e.1.toList ∧ Made isDottedChar e.2 := by
    intro env
    induction env with
    | nil =>
        intro _ e he
        rw [assign, List.mem_singleton] at he
        subst he
        exact ⟨hname, hvalue⟩
    | cons entry env ih =>
        intro henv e he
        unfold assign at he
        split at he
        · rcases List.mem_cons.1 he with rfl | he
          · exact ⟨hname, hvalue⟩
          · exact henv e (List.mem_cons_of_mem _ he)
        · rcases List.mem_cons.1 he with rfl | he
          · exact henv _ List.mem_cons_self
          · exact ih (fun e he => henv e (List.mem_cons_of_mem _ he)) e he
  exact key h

/-- The variables of a project are dotted. -/
theorem ofProject_dotted (year : Nat) {project : String} (h : IsProject project) :
    (ofProject year project).Dotted := by
  have hyear : Made isDottedChar (toString year) := by
    intro c hc
    have hdigit : c.isDigit = true := by
      rw [Nat.toString_eq_ofList_toDigits, String.toList_ofList] at hc
      exact Nat.isDigit_of_mem_toDigits (by omega) (by omega) hc
    simp [isDottedChar, Char.isAlphanum, hdigit]
  intro entry hmem
  simp only [ofProject, List.mem_cons, List.not_mem_nil, or_false] at hmem
  rcases hmem with rfl | rfl | rfl
  · exact ⟨by rw [String.toList_ofList]; decide, h.dotted⟩
  · exact ⟨by rw [String.toList_ofList]; decide, h.kebabCase⟩
  · exact ⟨by rw [String.toList_ofList]; decide, hyear⟩

end Context

end Scaffold
