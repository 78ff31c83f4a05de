import Mathlib
import Scaffold.Proofs.Contents

/-!
# Repositories

The methods of a repository are read off the lines of a file (`readMethod?`).  Both its files are
filled with the methods that were ordered, the first one of each name (`methodsOf`), so the interface
and the class show the same methods in the same order (`Reached.methods`), and no name twice
(`Run.repository_agrees`).
-/

namespace Scaffold

open Scaffold.Path (components)
open Scaffold.Text

/-! ## Reading methods -/

/-- A method as a line shows it. -/
structure MethodText where
  /-- The name, without the `Async` it is declared under. -/
  name : String
  /-- The text from the return type to the closing parenthesis. -/
  signature : String
deriving Repr, DecidableEq

/-- The text of a line from the return type to the first closing parenthesis. -/
def signatureText (line : String) : String :=
  let cs := line.toList.dropWhile isBlank
  let cs := (dropStart? "public async ".toList cs).getD cs
  String.ofList (cs.takeWhile (· != ')') ++ [')'])

/-- The method a line shows: before its first parenthesis stands a name that ends in `Async`, behind
a space. -/
def readMethod? (line : String) : Option MethodText :=
  match dropTail? "Async".toList (line.toList.takeWhile (· != '(')) with
  | none => none
  | some cs =>
      let name := (cs.reverse.takeWhile Char.isAlphanum).reverse
      if name ≠ [] ∧ (cs.reverse.dropWhile Char.isAlphanum).head? = some ' ' ∧ '(' ∈ line.toList then
        some ⟨String.ofList name, signatureText line⟩
      else none

example : readMethod? "    Task<bool> UpdateAsync(Invoice entity, CancellationToken token = default);"
    = some ⟨"Update", "Task<bool> UpdateAsync(Invoice entity, CancellationToken token = default)"⟩ := by
  decide
example : readMethod? "        return await _context.SaveChangesAsync(cancellationToken) > 0;" = none := by
  decide

theorem takeWhile_append_stop {α : Type} {p : α → Bool} {xs : List α} {y : α} (ys : List α)
    (hxs : ∀ x ∈ xs, p x = true) (hy : p y = false) : (xs ++ y :: ys).takeWhile p = xs := by
  rw [List.takeWhile_append_of_pos hxs, List.takeWhile_cons_of_neg (by simp [hy]), List.append_nil]

theorem dropWhile_append_stop {α : Type} {p : α → Bool} {xs : List α} {y : α} (ys : List α)
    (hxs : ∀ x ∈ xs, p x = true) (hy : p y = false) : (xs ++ y :: ys).dropWhile p = y :: ys := by
  rw [List.dropWhile_append_of_pos hxs, List.dropWhile_cons_of_neg (by simp [hy])]

/-- A line that shows a method has its detection. -/
theorem readMethod?_eq_some {line : String} {t : MethodText} (h : readMethod? line = some t) :
    IsName t.name ∧ contains line (Detection.repositoryMethod t.name) = true := by
  unfold readMethod? at h
  split at h
  · cases h
  next cs hcs =>
    dsimp only at h
    split at h
    next hcond =>
      cases h
      obtain ⟨hne, hspace, hparen⟩ := hcond
      rw [dropTail?_eq_some] at hcs
      have hname : Made Char.isAlphanum
          (String.ofList (cs.reverse.takeWhile Char.isAlphanum).reverse) := by
        intro c hc
        rw [String.toList_ofList, List.mem_reverse] at hc
        exact List.mem_takeWhile_imp hc
      refine ⟨⟨by simpa using hne, hname⟩, ?_⟩
      -- the line is what comes before the blank, the name, `Async(` and the rest
      obtain ⟨start, hstart⟩ : ∃ start, cs.reverse.dropWhile Char.isAlphanum = ' ' :: start :=
        List.head?_eq_some_iff.1 hspace
      have hcs' : cs = start.reverse ++ ' ' :: (cs.reverse.takeWhile Char.isAlphanum).reverse := by
        have := List.takeWhile_append_dropWhile (p := Char.isAlphanum) (l := cs.reverse)
        rw [hstart] at this
        rw [← List.reverse_inj, List.reverse_append, List.reverse_cons, List.reverse_reverse,
          List.reverse_reverse, List.append_assoc, List.singleton_append, this]
      obtain ⟨rest, hrest⟩ : ∃ rest, line.toList.dropWhile (· != '(') = '(' :: rest := by
        cases hdrop : line.toList.dropWhile (· != '(') with
        | nil =>
            have := List.dropWhile_eq_nil_iff.1 hdrop _ hparen
            simp at this
        | cons c rest =>
            have := List.head?_dropWhile_not (· != '(') line.toList
            rw [hdrop] at this
            simp at this
            exact ⟨rest, by rw [this]⟩
      have hline := List.takeWhile_append_dropWhile (p := (· != '(')) (l := line.toList)
      rw [hcs, hrest, hcs'] at hline
      rw [contains, occursIn_iff]
      refine ⟨start.reverse, rest, ?_⟩
      rw [← hline]
      simp [Detection.repositoryMethod]
    · cases h

section

variable {m : RepositoryMethod} {entity indent start : String}

/-- The characters of a signature: the return type, the name, `Async` and the parameters. -/
theorem toList_signature (m : RepositoryMethod) (entity : String) :
    (m.signature entity).toList = ("Task<" ++ m.op.response.typeName entity ++ ">").toList
      ++ ' ' :: (m.name.toList ++ ("Async".toList ++ '(' :: ((m.op.parameters entity
        ++ "CancellationToken cancellationToken = default").toList ++ [')']))) := by
  simp [RepositoryMethod.signature]

theorem made_returnType (hentity : Made Char.isAlphanum entity) :
    Made isTypeChar ("Task<" ++ m.op.response.typeName entity ++ ">") :=
  Made.append (Made.append (by decide) (Member.made_typeName hentity _)) (by decide)

theorem made_parameters (hentity : Made Char.isAlphanum entity) :
    Made (· != ')') (m.op.parameters entity ++ "CancellationToken cancellationToken = default") := by
  have hletters : Made (· != ')') entity := hentity.mono fun c hc => by
    rw [bne_iff_ne]
    rintro rfl
    revert hc
    decide
  refine Made.append ?_ (by decide)
  unfold RowOperation.parameters
  cases m.op with
  | insert | modify => exact hletters.append (by decide)
  | _ =>
      dsimp only
      decide

/-- The signature of a method is read off its line. -/
theorem signatureText_signature (hm : IsName m.name) (hentity : Made Char.isAlphanum entity)
    (hindent : Anchor.IsIndent indent) (hstart : start = "" ∨ start = "public async ")
    (stop : String) :
    signatureText (indent ++ (start ++ m.signature entity ++ stop)) = m.signature entity := by
  have hparen : ∀ c, isTypeChar c = true → (c != ')') = true := by
    intro c hc
    rw [bne_iff_ne]
    rintro rfl
    revert hc
    decide
  obtain ⟨body, hbody, hsignature⟩ : ∃ body : List Char, (∀ c ∈ 'T' :: body, (c != ')') = true)
      ∧ (m.signature entity).toList = 'T' :: (body ++ [')']) := by
    refine ⟨"ask<".toList ++ (m.op.response.typeName entity).toList ++ '>' :: ' ' :: (m.name.toList
      ++ ("Async".toList ++ '(' :: (m.op.parameters entity
        ++ "CancellationToken cancellationToken = default").toList)), ?_, ?_⟩
    · have htype := (Member.made_typeName hentity m.op.response).mono hparen
      have hname : Made (· != ')') m.name :=
        hm.2.mono fun c hc => hparen c (by simp [isTypeChar, hc])
      have hparameters := made_parameters (m := m) hentity
      simp only [List.forall_mem_cons, List.forall_mem_append]
      exact ⟨by decide, ⟨(by decide : Made (· != ')') "ask<"), htype⟩, by decide, by decide, hname,
        (by decide : Made (· != ')') "Async"), by decide, hparameters⟩
    · rw [toList_signature]
      simp
  have hdrop : (indent ++ (start ++ m.signature entity ++ stop)).toList.dropWhile isBlank
      = start.toList ++ 'T' :: (body ++ ')' :: stop.toList) := by
    rcases hstart with rfl | rfl
    · rw [String.toList_append, String.toList_append, String.toList_append, hsignature]
      simpa using dropWhile_append_stop (p := isBlank) (y := 'T') (body ++ ')' :: stop.toList)
        hindent.blank (by decide)
    · rw [String.toList_append, String.toList_append, String.toList_append, hsignature]
      simpa using dropWhile_append_stop (p := isBlank) (y := 'p')
        ("ublic async ".toList ++ 'T' :: (body ++ ')' :: stop.toList)) hindent.blank (by decide)
  have hmodifiers : (dropStart? "public async ".toList
      (start.toList ++ 'T' :: (body ++ ')' :: stop.toList))).getD
        (start.toList ++ 'T' :: (body ++ ')' :: stop.toList)) = 'T' :: (body ++ ')' :: stop.toList) := by
    rcases hstart with rfl | rfl
    · rfl
    · rw [dropStart?_eq_some.2 rfl]
      rfl
  refine String.toList_injective ?_
  dsimp only [signatureText]
  rw [hdrop, hmodifiers, String.toList_ofList, hsignature, ← List.cons_append,
    takeWhile_append_stop _ hbody (by decide)]
  rfl

/-- A method is read off its line. -/
theorem readMethod?_signature (hm : IsName m.name) (hentity : Made Char.isAlphanum entity)
    (hindent : Anchor.IsIndent indent) (hstart : start = "" ∨ start = "public async ")
    (stop : String) : readMethod? (indent ++ (start ++ m.signature entity ++ stop))
      = some ⟨m.name, m.signature entity⟩ := by
  have hparen : ∀ c, isTypeChar c = true → (c != '(') = true := by
    intro c hc
    rw [bne_iff_ne]
    rintro rfl
    revert hc
    decide
  have htype := (made_returnType (m := m) hentity).mono hparen
  have hname : Made (· != '(') m.name := hm.2.mono fun c hc => hparen c (by simp [isTypeChar, hc])
  have hblank : Made (· != '(') indent := by
    intro c hc
    rw [bne_iff_ne]
    rintro rfl
    have := hindent.blank _ hc
    revert this
    decide
  have hmodifiers : Made (· != '(') start := by rcases hstart with rfl | rfl <;> decide
  have hline : (indent ++ (start ++ m.signature entity ++ stop)).toList
      = ((indent ++ start ++ ("Task<" ++ m.op.response.typeName entity ++ ">")).toList
          ++ ' ' :: m.name.toList ++ "Async".toList)
        ++ '(' :: ((m.op.parameters entity ++ "CancellationToken cancellationToken = default").toList
          ++ ')' :: stop.toList) := by
    rw [String.toList_append, String.toList_append, String.toList_append, toList_signature]
    simp
  have hbefore : ∀ c ∈ (indent ++ start ++ ("Task<" ++ m.op.response.typeName entity ++ ">")).toList
      ++ ' ' :: m.name.toList ++ "Async".toList, (c != '(') = true := by
    simp only [List.forall_mem_append, List.forall_mem_cons]
    exact ⟨⟨(hblank.append hmodifiers).append htype, by decide, hname⟩,
      (by decide : Made (· != '(') "Async")⟩
  have hletters : ∀ c ∈ m.name.toList.reverse, c.isAlphanum = true :=
    fun c hc => hm.2 c (List.mem_reverse.1 hc)
  unfold readMethod?
  rw [hline, takeWhile_append_stop _ hbefore (by decide), dropTail?_eq_some.2 rfl]
  dsimp only
  rw [List.reverse_append, List.reverse_cons, List.append_assoc, List.singleton_append,
    takeWhile_append_stop _ hletters (by decide), dropWhile_append_stop _ hletters (by decide),
    List.reverse_reverse, if_pos ⟨by simpa using hm.1, rfl, by simp⟩, String.ofList_toList,
    signatureText_signature hm hentity hindent hstart]

end

/-! ## Files of repositories -/

/-- A method as the files of an entity show it. -/
def RepositoryMethod.text (m : RepositoryMethod) (entity : String) : MethodText :=
  ⟨m.name, m.signature entity⟩

/-- What orders generate of an entity. -/
def generationsOf (entity : String) (os : List Order) : List Generation :=
  (os.filterMap Order.generation).filter (·.feature.name = entity)

/-- The methods that orders bring to the repository of an entity, each with the entity as it was
ordered, the first one of each name. -/
def methodsOf (entity : String) (os : List Order) : List (Feature × RepositoryMethod) :=
  firstsBy (·.2.name) ((generationsOf entity os).flatMap fun g => g.methods.map (g.feature, ·))

namespace RepositoryPart

variable {l : Locator} {f : Feature} {m : RepositoryMethod}

theorem detection_member (part : RepositoryPart) (f : Feature) (m : RepositoryMethod) :
    ((part.member f m).declaration l).detection = m.detection := by
  cases part <;> rfl

theorem kind_member (part : RepositoryPart) (f : Feature) (m : RepositoryMethod) :
    (part.member f m).kind = part.kind := by
  cases part <;> rfl

/-- No method is read off a line without a detection. -/
theorem readMethod?_of_isClear (part : RepositoryPart) (hf : f.WellNamed) {line : String}
    (h : IsClear l part.kind line) : readMethod? line = none := by
  cases hread : readMethod? line with
  | none => rfl
  | some t =>
      obtain ⟨hname, hfound⟩ := readMethod?_eq_some hread
      have hclear := h (part.member f ⟨t.name, .findOne⟩) (part.member_wellNamed hf hname)
        (part.kind_member f _)
      rw [detection_member] at hclear
      exact absurd (hfound.symm.trans hclear) (by decide)

/-- One method is read off the block of a method, however it is indented. -/
theorem filterMap_block (part : RepositoryPart) (hf : f.WellNamed) (hm : IsName m.name)
    {indent : String} (hindent : Anchor.IsIndent indent) :
    (((part.member f m).declaration l).block.map (Artifact.indentBy indent)).filterMap readMethod?
      = [m.text f.name] := by
  -- the first line of the block is a signature between two texts, and the others are quiet
  obtain ⟨start, stop, hstart, hhead⟩ : ∃ start stop, (start = "" ∨ start = "public async ")
      ∧ ((part.member f m).declaration l).block.head? = some (start ++ m.signature f.name ++ stop) := by
    cases part with
    | contract => exact ⟨"", ";", .inl rfl, congrArg some (by rw [String.empty_append])⟩
    | impl => exact ⟨"public async ", "", .inr rfl, congrArg some (by rw [String.append_empty])⟩
  obtain ⟨head, tail, hblock, -, hquiet, -⟩ :=
    (part.member f m).block_spec (l := l) (part.member_wellNamed hf hm)
  rw [hblock] at hhead
  cases hhead
  have hne : (start ++ m.signature f.name ++ stop).isEmpty = false := by
    rw [Bool.eq_false_iff, ne_eq, String.isEmpty_iff, ← String.toList_eq_nil_iff, String.toList_append,
      String.toList_append, toList_signature]
    simp
  have htail : (tail.map (Artifact.indentBy indent)).filterMap readMethod? = [] := by
    refine List.filterMap_eq_nil_iff.2 (List.forall_mem_map.2 fun x hx => ?_)
    refine part.readMethod?_of_isClear (l := l) hf fun m' hm' hkind => ?_
    exact (hquiet x hx).clear hm' (hkind.trans (part.kind_member f m).symm) hindent
  rw [hblock, List.map_cons, List.filterMap_cons, htail, Artifact.indentBy, hne, if_neg (by decide),
    readMethod?_signature hm hf.name.2 hindent hstart]
  rfl

end RepositoryPart

/-- What orders do to a file of a repository. -/
theorem actionsOn_repository {l : Locator} (hl : IsProject l.project) {os : List Order}
    (hos : ∀ o ∈ os, o.WellNamed) (provider : Provider) (part : RepositoryPart) {f : Feature}
    (hf : f.WellNamed) : actionsOn (part.path l f) (os.flatMap (Order.tasks l provider))
      = (generationsOf f.name os).flatMap fun g => g.methods.map fun m =>
          .declare ((part.member g.feature m).declaration l) (Site.featureContext ⟨l, 0⟩ g.feature) := by
  have hkind : part.kind ∈ Generation.kinds := by cases part <;> decide
  induction os with
  | nil => rfl
  | cons o os ih =>
      rw [List.forall_mem_cons] at hos
      rw [List.flatMap_cons, actionsOn_append, ih hos.2,
        Order.actionsOn_tasks hl (part.place hf) hkind hos.1, generationsOf, generationsOf,
        List.filterMap_cons]
      cases hg : o.generation with
      | none => rfl
      | some g =>
          have hwell := Order.generation_wellNamed hos.1 g hg
          rw [Option.toList_some, List.flatMap_singleton, List.filter_cons,
            Generation.actionsOn_repository hl hwell part hf]
          split <;> simp [*]

section

variable {T : Set (List Component)} {root : String} {os : List Order} {s : Scene} {d : Descriptor}
  {f : Feature}

theorem detection_beq (m m' : RepositoryMethod) :
    (m.detection == m'.detection) = (m.name == m'.name) := by
  rw [Bool.eq_iff_iff, beq_iff_eq, beq_iff_eq, RepositoryMethod.detection,
    RepositoryMethod.detection, Detection.repositoryMethod, Detection.repositoryMethod,
    String.append_left_inj, String.append_right_inj]

/-- What is declared in a file of a repository. -/
theorem Reached.declared_repository (h : Reached T root os s d) (hf : f.WellNamed)
    (part : RepositoryPart) : declared (actionsOn (part.path d.locator f) (tasksOf d os))
      = (methodsOf f.name os).map fun x => (part.member x.1 x.2).declaration d.locator := by
  have hdeclarations : (actionsOn (part.path d.locator f) (tasksOf d os)).filterMap
      Action.declaration? = ((generationsOf f.name os).flatMap fun g =>
        g.methods.map (g.feature, ·)).map fun x => (part.member x.1 x.2).declaration d.locator := by
    rw [tasksOf, actionsOn_repository h.project h.wellNamed _ part hf, List.filterMap_flatMap,
      List.map_flatMap]
    refine List.flatMap_congr fun g _ => ?_
    rw [List.filterMap_map, List.map_map, ← List.filterMap_eq_map]
    rfl
  rw [declared, hdeclarations, firstsBy_map, methodsOf, firstsBy_congr (·.2.name)]
  intro x y
  rw [part.detection_member, part.detection_member, detection_beq]

/-- The methods that are ordered have good names. -/
theorem mem_methodsOf (hos : ∀ o ∈ os, o.WellNamed) {entity : String} {x : Feature × RepositoryMethod}
    (hx : x ∈ methodsOf entity os) : x.1.WellNamed ∧ x.1.name = entity ∧ IsName x.2.name := by
  obtain ⟨g, hg, hx⟩ := List.mem_flatMap.1 (mem_of_mem_firstsBy hx)
  obtain ⟨m, hm, rfl⟩ := List.mem_map.1 hx
  simp only [generationsOf, List.mem_filter, List.mem_filterMap, decide_eq_true_eq] at hg
  obtain ⟨⟨o, ho, hgeneration⟩, hname⟩ := hg
  have hwell := Order.generation_wellNamed (hos o ho) g hgeneration
  exact ⟨hwell.feature, hname, hwell.methods m hm⟩

/-- A file of a repository shows the methods that were ordered, the first one of each name. -/
theorem Reached.methods (h : Reached T root os s d) (hT : Apart d.locator root T)
    (hf : f.WellNamed) (part : RepositoryPart) :
    (s.linesOf root (part.path d.locator f)).filterMap readMethod?
      = (methodsOf f.name os).map (fun x => x.2.text f.name) := by
  have hmember : (part.member f .getById).WellNamed := part.member_wellNamed hf (by decide)
  obtain ⟨form, hform, hkind⟩ : ∃ form, (part.member f .getById).form? d.style = some form
      ∧ form.template.kind = part.kind := by
    cases part <;> exact ⟨_, rfl, rfl⟩
  obtain ⟨hfilled, hnone⟩ := h.filled hT hmember hform
  rw [part.path_member] at hfilled hnone
  have hread : ∀ x ∈ methodsOf f.name os, ∀ indent, Anchor.IsIndent indent →
      (((part.member x.1 x.2).declaration d.locator).block.map
        (Artifact.indentBy indent)).filterMap readMethod? = [x.2.text f.name] := by
    intro x hx indent hindent
    obtain ⟨hfeature, hname, hmethod⟩ := mem_methodsOf h.wellNamed hx
    rw [part.filterMap_block hfeature hmethod hindent, hname]
  have hplain : ∀ x ∈ methodsOf f.name os,
      ((part.member x.1 x.2).declaration d.locator).block.filterMap readMethod?
        = [x.2.text f.name] := by
    intro x hx
    have := hread x hx "" Anchor.isIndent_empty
    rwa [show Artifact.indentBy "" = id from funext Artifact.indentBy_empty, List.map_id] at this
  rw [h.declared_repository hf part] at hfilled
  unfold Scene.linesOf
  cases hlines : s.tree.content.linesAt (components ((part.path d.locator f).under root)) with
  | none =>
      have hempty := h.declared_repository hf part
      rw [hnone hlines] at hempty
      rw [List.map_eq_nil_iff.1 hempty.symm]
      rfl
  | some ls =>
      rw [Option.getD_some, (hfilled ls hlines).filterMap
        (fun x hx => part.readMethod?_of_isClear hf (hkind ▸ hx))
          (List.forall_mem_map.2 fun x hx indent hindent => by
          rw [hread x hx indent hindent, hplain x hx]), List.flatMap_map, List.map_eq_flatMap]
      exact List.flatMap_congr hplain

/-- A file of a repository is there as soon as a method was ordered. -/
theorem Reached.repository_eq_none (h : Reached T root os s d) (hT : Apart d.locator root T)
    (hf : f.WellNamed) (part : RepositoryPart) :
    s.tree.content.linesAt (components ((part.path d.locator f).under root)) = none
      ↔ ∀ g ∈ generationsOf f.name os, g.methods = [] := by
  have hactions : actionsOn (part.path d.locator f) (tasksOf d os) = []
      ↔ ∀ g ∈ generationsOf f.name os, g.methods = [] := by
    rw [tasksOf, actionsOn_repository h.project h.wellNamed _ part hf]
    simp
  rw [← hactions]
  have hmember : (part.member f .getById).WellNamed := part.member_wellNamed hf (by decide)
  obtain ⟨form, hform⟩ : ∃ form, (part.member f .getById).form? d.style = some form := by
    cases part <;> exact ⟨_, rfl⟩
  obtain ⟨-, hnone⟩ := h.filled hT hmember hform
  rw [part.path_member] at hnone
  refine ⟨hnone, fun hnil => ?_⟩
  have hwritten := h.written hT (part.place (l := d.locator) hf)
  rw [hnil] at hwritten
  exact hwritten.eq_none

variable {w : Surroundings} {history : List Change}

/-- **The interface and the class of a repository agree.**  After every run they are both there or
both not, show the same methods in the same order, and no method twice. -/
theorem Run.repository_agrees (hw : w.Frank) (hT : ∀ l, Apart l root T) (hwithin : w.Within T)
    (h : Run w root history s) : ∃ d, s.descriptor = some d ∧ ∀ f : Feature, f.WellNamed →
      (s.tree.content.linesAt (components ((d.locator.repositoryContract f).under root)) = none
        ↔ s.tree.content.linesAt (components ((d.locator.repositoryImpl f).under root)) = none)
      ∧ (s.linesOf root (d.locator.repositoryContract f)).filterMap readMethod?
        = (s.linesOf root (d.locator.repositoryImpl f)).filterMap readMethod?
      ∧ (((s.linesOf root (d.locator.repositoryContract f)).filterMap readMethod?).map
        MethodText.name).Nodup := by
  obtain ⟨d, hreached⟩ := h.reached hw hT hwithin
  refine ⟨d, hreached.descriptor, fun f hf => ?_⟩
  have hcontract := hreached.methods (hT _) hf .contract
  have himpl := hreached.methods (hT _) hf .impl
  refine ⟨?_, hcontract.trans himpl.symm, ?_⟩
  · exact (hreached.repository_eq_none (hT _) hf .contract).trans
      (hreached.repository_eq_none (hT _) hf .impl).symm
  · rw [show d.locator.repositoryContract f = RepositoryPart.contract.path d.locator f from rfl,
      hcontract, List.map_map]
    exact nodup_firstsBy (fun x : Feature × RepositoryMethod => x.2.name) _

/-- The repository of an entity that was generated agrees. -/
theorem Run.repository_agrees_invoice : ∃ s d, Run .still "/work" [.crud ⟨"Invoice"⟩] s
    ∧ s.descriptor = some d
    ∧ (s.linesOf "/work" (d.locator.repositoryContract invoice)).filterMap readMethod?
      = (s.linesOf "/work" (d.locator.repositoryImpl invoice)).filterMap readMethod? := by
  obtain ⟨s, _, hrun, hreached, -⟩ := exists_run_invoice
  obtain ⟨d, hd, hagrees⟩ := Run.repository_agrees frank_still (apart_empty · "/work")
    (Surroundings.idle_still.within ∅) hrun
  exact ⟨s, d, hrun, hd, (hagrees invoice (hreached.wellNamed _ List.mem_cons_self)).2.1⟩

end

end Scaffold
