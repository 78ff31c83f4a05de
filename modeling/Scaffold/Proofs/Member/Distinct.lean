import Mathlib
import Scaffold.Proofs.Member.Block
import Scaffold.Proofs.Template

/-!
# Detections of members are exact

In the lines of a block the detection of a member of the same file is found once if it is the
detection of the block, and else not at all (`Member.count_block`).  In the lines of templates
(`Member.template_clear`) and in imports (`Member.import_clear`) it is never found.

Only the lines of an entity's template are beyond the comparison of shapes, because the detection
of a property names its type twice; there the two names are compared with the fixed lines.
-/

namespace Scaffold

open Scaffold.Text

/-- The kind of file a template makes. -/
def Template.kind : Template → ArtifactKind
  | .manifest => .manifest
  | .entity => .entityType
  | .enumType => .enumType
  | .constants => .constants
  | .persistenceMapping => .persistenceMapping
  | .dbContext => .dbContext
  | .repositoryContract => .repositoryContract
  | .repositoryImpl => .repositoryImpl
  | .useCaseRequest => .useCaseRequest
  | .useCaseHandler => .useCaseHandler
  | .useCaseValidator => .useCaseValidator
  | .applicationWiring | .infrastructureWiring => .wiring
  | .endpoints | .controller => .exposure
  | .entryPointRoutes | .entryPointControllers => .entryPoint
  | .serviceContract | .serviceImpl | .serviceCacheImpl | .serviceBrokerImpl => .serviceContract
  | .compose => .compose

namespace Text

/-- A shape without open places has one text under a name. -/
theorem Fits.unique {name cs cs' : List Char} {shape : List Atom} (h : Fits name shape cs)
    (h' : Fits name shape cs') (hclosed : ∀ kind, Atom.some kind ∉ shape) : cs = cs' := by
  induction h generalizing cs' with
  | nil => cases h'; rfl
  | char c rest ih =>
      cases h' with
      | char c rest' => rw [ih rest' fun kind hk => hclosed kind (List.mem_cons_of_mem _ hk)]
  | some kind hfront rest ih => exact absurd List.mem_cons_self (hclosed kind)
  | var kind hname rest ih =>
      cases h' with
      | var kind hname' rest' => rw [ih rest' fun kind hk => hclosed kind (List.mem_cons_of_mem _ hk)]

/-- A shape without places for a name has the same texts under every name. -/
theorem Fits.rename {name name' cs : List Char} {shape : List Atom} (h : Fits name shape cs)
    (hfixed : ∀ kind, Atom.var kind ∉ shape) : Fits name' shape cs := by
  induction h with
  | nil => exact .nil
  | char c rest ih => exact .char c (ih fun kind hk => hfixed kind (List.mem_cons_of_mem _ hk))
  | some kind hfront rest ih =>
      exact .some kind hfront (ih fun kind hk => hfixed kind (List.mem_cons_of_mem _ hk))
  | var kind hname rest ih => exact absurd List.mem_cons_self (hfixed kind)

end Text

namespace Member

/-- Decide whether an atom is no open place. -/
def isClosed : Atom → Bool
  | .some _ => false
  | _ => true

/-- Decide whether an atom is no place for a name. -/
def isNameless : Atom → Bool
  | .var _ => false
  | _ => true

/-- Detections have no open places. -/
theorem needle_closed {kind : ArtifactKind} {n : List Atom} (hn : n ∈ needles kind) :
    ∀ k, Atom.some k ∉ n := by
  have hcheck : ∀ kind, (needles kind).all (·.all isClosed) = true := by
    intro kind
    cases kind <;> simp only [needles] <;> repeat rw [String.toList_ofList]
    all_goals rfl
  intro k hk
  have := List.all_eq_true.1 (List.all_eq_true.1 (hcheck kind) n hn) _ hk
  cases this

/-- Members of one sort and one name have one detection. -/
theorem detection_eq {l : Locator} {m m' : Member} (hm : m.WellNamed) (hm' : m'.WellNamed)
    (hneedle : m.needle l = m'.needle l) (hlabel : m.label l = m'.label l) :
    (m.declaration l).detection = (m'.declaration l).detection := by
  have h := shaped_detection (l := l) hm
  have h' := shaped_detection (l := l) hm'
  rw [← hneedle, ← hlabel] at h'
  exact String.toList_injective (h.unique h' (needle_closed (needle_mem_needles hm)))

/-- Apart from enums a detection with a name shows where the name ends. -/
theorem needle_delimited {kind : ArtifactKind} (hkind : kind ≠ .enumType) {n : List Atom}
    (hn : n ∈ needles kind) : isDelimited n = true ∨ ∀ k, Atom.var k ∉ n := by
  have hcheck : ∀ kind, kind ≠ .enumType → (needles kind).all
      (fun n => isDelimited n || n.all isNameless) = true := by
    intro kind hkind
    cases kind <;> first
      | exact absurd rfl hkind
      | simp only [needles]
        repeat rw [String.toList_ofList]
        rfl
  rcases Bool.or_eq_true_iff.1 (List.all_eq_true.1 (hcheck kind hkind) n hn) with h | h
  · exact .inl h
  · refine .inr fun k hk => ?_
    have := List.all_eq_true.1 h _ hk
    cases this

/-- Where a detection does not show the end of its name, the file tells the name. -/
theorem detection_eq_of_not_delimited {l : Locator} (hl : IsProject l.project) {m m' : Member}
    (hm : m.WellNamed) (hm' : m'.WellNamed) (hkind : m.kind = m'.kind)
    (hpath : m.path l = m'.path l) (hneedle : m.needle l = m'.needle l)
    (hopen : isDelimited (m.needle l) = false) :
    (m.declaration l).detection = (m'.declaration l).detection := by
  by_cases henum : m.kind = .enumType
  · cases m with
    | enumType name =>
        cases m' with
        | enumType name' => rw [enumType_injective hl hm hm' hpath]
        | _ => cases hkind
    | _ => cases henum
  · have hmem := needle_mem_needles (l := l) hm
    rcases needle_delimited henum hmem with hdelimited | hfixed
    · rw [hopen] at hdelimited
      cases hdelimited
    · have h := shaped_detection (l := l) hm
      have h' := shaped_detection (l := l) hm'
      rw [← hneedle] at h'
      exact String.toList_injective (h.unique (h'.rename hfixed) (needle_closed hmem))

/-! ## Blocks -/

theorem contains_indentBy (indent : String) {line detection : String}
    (h : contains line detection = true) :
    contains (Artifact.indentBy indent line) detection = true := by
  unfold Artifact.indentBy
  split
  next hempty =>
    rw [String.isEmpty_iff] at hempty
    exact hempty ▸ h
  · rw [contains, occursIn_iff] at h ⊢
    rw [String.toList_append]
    exact h.trans (List.suffix_append _ _).isInfix

/-- No detection is found in a quiet line. -/
theorem Passes.clear {l : Locator} {m : Member} (hm : m.WellNamed) {kind : ArtifactKind}
    (hkind : m.kind = kind) {name line indent : String} (h : Passes (isQuiet kind) name line)
    (hindent : Anchor.IsIndent indent) :
    contains (Artifact.indentBy indent line) (m.declaration l).detection = false := by
  refine (h.indentBy hindent).not_contains (shaped_detection hm) fun shape hcheck => ?_
  rw [isQuiet, Bool.and_eq_true, List.all_eq_true] at hcheck
  exact hcheck.2 _ (hkind ▸ needle_mem_needles hm)

/-- In a block of the same file a detection is found once if it is the block's own, and else not
at all. -/
theorem count_block {l : Locator} (hl : IsProject l.project) {m m' : Member} (hm : m.WellNamed)
    (hm' : m'.WellNamed) (hpath : m.path l = m'.path l) {indent : String}
    (hindent : Anchor.IsIndent indent) :
    ((m'.declaration l).block.map (Artifact.indentBy indent)).countP
        (contains · (m.declaration l).detection)
      = if (m.declaration l).detection = (m'.declaration l).detection then 1 else 0 := by
  obtain ⟨layer, hplace⟩ := m.place (l := l) hm
  obtain ⟨layer', hplace'⟩ := m'.place (l := l) hm'
  have hkind := hplace.kind_eq hl (hpath ▸ hplace')
  obtain ⟨head, tail, hblock, hhead, htail, hfound⟩ := m'.block_spec (l := l) hm'
  have hshaped := shaped_detection (l := l) hm
  have hmem : m.needle l ∈ needles m'.kind := hkind ▸ needle_mem_needles hm
  have hquiet : (tail.map (Artifact.indentBy indent)).countP
      (contains · (m.declaration l).detection) = 0 := by
    rw [List.countP_eq_zero]
    intro x hx
    obtain ⟨y, hy, rfl⟩ := List.mem_map.1 hx
    simp [(htail y hy).clear (l := l) hm hkind hindent]
  rw [hblock, List.map_cons, List.countP_cons, hquiet, Nat.zero_add]
  by_cases heq : (m.declaration l).detection = (m'.declaration l).detection
  · have hcontains := contains_indentBy indent hfound
    rw [if_pos (by simpa [heq] using hcontains), if_pos heq]
  · have hclear : contains (Artifact.indentBy indent head) (m.declaration l).detection = false := by
      have hhead := hhead.indentBy hindent
      by_cases hneedle : m.needle l = m'.needle l
      · refine hhead.not_contains_of_ne hshaped (fun shape hcheck => ?_) fun hlabel =>
          heq (detection_eq hm hm' hneedle hlabel)
        rw [isHead, Bool.and_eq_true, List.all_eq_true] at hcheck
        have hown := hcheck.2 _ hmem
        rw [if_pos (by simp [hneedle])] at hown
        rcases Bool.or_eq_true_iff.1 hown with hopen | hown
        · exact absurd (detection_eq_of_not_delimited hl hm hm' hkind hpath hneedle
            (by simpa using hopen)) heq
        · exact hown
      · refine hhead.not_contains hshaped fun shape hcheck => ?_
        rw [isHead, Bool.and_eq_true, List.all_eq_true] at hcheck
        have hother := hcheck.2 _ hmem
        rwa [if_neg (by simp [hneedle])] at hother
    rw [if_neg (by simp [hclear]), if_neg heq]

/-- A block has a line with its detection. -/
theorem exists_contains_block {l : Locator} {m : Member} (hm : m.WellNamed) (indent : String) :
    ∃ x ∈ (m.declaration l).block.map (Artifact.indentBy indent),
      contains x (m.declaration l).detection = true := by
  obtain ⟨head, tail, hblock, -, -, hfound⟩ := m.block_spec (l := l) hm
  exact ⟨_, List.mem_map_of_mem (hblock ▸ List.mem_cons_self), contains_indentBy indent hfound⟩

/-- The lines of a block are plain. -/
theorem isPlain_block {l : Locator} {m : Member} (hm : m.WellNamed) :
    ∀ x ∈ (m.declaration l).block, IsPlain x := by
  obtain ⟨head, tail, hblock, hhead, htail, -⟩ := m.block_spec (l := l) hm
  rw [hblock, List.forall_mem_cons]
  constructor
  · refine hhead.isPlain fun shape hcheck => ?_
    rw [isHead, Bool.and_eq_true] at hcheck
    exact hcheck.1
  · intro x hx
    refine (htail x hx).isPlain fun shape hcheck => ?_
    rw [isQuiet, Bool.and_eq_true] at hcheck
    exact hcheck.1

/-- What is declared in an entry point are statements. -/
theorem endsStatement_block {l : Locator} {m : Member} (hm : m.WellNamed)
    (hkind : m.kind = .entryPoint) : ∀ x ∈ (m.declaration l).block, EndsStatement x := by
  cases m with
  | registration line =>
      have hall : ∀ line ∈ registrations, EndsStatement line := by
        unfold EndsStatement registrations
        simp only [List.forall_mem_cons, List.not_mem_nil, false_imp_iff, implies_true]
        repeat rw [String.toList_ofList]
        decide
      intro x hx
      rw [List.mem_singleton.1 hx]
      exact hall line hm
  | mapping f =>
      intro x hx
      rw [List.mem_singleton.1 hx]
      obtain ⟨project, style⟩ := l
      cases style with
      | routes =>
          have hend : EndsStatement "Endpoints();" := by
            unfold EndsStatement
            decide
          exact hend.append _
      | controllers =>
          have hend : EndsStatement "app.MapControllers();" := by
            unfold EndsStatement
            decide
          exact hend
  | _ => cases hkind

/-- No detection is found in an empty line. -/
theorem blank_clear {l : Locator} {m : Member} (hm : m.WellNamed) :
    contains "" (m.declaration l).detection = false := by
  have hcheck : ∀ kind, (needles kind).any (mayOccur false · []) = false := by
    intro kind
    cases kind <;> simp only [needles] <;> repeat rw [String.toList_ofList]
    all_goals rfl
  have hclear := List.any_eq_false.1 (hcheck m.kind) _ (needle_mem_needles (l := l) hm)
  exact (shaped_detection hm).not_contains (Fits.nil : Shaped "" [] "") (by simpa using hclear)

/-! ## Imports -/

/-- No detection is found in an import. -/
theorem import_clear {l : Locator} {m : Member} (hm : m.WellNamed) {space : String}
    (hspace : Made isDottedChar space) :
    contains ("using " ++ space ++ ";") (m.declaration l).detection = false := by
  have hcheck : ∀ kind, (needles kind).any (mayOccur false ·
      (fixed "using ".toList ++ [.some .dotted] ++ fixed ";".toList)) = false := by
    intro kind
    cases kind <;> simp only [needles] <;> repeat rw [String.toList_ofList]
    all_goals rfl
  have himport : Shaped "" _ ("using " ++ space ++ ";") :=
    ((Shaped.lit _).append (.hole .dotted hspace)).append (.lit _)
  have hclear := List.any_eq_false.1 (hcheck m.kind) _ (needle_mem_needles (l := l) hm)
  exact (shaped_detection hm).not_contains himport (by simpa [hole] using hclear)

/-! ## Templates -/

/-- Decide whether no detection of a kind of file is found in the lines a template line is filled
to. -/
def isClearLine (kind : ArtifactKind) (line : List Char) : Bool :=
  (needles kind).all fun n => !mayOccur false n (shapeOfLine (Piece.read 0 line))

theorem lines_isClear (t : Template) (ht : t ≠ .entity) :
    ∀ line ∈ t.lines, isClearLine t.kind line.toList = true := by
  cases t <;>
  simp only [Template.lines, Template.kind, Template.manifestLines, Template.enumTypeLines,
    Template.constantsLines, Template.persistenceMappingLines, Template.dbContextLines,
    Template.repositoryContractLines, Template.repositoryImplLines, Template.useCaseRequestLines,
    Template.useCaseHandlerLines, Template.useCaseValidatorLines, Template.applicationWiringLines,
    Template.infrastructureWiringLines, Template.endpointsLines, Template.controllerLines,
    Template.entryPointRoutesLines, Template.entryPointControllersLines,
    Template.serviceContractLines, Template.serviceImplLines, Template.serviceCacheImplLines,
    Template.serviceBrokerImplLines, Template.composeLines, Template.project, Template.entityName,
    Template.entityPlural, Template.entityPluralKebab, Template.space, Template.contractSpace,
    Template.service, Template.sdk, Template.moduleName, Template.className, slot,
    List.forall_mem_cons, String.toList_append, List.not_mem_nil, false_imp_iff, implies_true,
    isClearLine, needles] <;>
  (try exact absurd rfl ht) <;>
  (repeat rw [String.toList_ofList]) <;>
  decide +kernel

/-- Decide whether a text begins like a property that has its type as its name. -/
def startsTwin : List Char → Bool
  | ' ' :: cs =>
      let name := cs.takeWhile Char.isAlphanum
      (name ++ ' ' :: (name ++ [' ', '\x7b'])).isPrefixOf cs
  | _ => false

/-- A line in which the detection of a property is found has a type and a name that are equal. -/
theorem startsTwin_of_contains {name line : String} (hname : Made Char.isAlphanum name)
    (h : contains line (Detection.property name name) = true) :
    line.toList.tails.any startsTwin = true := by
  rw [contains, occursIn_iff] at h
  obtain ⟨front, back, hline⟩ := h
  have htwin : (Detection.property name name).toList
      = ' ' :: (name.toList ++ ' ' :: (name.toList ++ [' ', '\x7b'])) := by
    simp [Detection.property]
  rw [List.any_eq_true]
  refine ⟨(Detection.property name name).toList ++ back, ?_, ?_⟩
  · rw [List.mem_tails, ← hline, List.append_assoc]
    exact List.suffix_append _ _
  · have htake : (name.toList ++ (' ' :: (name.toList ++ [' ', '\x7b']) ++ back)).takeWhile
        Char.isAlphanum = name.toList := by
      rw [List.takeWhile_append_of_pos hname]
      have hspace : Char.isAlphanum ' ' = false := by decide
      simp [hspace]
    rw [htwin, List.cons_append, List.append_assoc]
    simp only [startsTwin, htake, List.isPrefixOf_iff_prefix]
    exact ⟨back, by simp⟩

/-- Decide whether a line shows no variable. -/
def isFixedLine (line : List Char) : Bool := (Piece.read 0 line).all fun
  | .char _ => true
  | .slot _ => false

theorem fill_of_isFixedLine {ctx : Context} {t : Template} {line : String} (hline : line ∈ t.lines)
    (h : isFixedLine line.toList = true) : ctx.fill line = line := by
  have hread := (isWellRead_iff (lines_isWellRead t line hline)).1
  have hfill : (Piece.read 0 line.toList).flatMap ctx.fillPiece
      = Piece.unread (Piece.read 0 line.toList) := by
    refine List.flatMap_congr fun p hp => ?_
    cases p with
    | char c => rfl
    | slot name => exact absurd (List.all_eq_true.1 h _ hp) (by simp)
  rw [Context.fill, hfill, hread, String.ofList_toList]

theorem entityLines_isClear : ∀ line ∈ Template.entity.lines,
    (isClearLine .entityType line.toList
      || isFixedLine line.toList && !line.toList.tails.any startsTwin) = true := by
  simp only [Template.lines, Template.entityLines, Template.project, Template.entityName, slot,
    List.forall_mem_cons, String.toList_append, List.not_mem_nil, false_imp_iff, implies_true,
    isClearLine, needles]
  repeat rw [String.toList_ofList]
  decide

/-- No detection is found in a line of a template. -/
theorem template_clear {l : Locator} {m : Member} (hm : m.WellNamed) {t : Template} {ctx : Context}
    (hctx : ctx.Suits t) (hkind : m.kind = t.kind) :
    ∀ line ∈ t.lines, contains (ctx.fill line) (m.declaration l).detection = false := by
  intro line hline
  have hclear : isClearLine t.kind line.toList = true →
      contains (ctx.fill line) (m.declaration l).detection = false := by
    intro hclear
    have := List.all_eq_true.1 hclear _ (hkind ▸ needle_mem_needles (l := l) hm)
    exact (shaped_detection hm).not_contains (shaped_fill hctx hline "") (by simpa using this)
  by_cases ht : t = .entity
  · subst ht
    rcases Bool.or_eq_true_iff.1 (entityLines_isClear line hline) with h | h
    · exact hclear h
    · rw [Bool.and_eq_true] at h
      rw [fill_of_isFixedLine hline h.1, Bool.eq_false_iff]
      intro hfound
      cases m with
      | property f name => simpa [startsTwin_of_contains hm.2.2 hfound] using h.2
      | _ => cases hkind
  · exact hclear (lines_isClear t ht line hline)

end Member

end Scaffold
