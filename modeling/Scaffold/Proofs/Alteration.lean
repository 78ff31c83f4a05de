import Mathlib
import Scaffold.Proofs.Decision
import Scaffold.Proofs.Lossless
import Scaffold.Proofs.Version

/-!
# What is written is new

An action that decides to write a file that is there decides on other text than it has
(`Action.alters_decide`).  It is enough to look at the terminators.  A block adds at least one, and so
does an entry that a manifest does not have.  A sample that goes out takes some away, and so do the
duplicates of an entry, whatever becomes of the entry that stays.  Only where nothing but one line is
changed the line itself has to be looked at.

The files and the templates are arbitrary.  The blocks and samples are those of the plans, none of
which is empty (`Order.plan_effective`).
-/

namespace Scaffold

open Scaffold.Text

/-! ## Terminators -/

namespace Artifact

/-- How many line feeds an artifact is written with. -/
def feeds (a : Artifact) : Nat := a.render.toList.count '\n'

/-- How many line feeds are inside the lines. -/
def innerFeeds (ls : List Line) : Nat := (ls.map fun l => l.text.toList.count '\n').sum

@[simp] theorem innerFeeds_append (ls rest : List Line) :
    innerFeeds (ls ++ rest) = innerFeeds ls + innerFeeds rest := by
  simp [innerFeeds]

theorem count_render (l : Line) : l.render.toList.count '\n' = l.text.toList.count '\n' + 1 := by
  rw [Line.render, String.toList_append, List.count_append]
  cases l.ending <;> rfl

/-- Every line is terminated but for the last one of an artifact that is not closed. -/
theorem count_renderLines (closed : Bool) (ls : List Line) :
    (renderLines closed ls).toList.count '\n'
      = innerFeeds ls + (if closed then ls.length else ls.length - 1) := by
  induction ls with
  | nil => cases closed <;> rfl
  | cons l ls ih =>
      have hinner : innerFeeds (l :: ls) = l.text.toList.count '\n' + innerFeeds ls := rfl
      cases ls with
      | nil =>
          cases closed with
          | true =>
              rw [renderLines_true_cons, String.toList_append, List.count_append, count_render, hinner]
              rfl
          | false =>
              rw [hinner]
              rfl
      | cons m rest =>
          rw [renderLines_cons closed l (by simp), String.toList_append, List.count_append,
            count_render, ih, hinner]
          cases closed <;> simp only [List.length_cons, if_true, Bool.false_eq_true, if_false] <;>
            omega

theorem feeds_eq (a : Artifact) : a.feeds
    = innerFeeds a.lines + (if a.endsInNewline then a.lines.length else a.lines.length - 1) :=
  count_renderLines a.endsInNewline a.lines

/-- A file that has no last terminator has lines. -/
def Firm (a : Artifact) : Prop := a.endsInNewline = false → a.lines ≠ []

theorem firm_parse (path content : String) : (parse path content).Firm := by
  unfold parse
  simp only
  split
  · rintro ⟨⟩
  · rintro ⟨⟩
  · intro _
    simp

theorem innerFeeds_eq_zero {ls : List Line} (h : ∀ l ∈ ls, '\n' ∉ l.text.toList) :
    innerFeeds ls = 0 := by
  refine List.sum_eq_zero fun n hn => ?_
  obtain ⟨l, hl, rfl⟩ := List.mem_map.1 hn
  exact List.count_eq_zero_of_not_mem (h l hl)

/-! ## Putting lines in -/

theorem Firm.insertLines {a : Artifact} (h : a.Firm) (index : Nat) (texts : List String) :
    (a.insertLines index texts).Firm := by
  intro hclosed hnil
  have hlines : a.lines.take index ++ texts.map (⟨·, a.endingNear index⟩)
      ++ a.lines.drop index = [] := hnil
  simp only [List.append_eq_nil_iff] at hlines
  exact h hclosed (by rw [← List.take_append_drop index a.lines, hlines.1.1, hlines.2]; rfl)

/-- Every line that is put in adds a terminator. -/
theorem Firm.feeds_insertLines {a : Artifact} (h : a.Firm) (index : Nat) (texts : List String) :
    a.feeds + texts.length ≤ (a.insertLines index texts).feeds := by
  have hlines : (a.insertLines index texts).lines
      = a.lines.take index ++ texts.map (⟨·, a.endingNear index⟩) ++ a.lines.drop index := rfl
  have hlength : (a.insertLines index texts).lines.length = a.lines.length + texts.length := by
    rw [hlines]
    simp only [List.length_append, List.length_map, List.length_take, List.length_drop]
    omega
  have hinner : innerFeeds a.lines ≤ innerFeeds (a.insertLines index texts).lines := by
    have hsplit : innerFeeds a.lines
        = innerFeeds (a.lines.take index) + innerFeeds (a.lines.drop index) := by
      rw [← innerFeeds_append, List.take_append_drop]
    rw [hlines, innerFeeds_append, innerFeeds_append, hsplit]
    omega
  have hclosed : (a.insertLines index texts).endsInNewline = a.endsInNewline := rfl
  rw [feeds_eq, feeds_eq, hclosed, hlength]
  cases hend : a.endsInNewline with
  | true => simp only [if_true]; omega
  | false =>
      have hne := List.length_pos_iff.2 (h hend)
      simp only [Bool.false_eq_true, if_false]
      omega

/-- A block that is put in changes the file. -/
theorem Firm.insertBlock_ne {a : Artifact} (h : a.Firm) (anchor : Anchor) {block : List String}
    (hblock : block ≠ []) (separated : Bool) :
    (a.insertBlock anchor block separated).render ≠ a.render := by
  intro heq
  have hmore := h.feeds_insertLines (anchor.locate a.texts).index
    (gapBefore a.texts (anchor.locate a.texts).index separated
      ++ block.map (indentBy (anchor.locate a.texts).indent)
      ++ gapAfter a.texts (anchor.locate a.texts))
  have hsame : (a.insertBlock anchor block separated).feeds = a.feeds := by
    rw [feeds, heq, feeds]
  change a.feeds + _ ≤ (a.insertBlock anchor block separated).feeds at hmore
  have hpos := List.length_pos_iff.2 hblock
  simp only [List.length_append, List.length_map] at hmore
  omega

/-! ## Taking samples out -/

end Artifact

open Artifact in
/-- What is left of a text is shorter than the text was. -/
theorem CutRun.length_lt {sample : List String} {old new : String} (h : CutRun sample old new)
    (hsample : 2 ≤ sample.length) : new.length < old.length := by
  have hrun : ∀ {run : List Line}, IsRun sample run → 2 ≤ run.length := by
    intro run hrun
    have hlength := congrArg List.length hrun.same
    rw [List.length_map, List.length_map] at hlength
    rwa [hlength]
  have hfeeds : ∀ (closed : Bool) {run : List Line}, IsRun sample run →
      0 < (renderLines closed run).length := by
    intro closed run hrun'
    have hcount := count_renderLines closed run
    have hle := List.count_le_length (a := '\n') (l := (renderLines closed run).toList)
    rw [String.length_toList] at hle
    have := hrun hrun'
    cases closed <;> simp only [if_true, Bool.false_eq_true, if_false] at hcount <;> omega
  cases h with
  | between before after hrun' hbefore =>
      have := hfeeds true hrun'
      simp only [String.length_append]
      omega
  | last before ending hrun' =>
      have := hfeeds false hrun'
      simp only [String.length_append]
      omega
  | whole hrun' => simpa using hfeeds false hrun'

namespace Artifact

/-- What is left after samples went out is no longer, and shorter if any of them did. -/
theorem WellRead.length_removeSamples {a : Artifact} (ha : a.WellRead)
    {samples : List (List String)} (hsamples : ∀ sample ∈ samples, 2 ≤ sample.length) :
    (removeSamples samples a).2.render.length + ((removeSamples samples a).1 && !false).toNat
      ≤ a.render.length := by
  unfold removeSamples
  generalize false = removed
  induction samples generalizing a removed with
  | nil => cases removed <;> exact Nat.le_refl _
  | cons sample samples ih =>
      obtain ⟨hfirst, hrest⟩ := List.forall_mem_cons.1 hsamples
      rw [List.foldl_cons]
      cases hremove : a.removeSequence? sample with
      | none =>
          simp only [hremove]
          exact ih ha hrest removed
      | some b =>
          obtain ⟨hb, hcut⟩ := ha.cutRun hremove
          have hlt := hcut.length_lt hfirst
          have hle := (Nat.le_add_right _ _).trans (ih hb hrest true)
          simp only [hremove]
          exact (Nat.add_le_add_left (Bool.toNat_le _) _).trans (Nat.succ_le_of_lt (hle.trans_lt hlt))

/-- Samples that go out take something with them. -/
theorem WellRead.removeSamples_ne {a b : Artifact} (ha : a.WellRead) {samples : List (List String)}
    (hsamples : ∀ sample ∈ samples, 2 ≤ sample.length) (h : removeSamples samples a = (true, b)) :
    b.render ≠ a.render := by
  have hlength := ha.length_removeSamples hsamples
  rw [h] at hlength
  intro heq
  rw [heq] at hlength
  exact absurd hlength (Nat.not_succ_le_self _)

/-! ## Merging -/

theorem Firm.feeds_inserts {a : Artifact} (h : a.Firm) {es : List LineEdit}
    (hes : ∀ e ∈ es, ∃ i text, e = .insert i text) : a.feeds + es.length ≤ (a.editAll es).feeds := by
  induction es generalizing a with
  | nil => exact Nat.le_refl _
  | cons e es ih =>
      obtain ⟨⟨i, text, rfl⟩, hrest⟩ := List.forall_mem_cons.1 hes
      have hone := h.feeds_insertLines i [text]
      have hmore := ih (h.insertLines i [text]) hrest
      change a.feeds + (es.length + 1) ≤ ((a.insertLines i [text]).editAll es).feeds
      simp only [List.length_singleton] at hone
      omega

/-- The characters of a line come before those of the lines after it. -/
theorem renderLines_cons_inj {closed : Bool} (l l' : Line) {after : List Line}
    (hending : l'.ending = l.ending)
    (h : renderLines closed (l' :: after) = renderLines closed (l :: after)) : l'.text = l.text := by
  have hrender : l'.render = l.render → l'.text = l.text := by
    intro heq
    rw [Line.render, Line.render, hending] at heq
    exact (String.append_left_inj _).1 heq
  cases after with
  | nil =>
      cases closed with
      | true => exact hrender h
      | false => exact h
  | cons m rest =>
      rw [renderLines_cons closed l' (by simp), renderLines_cons closed l (by simp)] at h
      exact hrender ((String.append_left_inj _).1 h)

/-- Changing one line changes the file. -/
theorem render_replaceLine_ne {a : Artifact} {i : Nat} {line : String}
    (hline : a.texts[i]? = some line) {text : String} (htext : text ≠ line) :
    (a.replaceLine i text).render ≠ a.render := by
  rw [texts, List.getElem?_map, Option.map_eq_some_iff] at hline
  obtain ⟨l, hl, rfl⟩ := hline
  obtain ⟨hi, hget⟩ := List.getElem?_eq_some_iff.1 hl
  obtain ⟨before, l', after, hlines, hbefore, hmodify⟩ :=
    List.exists_of_modify (fun l : Line => { l with text := text }) hi
  obtain rfl : l' = l := by
    rw [hlines, ← hbefore, List.getElem?_append_right (Nat.le_refl _), Nat.sub_self] at hl
    exact Option.some.inj hl
  intro heq
  change renderLines a.endsInNewline (a.lines.modify i _) = renderLines a.endsInNewline a.lines at heq
  rw [hmodify, hlines, renderLines_append _ before (by simp), renderLines_append _ before (by simp)]
    at heq
  exact htext (renderLines_cons_inj _ ⟨text, _⟩ rfl ((String.append_right_inj _).1 heq))

/-- Lines that go out leave fewer. -/
theorem editAll_removals {a : Artifact} {es : List LineEdit} (hes : ∀ e ∈ es, ∃ i, e = .remove i)
    {rest : List String} (h : LineEdit.carryOut? a.texts es = some rest) :
    (a.editAll es).texts = rest ∧ (a.editAll es).lines.length + es.length = a.lines.length
      ∧ (a.editAll es).endsInNewline = a.endsInNewline ∧ (a.editAll es).lines ⊆ a.lines := by
  induction es generalizing a with
  | nil => exact ⟨Option.some.inj h, rfl, rfl, List.Subset.refl _⟩
  | cons e es ih =>
      obtain ⟨⟨i, rfl⟩, hrest⟩ := List.forall_mem_cons.1 hes
      have htexts := a.texts_edit (.remove i)
      simp only [LineEdit.carryOut?, LineEdit.tryApply, LineEdit.inRange] at h
      split at h
      next next hnext =>
        obtain ⟨hi, hnext⟩ := Option.ite_none_right_eq_some.1 hnext
        cases hnext
        rw [← htexts] at h
        obtain ⟨hrest', hlength, hend, hsub⟩ := ih hrest h
        have hi' : i < a.lines.length := by simpa [texts] using hi
        have hone : (a.removeLine i).lines.length + 1 = a.lines.length :=
          List.length_eraseIdx_add_one hi'
        refine ⟨hrest', ?_, hend, List.Subset.trans hsub List.eraseIdx_subset⟩
        change ((a.removeLine i).editAll es).lines.length + (es.length + 1) = a.lines.length
        change ((a.removeLine i).editAll es).lines.length + es.length
          = (a.removeLine i).lines.length at hlength
        omega
      next => cases h

/-- Without line feeds in its lines, an artifact has one for each terminator. -/
theorem WellRead.feeds_eq {a : Artifact} (h : a.WellRead) :
    a.feeds = if a.endsInNewline then a.lines.length else a.lines.length - 1 := by
  rw [Artifact.feeds_eq, innerFeeds_eq_zero h, Nat.zero_add]

theorem WellRead.replaceLine {a : Artifact} (h : a.WellRead) (i : Nat) {text : String}
    (htext : '\n' ∉ text.toList) : (a.replaceLine i text).WellRead := by
  intro l hl
  obtain ⟨j, hj⟩ := List.mem_iff_getElem?.1 hl
  change (a.lines.modify i _)[j]? = some l at hj
  rw [List.getElem?_modify] at hj
  obtain ⟨l', hl', rfl⟩ := Option.map_eq_some_iff.1 hj
  split
  · exact htext
  · exact h l' (List.mem_of_getElem? hl')

/-- Setting a version leaves the lines that are there, one of them with another text. -/
theorem WellRead.sets {a : Artifact} (h : a.WellRead) {version : String}
    (hversion : '\n' ∉ version.toList) {edits : List LineEdit}
    (hsets : Manifest.Sets version a.texts edits) : (a.editAll edits).WellRead
      ∧ (a.editAll edits).lines.length = a.lines.length
      ∧ (a.editAll edits).endsInNewline = a.endsInNewline
      ∧ (edits ≠ [] → (a.editAll edits).render ≠ a.render) := by
  cases hsets with
  | none => exact ⟨h, rfl, rfl, fun hne => absurd rfl hne⟩
  | @one i line updated hline hne hupdated =>
      have hplain : '\n' ∉ line.toList := by
        obtain ⟨l, hl, rfl⟩ := List.mem_map.1 (List.mem_of_getElem? hline)
        exact h l hl
      exact ⟨h.replaceLine i (hupdated hversion hplain), List.length_modify _ _ _, rfl,
        fun _ => render_replaceLine_ne hline hne⟩

/-- Fewer lines, of two at least, are written with fewer line feeds. -/
theorem WellRead.render_ne_of_length {a b : Artifact} (ha : a.WellRead) (hb : b.WellRead)
    (hend : b.endsInNewline = a.endsInNewline) (htwo : 2 ≤ a.lines.length)
    (hlength : b.lines.length < a.lines.length) : b.render ≠ a.render := by
  intro heq
  have hfeeds : b.feeds = a.feeds := by rw [feeds, heq, feeds]
  rw [ha.feeds_eq, hb.feeds_eq, hend] at hfeeds
  cases hclosed : a.endsInNewline <;>
    simp only [hclosed, if_true, Bool.false_eq_true, if_false] at hfeeds <;> omega

/-- Where an entry has a duplicate there are two lines at least. -/
theorem two_le_length_lines {a : Artifact} {k : Manifest.EntryKind} {identity : String}
    {first other : Nat × Nat} {others : List (Nat × Nat)}
    (hentries : Manifest.entries k identity a.texts = first :: other :: others) : 2 ≤ a.lines.length := by
  have hle := List.length_filterMap_le (fun i =>
    if ((a.texts[i]?).bind k.identity?).any (k.sameIdentity · identity) then
      some (i, Manifest.entryEnd k a.texts i) else none) (List.range a.texts.length)
  change (Manifest.entries k identity a.texts).length ≤ _ at hle
  rw [hentries, List.length_range, texts, List.length_map, List.length_cons, List.length_cons] at hle
  omega

/-- A merge that has edits to make changes the file. -/
theorem WellRead.merge_ne {a : Artifact} (ha : a.WellRead) (hfirm : a.Firm)
    {k : Manifest.EntryKind} {identity entry : String} {version : Option String}
    (hversion : ∀ v ∈ version, '\n' ∉ v.toList) {edits : List LineEdit}
    (h : Manifest.merge? k identity entry version a.texts = some edits) (hedits : edits ≠ []) :
    (a.editAll edits).render ≠ a.render := by
  cases Manifest.merge?_merges h with
  | puts_in =>
      have hmore : a.feeds + (Manifest.insertEntry k entry a.texts).length
          ≤ (a.editAll (Manifest.insertEntry k entry a.texts)).feeds :=
        hfirm.feeds_inserts Manifest.mem_insertEntry
      have hpos := List.length_pos_iff.2 hedits
      intro heq
      have hsame : (a.editAll (Manifest.insertEntry k entry a.texts)).feeds = a.feeds := by
        rw [feeds, heq, feeds]
      omega
  | @sets first last others rest setting hentries hrest hsets =>
      have hremove := @Manifest.mem_removeSpans others
      generalize hremovals : List.flatMap _ others.reverse = removals at hremove hrest hedits ⊢
      obtain ⟨htexts, hlength, hend, hsub⟩ := editAll_removals hremove hrest
      have hwell : (a.editAll removals).WellRead := fun l hl => ha l (hsub hl)
      have hplain : '\n' ∉ (version.getD "").toList := by
        cases version with
        | none => decide
        | some v => exact hversion v rfl
      rw [← htexts] at hsets
      obtain ⟨hwell', hlength', hend', hset⟩ := hwell.sets hplain hsets
      rw [editAll, List.foldl_append]
      change ((a.editAll removals).editAll setting).render ≠ a.render
      cases removals with
      | nil => exact hset hedits
      | cons e es =>
          have htwo : 2 ≤ a.lines.length := by
            cases others with
            | nil => cases hremovals
            | cons other others => exact two_le_length_lines hentries
          rw [List.length_cons] at hlength
          exact ha.render_ne_of_length hwell' (hend'.trans hend) htwo (by omega)

end Artifact

/-! ## Deciding -/

/-- What an action puts in or takes out is not nothing, and the version it sets is one line. -/
def Action.Effective : Action → Prop
  | .file _ _ | .importLine _ | .reference _ _ => True
  | .declare d _ => d.block ≠ []
  | .clean samples => ∀ sample ∈ samples, 2 ≤ sample.length
  | .dependency _ version _ => ∀ v ∈ version, '\n' ∉ v.toList

section

variable {templates : Templates} {path text : String} {current next : Artifact} {outcome : Outcome}

/-- A merge changes a file that is there if it says so. -/
theorem MergeDecides.alters {ctx : Context} {k : Manifest.EntryKind} {identity entry : String}
    {version : Option String} (hversion : ∀ v ∈ version, '\n' ∉ v.toList)
    (hpresent : current.isPresent = true) (hcurrent : current = .parse path text)
    (h : MergeDecides templates current ctx (Manifest.merge? k identity entry version) outcome next)
    (hchanged : outcome.changed = true) : outcome = .updated ∧ next.render ≠ text := by
  cases h with
  | rests => cases hchanged
  | edits hstart hmerge hedits =>
      rw [startFrom_of_present hpresent] at hstart
      cases hstart
      refine ⟨if_pos hpresent, ?_⟩
      have hne := hedits hpresent
      subst hcurrent
      have hrender := (Artifact.wellRead_parse path text).merge_ne (Artifact.firm_parse path text)
        hversion hmerge hne
      rwa [Artifact.render_parse] at hrender

/-- A block that is put into a file that is there changes it. -/
theorem render_insertBlock_ne (path text : String) (anchor : Anchor) {block : List String}
    (hblock : block ≠ []) (separated : Bool) :
    ((Artifact.parse path text).insertBlock anchor block separated).render ≠ text := by
  have hrender := (Artifact.firm_parse path text).insertBlock_ne anchor hblock separated
  rwa [Artifact.render_parse] at hrender

/-- **An action that decides to write a file that is there changes it.** -/
theorem Action.alters_decide {a : Action} (ha : a.Effective)
    (hpresent : current.isPresent = true)
    (hcurrent : (∀ template ctx, a ≠ .file template ctx) → current = .parse path text)
    (h : a.decide templates current = .ok (outcome, next)) (hchanged : outcome.changed = true) :
    (outcome = .updated ∨ outcome = .cleaned) ∧ next.render ≠ text := by
  have hupdated : changeOutcome current = .updated := if_pos hpresent
  cases Action.decides h with
  | there => cases hchanged
  | made habsent => cases hpresent.symm.trans habsent
  | declared =>
      rw [hpresent] at hchanged
      cases hchanged
  | @declares d ctx start hstart =>
      rw [startFrom_of_present hpresent] at hstart
      cases hstart
      rw [hcurrent (by rintro _ _ ⟨⟩)] at hupdated ⊢
      exact ⟨.inl hupdated, render_insertBlock_ne path text d.anchor ha d.separated⟩
  | imported => cases hchanged
  | @imports literal =>
      rw [hcurrent (by rintro _ _ ⟨⟩)] at hupdated ⊢
      exact ⟨.inl hupdated,
        render_insertBlock_ne path text .afterImports (List.cons_ne_nil literal []) false⟩
  | cleans hremove =>
      rw [hcurrent (by rintro _ _ ⟨⟩)] at hremove
      have hrender := (Artifact.wellRead_parse path text).removeSamples_ne ha hremove
      rw [Artifact.render_parse] at hrender
      exact ⟨.inr rfl, hrender⟩
  | clean => cases hchanged
  | depends hmerge =>
      obtain ⟨houtcome, hne⟩ := hmerge.alters ha hpresent (hcurrent (by rintro _ _ ⟨⟩)) hchanged
      exact ⟨.inl houtcome, hne⟩
  | refers hmerge =>
      have hnone : ∀ v ∈ (none : Option String), '\n' ∉ v.toList := by rintro _ ⟨⟩
      obtain ⟨houtcome, hne⟩ := hmerge.alters hnone hpresent (hcurrent (by rintro _ _ ⟨⟩)) hchanged
      exact ⟨.inl houtcome, hne⟩

end

/-! ## Plans -/

namespace Site

variable {s : Site} {f : Feature} {provider : Provider}

theorem package_effective {layer : Layer} {identity version : String} (h : '\n' ∉ version.toList) :
    (s.package layer identity version).action.Effective := by
  rintro _ ⟨⟩
  exact h

theorem lineBefore_effective {marker line : String} {path : RelativePath} {template : Template}
    {ctx : Context} : (lineBefore marker line path template ctx).action.Effective := List.cons_ne_nil _ _

theorem layerGraph_effective : ∀ t ∈ s.layerGraph, t.action.Effective := by
  simp only [layerGraph, List.forall_mem_cons]
  exact ⟨trivial, trivial, trivial, trivial, trivial, by rintro _ ⟨⟩⟩

theorem persistence_effective : ∀ t ∈ s.persistence f provider, t.action.Effective := by
  simp only [persistence, List.forall_mem_cons]
  refine ⟨List.cons_ne_nil _ _, trivial, package_effective (by decide),
    package_effective ?_, by rintro _ ⟨⟩⟩
  cases provider <;> decide

theorem repository_effective (methods : List RepositoryMethod) :
    ∀ t ∈ s.repository f methods, t.action.Effective := by
  intro t ht
  rcases List.mem_append.1 ht with ht | ht
  · obtain ⟨m, -, rfl⟩ := List.mem_map.1 ht
    exact List.cons_ne_nil _ _
  · obtain ⟨m, -, rfl⟩ := List.mem_map.1 ht
    exact List.cons_ne_nil _ _

theorem applicationLayer_effective : ∀ t ∈ s.applicationLayer, t.action.Effective := by
  simp only [applicationLayer, List.forall_mem_cons]
  exact ⟨package_effective (by decide), package_effective (by decide), trivial, by rintro _ ⟨⟩⟩

theorem useCase_effective (u : UseCase) : ∀ t ∈ s.useCase f u, t.action.Effective := by
  simp only [useCase, List.forall_mem_cons]
  exact ⟨List.cons_ne_nil _ _, List.cons_ne_nil _ _, List.cons_ne_nil _ _, by rintro _ ⟨⟩⟩

theorem exposure_effective (u : UseCase) : ∀ t ∈ s.exposure f u, t.action.Effective := by
  simp only [exposure, List.forall_mem_cons]
  refine ⟨?_, trivial, by rintro _ ⟨⟩⟩
  cases s.locator.style <;> exact List.cons_ne_nil _ _

theorem entryPoint_effective : ∀ t ∈ s.entryPoint f, t.action.Effective := by
  simp only [entryPoint, List.forall_mem_append, List.forall_mem_cons, List.forall_mem_map]
  exact ⟨⟨⟨⟨⟨trivial, (by decide : ∀ sample ∈ weatherSample, 2 ≤ sample.length), by rintro _ ⟨⟩⟩,
    fun _ _ => lineBefore_effective⟩, lineBefore_effective, by rintro _ ⟨⟩⟩, fun _ _ => trivial⟩,
    package_effective (by decide), by rintro _ ⟨⟩⟩

theorem infrastructureWiring_effective :
    ∀ t ∈ s.infrastructureWiring f provider, t.action.Effective := by
  simp only [infrastructureWiring, List.forall_mem_append, List.forall_mem_cons, List.forall_mem_map]
  exact ⟨⟨trivial, List.cons_ne_nil _ _, List.cons_ne_nil _ _, by rintro _ ⟨⟩⟩, fun _ _ => trivial⟩

theorem servicePlan_effective (p : Placement) (name : String) (lifetime : Lifetime) :
    ∀ t ∈ s.servicePlan p name lifetime, t.action.Effective := by
  have hservice : ∀ t ∈ s.service p name lifetime, t.action.Effective := by
    refine List.forall_mem_append.2 ⟨?_, ?_⟩
    · simp only [List.forall_mem_cons]
      exact ⟨trivial, trivial, List.cons_ne_nil _ _, trivial, by rintro _ ⟨⟩⟩
    · split
      · rintro _ ⟨⟩
      · exact List.forall_mem_singleton.2 trivial
  refine List.forall_mem_append.2 ⟨hservice, ?_⟩
  cases p with
  | external e =>
      simp only [externalSystem, List.forall_mem_cons]
      refine ⟨package_effective ?_, List.cons_ne_nil _ _, trivial, List.cons_ne_nil _ _,
        List.cons_ne_nil _ _, by rintro _ ⟨⟩⟩
      cases e <;> decide
  | featureLocal f | shared => rintro _ ⟨⟩

end Site

/-- Every task of a plan puts in or takes out something. -/
theorem Order.plan_effective (s : Site) (provider : Provider) (o : Order) :
    ∀ t ∈ o.plan s provider, t.action.Effective := by
  cases o with
  | crud f =>
      simp only [plan, Site.crudPlan, List.forall_mem_append, List.forall_mem_cons,
        List.forall_mem_flatMap]
      exact ⟨⟨⟨⟨⟨⟨⟨⟨Site.layerGraph_effective, trivial, trivial, by rintro _ ⟨⟩⟩,
        Site.persistence_effective⟩, Site.repository_effective _⟩, Site.applicationLayer_effective⟩,
        fun u _ => Site.useCase_effective u⟩, fun u _ => Site.exposure_effective u⟩,
        Site.entryPoint_effective⟩, Site.infrastructureWiring_effective⟩
  | action f r =>
      simp only [plan, Site.actionPlan, List.forall_mem_append]
      exact ⟨⟨⟨⟨⟨⟨⟨Site.layerGraph_effective, Site.persistence_effective⟩,
        Site.repository_effective _⟩, Site.applicationLayer_effective⟩, Site.useCase_effective _⟩,
        Site.exposure_effective _⟩, Site.entryPoint_effective⟩, Site.infrastructureWiring_effective⟩
  | service p name lifetime => exact Site.servicePlan_effective p name lifetime
  | constant f name => exact List.forall_mem_singleton.2 (List.cons_ne_nil _ _)
  | enum f name =>
      simp only [plan, Site.enumPlan, List.forall_mem_cons]
      exact ⟨List.cons_ne_nil _ _, trivial, List.cons_ne_nil _ _, by rintro _ ⟨⟩⟩

end Scaffold
