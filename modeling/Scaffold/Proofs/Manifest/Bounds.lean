import Mathlib
import Scaffold.Proofs.Manifest
import Scaffold.Proofs.Version

/-!
# Within the lines of a manifest

A merge finds the spans of all entries before it changes anything, and takes the later entries out
from the last one on.  A span that was found on the lines as they were may reach beyond the lines
that are left, when entries overlap: two that are not closed end at the same closing tag.  `Fits`
says of the spans that none does, and that the search for the version of the first entry ends before
the lines do.

A merge makes edits exactly if its spans fit (`merge?_within`), and these edits are then within the
lines they are made on, one after the other.  Entries that lie apart always fit (`fits_of_apart`).
-/

namespace Scaffold

/-! ## Carrying edits out -/

namespace LineEdit

theorem carryOut?_append (ls : List String) (es es' : List LineEdit) :
    carryOut? ls (es ++ es') = (carryOut? ls es).bind (carryOut? · es') := by
  induction es generalizing ls with
  | nil => rfl
  | cons e es ih =>
      simp only [List.cons_append, carryOut?]
      cases e.tryApply ls with
      | none => rfl
      | some next => exact ih next

/-- Lines put in one below the other. -/
theorem carryOut?_inserts (texts : List String) {ls : List String} {index offset : Nat}
    (h : index + offset ≤ ls.length) :
    carryOut? ls ((texts.zipIdx offset).map fun x => .insert (index + x.2) x.1)
      = some (ls.take (index + offset) ++ texts ++ ls.drop (index + offset)) := by
  induction texts generalizing ls offset with
  | nil => simp [carryOut?]
  | cons text texts ih =>
      have hlength : (ls.take (index + offset) ++ [text]).length = index + (offset + 1) := by
        simp only [List.length_append, List.length_take, List.length_singleton]
        omega
      have hnext : (LineEdit.insert (index + offset) text).tryApply ls
          = some (ls.take (index + offset) ++ [text] ++ ls.drop (index + offset)) := by
        simp [tryApply, inRange, apply, h]
      rw [List.zipIdx_cons, List.map_cons, carryOut?, hnext]
      have hroom : index + (offset + 1)
          ≤ (ls.take (index + offset) ++ [text] ++ ls.drop (index + offset)).length := by
        rw [List.length_append, hlength]
        omega
      simp only
      rw [ih hroom, ← hlength, List.take_left, List.drop_left]
      simp

end LineEdit

namespace Manifest

open Scaffold.LineEdit

/-! ## Taking spans out -/

/-- The lines without those of a span. -/
def cutOut (span : Nat × Nat) (ls : List String) : List String :=
  ls.take span.1 ++ ls.drop (span.2 + 1)

/-- The lines without those of spans, the last span taken out first. -/
def cutOutAll (spans : List (Nat × Nat)) (ls : List String) : List String := spans.foldr cutOut ls

/-- How many lines spans have, each counted for itself. -/
def extent (spans : List (Nat × Nat)) : Nat := (spans.map fun span => span.2 + 1 - span.1).sum

/-- Each span ends within the lines that are left when the spans after it are taken out. -/
def Removable (count : Nat) : List (Nat × Nat) → Prop
  | [] => True
  | span :: later => Removable count later ∧ span.2 + extent later < count

/-- The edits that take spans out. -/
def removals (spans : List (Nat × Nat)) : List LineEdit :=
  spans.reverse.flatMap fun (start, stop) => removeSpan start stop

theorem removals_cons (span : Nat × Nat) (later : List (Nat × Nat)) :
    removals (span :: later) = removals later ++ removeSpan span.1 span.2 := by
  rw [removals, removals, List.reverse_cons, List.flatMap_append, List.flatMap_singleton]

theorem length_cutOut {span : Nat × Nat} {ls : List String} (hspan : span.1 ≤ span.2)
    (h : span.2 < ls.length) : (cutOut span ls).length + (span.2 + 1 - span.1) = ls.length := by
  simp only [cutOut, List.length_append, List.length_take, List.length_drop]
  omega

/-- The lines from `first` on, taken out from the last one on. -/
theorem carryOut?_range' (first count : Nat) (ls : List String) (h : first + count ≤ ls.length) :
    carryOut? ls ((List.range' first count).reverse.map .remove)
      = some (ls.take first ++ ls.drop (first + count)) := by
  induction count generalizing ls with
  | zero => simp [carryOut?]
  | succ count ih =>
      have hlast : first + count < ls.length := by omega
      have hnext : (LineEdit.remove (first + count)).tryApply ls
          = some (ls.eraseIdx (first + count)) := by
        simp [tryApply, inRange, apply, hlast]
      have hroom : first + count ≤ (ls.eraseIdx (first + count)).length := by
        rw [List.length_eraseIdx, if_pos hlast]
        omega
      rw [List.range'_concat, Nat.one_mul, List.reverse_concat, List.map_cons, carryOut?, hnext]
      simp only
      rw [ih _ hroom, List.eraseIdx_eq_take_drop_succ]
      have hlength : (ls.take (first + count)).length = first + count := by
        rw [List.length_take]
        omega
      rw [List.take_append_of_le_length (by omega), List.take_take, Nat.min_eq_left (by omega)]
      rw [List.drop_append_of_le_length (by omega), List.drop_of_length_le (by omega)]
      simp [Nat.add_assoc]

theorem carryOut?_removeSpan {span : Nat × Nat} {ls : List String} (hspan : span.1 ≤ span.2)
    (h : span.2 < ls.length) : carryOut? ls (removeSpan span.1 span.2) = some (cutOut span ls) := by
  have hend : span.1 + (span.2 + 1 - span.1) = span.2 + 1 := by omega
  rw [removeSpan, carryOut?_range' _ _ _ (by omega), hend]
  rfl

/-- A span that reaches beyond the lines cannot be taken out. -/
theorem carryOut?_removeSpan_eq_none {span : Nat × Nat} {ls : List String} (hspan : span.1 ≤ span.2)
    (h : ls.length ≤ span.2) : carryOut? ls (removeSpan span.1 span.2) = none := by
  obtain ⟨count, hcount⟩ := Nat.exists_eq_add_of_le hspan
  have hlines : span.2 + 1 - span.1 = count + 1 := by omega
  have hnext : (LineEdit.remove (span.1 + count)).tryApply ls = none := by
    simp only [tryApply, inRange, decide_eq_true_eq, ite_eq_right_iff, reduceCtorEq, imp_false]
    omega
  rw [removeSpan, hlines, List.range'_concat, Nat.one_mul, List.reverse_concat, List.map_cons,
    carryOut?, hnext]

theorem length_cutOutAll {spans : List (Nat × Nat)} {ls : List String}
    (hspans : ∀ span ∈ spans, span.1 ≤ span.2) (h : Removable ls.length spans) :
    (cutOutAll spans ls).length + extent spans = ls.length := by
  induction spans with
  | nil => rfl
  | cons span later ih =>
      rw [List.forall_mem_cons] at hspans
      obtain ⟨hlater, hspan⟩ := h
      have hrest := ih hspans.2 hlater
      have hin : span.2 < (cutOutAll later ls).length := by omega
      have hcut := length_cutOut hspans.1 hin
      change (cutOut span (cutOutAll later ls)).length + _ = _
      simp only [extent, List.map_cons, List.sum_cons] at hrest ⊢
      omega

/-- Spans can be taken out exactly if each ends within the lines that are left. -/
theorem carryOut?_removals_eq_some_iff {spans : List (Nat × Nat)} {ls rest : List String}
    (hspans : ∀ span ∈ spans, span.1 ≤ span.2) :
    carryOut? ls (removals spans) = some rest
      ↔ Removable ls.length spans ∧ rest = cutOutAll spans ls := by
  induction spans generalizing rest with
  | nil => simp [removals, carryOut?, Removable, cutOutAll, eq_comm]
  | cons span later ih =>
      rw [List.forall_mem_cons] at hspans
      rw [removals_cons, carryOut?_append, Option.bind_eq_some_iff]
      constructor
      · rintro ⟨left, hleft, hrest⟩
        obtain ⟨hlater, rfl⟩ := (ih hspans.2).1 hleft
        have hlength := length_cutOutAll hspans.2 hlater
        have hin : span.2 < (cutOutAll later ls).length := by
          by_contra hout
          rw [carryOut?_removeSpan_eq_none hspans.1 (Nat.le_of_not_lt hout)] at hrest
          cases hrest
        rw [carryOut?_removeSpan hspans.1 hin] at hrest
        exact ⟨⟨hlater, by omega⟩, (Option.some.inj hrest).symm⟩
      · rintro ⟨⟨hlater, hspan⟩, rfl⟩
        have hlength := length_cutOutAll hspans.2 hlater
        exact ⟨_, (ih hspans.2).2 ⟨hlater, rfl⟩, carryOut?_removeSpan hspans.1 (by omega)⟩

/-! ## The spans of entries -/

section

variable {k : EntryKind} {identity entry : String} {lines : List String} {span : Nat × Nat}

/-- An entry ends on the line it starts on or on a later one. -/
theorem entryEnd_bounds {start : Nat} (h : start < lines.length) :
    start ≤ entryEnd k lines start ∧ entryEnd k lines start < lines.length := by
  unfold entryEnd
  simp only
  split
  · exact ⟨Nat.le_refl _, h⟩
  · split
    next offset hoffset =>
      obtain ⟨hlt, -⟩ := List.findIdx?_eq_some_iff_getElem.1 hoffset
      rw [List.length_drop] at hlt
      omega
    next => exact ⟨Nat.le_refl _, h⟩

/-- An entry is found on a line with its identity, and ends where entries do. -/
theorem mem_entries : span ∈ entries k identity lines
    ↔ ∃ line, lines[span.1]? = some line ∧ (k.identity? line).any (k.sameIdentity · identity) = true
      ∧ span.2 = entryEnd k lines span.1 := by
  simp only [entries, List.mem_filterMap, List.mem_range, Option.ite_none_right_eq_some]
  constructor
  · rintro ⟨i, hi, hfound, hspan⟩
    cases hspan
    rw [List.getElem?_eq_getElem hi] at hfound ⊢
    exact ⟨_, rfl, hfound, rfl⟩
  · rintro ⟨line, hline, hfound, hspan⟩
    obtain ⟨hi, -⟩ := List.getElem?_eq_some_iff.1 hline
    exact ⟨span.1, hi, by rwa [hline], by rw [← hspan]⟩

theorem entries_bounds (h : span ∈ entries k identity lines) :
    span.1 ≤ span.2 ∧ span.2 < lines.length := by
  obtain ⟨line, hline, -, hend⟩ := mem_entries.1 h
  obtain ⟨hi, -⟩ := List.getElem?_eq_some_iff.1 hline
  rw [hend]
  exact entryEnd_bounds hi

/-- Entries are found from the first line on. -/
theorem pairwise_entries (k : EntryKind) (identity : String) (lines : List String) :
    (entries k identity lines).Pairwise fun a b => a.1 < b.1 := by
  refine List.Pairwise.filterMap _ ?_ List.pairwise_lt_range
  intro i j hij a ha b hb
  rw [Option.ite_none_right_eq_some] at ha hb
  obtain ⟨-, ha⟩ := ha
  obtain ⟨-, hb⟩ := hb
  cases ha
  cases hb
  exact hij

/-! ## The search for a version -/

/-- The search for the version of the entry from line `first` to line `last` ends before the lines
do. -/
def Reaches (lines : List String) (first last : Nat) : Prop :=
  last < lines.length
    ∨ (∃ line, lines[first]? = some line
      ∧ (attributeFrom? "Version".toList (fun _ => true) false none line.toList).isSome = true)
    ∨ ∃ i line, first < i ∧ lines[i]? = some line ∧ (findElement? line.toList).isSome = true

theorem setChild?_eq_none_iff (version : String) (lines : List String) (index count : Nat) :
    setChild? version lines index count = none
      ↔ lines.length < index + count ∧ 0 < count
        ∧ ∀ i line, index ≤ i → lines[i]? = some line → findElement? line.toList = none := by
  induction count generalizing index with
  | zero => simp [setChild?]
  | succ count ih =>
      unfold setChild?
      cases hline : lines[index]? with
      | none =>
          have hout : lines.length ≤ index := List.getElem?_eq_none_iff.1 hline
          simp only [true_iff]
          refine ⟨by omega, Nat.succ_pos _, fun i line hi hget => ?_⟩
          obtain ⟨hlt, -⟩ := List.getElem?_eq_some_iff.1 hget
          omega
      | some line =>
          obtain ⟨hlt, -⟩ := List.getElem?_eq_some_iff.1 hline
          cases hset : findElement? line.toList with
          | some found =>
              have hsome : (setElement? version line).isSome = true := by
                rw [setElement?, hset]
                rfl
              obtain ⟨updated, hupdated⟩ := Option.isSome_iff_exists.1 hsome
              simp only [hupdated, reduceCtorEq, false_iff, not_and, not_forall]
              intro _ _
              exact ⟨index, line, Nat.le_refl _, hline, by simp [hset]⟩
          | none =>
              have hnone : setElement? version line = none := by
                rw [setElement?, hset]
                rfl
              simp only [hnone, ih]
              constructor
              · rintro ⟨hlength, hpos, hall⟩
                refine ⟨by omega, Nat.succ_pos _, fun i l hi hget => ?_⟩
                rcases Nat.eq_or_lt_of_le hi with rfl | hi
                · rw [hline] at hget
                  cases hget
                  exact hset
                · exact hall i l hi hget
              · rintro ⟨hlength, -, hall⟩
                exact ⟨by omega, by omega, fun i l hi hget => hall i l (by omega) hget⟩

/-- The version of an entry is set, or found to be set, exactly if its search ends. -/
theorem setVersion?_eq_none_iff {version : String} {first last : Nat} (hfirst : first < lines.length)
    (hle : first ≤ last) : setVersion? version lines first last = none ↔ ¬ Reaches lines first last := by
  have hline : lines[first]? = some lines[first] := List.getElem?_eq_getElem hfirst
  unfold setVersion? Reaches
  rw [hline]
  simp only [Option.some.injEq, exists_eq_left', not_or, not_exists, not_and, Nat.not_lt]
  cases hattribute : attributeFrom? "Version".toList (fun _ => true) false none lines[first].toList with
  | some cut =>
      have hset : (setAttribute? version lines[first]).isSome = true := by
        rw [setAttribute?, hattribute]
        rfl
      obtain ⟨updated, hupdated⟩ := Option.isSome_iff_exists.1 hset
      simp [hupdated]
  | none =>
      have hchild := setChild?_eq_none_iff version lines (first + 1) (last - first)
      simp only [setAttribute?, hattribute, Option.map_none, Option.isSome_none, Bool.false_eq_true,
        not_false_eq_true, true_and]
      cases hset : setChild? version lines (first + 1) (last - first) with
      | none =>
          obtain ⟨hlength, hpos, hall⟩ := hchild.1 hset
          simp only [true_iff]
          exact ⟨by omega, fun i line hi hget => by simp [hall i line hi hget]⟩
      | some edits? =>
          have hnot : ¬ (lines.length ≤ last
              ∧ ∀ i line, first < i → lines[i]? = some line →
                ¬ (findElement? line.toList).isSome = true) := by
            rintro ⟨hlength, hall⟩
            have hnone := hchild.2 ⟨by omega, by omega, fun i line hi hget => by
              simpa using hall i line hi hget⟩
            rw [hset] at hnone
            cases hnone
          cases edits? with
          | some edits => simpa using hnot
          | none =>
              simp only
              split <;> simpa using hnot

/-! ## Merging -/

/-- The spans of the entries fit the lines they are used on. -/
def Fits (k : EntryKind) (identity : String) (version : Option String) (lines : List String) : Prop :=
  ∀ first last others, entries k identity lines = (first, last) :: others →
    Removable lines.length others
      ∧ (version.isSome = true → Reaches (cutOutAll others lines) first last)

/-- An entry that is put in goes to a place among the lines. -/
theorem carryOut?_insertEntry (k : EntryKind) (entry : String) (lines : List String) :
    ∃ result, carryOut? lines (insertEntry k entry lines) = some result := by
  unfold insertEntry
  split
  next first hfirst =>
    obtain ⟨hlt, -⟩ := List.findIdx?_eq_some_iff_getElem.1 hfirst
    have hplace : ∀ index text, index ≤ lines.length →
        ∃ result, carryOut? lines [.insert index text] = some result := by
      intro index text hindex
      exact ⟨apply lines (.insert index text), by simp [carryOut?, tryApply, inRange, hindex]⟩
    refine hplace _ _ ?_
    cases hend : (lines.drop first).findIdx? fun l => Text.trim l == "</ItemGroup>" with
    | some offset =>
        obtain ⟨hoffset, -⟩ := List.findIdx?_eq_some_iff_getElem.1 hend
        rw [List.length_drop] at hoffset
        simp only
        omega
    | none => exact hlt
  next =>
    have hclose : (lastIndex? (fun l => Text.trim l == "</Project>") lines).getD lines.length
        ≤ lines.length := by
      cases hlast : lastIndex? (fun l => Text.trim l == "</Project>") lines with
      | none => exact Nat.le_refl _
      | some i => exact Nat.le_of_lt (lastIndex?_lt hlast)
    exact ⟨_, carryOut?_inserts _ hclose⟩

/-- The lines before all spans stay where they are. -/
theorem getElem?_cutOutAll {others : List (Nat × Nat)} {i : Nat}
    (h : ∀ span ∈ others, i < span.1 ∧ span.1 ≤ span.2) (ls : List String) :
    (cutOutAll others ls)[i]? = ls[i]? := by
  induction others with
  | nil => rfl
  | cons span later ih =>
      rw [List.forall_mem_cons] at h
      change (cutOut span (cutOutAll later ls))[i]? = _
      rw [← ih h.2, cutOut]
      by_cases hi : i < (cutOutAll later ls).length
      · have htake : i < ((cutOutAll later ls).take span.1).length := by
          rw [List.length_take]
          omega
        rw [List.getElem?_append_left htake, List.getElem?_take, if_pos h.1.1]
      · have hout := List.getElem?_eq_none_iff.2 (Nat.le_of_not_lt hi)
        rw [hout, List.getElem?_eq_none_iff]
        simp only [List.length_append, List.length_take, List.length_drop]
        omega

/-- What a merge finds of the entries: the first, and those after it, which are taken out. -/
theorem entries_cons {first last : Nat} {others : List (Nat × Nat)}
    (h : entries k identity lines = (first, last) :: others) :
    (first ≤ last ∧ last < lines.length)
      ∧ (∀ span ∈ others, first < span.1 ∧ span.1 ≤ span.2 ∧ span.2 < lines.length) := by
  have hbounds : ∀ span ∈ (first, last) :: others, span.1 ≤ span.2 ∧ span.2 < lines.length :=
    fun span hspan => entries_bounds (h ▸ hspan)
  have hsorted := pairwise_entries k identity lines
  rw [h, List.pairwise_cons] at hsorted
  rw [List.forall_mem_cons] at hbounds
  exact ⟨hbounds.1, fun span hspan => ⟨hsorted.1 span hspan, hbounds.2 span hspan⟩⟩

/-- Where entries are, a merge takes out all but the first, and then sets its version. -/
theorem merge?_of_entries {first last : Nat} {others : List (Nat × Nat)}
    (h : entries k identity lines = (first, last) :: others) (version : Option String) :
    merge? k identity entry version lines = (carryOut? lines (removals others)).bind fun rest =>
      (version.elim (some []) fun v => setVersion? v rest first last).map (removals others ++ ·) := by
  unfold merge?
  rw [h]
  simp only
  rw [← removals]
  cases carryOut? lines (removals others) with
  | none => rfl
  | some rest =>
      cases version with
      | none => simp
      | some v => rfl

/-- A merge makes no edits exactly if the spans do not fit. -/
theorem merge?_eq_none_iff {version : Option String} :
    merge? k identity entry version lines = none ↔ ¬ Fits k identity version lines := by
  unfold Fits
  cases hentries : entries k identity lines with
  | nil =>
      unfold merge?
      simp [hentries]
  | cons span others =>
      obtain ⟨first, last⟩ := span
      obtain ⟨⟨hle, hlast⟩, hothers⟩ := entries_cons hentries
      have hspans : ∀ span ∈ others, span.1 ≤ span.2 := fun span hspan => (hothers span hspan).2.1
      have hcut := @carryOut?_removals_eq_some_iff others lines
      rw [merge?_of_entries hentries]
      cases hrest : carryOut? lines (removals others) with
      | none =>
          simp only [Option.bind_none, true_iff, not_forall]
          refine ⟨first, last, others, rfl, fun hfits => ?_⟩
          rw [(hcut hspans).2 ⟨hfits.1, rfl⟩] at hrest
          cases hrest
      | some rest =>
          obtain ⟨hremovable, rfl⟩ := (hcut hspans).1 hrest
          have hfirst : first < (cutOutAll others lines).length := by
            have hkept := getElem?_cutOutAll
              (fun span hspan => ⟨(hothers span hspan).1, hspans span hspan⟩) lines
            rw [List.getElem?_eq_getElem (Nat.lt_of_le_of_lt hle hlast)] at hkept
            exact (List.getElem?_eq_some_iff.1 hkept).1
          have hiff : (∀ first' last' others', (first, last) :: others = (first', last') :: others' →
                Removable lines.length others'
                  ∧ (version.isSome = true → Reaches (cutOutAll others' lines) first' last'))
              ↔ (version.isSome = true → Reaches (cutOutAll others lines) first last) := by
            constructor
            · exact fun h => (h first last others rfl).2
            · rintro h _ _ _ ⟨⟩
              exact ⟨hremovable, h⟩
          rw [hiff]
          cases version with
          | none => simp
          | some v =>
              simp only [Option.bind_some, Option.elim_some, Option.map_eq_none_iff,
                setVersion?_eq_none_iff hfirst hle]
              simp

/-- The edits of a merge are within the lines. -/
theorem carryOut?_merge {version : Option String} {edits : List LineEdit}
    (h : merge? k identity entry version lines = some edits) :
    ∃ result, carryOut? lines edits = some result := by
  cases merge?_merges h with
  | puts_in => exact carryOut?_insertEntry k entry lines
  | @sets first last others rest setting hentries hrest hsets =>
      rw [carryOut?_append, hrest, Option.bind_some]
      cases hsets with
      | none => exact ⟨rest, rfl⟩
      | @one i line updated hline hne hupdated =>
          obtain ⟨hi, -⟩ := List.getElem?_eq_some_iff.1 hline
          exact ⟨apply rest (.replace i updated), by simp [carryOut?, tryApply, inRange, hi]⟩

/-- Spans that lie apart can be taken out. -/
theorem removable_of_apart {spans : List (Nat × Nat)} {count : Nat}
    (hspans : ∀ span ∈ spans, span.1 ≤ span.2 ∧ span.2 < count)
    (hapart : spans.Pairwise fun a b => a.2 < b.1) :
    Removable count spans ∧ ∀ i, (∀ span ∈ spans, i < span.1) → i < count → i + extent spans < count := by
  induction spans with
  | nil => exact ⟨trivial, fun i _ hi => hi⟩
  | cons span later ih =>
      rw [List.forall_mem_cons] at hspans
      rw [List.pairwise_cons] at hapart
      obtain ⟨hlater, hroom⟩ := ih hspans.2 hapart.2
      have hspan := hroom span.2 hapart.1 hspans.1.2
      refine ⟨⟨hlater, hspan⟩, fun i hi _ => ?_⟩
      have hbefore := hi span List.mem_cons_self
      simp only [extent, List.map_cons, List.sum_cons] at hspan ⊢
      omega

/-- Entries that lie apart fit. -/
theorem fits_of_apart (version : Option String)
    (h : (entries k identity lines).Pairwise fun a b => a.2 < b.1) :
    Fits k identity version lines := by
  intro first last others hentries
  obtain ⟨⟨hle, hlast⟩, hothers⟩ := entries_cons hentries
  rw [hentries, List.pairwise_cons] at h
  obtain ⟨hremovable, hroom⟩ := removable_of_apart (fun span hspan => (hothers span hspan).2) h.2
  have hlength := length_cutOutAll (fun span hspan => (hothers span hspan).2.1) hremovable
  have hreach := hroom last h.1 hlast
  exact ⟨hremovable, fun _ => .inl (by omega)⟩

/-- **A merge stays within the lines of a manifest exactly if the spans of its entries fit**,
whatever the lines are.  Every span is one of lines; the edits of a merge that makes any are within
the lines they are made on; and it makes them exactly if the spans fit, which they do if the entries
lie apart. -/
theorem merge?_within (k : EntryKind) (identity entry : String) (version : Option String)
    (lines : List String) :
    (∀ span ∈ entries k identity lines, span.1 ≤ span.2 ∧ span.2 < lines.length)
      ∧ ((∃ edits result, merge? k identity entry version lines = some edits
          ∧ carryOut? lines edits = some result) ↔ Fits k identity version lines)
      ∧ (merge? k identity entry version lines = none ↔ ¬ Fits k identity version lines)
      ∧ ((entries k identity lines).Pairwise (fun a b => a.2 < b.1) →
          Fits k identity version lines) := by
  refine ⟨fun span => entries_bounds, ?_, merge?_eq_none_iff, fits_of_apart version⟩
  constructor
  · rintro ⟨edits, result, hmerge, -⟩
    by_contra hfits
    rw [merge?_eq_none_iff.2 hfits] at hmerge
    cases hmerge
  · intro hfits
    cases hmerge : merge? k identity entry version lines with
    | none => exact absurd hfits (merge?_eq_none_iff.1 hmerge)
    | some edits =>
        obtain ⟨result, hresult⟩ := carryOut?_merge hmerge
        exact ⟨edits, result, rfl, hresult⟩

end

/-- A duplicate apart from its entry is taken out. -/
theorem merge?_within_duplicate :
    ((entries .package "Lib" ["<PackageReference Include=\"Lib\" />",
        "<PackageReference Include=\"LIB\">", "</PackageReference>"]).Pairwise fun a b => a.2 < b.1)
      ∧ Fits .package "Lib" (some "2.0") ["<PackageReference Include=\"Lib\" />",
        "<PackageReference Include=\"LIB\">", "</PackageReference>"] := by
  have hapart : (entries .package "Lib" ["<PackageReference Include=\"Lib\" />",
      "<PackageReference Include=\"LIB\">", "</PackageReference>"]).Pairwise fun a b => a.2 < b.1 := by
    decide
  exact ⟨hapart, (merge?_within .package "Lib" "" (some "2.0") _).2.2.2 hapart⟩

/-- Two entries that end at one closing tag do not fit: the version is looked for on lines that are
gone. -/
example : mergeDependency? "Lib" (some "2.0") ["<PackageReference Include=\"Lib\">",
    "<PackageReference Include=\"Lib\">", "</PackageReference>"] = none := by decide

end Manifest

end Scaffold
