import Mathlib
import Scaffold.Manifest
import Scaffold.Proofs.Text.Lines

/-!
# Setting a version

A tag or an attribute is found by cutting a line around its value, and the pieces are the line again
(`Cut.Of`).  So a version that is set puts nothing into the line but itself and what was there
(`setVersion?_sets`), and changes one line at most, which is then another one.
-/

namespace Scaffold.Manifest

open Scaffold.Text

/-! ## Cuts -/

/-- The pieces of a cut are the text that was cut. -/
def Cut.Of (cut : Cut) (cs : List Char) : Prop := cut.before ++ cut.value ++ cut.after = cs

theorem Cut.Of.prepend {cut : Cut} {cs : List Char} (h : cut.Of cs) (front : List Char) :
    (cut.prepend front).Of (front ++ cs) := by
  rw [Cut.Of] at h
  rw [Cut.Of, Cut.prepend, ← h]
  simp only [List.append_assoc]

theorem Cut.Of.subset {cut : Cut} {cs : List Char} (h : cut.Of cs) :
    cut.before ⊆ cs ∧ cut.value ⊆ cs ∧ cut.after ⊆ cs := by
  rw [← h]
  exact ⟨fun c hc => by simp [hc], fun c hc => by simp [hc], fun c hc => by simp [hc]⟩

theorem valueOf?_of {name cs : List Char} {cut : Cut} (h : valueOf? name cs = some cut) :
    cut.Of cs := by
  unfold valueOf? at h
  split at h
  · cases h
  next rest hrest =>
    split at h
    · cases h
    · cases h
      rw [dropStart?_eq_some.1 hrest, Cut.Of, List.append_assoc, List.takeWhile_append_dropWhile]

theorem attributeFrom?_of {name : List Char} {accept : List Char → Bool} {inTag : Bool}
    {previous : Option Char} {cs : List Char} {cut : Cut}
    (h : attributeFrom? name accept inTag previous cs = some cut) : cut.Of cs := by
  induction cs generalizing previous cut with
  | nil => cases h
  | cons c cs ih =>
      simp only [attributeFrom?] at h
      split at h
      next found hhere =>
        cases h
        split at hhere
        · cases hhere
        · exact valueOf?_of (Option.filter_eq_some_iff.1 hhere).1
      next =>
        split at h
        · cases h
        · obtain ⟨rest, hrest, rfl⟩ := Option.map_eq_some_iff.1 h
          exact (ih hrest).prepend [c]

theorem includeOf?_of {tag cs : List Char} {cut : Cut} (h : includeOf? tag cs = some cut) :
    cut.Of cs := by
  unfold includeOf? at h
  split at h
  · cases h
  next rest hrest =>
    split at h
    · cases h
    · obtain ⟨found, hfound, rfl⟩ := Option.map_eq_some_iff.1 h
      rw [dropStart?_eq_some.1 hrest]
      exact (attributeFrom?_of hfound).prepend tag

theorem findInclude?_of {tag cs : List Char} {cut : Cut} (h : findInclude? tag cs = some cut) :
    cut.Of cs := by
  induction cs generalizing cut with
  | nil => cases h
  | cons c cs ih =>
      simp only [findInclude?] at h
      split at h
      next found hfound =>
        cases h
        exact includeOf?_of hfound
      next =>
        obtain ⟨rest, hrest, rfl⟩ := Option.map_eq_some_iff.1 h
        exact (ih hrest).prepend [c]

/-- The pieces around a version element are the text without its tags. -/
theorem findElement?_subset {cs before value after : List Char}
    (h : findElement? cs = some (before, value, after)) :
    before ⊆ cs ∧ value ⊆ cs ∧ after ⊆ cs := by
  induction cs generalizing before value after with
  | nil => cases h
  | cons c cs ih =>
      simp only [findElement?] at h
      split at h
      next v a hhere =>
        cases h
        obtain ⟨rest, hrest, hvalue⟩ := Option.bind_eq_some_iff.1 hhere
        obtain ⟨after', hafter, hpair⟩ := Option.map_eq_some_iff.1 hvalue
        cases hpair
        have hdrop := dropStart?_eq_some.1 hafter
        have hcs := dropStart?_eq_some.1 hrest
        rw [hcs]
        refine ⟨List.nil_subset _, fun x hx => ?_, fun x hx => ?_⟩
        · exact List.mem_append_right _ (List.takeWhile_subset _ hx)
        · refine List.mem_append_right _
            (List.mem_of_mem_drop (i := (rest.takeWhile (· != '<')).length) ?_)
          rw [hdrop]
          exact List.mem_append_right _ hx
      next =>
        obtain ⟨found, hfound, hpair⟩ := Option.map_eq_some_iff.1 h
        obtain ⟨before', value', after'⟩ := found
        cases hpair
        obtain ⟨hbefore, hvalue, hafter⟩ := ih hfound
        exact ⟨List.cons_subset_cons c hbefore, List.subset_cons_of_subset c hvalue,
          List.subset_cons_of_subset c hafter⟩

/-! ## Replacement texts -/

/-- A replacement text expands to characters of its own and of what it replaces. -/
theorem expandFrom_subset (matched : List Char) (skip : Nat) (cs : List Char) :
    expandFrom matched skip cs ⊆ matched ++ cs := by
  have hstep : ∀ {c : Char} {cs : List Char}, matched ++ cs ⊆ matched ++ c :: cs := fun {c cs} =>
    List.append_subset.2 ⟨List.subset_append_left _ _, fun x hx =>
      List.mem_append_right _ (List.mem_cons_of_mem c hx)⟩
  have hhead : ∀ {c : Char} {cs out : List Char}, out ⊆ matched ++ cs →
      c :: out ⊆ matched ++ c :: cs := fun {c cs out} h =>
    List.cons_subset.2 ⟨by simp, List.Subset.trans h hstep⟩
  induction cs generalizing skip with
  | nil =>
      unfold expandFrom
      exact List.nil_subset _
  | cons c cs ih =>
      cases skip with
      | succ k =>
          simp only [expandFrom]
          exact List.Subset.trans (ih k) hstep
      | zero =>
          simp only [expandFrom]
          split
          · exact hhead (ih 0)
          next hdollar =>
            have hc : c = '$' := by simpa using hdollar
            split
            · exact hc ▸ hhead (ih 1)
            · split
              next isMatched length hreference =>
                refine List.append_subset.2 ⟨?_, List.Subset.trans (ih length) hstep⟩
                cases isMatched with
                | true => exact List.subset_append_left _ _
                | false => exact List.nil_subset _
              next => exact hc ▸ hhead (ih 0)

/-! ## Versions -/

section

variable {version line updated : String}

/-- A line stays one line when a version is set on it. -/
def StaysLine (version line updated : String) : Prop :=
  '\n' ∉ version.toList → '\n' ∉ line.toList → '\n' ∉ updated.toList

theorem setAttribute?_staysLine (h : setAttribute? version line = some updated) :
    StaysLine version line updated := by
  intro hversion hline
  obtain ⟨cut, hcut, rfl⟩ := Option.map_eq_some_iff.1 h
  obtain ⟨hbefore, hvalue, hafter⟩ := (attributeFrom?_of hcut).subset
  have hfixed : '\n' ∉ "Version=\"".toList := by decide
  have hattribute : '\n' ∉ (versionAttribute version).toList := by
    simp [versionAttribute, hversion]
  simp only [String.toList_ofList, List.mem_append, not_or]
  refine ⟨⟨fun hmem => hline (hbefore (List.mem_of_mem_take hmem)), fun hmem => ?_⟩,
    fun hmem => hline (hafter (List.mem_of_mem_drop hmem))⟩
  have hexpand := expandFrom_subset _ _ _ hmem
  simp only [List.mem_append] at hexpand
  obtain ((hmem | hmem) | hmem) | hmem := hexpand
  · exact hfixed hmem
  · exact hline (hvalue hmem)
  · exact absurd hmem (by decide)
  · exact hattribute hmem

theorem setElement?_staysLine (h : setElement? version line = some updated) :
    StaysLine version line updated := by
  intro hversion hline
  obtain ⟨found, hfound, rfl⟩ := Option.map_eq_some_iff.1 h
  obtain ⟨before, value, after⟩ := found
  obtain ⟨hbefore, hvalue, hafter⟩ := findElement?_subset hfound
  have helement : ∀ v : String, '\n' ∉ v.toList → '\n' ∉ (versionElement v).toList := by
    intro v hv
    simp [versionElement, hv]
  have hold : '\n' ∉ (String.ofList value).toList := by
    rw [String.toList_ofList]
    exact fun hmem => hline (hvalue hmem)
  simp only [String.toList_ofList, List.mem_append, not_or]
  refine ⟨⟨fun hmem => hline (hbefore hmem), fun hmem => ?_⟩, fun hmem => hline (hafter hmem)⟩
  exact (List.mem_append.1 (expandFrom_subset _ _ _ hmem)).elim (helement _ hold)
    (helement _ hversion)

theorem addAttribute?_staysLine (h : addAttribute? version line = some updated) :
    StaysLine version line updated := by
  intro hversion hline
  obtain ⟨cut, hcut, rfl⟩ := Option.map_eq_some_iff.1 h
  obtain ⟨hbefore, hvalue, hafter⟩ := (findInclude?_of hcut).subset
  have hattribute : '\n' ∉ (versionAttribute version).toList := by
    simp [versionAttribute, hversion]
  simp only [String.toList_ofList, List.mem_append, not_or]
  exact ⟨⟨⟨⟨fun hmem => hline (hbefore hmem), fun hmem => hline (hvalue hmem)⟩, by decide⟩, hattribute⟩,
    fun hmem => hline (hafter (List.mem_of_mem_drop hmem))⟩

end

/-- The edits that set a version: none, or one line becomes another. -/
inductive Sets (version : String) (lines : List String) : List LineEdit → Prop
  | none : Sets version lines []
  | one {i : Nat} {line updated : String} (hline : lines[i]? = some line) (hne : updated ≠ line)
      (hupdated : StaysLine version line updated) : Sets version lines [.replace i updated]

theorem sets_replaceEdit {version : String} {lines : List String} {i : Nat} {line updated : String}
    (hline : lines[i]? = some line) (hupdated : StaysLine version line updated) :
    Sets version lines (replaceEdit i line updated) := by
  unfold replaceEdit
  split
  · exact .none
  next hne => exact .one hline (fun heq => hne (by simp [heq])) hupdated

theorem setChild?_sets {version : String} {lines : List String} {i count : Nat}
    {edits : List LineEdit} (h : setChild? version lines i count = some (some edits)) :
    Sets version lines edits := by
  induction count generalizing i with
  | zero => cases h
  | succ count ih =>
      simp only [setChild?] at h
      split at h
      · cases h
      next line hline =>
        split at h
        next updated hset =>
          cases h
          exact sets_replaceEdit hline (setElement?_staysLine hset)
        next => exact ih h

theorem setVersion?_sets {version : String} {lines : List String} {first last : Nat}
    {edits : List LineEdit} (h : setVersion? version lines first last = some edits) :
    Sets version lines edits := by
  unfold setVersion? at h
  split at h
  · cases h
  next line hline =>
    split at h
    next updated hset =>
      cases h
      exact sets_replaceEdit hline (setAttribute?_staysLine hset)
    next =>
      split at h
      · cases h
      next edits' hchild =>
        cases h
        exact setChild?_sets hchild
      next =>
        split at h
        next updated hadd =>
          cases h
          exact sets_replaceEdit hline (addAttribute?_staysLine hadd)
        next =>
          cases h
          exact .none

/-! ## Merging -/

/-- The edits of a merge: they put the entry in, or they take its duplicates out and then set the
version of the one that stays. -/
inductive Merges (k : EntryKind) (identity entry : String) (version : Option String)
    (lines : List String) : List LineEdit → Prop
  | puts_in (hentries : entries k identity lines = []) :
      Merges k identity entry version lines (insertEntry k entry lines)
  | sets {first last : Nat} {others : List (Nat × Nat)} {rest : List String} {setting : List LineEdit}
      (hentries : entries k identity lines = (first, last) :: others)
      (hrest : LineEdit.carryOut? lines (others.reverse.flatMap fun (start, stop) => removeSpan start stop)
        = some rest)
      (hsets : Sets (version.getD "") rest setting) :
      Merges k identity entry version lines
        (others.reverse.flatMap (fun (start, stop) => removeSpan start stop) ++ setting)

/-- Every merge is of one of these sorts. -/
theorem merge?_merges {k : EntryKind} {identity entry : String} {version : Option String}
    {lines : List String} {edits : List LineEdit}
    (h : merge? k identity entry version lines = some edits) :
    Merges k identity entry version lines edits := by
  unfold merge? at h
  split at h
  next hentries =>
    cases h
    exact .puts_in hentries
  next first last others hentries =>
    simp only at h
    split at h
    · cases h
    next rest hrest =>
      cases version with
      | none =>
          cases h
          rw [← List.append_nil (List.flatMap _ _)]
          exact .sets hentries hrest .none
      | some v =>
          obtain ⟨setting, hsetting, rfl⟩ := Option.map_eq_some_iff.1 h
          exact .sets hentries hrest (setVersion?_sets hsetting)

theorem mem_insertEntry {k : EntryKind} {entry : String} {lines : List String} :
    ∀ e ∈ insertEntry k entry lines, ∃ i text, e = .insert i text := by
  unfold insertEntry
  split
  · simp
  · simp only [List.forall_mem_map]
    exact fun e _ => ⟨_, _, rfl⟩

theorem mem_removeSpans {spans : List (Nat × Nat)} :
    ∀ e ∈ spans.reverse.flatMap fun (start, stop) => removeSpan start stop, ∃ i, e = .remove i := by
  simp only [List.mem_flatMap, removeSpan, List.mem_map]
  rintro e ⟨span, -, i, -, rfl⟩
  exact ⟨i, rfl⟩

end Scaffold.Manifest
