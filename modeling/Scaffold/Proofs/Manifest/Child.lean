import Mathlib
import Scaffold.Proofs.Manifest.Bounds
import Scaffold.Proofs.Manifest.Element

/-!
# Version elements

The version of an entry may stand in an element of its own.  `childVersion?` reads the first such
element of a text, between its tags; the search of a merge looks for a value without brackets
instead, and finds the same one where it has none (`setElement?_eq`).  What is read back after the
value was replaced is the new value (`childVersion?_replaceChild?`).
-/

namespace Scaffold.Manifest

open Scaffold.Text

/-! ## Cutting at a text -/

section

variable {needle front back cs : List Char}

theorem cutAt?_eq_some (h : cutAt? needle cs = some (front, back)) : cs = front ++ needle ++ back := by
  induction cs generalizing front with
  | nil =>
      rw [cutAt?, Option.ite_none_right_eq_some, List.isEmpty_iff] at h
      obtain ⟨rfl, h⟩ := h
      cases h
      rfl
  | cons c cs ih =>
      rw [cutAt?] at h
      split at h
      next after hafter =>
        cases h
        rw [dropStart?_eq_some.1 hafter, List.nil_append]
      next =>
        obtain ⟨⟨front', back'⟩, hfront, h⟩ := Option.map_eq_some_iff.1 h
        cases h
        rw [ih hfront]
        rfl

theorem cutAt?_self_append (hne : needle ≠ []) (after : List Char) :
    cutAt? needle (needle ++ after) = some ([], after) := by
  obtain ⟨d, needle, rfl⟩ := List.exists_cons_of_ne_nil hne
  have hdrop : dropStart? (d :: needle) (d :: (needle ++ after)) = some after :=
    dropStart?_eq_some.2 rfl
  rw [List.cons_append, cutAt?, hdrop]

/-- The first occurrence stays the first, whatever follows it. -/
theorem cutAt?_of_cutAt? (hne : needle ≠ []) (h : cutAt? needle cs = some (front, back))
    (after : List Char) : cutAt? needle (front ++ needle ++ after) = some (front, after) := by
  induction cs generalizing front with
  | nil =>
      rw [cutAt?, Option.ite_none_right_eq_some, List.isEmpty_iff] at h
      exact absurd h.1 hne
  | cons c cs ih =>
      obtain ⟨d, needle, rfl⟩ := List.exists_cons_of_ne_nil hne
      have hwhole := cutAt?_eq_some h
      rw [cutAt?] at h
      split at h
      next rest hrest =>
        cases h
        rw [List.nil_append, cutAt?_self_append hne]
      next hnone =>
        obtain ⟨⟨front', back'⟩, hfront, h⟩ := Option.map_eq_some_iff.1 h
        cases h
        have hstill : dropStart? (d :: needle) (c :: (front' ++ d :: needle ++ after)) = none := by
          rw [Option.eq_none_iff_forall_not_mem]
          intro rest hrest
          rw [Option.mem_def, dropStart?_eq_some] at hrest
          have hleft : d :: needle <+: c :: (front' ++ d :: needle ++ after) := ⟨rest, hrest.symm⟩
          have hright : c :: front' ++ d :: needle <+: c :: (front' ++ d :: needle ++ after) :=
            ⟨after, by simp⟩
          obtain ⟨t, ht⟩ := List.prefix_of_prefix_length_le hleft hright (by
            rw [List.length_append, List.length_cons]
            omega)
          have hsome : dropStart? (d :: needle) (c :: cs) = some (t ++ back) := by
            rw [dropStart?_eq_some, hwhole, ← List.append_assoc, ht]
          rw [hsome] at hnone
          cases hnone
        rw [List.cons_append, List.cons_append, cutAt?, hstill, ih hfront]
        rfl

theorem cutAt?_eq_none_iff : cutAt? needle cs = none ↔ ¬ needle <:+: cs := by
  induction cs with
  | nil => simp [cutAt?, List.infix_nil]
  | cons c cs ih =>
      rw [cutAt?, List.infix_cons_iff, not_or, ← ih]
      split
      next rest hrest =>
        rw [dropStart?_eq_some] at hrest
        simp only [reduceCtorEq, false_iff, not_and]
        exact fun hno => absurd ⟨rest, hrest.symm⟩ hno
      next hnone =>
        rw [Option.map_eq_none_iff]
        refine ⟨fun h => ⟨fun hprefix => ?_, h⟩, And.right⟩
        obtain ⟨rest, hrest⟩ := hprefix
        rw [dropStart?_eq_some.2 hrest.symm] at hnone
        cases hnone

/-- The first occurrence is behind what lacks the first character. -/
theorem cutAt?_append {c : Char} (hc : c ∉ front) :
    cutAt? (c :: needle) (front ++ back)
      = (cutAt? (c :: needle) back).map fun (b, a) => (front ++ b, a) := by
  induction front with
  | nil => simp
  | cons d front ih =>
      rw [List.mem_cons, not_or] at hc
      have hnone : dropStart? (c :: needle) (d :: (front ++ back)) = none := by
        simp [dropStart?, hc.1]
      rw [List.cons_append, cutAt?, hnone]
      simp only [ih hc.2, Option.map_map]
      rfl

end

/-! ## Version elements -/

/-- What a version element begins with. -/
def versionOpen : List Char := '<' :: (versionName ++ ['>'])

/-- What a version element ends with. -/
def versionClose : List Char := '<' :: '/' :: (versionName ++ ['>'])

/-- The value of the first version element of a text. -/
def childVersion? (cs : List Char) : Option (List Char) :=
  (cutAt? versionOpen cs).bind fun (_, rest) => (cutAt? versionClose rest).map Prod.fst

/-- A text with another value in its first version element. -/
def replaceChild? (version : String) (cs : List Char) : Option (List Char) :=
  (cutAt? versionOpen cs).bind fun (front, rest) => (cutAt? versionClose rest).map fun (_, back) =>
    front ++ (versionElement version).toList ++ back

theorem toList_versionElement (version : String) :
    (versionElement version).toList = versionOpen ++ version.toList ++ versionClose := by
  rw [versionElement, String.toList_append, String.toList_append]
  rfl

section

variable {version : String} {cs : List Char}

theorem childVersion?_eq_some_iff {value : List Char} : childVersion? cs = some value
    ↔ ∃ front rest back, cutAt? versionOpen cs = some (front, rest)
      ∧ cutAt? versionClose rest = some (value, back) := by
  rw [childVersion?, Option.bind_eq_some_iff]
  constructor
  · rintro ⟨⟨front, rest⟩, hfront, h⟩
    obtain ⟨⟨value', back⟩, hvalue, rfl⟩ := Option.map_eq_some_iff.1 h
    exact ⟨front, rest, back, hfront, hvalue⟩
  · rintro ⟨front, rest, back, hfront, hvalue⟩
    exact ⟨(front, rest), hfront, Option.map_eq_some_iff.2 ⟨(value, back), hvalue, rfl⟩⟩

/-- The version element that is changed is the one that is read. -/
theorem childVersion?_replaceChild? {cs' : List Char} (hversion : '<' ∉ version.toList)
    (h : replaceChild? version cs = some cs') : childVersion? cs' = some version.toList := by
  obtain ⟨⟨front, rest⟩, hfront, h⟩ := Option.bind_eq_some_iff.1 h
  obtain ⟨⟨value, back⟩, hvalue, rfl⟩ := Option.map_eq_some_iff.1 h
  have hopen := cutAt?_of_cutAt? (by decide) hfront (version.toList ++ (versionClose ++ back))
  have hclose : cutAt? versionClose (version.toList ++ (versionClose ++ back))
      = some (version.toList, back) := by
    have hhere := @cutAt?_append versionClose.tail version.toList (versionClose ++ back) '<' hversion
    change cutAt? versionClose _ = (cutAt? versionClose _).map _ at hhere
    rw [hhere, cutAt?_self_append (by decide)]
    simp
  rw [childVersion?_eq_some_iff]
  refine ⟨front, _, back, ?_, hclose⟩
  rw [← hopen, toList_versionElement]
  simp only [List.append_assoc]

/-- Where a version element is found, one is closed. -/
theorem infix_of_findElement? {front value back : List Char}
    (h : findElement? cs = some (front, value, back)) : versionClose <:+: cs := by
  induction cs generalizing front value back with
  | nil => cases h
  | cons c cs ih =>
      rw [findElement?] at h
      simp only at h
      split at h
      next v a hhere =>
        obtain ⟨rest, hrest, hvalue⟩ := Option.bind_eq_some_iff.1 hhere
        obtain ⟨after, hafter, -⟩ := Option.map_eq_some_iff.1 hvalue
        have hclose : versionClose <+: rest.drop (rest.takeWhile (· != '<')).length :=
          ⟨after, (dropStart?_eq_some.1 hafter).symm⟩
        rw [dropStart?_eq_some.1 hrest]
        exact (hclose.isInfix.trans (List.drop_suffix _ _).isInfix).trans (List.suffix_append _ _).isInfix
      next =>
        obtain ⟨⟨front', value', back'⟩, hfound, -⟩ := Option.map_eq_some_iff.1 h
        exact (ih hfound).trans (List.suffix_cons c cs).isInfix

/-- The search finds a version element here, or goes on behind the first character. -/
theorem findElement?_cons (c : Char) (cs : List Char) : findElement? (c :: cs)
    = (((dropStart? versionOpen (c :: cs)).bind fun rest =>
        (dropStart? versionClose (rest.drop (rest.takeWhile (· != '<')).length)).map
          fun after => ([], rest.takeWhile (· != '<'), after)).or
        ((findElement? cs).map fun found => (c :: found.1, found.2))) := by
  have hnames : "<Version>".toList = versionOpen ∧ "</Version>".toList = versionClose := by decide
  rw [findElement?, hnames.1, hnames.2]
  cases dropStart? versionOpen (c :: cs) with
  | none => rfl
  | some rest =>
      simp only [Option.bind_some]
      cases dropStart? versionClose (rest.drop (rest.takeWhile (· != '<')).length) <;> rfl

/-- What is opened and never closed is no version element. -/
theorem findElement?_eq_none {c : Char} {rest : List Char}
    (hopen : dropStart? versionOpen (c :: cs) = some rest) (hclose : cutAt? versionClose rest = none) :
    findElement? (c :: cs) = none := by
  have hno : ¬ versionClose <:+: rest := cutAt?_eq_none_iff.1 hclose
  have hdrop : dropStart? versionClose (rest.drop (rest.takeWhile (· != '<')).length) = none := by
    rw [Option.eq_none_iff_forall_not_mem]
    intro after hafter
    rw [Option.mem_def, dropStart?_eq_some] at hafter
    exact hno ((List.IsPrefix.isInfix ⟨after, hafter.symm⟩).trans (List.drop_suffix _ _).isInfix)
  have hlater : findElement? cs = none := by
    rw [Option.eq_none_iff_forall_not_mem]
    rintro ⟨front, value, back⟩ hfound
    have hcs : cs = (versionName ++ ['>']) ++ rest :=
      (List.cons.inj (dropStart?_eq_some.1 hopen)).2
    exact hno (infix_of_not_mem (by decide) (hcs ▸ infix_of_findElement? hfound))
  rw [findElement?_cons, hopen]
  simp only [Option.bind_some, hdrop, hlater]
  rfl

/-- A value without a bracket ends where the closing tag begins. -/
theorem takeWhile_of_cutAt? {rest value : List Char} (h : cutAt? versionClose rest = some (value, back))
    (hvalue : '<' ∉ value) :
    rest.takeWhile (· != '<') = value ∧ dropStart? versionClose (rest.drop value.length) = some back := by
  have hrest := cutAt?_eq_some h
  have hall : ∀ c ∈ value, (c != '<') = true := by
    intro c hc
    rw [bne_iff_ne]
    rintro rfl
    exact hvalue hc
  constructor
  · rw [hrest, List.append_assoc, List.takeWhile_append_of_pos hall]
    simp [versionClose]
  · rw [dropStart?_eq_some, hrest, List.append_assoc, List.drop_left]

/-- The search finds the first version element, if its value has no bracket. -/
theorem findElement?_eq (h : ∀ value, childVersion? cs = some value → '<' ∉ value) :
    findElement? cs = (cutAt? versionOpen cs).bind fun (front, rest) =>
      (cutAt? versionClose rest).map fun (value, back) => (front, value, back) := by
  induction cs with
  | nil => rfl
  | cons c cs ih =>
      rw [cutAt?]
      simp only [childVersion?, cutAt?] at h
      cases hopen : dropStart? versionOpen (c :: cs) with
      | none =>
          rw [findElement?_cons]
          simp only [hopen, Option.bind_none] at h ⊢
          rw [ih fun value hvalue => h value ?_]
          · cases cutAt? versionOpen cs with
            | none => rfl
            | some cut => simp [Option.map_map, Function.comp_def]
          · rw [childVersion?] at hvalue
            rw [← hvalue]
            cases cutAt? versionOpen cs <;> rfl
      | some rest =>
          simp only [hopen, Option.bind_some] at h ⊢
          cases hclose : cutAt? versionClose rest with
          | none => exact findElement?_eq_none hopen hclose
          | some cut =>
              obtain ⟨value, back⟩ := cut
              obtain ⟨htake, hdrop⟩ := takeWhile_of_cutAt? hclose (h value (by rw [hclose]; rfl))
              rw [findElement?_cons, hopen]
              simp only [Option.bind_some]
              rw [htake, hdrop]
              rfl

/-- What is behind a version element that is closed does not change how it is read. -/
theorem childVersion?_append (h : (childVersion? cs).isSome = true) (back : List Char) :
    childVersion? (cs ++ back) = childVersion? cs
      ∧ replaceChild? version (cs ++ back) = (replaceChild? version cs).map (· ++ back) := by
  obtain ⟨value, hvalue⟩ := Option.isSome_iff_exists.1 h
  obtain ⟨front, rest, after, hopen, hclose⟩ := childVersion?_eq_some_iff.1 hvalue
  have hopen' : cutAt? versionOpen (cs ++ back) = some (front, rest ++ back) := by
    have hstill := cutAt?_of_cutAt? (by decide) hopen (rest ++ back)
    rwa [← List.append_assoc, ← cutAt?_eq_some hopen] at hstill
  have hclose' : cutAt? versionClose (rest ++ back) = some (value, after ++ back) := by
    have hstill := cutAt?_of_cutAt? (by decide) hclose (after ++ back)
    rwa [← List.append_assoc, ← cutAt?_eq_some hclose] at hstill
  constructor
  · rw [hvalue, childVersion?_eq_some_iff]
    exact ⟨front, _, _, hopen', hclose'⟩
  · simp [replaceChild?, hopen, hopen', hclose, hclose']

theorem replaceChild?_eq_none_iff :
    replaceChild? version cs = none ↔ childVersion? cs = none := by
  rw [replaceChild?, childVersion?]
  cases cutAt? versionOpen cs with
  | none => simp
  | some cut => simp

theorem isSome_of_replaceChild? {cs' : List Char} (h : replaceChild? version cs = some cs') :
    (childVersion? cs).isSome = true := by
  rw [Option.isSome_iff_ne_none, ne_eq, ← @replaceChild?_eq_none_iff version, h]
  exact nofun

end

/-! ## Versions that can be set -/

/-- A version that stands for itself, in quotes and between tags, also as a replacement text. -/
structure Settable (version : String) : Prop where
  quote : '"' ∉ version.toList
  opening : '<' ∉ version.toList
  closing : '>' ∉ version.toList
  dollar : '$' ∉ version.toList

/-- A replacement text without a dollar stands for itself. -/
theorem expand_eq {matched replacement : List Char} (h : '$' ∉ replacement) :
    expand matched replacement = replacement := by
  unfold expand
  induction replacement with
  | nil => rfl
  | cons c cs ih =>
      rw [List.mem_cons, not_or] at h
      have hc : (c != '$') = true := bne_iff_ne.2 (Ne.symm h.1)
      rw [expandFrom, if_pos hc, ih h.2]

theorem setElement?_eq {version line : String} (hdollar : '$' ∉ version.toList)
    (h : ∀ value, childVersion? line.toList = some value → '<' ∉ value) :
    setElement? version line = (replaceChild? version line.toList).map String.ofList := by
  have helement : '$' ∉ (versionElement version).toList := by
    simp [versionElement, hdollar]
  rw [setElement?, findElement?_eq h, replaceChild?]
  simp only [expand_eq helement]
  cases cutAt? versionOpen line.toList with
  | none => rfl
  | some cut => simp [Option.map_map, Function.comp_def]

end Scaffold.Manifest
