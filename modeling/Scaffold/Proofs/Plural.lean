import Mathlib
import Scaffold.Proofs.Names

/-!
# The last letter of a plural

A name in Pascal case has the letters of the name, in this or that case (`lower_pascalCase`), and no
English plural ends in `d` (`not_endsInD_english`).  So the plural of an entity never ends in
`ById`, which keeps the use cases of an entity apart that are named after it and after its plural.
-/

namespace Scaffold

open Scaffold.Text

/-! ## Letters and words -/

/-- Words put one after the other are the text they were taken from, without what separates them. -/
theorem flatten_wordsFrom (current cs : List Char) :
    (wordsFrom current cs).flatten = current ++ cs.filter fun c => !isSeparator c := by
  have hclose : ∀ word : List Char, (closeWord word).flatten = word := by
    intro word
    unfold closeWord
    split
    next hempty => rw [List.isEmpty_iff.1 hempty]; rfl
    · simp
  induction cs generalizing current with
  | nil => rw [wordsFrom, hclose, List.filter_nil, List.append_nil]
  | cons c cs ih =>
      unfold wordsFrom
      split
      next hsep => rw [List.flatten_append, hclose, ih]; simp [hsep]
      next hsep =>
        split
        · rw [List.flatten_cons, ih]
          simp [hsep]
        · rw [ih]
          simp [hsep]

/-- Letters and digits do not separate words. -/
theorem filter_isSeparator {cs : List Char} (h : ∀ c ∈ cs, c.isAlphanum = true) :
    (cs.filter fun c => !isSeparator c) = cs :=
  List.filter_eq_self.2 fun c hc => by rw [isSeparator_of_isAlphanum (h c hc), Bool.not_false]

theorem toLower_case {c : Char} (h : c.isAlphanum = true) :
    c.toUpper.toLower = c.toLower ∧ c.toLower.toLower = c.toLower :=
  forall_ascii (p := fun c => c.toUpper.toLower = c.toLower ∧ c.toLower.toLower = c.toLower)
    (by decide) (toNat_lt_of_isAlphanum h)

theorem lower_capitalize {cs : List Char} (h : ∀ c ∈ cs, c.isAlphanum = true) :
    (capitalize cs).map Char.toLower = cs.map Char.toLower := by
  cases cs with
  | nil => rfl
  | cons c cs =>
      have hc := h c List.mem_cons_self
      have hascii : isAscii c = true := by simpa [isAscii] using toNat_lt_of_isAlphanum hc
      simp [capitalize, upperChars, hascii, (toLower_case hc).1]

/-- A typed name in Pascal case has the letters of the name. -/
theorem lower_pascalCase {s : String} (h : Made isNameChar s) :
    (pascalCase s).toList.map Char.toLower
      = (s.toList.filter fun c => !isSeparator c).map Char.toLower := by
  have hwords : ∀ v ∈ wordsFrom [] s.toList, ∀ c ∈ v, c.isAlphanum = true := by
    intro v hv c hc
    obtain hc | hc := (mem_wordsFrom hv).2 c hc
    · cases hc
    · exact isAlphanum_of_isNameChar (h c hc.1) hc.2
  have hword : ∀ v ∈ wordsFrom [] s.toList,
      (capitalize (lowercase v)).map Char.toLower = v.map Char.toLower := by
    intro v hv
    have hlower : lowercase v = v.map Char.toLower :=
      lowerFrom_eq_map (fun c hc => toNat_lt_of_isAlphanum (hwords v hv c hc)) []
    have hmade : ∀ c ∈ v.map Char.toLower, c.isAlphanum = true :=
      List.forall_mem_map.2 fun c hc => (isAlphanum_case (hwords v hv c hc)).1
    rw [hlower, lower_capitalize hmade, List.map_map]
    exact List.map_congr_left fun c hc => (toLower_case (hwords v hv c hc)).2
  rw [pascalCase, String.toList_ofList, words, List.flatMap_map, List.map_flatMap,
    List.flatMap_congr hword, List.flatMap_def, ← List.map_flatten, flatten_wordsFrom, List.nil_append]

/-! ## Plurals -/

/-- A text ends in the letter d. -/
def EndsInD (s : String) : Prop := (s.toList.map Char.toLower).getLast? = some 'd'

instance (s : String) : Decidable (EndsInD s) := inferInstanceAs (Decidable (_ = _))

theorem endsInD_append {s t : String} (ht : t ≠ "") : EndsInD (s ++ t) ↔ EndsInD t := by
  have hne : t.toList.map Char.toLower ≠ [] := by simpa using ht
  rw [EndsInD, EndsInD, String.toList_append, List.map_append, List.getLast?_append_of_ne_nil _ hne]

theorem not_endsInD_regular (word lower : String) : ¬ EndsInD (Plural.regular word lower) := by
  unfold Plural.regular
  split
  · exact (endsInD_append (by decide)).not.2 (by decide)
  split
  · exact (endsInD_append (by decide)).not.2 (by decide)
  split
  · exact (endsInD_append (by decide)).not.2 (by decide)
  split
  · exact (endsInD_append (by decide)).not.2 (by decide)
  split
  · exact (endsInD_append (by decide)).not.2 (by decide)
  · exact (endsInD_append (by decide)).not.2 (by decide)

theorem not_endsInD_ofWord {word : String} (h : Made Char.isAlphanum word) :
    ¬ EndsInD (Plural.ofWord word) := by
  have hlower : lowercase word.toList = word.toList.map Char.toLower :=
    lowerFrom_eq_map (fun c hc => toNat_lt_of_isAlphanum (h c hc)) []
  have huncountable : ∀ u ∈ Plural.uncountable, u.toList.getLast? ≠ some 'd' := by decide
  have hirregular : ∀ entry ∈ Plural.irregular,
      ¬ EndsInD entry.2 ∧ ¬ EndsInD (String.ofList (capitalize entry.2.toList)) := by decide
  simp only [Plural.ofWord]
  split
  next hmem =>
    have hnot := huncountable _ (List.contains_iff_mem.1 hmem)
    rwa [String.toList_ofList, hlower] at hnot
  · split
    next plural hlookup =>
      obtain ⟨before, after, hsplit, -⟩ := List.lookup_eq_some_iff.1 hlookup
      have hentry := hirregular (String.ofList (lowercase word.toList), plural) (by
        rw [hsplit]
        exact List.mem_append_right _ List.mem_cons_self)
      unfold Plural.matchCapital
      split
      · exact hentry.2
      · exact hentry.1
    · exact not_endsInD_regular _ _

/-- No English plural ends in d. -/
theorem not_endsInD_english {s : String} (h : IsName s) : ¬ EndsInD (Plural.english s) := by
  have hlast := lastWord_isName h
  have hnil : s.toList.isEmpty = false := by simpa using h.1
  simp only [Plural.english, hnil, Bool.false_eq_true, if_false]
  exact (endsInD_append (ofWord_isName hlast).1).not.2 (not_endsInD_ofWord hlast.2)

/-- The plural of an entity does not end in d. -/
theorem not_endsInD_plural {entity : String} (h : IsName entity) :
    ¬ EndsInD (pascalCase (Plural.english entity)) := by
  rw [EndsInD, lower_pascalCase ((english_isName h).2.mono fun _ => isNameChar_of_isAlphanum),
    filter_isSeparator (english_isName h).2]
  exact not_endsInD_english h

end Scaffold
