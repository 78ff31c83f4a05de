import Mathlib
import Scaffold.Proofs.Spelling

/-!
# The grammar of identifiers

Which texts are accepted as a name is a grammar (`Spells`): ASCII letters, digits, underscores,
hyphens and spaces, of which the first letter or digit is a letter.  Trimming comes first, so blanks
at the ends do not count, and a text of blanks is a missing name and not a wrong one.

What is accepted has the letters and digits of what was typed, each once and in order: the words of
a text put one after the other are the text without its separators (`flatten_wordsFrom`), and a word
keeps its letters in Pascal case and in kebab case.  So the two forms differ from the input, and
from each other, in letter case and in what stands between the words only.
-/

namespace Scaffold

open Scaffold.Text

/-! ## Blank texts -/

theorem trimChars_eq_nil_iff {cs : List Char} : trimChars cs = [] ↔ ∀ c ∈ cs, isBlank c = true := by
  rw [trimChars, List.reverse_eq_nil_iff, List.dropWhile_eq_nil_iff]
  constructor
  · intro h c hc
    rw [← List.takeWhile_append_dropWhile (p := isBlank) (l := cs), List.mem_append] at hc
    obtain hc | hc := hc
    · exact (List.mem_takeWhile_imp hc)
    · exact h c (List.mem_reverse.2 hc)
  · intro h c hc
    exact h c ((List.dropWhile_suffix _).subset (List.mem_reverse.1 hc))

/-- Nothing is left of a text, trimmed, if and only if it is blank throughout. -/
theorem trim_eq_empty_iff {s : String} : trim s = "" ↔ isBlankText s = true := by
  rw [trim, String.ofList_eq_empty_iff, trimChars_eq_nil_iff, isBlankText, List.all_eq_true]

/-! ## The grammar -/

/-- A spelling of a name. -/
structure Spells (s : String) : Prop where
  /-- The characters it is made of. -/
  chars : ∀ c ∈ s.toList, c.isAlphanum = true ∨ c = '_' ∨ c = '-' ∨ c = ' '
  /-- Its first letter or digit is a letter. -/
  first : ∃ c, s.toList.find? Char.isAlphanum = some c ∧ c.isAlpha = true

/-- The letters and digits of a spelling, in small letters. -/
def lettersOf (s : String) : List Char :=
  lowercase (s.toList.filter fun c => c ∉ ['_', '-', ' '])

/-- A text is words of small letters and digits with single hyphens between them, and `letters` are
the words put one after the other. -/
def Hyphenates (s : String) (letters : List Char) : Prop :=
  ∃ ws : List (List Char), (∀ w ∈ ws, w ≠ [] ∧ ∀ c ∈ w, c.isLower = true ∨ c.isDigit = true)
    ∧ s.toList = ['-'].intercalate ws ∧ ws.flatten = letters

/-- What an accepted name is like that was typed as `s`. -/
structure NameOf (s name : String) : Prop where
  /-- It begins with a capital. -/
  capital : ∃ c, name.toList.head? = some c ∧ c.isUpper = true
  /-- It is made of letters and digits. -/
  made : Made Char.isAlphanum name
  /-- They are those that were typed, in this or that case. -/
  letters : lowercase name.toList = lettersOf s
  /-- Its kebab form has the same ones. -/
  kebab : Hyphenates (kebabCase name) (lettersOf s)

theorem made_isNameChar_iff {s : String} :
    Made isNameChar s ↔ ∀ c ∈ s.toList, c.isAlphanum = true ∨ c = '_' ∨ c = '-' ∨ c = ' ' := by
  simp only [Made, isNameChar, Bool.or_eq_true, beq_iff_eq, or_assoc]

/-- A spelling is what can be put into Pascal case as a name. -/
theorem spells_iff {s : String} :
    Spells s ↔ Made isNameChar s ∧ (pascalCase s).toList.head?.any Char.isAlpha = true := by
  have hfirst (hmade : Made isNameChar s) :
      (∃ c, s.toList.find? Char.isAlphanum = some c ∧ c.isAlpha = true)
        ↔ (pascalCase s).toList.head?.any Char.isAlpha = true := by
    rw [head?_pascalCase hmade]
    cases hfind : s.toList.find? Char.isAlphanum with
    | none => simp
    | some c => simp [isAlpha_toUpper (List.find?_some hfind)]
  constructor
  · rintro ⟨hchars, hletter⟩
    have hmade := made_isNameChar_iff.2 hchars
    exact ⟨hmade, (hfirst hmade).1 hletter⟩
  · rintro ⟨hmade, hhead⟩
    exact ⟨made_isNameChar_iff.1 hmade, (hfirst hmade).2 hhead⟩

/-- The three answers to a typed name: it is missing, it is not a spelling, or it is one and put
into Pascal case. -/
theorem normalizeIdentifier_cases (field raw : String) :
    (isBlankText raw = true ∧ normalizeIdentifier field raw = .error (.missingField field))
      ∨ (isBlankText raw = false ∧ ¬ Spells (trim raw)
        ∧ ∃ reason, normalizeIdentifier field raw = .error (.invalidIdentifier field (trim raw) reason))
      ∨ (isBlankText raw = false ∧ Spells (trim raw)
        ∧ normalizeIdentifier field raw = .ok (pascalCase (trim raw))) := by
  by_cases hspells : Spells (trim raw)
  · refine .inr (.inr ⟨?_, hspells, ?_⟩)
    · rw [Bool.eq_false_iff, ne_eq, ← trim_eq_empty_iff]
      intro hempty
      obtain ⟨c, hfind, -⟩ := hspells.first
      rw [hempty] at hfind
      cases hfind
    · obtain ⟨hmade, hhead⟩ := spells_iff.1 hspells
      exact normalizeIdentifier_ok_iff.2 ⟨hmade, hhead, rfl⟩
  · by_cases hblank : isBlankText raw = true
    · refine .inl ⟨hblank, ?_⟩
      rw [normalizeIdentifier, trim_eq_empty_iff.2 hblank]
      rfl
    · refine .inr (.inl ⟨Bool.eq_false_iff.2 hblank, hspells, ?_⟩)
      have hempty : (trim raw).isEmpty = false := by
        rw [String.isEmpty_eq_false_iff]
        exact fun h => hblank (trim_eq_empty_iff.1 h)
      have hnot : ∀ name, normalizeIdentifier field raw ≠ .ok name := by
        intro name hok
        obtain ⟨hmade, hhead, -⟩ := normalizeIdentifier_ok_iff.1 hok
        exact hspells (spells_iff.2 ⟨hmade, hhead⟩)
      revert hnot
      simp only [normalizeIdentifier, hempty, Bool.false_eq_true, if_false]
      split
      · exact fun _ => ⟨_, rfl⟩
      · split
        · exact fun hnot => absurd rfl (hnot _)
        · exact fun _ => ⟨_, rfl⟩

/-! ## What is accepted -/

/-- The characters that separate the words of a typed name. -/
theorem filter_separators {cs : List Char} (h : ∀ c ∈ cs, isNameChar c = true) :
    (cs.filter fun c => c ∉ ['_', '-', ' ']) = cs.filter fun c => !isSeparator c := by
  refine List.filter_congr fun c hc => ?_
  have key := forall_ascii (p := fun c => isNameChar c = true →
    decide (c ∉ ['_', '-', ' ']) = !isSeparator c) (by decide) (toNat_lt_of_isNameChar (h c hc))
  exact key (h c hc)

theorem lowercase_eq_map {cs : List Char} (h : ∀ c ∈ cs, c.isAlphanum = true) :
    lowercase cs = cs.map Char.toLower :=
  lowerFrom_eq_map (fun c hc => toNat_lt_of_isAlphanum (h c hc)) []

/-- Put into Pascal case, a typed name has the letters and digits it was typed with. -/
theorem lowercase_pascalCase {s : String} (h : Made isNameChar s) :
    lowercase (pascalCase s).toList = lettersOf s := by
  have hletters : ∀ c ∈ s.toList.filter (fun c => !isSeparator c), c.isAlphanum = true := by
    rw [← filter_isAlphanum h]
    exact fun c hc => (List.mem_filter.1 hc).2
  rw [lettersOf, filter_separators h, lowercase_eq_map hletters, lowercase_eq_map (pascalCase_made h),
    lower_pascalCase h]

/-- The small form of a letter or digit is a small letter or a digit. -/
theorem isLower_or_isDigit_toLower {c : Char} (h : c.isAlphanum = true) :
    c.toLower.isLower = true ∨ c.toLower.isDigit = true := by
  have key := forall_ascii (p := fun c => c.isAlphanum = true →
    c.toLower.isLower = true ∨ c.toLower.isDigit = true) (by decide) (toNat_lt_of_isAlphanum h)
  exact key h

/-- The kebab form of a name is its words, which are the name put one after the other. -/
theorem hyphenates_kebabCase {name : String} (h : Made Char.isAlphanum name) :
    Hyphenates (kebabCase name) (lowercase name.toList) := by
  have hword : ∀ w ∈ wordsFrom [] name.toList, ∀ c ∈ w, c.isAlphanum = true := fun w hw =>
    isAlphanum_of_mem_wordsFrom (by simp) h hw
  refine ⟨words name.toList, fun w hw => ?_, ?_, ?_⟩
  · obtain ⟨v, hv, rfl⟩ := List.mem_map.1 hw
    rw [lowercase_eq_map (hword v hv)]
    refine ⟨by simpa using (mem_wordsFrom hv).1, fun c hc => ?_⟩
    obtain ⟨d, hd, rfl⟩ := List.mem_map.1 hc
    exact isLower_or_isDigit_toLower (hword v hv d hd)
  · rw [kebabCase, String.toList_ofList]
  · have hlower : words name.toList = (wordsFrom [] name.toList).map (List.map Char.toLower) :=
      List.map_congr_left fun v hv => lowercase_eq_map (hword v hv)
    rw [hlower, ← List.map_flatten, flatten_wordsFrom, filter_isSeparator h, List.nil_append,
      lowercase_eq_map h]

/-- A spelling in Pascal case is a name that nothing of the spelling is missing from. -/
theorem Spells.nameOf {s : String} (h : Spells s) : NameOf s (pascalCase s) := by
  have hchars := made_isNameChar_iff.2 h.chars
  have hmade := pascalCase_made hchars
  refine ⟨?_, hmade, lowercase_pascalCase hchars, ?_⟩
  · obtain ⟨c, hfind, halpha⟩ := h.first
    have hupper : c.isAlpha = true → c.toUpper.isUpper = true :=
      forall_ascii (p := fun c => c.isAlpha = true → c.toUpper.isUpper = true) (by decide)
        (toNat_lt_of_isAlphanum (List.find?_some hfind))
    exact ⟨c.toUpper, by rw [head?_pascalCase hchars, hfind]; rfl, hupper halpha⟩
  · rw [← lowercase_pascalCase hchars]
    exact hyphenates_kebabCase hmade

/-- **Identifiers are accepted by their grammar and nothing of them is lost.**  A typed name is
accepted if and only if it is a spelling once trimmed, and not empty.  A name that is blank is
missing, and only that; whatever else is not accepted is an invalid identifier.  What is accepted
begins with a capital, is made of letters and digits, and has those that were typed, as has its
kebab form, which puts single hyphens between words of small letters and digits. -/
theorem normalizeIdentifier_grammar (field raw : String) :
    ((∃ name, normalizeIdentifier field raw = .ok name) ↔ trim raw ≠ "" ∧ Spells (trim raw))
      ∧ (normalizeIdentifier field raw = .error (.missingField field) ↔ isBlankText raw = true)
      ∧ (∀ e, normalizeIdentifier field raw = .error e →
        e = .missingField field ∨ ∃ reason, e = .invalidIdentifier field (trim raw) reason)
      ∧ ∀ name, normalizeIdentifier field raw = .ok name → NameOf (trim raw) name := by
  have hempty := trim_eq_empty_iff (s := raw)
  obtain ⟨hblank, hanswer⟩ | ⟨hblank, hspells, reason, hanswer⟩ | ⟨hblank, hspells, hanswer⟩ :=
    normalizeIdentifier_cases field raw
  · refine ⟨?_, by simp [hanswer, hblank], ?_, ?_⟩
    · simp [hanswer, hempty, hblank]
    · intro e he
      rw [hanswer] at he
      exact .inl (Except.error.inj he).symm
    · intro name hname
      rw [hanswer] at hname
      cases hname
  · refine ⟨by simp [hanswer, hspells], by simp [hanswer, hblank], ?_, ?_⟩
    · intro e he
      rw [hanswer] at he
      exact .inr ⟨reason, (Except.error.inj he).symm⟩
    · intro name hname
      rw [hanswer] at hname
      cases hname
  · refine ⟨by simp [hanswer, hempty, hblank, hspells], by simp [hanswer, hblank], ?_, ?_⟩
    · intro e he
      rw [hanswer] at he
      cases he
    · intro name hname
      rw [hanswer, Except.ok.injEq] at hname
      rw [← hname]
      exact hspells.nameOf

/-- A spelling with blanks, separators and a digit, one that begins with a digit, and a blank. -/
theorem normalizeIdentifier_grammar_samples :
    Spells "order_line-2" ∧ NameOf "order_line-2" "OrderLine2"
      ∧ ¬ Spells "_2nd order"
      ∧ normalizeIdentifier "entity" " \t" = .error (.missingField "entity") := by
  have hgrammar := normalizeIdentifier_grammar "entity" " order_line-2 "
  have hdigit := normalizeIdentifier_grammar "entity" "_2nd order"
  have htrim : trim " order_line-2 " = "order_line-2" := by decide
  have htrim' : trim "_2nd order" = "_2nd order" := by decide
  have hok : normalizeIdentifier "entity" " order_line-2 " = .ok "OrderLine2" := rfl
  have hrejected : ∀ name, normalizeIdentifier "entity" "_2nd order" ≠ .ok name := by
    intro name hname
    have : normalizeIdentifier "entity" "_2nd order"
      = .error (.invalidIdentifier "entity" "_2nd order" "must start with a letter") := rfl
    rw [this] at hname
    cases hname
  rw [htrim] at hgrammar
  rw [htrim'] at hdigit
  refine ⟨(hgrammar.1.1 ⟨_, hok⟩).2, hgrammar.2.2.2 _ hok, fun hspells => ?_, ?_⟩
  · obtain ⟨name, hname⟩ := hdigit.1.2 ⟨by decide, hspells⟩
    exact hrejected name hname
  · exact (normalizeIdentifier_grammar "entity" " \t").2.1.2 (by decide)

end Scaffold
