import Mathlib
import Scaffold.Descriptor
import Scaffold.Feature
import Scaffold.Identifier
import Scaffold.Plural
import Scaffold.Proofs.Text.Lines
import Scaffold.Request

/-!
# Names are made of letters and digits

Every name a file is generated from is a word: ASCII letters and digits, and at least one of
them.  A name a user types becomes a word when it is accepted (`normalizeIdentifier_isName`), a
word stays one in Pascal case and in the plural, and a service keeps one without its suffix.
Project names also have dots and underscores, and kebab case puts hyphens between words.

`Made p s` says that a text is made of characters of one class; all of the above are
instances of it.
-/

namespace Scaffold

open Scaffold.Text

/-! ## Characters -/

/-- A decidable property holds of an ASCII character if it holds of each of them. -/
theorem forall_ascii {p : Char → Prop} [DecidablePred p] (h : ∀ n : Fin 128, p (Char.ofNat n))
    {c : Char} (hc : c.toNat < 128) : p c := by
  have := h ⟨c.toNat, hc⟩
  simpa using this

theorem toNat_lt_of_isAlphanum {c : Char} (h : c.isAlphanum = true) : c.toNat < 128 := by
  simp only [Char.isAlphanum, Char.isAlpha, Char.isUpper, Char.isLower, Char.isDigit,
    Bool.or_eq_true, Bool.and_eq_true, decide_eq_true_eq, ge_iff_le, UInt32.le_iff_toNat_le] at h
  have : c.toNat = c.val.toNat := rfl
  simp at h
  omega

/-- A name may hold letters and digits, in either case. -/
theorem isAlphanum_case {c : Char} (h : c.isAlphanum = true) :
    c.toLower.isAlphanum = true ∧ c.toUpper.isAlphanum = true := by
  have key := forall_ascii (p := fun c => c.isAlphanum = true →
    c.toLower.isAlphanum = true ∧ c.toUpper.isAlphanum = true) (by decide)
    (toNat_lt_of_isAlphanum h)
  exact key h

theorem toNat_lt_of_isNameChar {c : Char} (h : isNameChar c = true) : c.toNat < 128 := by
  simp only [isNameChar, Bool.or_eq_true, beq_iff_eq] at h
  rcases h with ((h | rfl) | rfl) | rfl
  · exact toNat_lt_of_isAlphanum h
  all_goals decide

/-- The characters of a name that do not separate words are letters and digits. -/
theorem isAlphanum_of_isNameChar {c : Char} (h : isNameChar c = true)
    (hs : isSeparator c = false) : c.isAlphanum = true := by
  have key := forall_ascii (p := fun c => isNameChar c = true → isSeparator c = false →
    c.isAlphanum = true) (by decide) (toNat_lt_of_isNameChar h)
  exact key h hs

theorem isSeparator_of_isAlphanum {c : Char} (h : c.isAlphanum = true) :
    isSeparator c = false := by
  have key := forall_ascii (p := fun c => c.isAlphanum = true → isSeparator c = false)
    (by decide) (toNat_lt_of_isAlphanum h)
  exact key h

/-! ## Texts of one class -/

/-- A text whose characters all belong to a class. -/
def Made (p : Char → Bool) (s : String) : Prop := ∀ c ∈ s.toList, p c = true

instance (p : Char → Bool) (s : String) : Decidable (Made p s) :=
  List.decidableBAll (fun c => p c = true) s.toList

/-- A name that code is generated under: letters and digits, and at least one of them. -/
def IsName (s : String) : Prop := s ≠ "" ∧ Made Char.isAlphanum s

instance (s : String) : Decidable (IsName s) := inferInstanceAs (Decidable (_ ∧ _))

/-- Decide whether a character can stand in a text in kebab case. -/
def isKebabChar (c : Char) : Bool := c.isAlphanum || c == '-'

/-- The characters of names put together by dots and hyphens. -/
def isDottedChar (c : Char) : Bool := c.isAlphanum || c == '.' || c == '_' || c == '-'

namespace Made

variable {p q : Char → Bool} {s t : String}

theorem append (hs : Made p s) (ht : Made p t) : Made p (s ++ t) := by
  intro c hc
  rw [String.toList_append, List.mem_append] at hc
  exact hc.elim (hs c) (ht c)

theorem mono (h : Made p s) (hpq : ∀ c, p c = true → q c = true) : Made q s :=
  fun c hc => hpq c (h c hc)

/-- A character outside the class is not in the text. -/
theorem not_mem (h : Made p s) {c : Char} (hc : p c = false) : c ∉ s.toList := by
  intro hm
  rw [h c hm] at hc
  cases hc

theorem dotted (h : Made Char.isAlphanum s) : Made isDottedChar s :=
  h.mono fun c hc => by simp [isDottedChar, hc]

theorem kebab_dotted (h : Made isKebabChar s) : Made isDottedChar s :=
  h.mono fun c hc => by
    simp only [isKebabChar, Bool.or_eq_true] at hc
    rcases hc with hc | hc <;> simp [isDottedChar, hc]

theorem joinWith {sep : String} (hsep : Made p sep) {parts : List String}
    (h : ∀ s ∈ parts, Made p s) : Made p (joinWith sep parts) := by
  induction parts with
  | nil => intro c hc; simp [Text.joinWith] at hc
  | cons s parts ih =>
      cases parts with
      | nil => exact h s (by simp)
      | cons t rest =>
          have hs : Made p s := h s (by simp)
          have hrest := ih fun u hu => h u (List.mem_cons_of_mem _ hu)
          exact (hs.append hsep).append hrest

end Made

theorem IsName.append {s t : String} (hs : IsName s) (ht : Made Char.isAlphanum t) :
    IsName (s ++ t) := by
  refine ⟨?_, hs.2.append ht⟩
  intro h
  exact hs.1 (String.append_eq_empty_iff.1 h).1

theorem IsName.prepend {s t : String} (hs : Made Char.isAlphanum s) (ht : IsName t) :
    IsName (s ++ t) := by
  refine ⟨?_, hs.append ht.2⟩
  intro h
  exact ht.1 (String.append_eq_empty_iff.1 h).2

/-! ## Word cases -/

/-- No word is empty, and words hold only what does not separate them. -/
theorem mem_wordsFrom {cs current w : List Char} (hw : w ∈ wordsFrom current cs) :
    w ≠ [] ∧ ∀ c ∈ w, c ∈ current ∨ (c ∈ cs ∧ isSeparator c = false) := by
  have close : ∀ {cur : List Char}, w ∈ closeWord cur → w = cur ∧ w ≠ [] := by
    intro cur hw
    unfold closeWord at hw
    split at hw
    · cases hw
    next hne =>
      rw [List.mem_singleton] at hw
      subst hw
      exact ⟨rfl, by simpa using hne⟩
  induction cs generalizing current with
  | nil =>
      obtain ⟨rfl, hne⟩ := close hw
      exact ⟨hne, fun c hc => .inl hc⟩
  | cons d cs ih =>
      have later : (∀ c ∈ w, c ∈ ([] : List Char) ∨ (c ∈ cs ∧ isSeparator c = false)) →
          ∀ c ∈ w, c ∈ current ∨ (c ∈ d :: cs ∧ isSeparator c = false) := by
        intro h c hc
        rcases h c hc with h | ⟨h, hs⟩
        · cases h
        · exact .inr ⟨List.mem_cons_of_mem _ h, hs⟩
      simp only [wordsFrom] at hw
      split at hw
      · rcases List.mem_append.1 hw with hw | hw
        · obtain ⟨rfl, hne⟩ := close hw
          exact ⟨hne, fun c hc => .inl hc⟩
        · exact ⟨(ih hw).1, later (ih hw).2⟩
      next hsep =>
        have hd : isSeparator d = false := by simpa using hsep
        have grown : ∀ c ∈ current ++ [d], c ∈ current ∨ (c ∈ d :: cs ∧ isSeparator c = false) := by
          intro c hc
          rcases List.mem_append.1 hc with hc | hc
          · exact .inl hc
          · rw [List.mem_singleton.1 hc]
            exact .inr ⟨List.mem_cons_self, hd⟩
        split at hw
        · rcases List.mem_cons.1 hw with rfl | hw
          · exact ⟨by simp, grown⟩
          · exact ⟨(ih hw).1, later (ih hw).2⟩
        · refine ⟨(ih hw).1, fun c hc => ?_⟩
          rcases (ih hw).2 c hc with h | ⟨h, hs⟩
          · exact grown c h
          · exact .inr ⟨List.mem_cons_of_mem _ h, hs⟩

/-- A text with a character that is no separator has a word. -/
theorem wordsFrom_ne_nil {cs current : List Char}
    (h : current ≠ [] ∨ ∃ c ∈ cs, isSeparator c = false) : wordsFrom current cs ≠ [] := by
  induction cs generalizing current with
  | nil => simpa [wordsFrom, closeWord] using h
  | cons c cs ih =>
      simp only [wordsFrom]
      split
      next hsep =>
        rcases h with h | ⟨d, hd, hds⟩
        · simp [closeWord, h]
        · rcases List.mem_cons.1 hd with rfl | hd
          · rw [hsep] at hds
            cases hds
          · exact List.append_ne_nil_of_right_ne_nil _ (ih (.inr ⟨d, hd, hds⟩))
      · split
        · simp
        · exact ih (.inl (by simp))

/-- The lower case of ASCII characters is taken one by one. -/
theorem lowerFrom_eq_map {cs : List Char} (h : ∀ c ∈ cs, c.toNat < 128)
    (before : List Char) : lowerFrom before cs = cs.map Char.toLower := by
  induction cs generalizing before with
  | nil => rfl
  | cons c cs ih =>
      have hc := h c List.mem_cons_self
      have hascii : isAscii c = true := by simpa [isAscii] using hc
      have hsigma : (c == 'Σ') = false := by
        rw [beq_eq_false_iff_ne]
        rintro rfl
        revert hc
        decide
      simp [lowerFrom, hsigma, lowerChars, hascii, ih fun d hd => h d (List.mem_cons_of_mem _ hd)]

/-- The words of an ASCII text hold the characters of the text, but no separators, in lower
case. -/
theorem mem_words {cs w : List Char} (h : ∀ c ∈ cs, c.toNat < 128) (hw : w ∈ words cs) :
    w ≠ [] ∧ ∀ c ∈ w, ∃ d ∈ cs, isSeparator d = false ∧ c = d.toLower := by
  obtain ⟨v, hv, rfl⟩ := List.mem_map.1 hw
  obtain ⟨hne, hmem⟩ := mem_wordsFrom hv
  have hmem' : ∀ d ∈ v, d ∈ cs ∧ isSeparator d = false := fun d hd => by
    simpa using hmem d hd
  have hlow : lowercase v = v.map Char.toLower := lowerFrom_eq_map (fun d hd => h d (hmem' d hd).1) []
  rw [hlow]
  refine ⟨by simpa using hne, fun c hc => ?_⟩
  obtain ⟨d, hd, rfl⟩ := List.mem_map.1 hc
  exact ⟨d, (hmem' d hd).1, (hmem' d hd).2, rfl⟩

/-- The words of a typed name, in lower case. -/
theorem words_made {cs : List Char} (h : ∀ c ∈ cs, isNameChar c = true) :
    ∀ w ∈ words cs, w ≠ [] ∧ ∀ c ∈ w, c.isAlphanum = true := by
  intro w hw
  obtain ⟨hne, hmem⟩ := mem_words (fun c hc => toNat_lt_of_isNameChar (h c hc)) hw
  refine ⟨hne, fun c hc => ?_⟩
  obtain ⟨d, hd, hsep, rfl⟩ := hmem c hc
  exact (isAlphanum_case (isAlphanum_of_isNameChar (h d hd) hsep)).1

/-- Capitalising letters and digits gives letters and digits. -/
theorem capitalize_made {cs : List Char} (h : ∀ c ∈ cs, c.isAlphanum = true) :
    ∀ c ∈ capitalize cs, c.isAlphanum = true := by
  cases cs with
  | nil => simp [capitalize]
  | cons d ds =>
      have hd := h d List.mem_cons_self
      have hascii : isAscii d = true := by simpa [isAscii] using toNat_lt_of_isAlphanum hd
      intro c hc
      simp only [capitalize, upperChars, hascii, if_true, List.singleton_append,
        List.mem_cons] at hc
      rcases hc with rfl | hc
      · exact (isAlphanum_case hd).2
      · exact h c (List.mem_cons_of_mem _ hc)

theorem capitalize_ne_nil {cs : List Char} (h : ∀ c ∈ cs, c.isAlphanum = true) (hne : cs ≠ []) :
    capitalize cs ≠ [] := by
  cases cs with
  | nil => exact absurd rfl hne
  | cons d ds =>
      have hascii : isAscii d = true := by
        simpa [isAscii] using toNat_lt_of_isAlphanum (h d List.mem_cons_self)
      simp [capitalize, upperChars, hascii]

/-- The Pascal form of a typed name is made of letters and digits. -/
theorem pascalCase_made {s : String} (h : Made isNameChar s) :
    Made Char.isAlphanum (pascalCase s) := by
  intro c hc
  simp only [pascalCase, String.toList_ofList, List.mem_flatMap] at hc
  obtain ⟨w, hw, hc⟩ := hc
  exact capitalize_made (words_made h w hw).2 c hc

theorem isNameChar_of_isAlphanum {c : Char} (h : c.isAlphanum = true) : isNameChar c = true := by
  simp [isNameChar, h]

/-- A name has a word. -/
theorem IsName.words_ne_nil {s : String} (h : IsName s) : words s.toList ≠ [] := by
  obtain ⟨c, hc⟩ : ∃ c, c ∈ s.toList :=
    List.exists_mem_of_ne_nil _ (by simpa using h.1)
  have : wordsFrom [] s.toList ≠ [] :=
    wordsFrom_ne_nil (.inr ⟨c, hc, isSeparator_of_isAlphanum (h.2 c hc)⟩)
  simpa [words] using this

/-- The Pascal form of a name is a name. -/
theorem IsName.pascalCase {s : String} (h : IsName s) : IsName (pascalCase s) := by
  have hchars : Made isNameChar s := h.2.mono fun _ => isNameChar_of_isAlphanum
  refine ⟨?_, pascalCase_made hchars⟩
  obtain ⟨w, hw⟩ := List.exists_mem_of_ne_nil _ h.words_ne_nil
  obtain ⟨hne, hmade⟩ := words_made hchars w hw
  obtain ⟨c, hc⟩ := List.exists_mem_of_ne_nil _ (capitalize_ne_nil hmade hne)
  have hmem : c ∈ (Text.pascalCase s).toList := by
    simp only [Text.pascalCase, String.toList_ofList, List.mem_flatMap]
    exact ⟨w, hw, hc⟩
  intro hempty
  rw [hempty] at hmem
  cases hmem

/-- What stands between separators is a separator or belongs to a part. -/
theorem mem_intercalate {α : Type} {sep : List α} {parts : List (List α)} {c : α}
    (h : c ∈ sep.intercalate parts) : c ∈ sep ∨ ∃ part ∈ parts, c ∈ part := by
  induction parts with
  | nil => simp at h
  | cons part rest ih =>
      cases rest with
      | nil => exact .inr ⟨part, by simp, by simpa using h⟩
      | cons next rest =>
          rw [List.intercalate_cons_cons] at h
          simp only [List.mem_append] at h
          rcases h with (h | h) | h
          · exact .inr ⟨part, by simp, h⟩
          · exact .inl h
          · exact (ih h).imp id fun ⟨p, hp, hc⟩ => ⟨p, List.mem_cons_of_mem _ hp, hc⟩

/-- The kebab form of a text is made of what its words are made of and of hyphens. -/
theorem kebabCase_made {p : Char → Bool} (hp : p '-' = true) {s : String}
    (h : ∀ w ∈ words s.toList, ∀ c ∈ w, p c = true) : Made p (kebabCase s) := by
  intro c hc
  rw [kebabCase, String.toList_ofList] at hc
  rcases mem_intercalate hc with hc | ⟨w, hw, hc⟩
  · rw [List.mem_singleton.1 hc]
    exact hp
  · exact h w hw c hc

/-- The kebab form of a name is made of letters, digits and hyphens, and is not empty. -/
theorem IsName.kebabCase {s : String} (h : IsName s) :
    kebabCase s ≠ "" ∧ Made isKebabChar (kebabCase s) := by
  have hwords := words_made (h.2.mono fun _ => isNameChar_of_isAlphanum)
  refine ⟨?_, kebabCase_made (by decide) fun w hw c hc => by simp [isKebabChar, (hwords w hw).2 c hc]⟩
  cases hw : words s.toList with
  | nil => exact absurd hw h.words_ne_nil
  | cons w ws =>
      rw [hw] at hwords
      obtain ⟨c, hc⟩ := List.exists_mem_of_ne_nil _ (hwords w List.mem_cons_self).1
      intro hempty
      have hnil : ['-'].intercalate (w :: ws) = [] := by simpa [Text.kebabCase, hw] using hempty
      have : c ∈ ['-'].intercalate (w :: ws) := by
        cases ws <;> simp [List.intercalate, hc]
      rw [hnil] at this
      cases this

/-- The camel form of a name is made of letters and digits. -/
theorem IsName.camelCase {s : String} (h : IsName s) : Made Char.isAlphanum (camelCase s) := by
  have hwords := words_made (h.2.mono fun _ => isNameChar_of_isAlphanum)
  intro c hc
  unfold Text.camelCase at hc
  split at hc
  · simp at hc
  next first rest hw =>
    rw [hw] at hwords
    rw [String.toList_ofList, List.mem_append, List.mem_flatMap] at hc
    rcases hc with hc | ⟨w, hmem, hc⟩
    · exact (hwords first List.mem_cons_self).2 c hc
    · exact capitalize_made (hwords w (List.mem_cons_of_mem _ hmem)).2 c hc

/-! ## Plurals -/

theorem irregular_made : ∀ entry ∈ Plural.irregular, IsName entry.2 := by decide +kernel

theorem matchCapital_isName {like s : String} (h : IsName s) : IsName (Plural.matchCapital like s) := by
  unfold Plural.matchCapital
  split
  · refine ⟨?_, fun c hc => ?_⟩
    · simpa using capitalize_ne_nil h.2 (by simpa using h.1)
    · rw [String.toList_ofList] at hc
      exact capitalize_made h.2 c hc
  · exact h

theorem regular_isName {word lower : String} (h : IsName word) : IsName (Plural.regular word lower) := by
  have stem (drop : Nat) : Made Char.isAlphanum
      (String.ofList (word.toList.take (word.length - drop))) := by
    intro c hc
    rw [String.toList_ofList] at hc
    exact h.2 c (List.mem_of_mem_take hc)
  unfold Plural.regular
  split
  · exact h.append (by decide)
  split
  · exact .prepend (stem 1) (by decide)
  split
  · exact .prepend (stem 2) (by decide)
  split
  · exact .prepend (stem 1) (by decide)
  split
  · exact h.append (by decide)
  · exact h.append (by decide)

theorem ofWord_isName {word : String} (h : IsName word) : IsName (Plural.ofWord word) := by
  simp only [Plural.ofWord]
  split
  · exact h
  · split
    next plural hl =>
      obtain ⟨before, after, hsplit, -⟩ := List.lookup_eq_some_iff.1 hl
      have hmem : (String.ofList (lowercase word.toList), plural) ∈ Plural.irregular := by
        rw [hsplit]
        exact List.mem_append_right _ List.mem_cons_self
      exact matchCapital_isName (irregular_made _ hmem)
    · exact regular_isName h

/-- The last word of a compound name is not empty. -/
theorem lastWordStart_lt {cs : List Char} (h : cs ≠ []) : Plural.lastWordStart cs < cs.length := by
  have hpos := List.length_pos_iff.2 h
  unfold Plural.lastWordStart
  split <;> omega

theorem lastWord_isName {s : String} (h : IsName s) :
    IsName (String.ofList (s.toList.drop (Plural.lastWordStart s.toList))) := by
  have hstart : Plural.lastWordStart s.toList < s.toList.length :=
    lastWordStart_lt (by simpa using h.1)
  refine ⟨by simpa using hstart, fun c hc => ?_⟩
  rw [String.toList_ofList] at hc
  exact h.2 c (List.mem_of_mem_drop hc)

/-- The plural of a name is a name. -/
theorem english_isName {s : String} (h : IsName s) : IsName (Plural.english s) := by
  have hfront : Made Char.isAlphanum
      (String.ofList (s.toList.take (Plural.lastWordStart s.toList))) := by
    intro c hc
    rw [String.toList_ofList] at hc
    exact h.2 c (List.mem_of_mem_take hc)
  have hnil : s.toList.isEmpty = false := by simpa using h.1
  simpa [Plural.english, hnil] using IsName.prepend hfront (ofWord_isName (lastWord_isName h))

/-! ## Projects -/

/-- A project name: letters, digits, dots and underscores, and at least one of them. -/
def IsProject (s : String) : Prop := s ≠ "" ∧ Made isProjectChar s

instance (s : String) : Decidable (IsProject s) := inferInstanceAs (Decidable (_ ∧ _))

theorem isDottedChar_of_isProjectChar {c : Char} (h : isProjectChar c = true) :
    isDottedChar c = true := by
  simp only [isProjectChar, Bool.or_eq_true] at h
  rcases h with (h | h) | h <;> simp [isDottedChar, h]

theorem toNat_lt_of_isDottedChar {c : Char} (h : isDottedChar c = true) : c.toNat < 128 := by
  simp only [isDottedChar, Bool.or_eq_true, beq_iff_eq] at h
  rcases h with ((h | rfl) | rfl) | rfl
  · exact toNat_lt_of_isAlphanum h
  all_goals decide

theorem isDottedChar_toLower {c : Char} (h : isDottedChar c = true) :
    isDottedChar c.toLower = true := by
  have key := forall_ascii (p := fun c => isDottedChar c = true → isDottedChar c.toLower = true)
    (by decide) (toNat_lt_of_isDottedChar h)
  exact key h

theorem IsProject.dotted {s : String} (h : IsProject s) : Made isDottedChar s :=
  h.2.mono fun _ => isDottedChar_of_isProjectChar

theorem IsProject.kebabCase {s : String} (h : IsProject s) : Made isDottedChar (kebabCase s) := by
  refine kebabCase_made (by decide) fun w hw c hc => ?_
  obtain ⟨-, hmem⟩ := mem_words (fun c hc => toNat_lt_of_isDottedChar (h.dotted c hc)) hw
  obtain ⟨d, hd, -, rfl⟩ := hmem c hc
  exact isDottedChar_toLower (h.dotted d hd)

/-! ## Features -/

/-- A feature whose two names are names. -/
structure Feature.WellNamed (f : Feature) : Prop where
  /-- The singular. -/
  name : IsName f.name
  /-- The plural. -/
  plural : IsName f.plural

/-- The feature of a name and its plural is well named. -/
theorem ofNames_wellNamed {entity : String} (h : IsName entity) :
    (Feature.ofNames entity (Plural.english entity)).WellNamed :=
  ⟨h.pascalCase, (english_isName h).pascalCase⟩

/-! ## Acceptance -/

/-- A sequence of fallible steps that succeeds does so in each step. -/
theorem bind_eq_ok {ε α β : Type} {x : Except ε α} {f : α → Except ε β} {b : β} :
    (x >>= f) = .ok b ↔ ∃ a, x = .ok a ∧ f a = .ok b := by
  cases x with
  | error e => simp [bind, Except.bind]
  | ok a => simp [bind, Except.bind]

/-- Accepted is a text of the characters of a name whose Pascal form begins with a letter, and in that
form. -/
theorem normalizeIdentifier_ok_iff {field raw name : String} :
    normalizeIdentifier field raw = .ok name
      ↔ Made isNameChar (trim raw) ∧ (pascalCase (trim raw)).toList.head?.any Char.isAlpha = true
        ∧ pascalCase (trim raw) = name := by
  unfold normalizeIdentifier
  by_cases hblank : (trim raw).isEmpty = true
  · have hempty : trim raw = "" := String.isEmpty_iff.1 hblank
    have hhead : (pascalCase "").toList.head?.any Char.isAlpha = false := by decide
    simp [hempty, hhead]
  · simp only [hblank, if_false, Bool.false_eq_true]
    cases hfind : (trim raw).toList.find? fun c => !isNameChar c with
    | some bad =>
        have hbad : isNameChar bad = false := by simpa using List.find?_some hfind
        have hnot : ¬ Made isNameChar (trim raw) := fun hmade =>
          hmade.not_mem hbad (List.mem_of_find?_eq_some hfind)
        simp only [hnot, false_and, reduceCtorEq]
    | none =>
        have hmade : Made isNameChar (trim raw) := fun c hc => by
          simpa using List.find?_eq_none.1 hfind c hc
        by_cases hhead : (pascalCase (trim raw)).toList.head?.any Char.isAlpha = true
        · simp only [hhead, hmade, if_true, Except.ok.injEq, true_and]
        · simp only [hhead, if_false, Bool.false_eq_true, reduceCtorEq, false_and, and_false]

/-- What is accepted as an identifier is a name. -/
theorem normalizeIdentifier_isName {field raw name : String}
    (h : normalizeIdentifier field raw = .ok name) : IsName name := by
  obtain ⟨hmade, hhead, rfl⟩ := normalizeIdentifier_ok_iff.1 h
  refine ⟨?_, pascalCase_made hmade⟩
  intro hempty
  rw [hempty] at hhead
  simp at hhead

theorem normalizeOptional_isName {field : String} {raw name : Option String}
    (h : normalizeOptional field raw = .ok name) : ∀ s ∈ name, IsName s := by
  cases raw with
  | none =>
      cases h
      simp
  | some raw =>
      simp only [normalizeOptional] at h
      cases hn : normalizeIdentifier field raw with
      | error e =>
          rw [hn] at h
          cases h
      | ok s =>
          rw [hn] at h
          cases h
          simpa using normalizeIdentifier_isName hn

/-- What is accepted as a project name has letters, digits, dots and underscores. -/
theorem acceptProjectName_isProject {raw name : String} (h : acceptProjectName raw = .ok name) :
    IsProject name := by
  unfold acceptProjectName at h
  by_cases hblank : (trim raw).isEmpty = true
  · simp only [hblank, if_true, reduceCtorEq] at h
  · simp only [hblank, if_false, Bool.false_eq_true] at h
    cases hfind : (trim raw).toList.find? fun c => !isProjectChar c with
    | some bad => simp only [hfind, reduceCtorEq] at h
    | none =>
        simp only [hfind, Except.ok.injEq] at h
        subst h
        refine ⟨by simpa using hblank, fun c hc => ?_⟩
        simpa using List.find?_eq_none.1 hfind c hc

theorem CrudRequest.accept_isName {r a : CrudRequest} (h : r.accept = .ok a) :
    IsName a.entity := by
  obtain ⟨entity, hentity, rest⟩ := bind_eq_ok.1 h
  cases rest
  exact normalizeIdentifier_isName hentity

theorem ActionRequest.accept_isName {r a : ActionRequest} (h : r.accept = .ok a) :
    IsName a.entity ∧ IsName a.action := by
  obtain ⟨entity, hentity, h⟩ := bind_eq_ok.1 h
  obtain ⟨action, haction, rest⟩ := bind_eq_ok.1 h
  cases rest
  exact ⟨normalizeIdentifier_isName hentity, normalizeIdentifier_isName haction⟩

theorem ConstantRequest.accept_isName {r a : ConstantRequest} (h : r.accept = .ok a) :
    (∀ entity ∈ a.entity, IsName entity) ∧ IsName a.name := by
  obtain ⟨entity, hentity, h⟩ := bind_eq_ok.1 h
  obtain ⟨name, hname, rest⟩ := bind_eq_ok.1 h
  cases rest
  exact ⟨normalizeOptional_isName hentity, normalizeIdentifier_isName hname⟩

theorem EnumRequest.accept_isName {r a : EnumRequest} (h : r.accept = .ok a) :
    IsName a.entity ∧ IsName a.name := by
  obtain ⟨entity, hentity, h⟩ := bind_eq_ok.1 h
  obtain ⟨name, hname, rest⟩ := bind_eq_ok.1 h
  cases rest
  exact ⟨normalizeIdentifier_isName hentity, normalizeIdentifier_isName hname⟩

/-- What is left of a name without its suffix is a name. -/
theorem dropSuffix_isName {name : String} (h : IsName name) :
    IsName (ServiceRequest.dropSuffix name) := by
  unfold ServiceRequest.dropSuffix
  split
  next c cs hd =>
    refine ⟨by simp, fun d hd' => h.2 d ?_⟩
    rw [dropTail?_eq_some.1 hd]
    exact List.mem_append_left _ (by rwa [String.toList_ofList] at hd')
  · exact h

theorem givenName_isName {r : ServiceRequest} {name : String} (h : r.givenName = .ok name) :
    IsName name := by
  unfold ServiceRequest.givenName at h
  split at h
  · exact normalizeIdentifier_isName h
  next system _ _ =>
    cases h
    cases system <;> decide
  · cases h

/-- An accepted service has names, and an external one belongs to no entity. -/
theorem ServiceRequest.accept_isName {r : ServiceRequest} {a : AcceptedService}
    (h : r.accept = .ok a) : (∀ entity ∈ a.entity, IsName entity) ∧ IsName a.name := by
  obtain ⟨name, hname, h⟩ := bind_eq_ok.1 h
  obtain ⟨entity, hentity, rest⟩ := bind_eq_ok.1 h
  have hn := dropSuffix_isName (givenName_isName hname)
  have he := normalizeOptional_isName hentity
  split at rest
  · cases rest
  · cases rest
    exact ⟨he, hn⟩

end Scaffold
