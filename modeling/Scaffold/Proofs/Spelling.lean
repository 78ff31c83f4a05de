import Mathlib
import Scaffold.Proofs.Change
import Scaffold.Proofs.Plural

/-!
# Spellings of one name

A name is put into Pascal case when it is accepted, and once more when its feature is built.  The
second time changes nothing exactly if the name is *settled* (`pascalCase_eq_iff`): two capitals
stand together in it only before a small letter.  Elsewhere they run together into one word, because
a word ends between two capitals only if a small letter follows: `a-b` is accepted as `AB`, whose
Pascal form is `Ab`.

So a settled name is the name of its feature, and its spellings have one feature.  What the second
time makes of a name is settled in any case (`settled_pascalCase`), so there is no third form of a
name.
-/

namespace Scaffold

open Scaffold.Text

/-! ## Settled names -/

/-- Decide whether two capitals stand together only before a small letter. -/
def capitalsPart : List Char → Bool
  | [] | [_] => true
  | c :: d :: rest =>
      (!(c.isUpper && d.isUpper) || rest.head?.any Char.isLower) && capitalsPart (d :: rest)

/-- A name that stays as it is in Pascal case. -/
def Settled (name : String) : Prop := capitalsPart name.toList = true

instance (name : String) : Decidable (Settled name) := inferInstanceAs (Decidable (_ = _))

theorem capitalsPart_cons_cons {c d : Char} {rest : List Char} :
    capitalsPart (c :: d :: rest) = true
      ↔ (c.isUpper = true → d.isUpper = true → rest.head?.any Char.isLower = true)
        ∧ capitalsPart (d :: rest) = true := by
  rw [capitalsPart, Bool.and_eq_true]
  cases c.isUpper <;> cases d.isUpper <;> simp

theorem capitalsPart_of_not_isUpper {c : Char} {cs : List Char} (hc : c.isUpper = false)
    (h : capitalsPart cs = true) : capitalsPart (c :: cs) = true := by
  cases cs with
  | nil => rfl
  | cons d rest =>
      refine capitalsPart_cons_cons.2 ⟨fun hupper => ?_, h⟩
      rw [hc] at hupper
      cases hupper

theorem capitalsPart_append {cs rest : List Char} (hcs : ∀ c ∈ cs, c.isUpper = false)
    (h : capitalsPart rest = true) : capitalsPart (cs ++ rest) = true := by
  induction cs with
  | nil => exact h
  | cons c cs ih =>
      rw [List.forall_mem_cons] at hcs
      exact capitalsPart_of_not_isUpper hcs.1 (ih hcs.2)

/-! ## Characters of names -/

/-- What the case conversions make of a letter or digit. -/
theorem case_of_isAlphanum {c : Char} (h : c.isAlphanum = true) :
    isLowercase c = c.isLower ∧ isUppercase c = c.isUpper
      ∧ (c.toLower = c ↔ c.isUpper = false) ∧ (c.toUpper = c ↔ c.isLower = false)
      ∧ c.toLower.isUpper = false ∧ c.toUpper.isLower = false := by
  have key := forall_ascii (p := fun c => isLowercase c = c.isLower ∧ isUppercase c = c.isUpper
      ∧ (c.toLower = c ↔ c.isUpper = false) ∧ (c.toUpper = c ↔ c.isLower = false)
      ∧ c.toLower.isUpper = false ∧ c.toUpper.isLower = false) (by decide)
    (toNat_lt_of_isAlphanum h)
  exact key

/-- A letter or digit is a small letter, a capital or a digit, and only one of them. -/
theorem isLower_or_isDigit_of_isAlphanum {c : Char} (h : c.isAlphanum = true) :
    (c.isLower || c.isDigit) = !c.isUpper := by
  have key := forall_ascii (p := fun c => c.isAlphanum = true →
    (c.isLower || c.isDigit) = !c.isUpper) (by decide) (toNat_lt_of_isAlphanum h)
  exact key h

theorem isLower_eq_false_of_isUpper {c : Char} (h : c.isAlphanum = true) (hupper : c.isUpper = true) :
    c.isLower = false := by
  have hkind := isLower_or_isDigit_of_isAlphanum h
  rw [hupper, Bool.not_true, Bool.or_eq_false_iff] at hkind
  exact hkind.1

theorem isUpper_eq_false_of_isLower {c : Char} (h : c.isAlphanum = true) (hlower : c.isLower = true) :
    c.isUpper = false := by
  rw [Bool.eq_false_iff]
  intro hupper
  rw [isLower_eq_false_of_isUpper h hupper] at hlower
  cases hlower

theorem isUpper_of_isUpper_toUpper {c : Char} (h : c.isAlphanum = true) (hlower : c.isLower = false)
    (hupper : c.toUpper.isUpper = true) : c.isUpper = true := by
  rwa [(case_of_isAlphanum h).2.2.2.1.2 hlower] at hupper

/-- A word of letters and digits ends after a small letter or digit that a capital follows, and after
a capital that another one follows with a small letter behind it. -/
theorem endsWord_iff {c d : Char} {rest : List Char} (hc : c.isAlphanum = true)
    (hd : d.isAlphanum = true) (hrest : ∀ e ∈ rest, e.isAlphanum = true) :
    endsWord c (d :: rest) = true
      ↔ d.isUpper = true ∧ (c.isUpper = true → rest.head?.any Char.isLower = true) := by
  have hnext : rest.head?.any isLowercase = rest.head?.any Char.isLower := by
    cases rest with
    | nil => rfl
    | cons e rest => exact (case_of_isAlphanum (hrest e List.mem_cons_self)).1
  rw [endsWord, hnext, (case_of_isAlphanum hc).1, (case_of_isAlphanum hc).2.1,
    (case_of_isAlphanum hd).2.1, isLower_or_isDigit_of_isAlphanum hc]
  cases c.isUpper <;> cases d.isUpper <;> simp

/-! ## Words of names -/

/-- A word in lower case but for its first letter. -/
def recase (w : List Char) : List Char := capitalize (lowercase w)

theorem toList_pascalCase (s : String) :
    (pascalCase s).toList = (wordsFrom [] s.toList).flatMap recase := by
  rw [pascalCase, String.toList_ofList, words, List.flatMap_map]
  rfl

theorem recase_cons {c : Char} {cs : List Char} (h : ∀ d ∈ c :: cs, d.isAlphanum = true) :
    recase (c :: cs) = c.toUpper :: cs.map Char.toLower := by
  have hlower : lowercase (c :: cs) = (c :: cs).map Char.toLower :=
    lowerFrom_eq_map (fun d hd => toNat_lt_of_isAlphanum (h d hd)) []
  have hc := h c List.mem_cons_self
  have hascii : isAscii c.toLower = true := by
    simpa [isAscii] using toNat_lt_of_isAlphanum (isAlphanum_case hc).1
  have hupper : c.toLower.toUpper = c.toUpper :=
    forall_ascii (p := fun c => c.toLower.toUpper = c.toUpper) (by decide)
      (toNat_lt_of_isAlphanum hc)
  rw [recase, hlower, List.map_cons, capitalize, upperChars, hascii, if_pos rfl, hupper]
  rfl

theorem length_recase {w : List Char} (h : ∀ c ∈ w, c.isAlphanum = true) :
    (recase w).length = w.length := by
  cases w with
  | nil => rfl
  | cons c cs => rw [recase_cons h, List.length_cons, List.length_cons, List.length_map]

/-- A word that stays as it is has no capital but its first letter. -/
theorem recase_eq_iff {c : Char} {cs : List Char} (h : ∀ d ∈ c :: cs, d.isAlphanum = true) :
    recase (c :: cs) = c :: cs ↔ c.isLower = false ∧ ∀ d ∈ cs, d.isUpper = false := by
  rw [recase_cons h, List.cons.injEq, (case_of_isAlphanum (h c List.mem_cons_self)).2.2.2.1]
  refine and_congr_right fun _ => ?_
  have hmap : cs.map Char.toLower = cs ↔ ∀ d ∈ cs, d.toLower = d := by
    simpa using List.map_inj_left (f := Char.toLower) (g := id) (l := cs)
  rw [hmap]
  refine forall₂_congr fun d hd => ?_
  exact (case_of_isAlphanum (h d (List.mem_cons_of_mem _ hd))).2.2.1

/-- The capitals of a recased word part. -/
theorem capitalsPart_recase_append {w rest : List Char} (h : ∀ c ∈ w, c.isAlphanum = true)
    (hrest : capitalsPart rest = true)
    (hlone : ∀ c, w = [c] → c.toUpper.isUpper = true → ∀ d, rest.head? = some d → d.isUpper = true →
      rest.tail.head?.any Char.isLower = true) : capitalsPart (recase w ++ rest) = true := by
  cases w with
  | nil => exact hrest
  | cons c cs =>
      rw [recase_cons h, List.cons_append]
      have hsmall : ∀ d ∈ cs.map Char.toLower, d.isUpper = false := by
        rw [List.forall_mem_map]
        exact fun d hd => (case_of_isAlphanum (h d (List.mem_cons_of_mem _ hd))).2.2.2.2.1
      have htail := capitalsPart_append hsmall hrest
      cases cs with
      | nil =>
          cases rest with
          | nil => rfl
          | cons d rest =>
              exact capitalsPart_cons_cons.2
                ⟨fun hc hd => hlone c rfl hc d rfl hd, hrest⟩
      | cons d cs =>
          refine capitalsPart_cons_cons.2 ⟨fun _ hd => ?_, htail⟩
          rw [hsmall d.toLower List.mem_cons_self] at hd
          cases hd

/-- The first word begins with what has been read of it. -/
theorem wordsFrom_eq_cons {current : List Char} (hne : current ≠ []) (cs : List Char) :
    ∃ w ws, wordsFrom current cs = w :: ws ∧ current <+: w := by
  induction cs generalizing current with
  | nil => exact ⟨current, [], by simp [wordsFrom, closeWord, hne], List.prefix_rfl⟩
  | cons c cs ih =>
      simp only [wordsFrom]
      split
      · exact ⟨current, wordsFrom [] cs, by simp [closeWord, hne], List.prefix_rfl⟩
      · split
        · exact ⟨current ++ [c], _, rfl, List.prefix_append _ _⟩
        · obtain ⟨w, ws, hws, hprefix⟩ := @ih (current ++ [c]) (by simp)
          exact ⟨w, ws, hws, (List.prefix_append _ _).trans hprefix⟩

/-- The first word goes on with a letter or digit that nothing parts from it. -/
theorem wordsFrom_cons_eq_cons (current : List Char) {c : Char} (hc : c.isAlphanum = true)
    (cs : List Char) : ∃ w ws, wordsFrom current (c :: cs) = w :: ws ∧ current ++ [c] <+: w := by
  simp only [wordsFrom, isSeparator_of_isAlphanum hc, Bool.false_eq_true, if_false]
  split
  · exact ⟨_, _, rfl, List.prefix_rfl⟩
  · exact wordsFrom_eq_cons (by simp) cs

/-- The words of a text of letters and digits hold its letters and digits. -/
theorem isAlphanum_of_mem_wordsFrom {current cs w : List Char}
    (hcurrent : ∀ c ∈ current, c.isAlphanum = true) (h : ∀ c ∈ cs, c.isAlphanum = true)
    (hw : w ∈ wordsFrom current cs) : ∀ c ∈ w, c.isAlphanum = true := by
  intro c hc
  obtain hc | hc := (mem_wordsFrom hw).2 c hc
  · exact hcurrent c hc
  · exact h c hc.1

/-! ## Pascal case again -/

/-- The words of a settled text stay as they are.  A word that was begun has no capital but its first
letter and goes on without one, and one that is about to begin does not begin with a small letter. -/
theorem flatMap_recase_of_capitalsPart {current cs : List Char}
    (hcurrent : ∀ c ∈ current, c.isAlphanum = true) (h : ∀ c ∈ cs, c.isAlphanum = true)
    (hsettled : capitalsPart cs = true) (hbegun : recase current = current)
    (hnew : current = [] → cs.head?.any Char.isLower = false)
    (hon : current ≠ [] → cs.head?.any Char.isUpper = false) :
    (wordsFrom current cs).flatMap recase = current ++ cs := by
  induction cs generalizing current with
  | nil =>
      unfold wordsFrom closeWord
      split
      next hempty => rw [List.isEmpty_iff.1 hempty]; rfl
      · simp [hbegun]
  | cons c cs ih =>
      rw [List.forall_mem_cons] at h
      obtain ⟨hc, hcs⟩ := h
      have hword : ∀ d ∈ current ++ [c], d.isAlphanum = true := by
        simpa [or_imp, forall_and] using ⟨hcurrent, hc⟩
      have hstays : recase (current ++ [c]) = current ++ [c] := by
        cases current with
        | nil => exact (recase_eq_iff hword).2 ⟨hnew rfl, by simp⟩
        | cons b bs =>
            obtain ⟨hb, hbs⟩ := (recase_eq_iff hcurrent).1 hbegun
            refine (recase_eq_iff hword).2 ⟨hb, ?_⟩
            simpa [or_imp, forall_and] using ⟨hbs, hon (by simp)⟩
      simp only [wordsFrom, isSeparator_of_isAlphanum hc, Bool.false_eq_true, if_false]
      cases cs with
      | nil => simp [endsWord, wordsFrom, closeWord, hstays]
      | cons d rest =>
          obtain ⟨hpair, hlater⟩ := capitalsPart_cons_cons.1 hsettled
          have hd := hcs d List.mem_cons_self
          have hends := endsWord_iff hc hd fun e he => hcs e (List.mem_cons_of_mem _ he)
          split
          next hend =>
            have hnotLower := isLower_eq_false_of_isUpper hd (hends.1 hend).1
            rw [List.flatMap_cons, hstays, ih (by simp) hcs hlater rfl (fun _ => hnotLower) (by simp)]
            simp
          next hend =>
            have hnotUpper : d.isUpper = false := by
              rw [Bool.eq_false_iff]
              exact fun hupper => hend (hends.2 ⟨hupper, fun hcupper => hpair hcupper hupper⟩)
            rw [ih hword hcs hlater hstays (by simp) fun _ => hnotUpper]
            simp

/-- A text whose words have no capital but their first letter is settled. -/
theorem capitalsPart_of_words (current : List Char) {cs : List Char} (h : ∀ c ∈ cs, c.isAlphanum = true)
    (hwords : ∀ w ∈ wordsFrom current cs, ∀ d ∈ w.tail, d.isUpper = false) :
    capitalsPart cs = true := by
  induction cs generalizing current with
  | nil => rfl
  | cons c cs ih =>
      rw [List.forall_mem_cons] at h
      obtain ⟨hc, hcs⟩ := h
      simp only [wordsFrom, isSeparator_of_isAlphanum hc, Bool.false_eq_true, if_false] at hwords
      cases cs with
      | nil => rfl
      | cons d rest =>
          have hd := hcs d List.mem_cons_self
          have hends := endsWord_iff hc hd fun e he => hcs e (List.mem_cons_of_mem _ he)
          split at hwords
          next hend =>
            exact capitalsPart_cons_cons.2 ⟨fun hupper _ => (hends.1 hend).2 hupper,
              ih [] hcs fun w hw => hwords w (List.mem_cons_of_mem _ hw)⟩
          next hend =>
            refine capitalsPart_cons_cons.2 ⟨fun _ hupper => ?_, ih _ hcs hwords⟩
            -- the two capitals are in one word
            obtain ⟨w, ws, hws, hprefix⟩ := wordsFrom_cons_eq_cons (current ++ [c]) hd rest
            obtain ⟨after, rfl⟩ := hprefix
            have hmem : d ∈ (current ++ [c] ++ [d] ++ after).tail := by
              cases current <;> simp
            rw [hwords _ (hws ▸ List.mem_cons_self) d hmem] at hupper
            cases hupper

/-- A small letter in second place is in the first word, and stays in second place. -/
theorem isLower_second_flatMap_recase {c d : Char} {rest : List Char}
    (h : ∀ x ∈ c :: d :: rest, x.isAlphanum = true) (hsmall : d.isLower = true) :
    ((wordsFrom [] (c :: d :: rest)).flatMap recase).tail.head?.any Char.isLower = true := by
  have hc := h c List.mem_cons_self
  have hd := h d (by simp)
  have hnotUpper := isUpper_eq_false_of_isLower hd hsmall
  have hon : endsWord c (d :: rest) = false := by
    rw [Bool.eq_false_iff]
    intro hend
    have hupper := ((endsWord_iff hc hd fun x hx => h x (by simp [hx])).1 hend).1
    rw [hnotUpper] at hupper
    cases hupper
  obtain ⟨w, ws, hws, after, rfl⟩ := wordsFrom_cons_eq_cons [c] hd rest
  have hwords : wordsFrom [] (c :: d :: rest) = (c :: d :: after) :: ws := by
    have hstep : wordsFrom [] (c :: d :: rest) = wordsFrom [c] (d :: rest) := by
      simp [wordsFrom, isSeparator_of_isAlphanum hc, hon]
    exact hstep.trans hws
  have hmade : ∀ x ∈ c :: d :: after, x.isAlphanum = true :=
    isAlphanum_of_mem_wordsFrom (by simp) h (hwords ▸ List.mem_cons_self)
  have hstays : d.toLower = d := (case_of_isAlphanum hd).2.2.1.2 hnotUpper
  rw [hwords, List.flatMap_cons, recase_cons hmade]
  simpa [hstays] using hsmall

/-- The words of a text that does not begin with a small letter are settled once they are put together
again. -/
theorem capitalsPart_flatMap_recase {current cs : List Char}
    (hcurrent : ∀ c ∈ current, c.isAlphanum = true) (h : ∀ c ∈ cs, c.isAlphanum = true)
    (hhead : (current ++ cs).head?.any Char.isLower = false) :
    capitalsPart ((wordsFrom current cs).flatMap recase) = true := by
  induction cs generalizing current with
  | nil =>
      unfold wordsFrom closeWord
      split
      · rfl
      · rw [List.flatMap_cons]
        exact capitalsPart_recase_append hcurrent rfl (fun _ _ _ _ hd => by cases hd)
  | cons c cs ih =>
      rw [List.forall_mem_cons] at h
      obtain ⟨hc, hcs⟩ := h
      have hword : ∀ d ∈ current ++ [c], d.isAlphanum = true := by
        simpa [or_imp, forall_and] using ⟨hcurrent, hc⟩
      simp only [wordsFrom, isSeparator_of_isAlphanum hc, Bool.false_eq_true, if_false]
      split
      next hend =>
        cases cs with
        | nil => cases hend
        | cons d rest =>
            have hd := hcs d List.mem_cons_self
            have hrest : ∀ e ∈ rest, e.isAlphanum = true := fun e he =>
              hcs e (List.mem_cons_of_mem _ he)
            obtain ⟨hupper, hlone⟩ := (endsWord_iff hc hd hrest).1 hend
            rw [List.flatMap_cons]
            refine capitalsPart_recase_append hword
              (ih (by simp) hcs (isLower_eq_false_of_isUpper hd hupper)) ?_
            intro b hb hbupper _ _ _
            -- a word of one letter ends only before a capital with a small letter behind it
            obtain ⟨rfl, rfl⟩ : current = [] ∧ c = b := by
              cases current with
              | nil => exact ⟨rfl, (List.cons.inj hb).1⟩
              | cons _ _ => simp at hb
            have hsmall := hlone (isUpper_of_isUpper_toUpper hc hhead hbupper)
            cases rest with
            | nil => cases hsmall
            | cons e rest => exact isLower_second_flatMap_recase hcs hsmall
      · exact ih hword hcs (by simpa using hhead)

section

variable {name : String}

/-- A name that does not begin with a small letter stays as it is in Pascal case if and only if it is
settled. -/
theorem pascalCase_eq_iff (h : Made Char.isAlphanum name)
    (hhead : name.toList.head?.any Char.isLower = false) : pascalCase name = name ↔ Settled name := by
  have hwords : ∀ w ∈ wordsFrom [] name.toList, ∀ c ∈ w, c.isAlphanum = true := fun w hw =>
    isAlphanum_of_mem_wordsFrom (by simp) h hw
  rw [← String.toList_inj, toList_pascalCase]
  constructor
  · intro hsame
    refine capitalsPart_of_words [] h fun w hw => ?_
    have hflatten : (wordsFrom [] name.toList).flatten = name.toList := by
      rw [flatten_wordsFrom, filter_isSeparator h, List.nil_append]
    have hmap : (wordsFrom [] name.toList).map recase = wordsFrom [] name.toList := by
      refine List.eq_iff_flatten_eq.2 ⟨?_, ?_⟩
      · rw [← List.flatMap_def, hsame, hflatten]
      · rw [List.map_map]
        exact List.map_congr_left fun w hw => length_recase (hwords w hw)
    have hstays : recase w = w :=
      List.map_inj_left.1 (hmap.trans (List.map_id _).symm) w hw
    cases w with
    | nil => simp
    | cons c cs => exact ((recase_eq_iff (hwords _ hw)).1 hstays).2
  · intro hsettled
    exact flatMap_recase_of_capitalsPart (by simp) h hsettled rfl (fun _ => hhead) (by simp)

/-- What Pascal case makes of a name that does not begin with a small letter is settled. -/
theorem settled_pascalCase (h : Made Char.isAlphanum name)
    (hhead : name.toList.head?.any Char.isLower = false) : Settled (pascalCase name) := by
  rw [Settled, toList_pascalCase]
  exact capitalsPart_flatMap_recase (by simp) h hhead

/-- The letters and digits of a typed name are what does not separate its words. -/
theorem filter_isAlphanum {cs : List Char} (h : ∀ c ∈ cs, isNameChar c = true) :
    cs.filter Char.isAlphanum = cs.filter fun c => !isSeparator c := by
  refine List.filter_congr fun c hc => ?_
  cases hsep : isSeparator c with
  | false => exact isAlphanum_of_isNameChar (h c hc) hsep
  | true =>
      rw [Bool.not_true, Bool.eq_false_iff]
      intro halnum
      rw [isSeparator_of_isAlphanum halnum] at hsep
      cases hsep

/-- The Pascal form of a typed name begins with its first letter or digit, as a capital. -/
theorem head?_pascalCase {s : String} (h : Made isNameChar s) :
    (pascalCase s).toList.head? = (s.toList.find? Char.isAlphanum).map Char.toUpper := by
  have hflatten : (wordsFrom [] s.toList).flatten = s.toList.filter Char.isAlphanum := by
    rw [flatten_wordsFrom, filter_isAlphanum h, List.nil_append]
  rw [toList_pascalCase, ← List.head?_filter, ← hflatten]
  cases hw : wordsFrom [] s.toList with
  | nil => rfl
  | cons w ws =>
      have hmem := mem_wordsFrom (hw ▸ List.mem_cons_self : w ∈ wordsFrom [] s.toList)
      have hmade : ∀ c ∈ w, c.isAlphanum = true := fun c hc => by
        obtain hc | ⟨hc, hsep⟩ := hmem.2 c hc
        · cases hc
        · exact isAlphanum_of_isNameChar (h c hc) hsep
      cases w with
      | nil => exact absurd rfl hmem.1
      | cons c cs => rw [List.flatMap_cons, recase_cons hmade]; rfl

/-- A text in Pascal case does not begin with a small letter. -/
theorem head_pascalCase {s : String} (h : Made isNameChar s) :
    (pascalCase s).toList.head?.any Char.isLower = false := by
  rw [head?_pascalCase h]
  cases hfind : s.toList.find? Char.isAlphanum with
  | none => rfl
  | some c => exact (case_of_isAlphanum (List.find?_some hfind)).2.2.2.2.2

/-- The capital form of a letter is a letter, that of a digit a digit. -/
theorem isAlpha_toUpper {c : Char} (h : c.isAlphanum = true) : c.toUpper.isAlpha = c.isAlpha :=
  forall_ascii (p := fun c => c.toUpper.isAlpha = c.isAlpha) (by decide) (toNat_lt_of_isAlphanum h)

/-- A name that begins with a letter is accepted in Pascal case. -/
theorem normalizeIdentifier_of_made (field : String) (h : Made Char.isAlphanum name)
    (hhead : name.toList.head?.any Char.isAlpha = true) :
    normalizeIdentifier field name = .ok (pascalCase name) := by
  have htrim : trim name = name := by
    have hblank : ∀ c ∈ name.toList, isBlank c = false := fun c hc => by
      have := isSeparator_of_isAlphanum (h c hc)
      rw [isSeparator, Bool.or_eq_false_iff] at this
      exact this.2
    have hkeep : ∀ cs : List Char, (∀ c ∈ cs, isBlank c = false) → cs.dropWhile isBlank = cs := by
      intro cs hcs
      cases cs with
      | nil => rfl
      | cons c cs => rw [List.dropWhile_cons, hcs c List.mem_cons_self, if_neg Bool.false_ne_true]
    rw [trim, trimChars, hkeep _ hblank, hkeep _ (by simpa using hblank), List.reverse_reverse,
      String.ofList_toList]
  have hchars := h.mono fun _ => isNameChar_of_isAlphanum
  have hpascal : (pascalCase name).toList.head?.any Char.isAlpha = true := by
    rw [head?_pascalCase hchars, ← List.head?_filter, List.filter_eq_self.2 h]
    cases hname : name.toList.head? with
    | none =>
        rw [hname] at hhead
        cases hhead
    | some c =>
        rw [hname] at hhead
        exact (isAlpha_toUpper (h c (List.mem_of_mem_head? hname))).trans hhead
  rw [normalizeIdentifier_ok_iff, htrim]
  exact ⟨hchars, hpascal, rfl⟩

/-- What is accepted is in Pascal case and begins with a letter. -/
theorem normalizeIdentifier_eq_ok {field raw : String} (h : normalizeIdentifier field raw = .ok name) :
    Made Char.isAlphanum name ∧ name.toList.head?.any Char.isAlpha = true
      ∧ name.toList.head?.any Char.isLower = false := by
  obtain ⟨hmade, hhead, rfl⟩ := normalizeIdentifier_ok_iff.1 h
  exact ⟨pascalCase_made hmade, hhead, head_pascalCase hmade⟩

/-- **A settled name is the name of one feature, however it is spelled.**  A name that was accepted
is accepted unchanged, and is the name of its feature, exactly if it is settled.  The name of its
feature is accepted unchanged in any case.  Spellings of settled names whose features have one name
have one feature, and so one path for each artifact. -/
theorem normalizeIdentifier_settled {field raw : String} (h : normalizeIdentifier field raw = .ok name)
    (pluralize : String → String) :
    (normalizeIdentifier field name = .ok name ↔ Settled name)
      ∧ ((featureOf pluralize name).name = name ↔ Settled name)
      ∧ normalizeIdentifier field (featureOf pluralize name).name
        = .ok (featureOf pluralize name).name
      ∧ ∀ {field' raw' name' : String}, normalizeIdentifier field' raw' = .ok name' →
        Settled name → Settled name' →
        (featureOf pluralize name).name = (featureOf pluralize name').name →
        featureOf pluralize name = featureOf pluralize name' := by
  obtain ⟨hmade, hletter, hcapital⟩ := normalizeIdentifier_eq_ok h
  have hagain := normalizeIdentifier_of_made field hmade hletter
  have hfixed := pascalCase_eq_iff hmade hcapital
  refine ⟨by rw [hagain, Except.ok.injEq, hfixed], hfixed, ?_, ?_⟩
  · obtain ⟨hmade', hletter', hcapital'⟩ := normalizeIdentifier_eq_ok hagain
    change normalizeIdentifier field (pascalCase name) = .ok (pascalCase name)
    rw [normalizeIdentifier_of_made field hmade' hletter',
      (pascalCase_eq_iff hmade' hcapital').2 (settled_pascalCase hmade hcapital)]
  · intro field' raw' name' h' hsettled hsettled' hsame
    obtain ⟨hmade', -, hcapital'⟩ := normalizeIdentifier_eq_ok h'
    have hname : name = name' := by
      rw [← hfixed.2 hsettled, ← (pascalCase_eq_iff hmade' hcapital').2 hsettled']
      exact hsame
    rw [hname]

/-- Two spellings of one entity. -/
theorem normalizeIdentifier_settled_orderLine :
    normalizeIdentifier "entity" " order line " = .ok "OrderLine"
      ∧ normalizeIdentifier "entity" "Order_line" = .ok "OrderLine" ∧ Settled "OrderLine"
      ∧ normalizeIdentifier "entity" "OrderLine" = .ok "OrderLine"
      ∧ (featureOf Plural.english "OrderLine").name = "OrderLine"
      ∧ (featureOf Plural.english "OrderLine").plural = (featureOf Plural.english "OrderLine").plural := by
  have hfirst : normalizeIdentifier "entity" " order line " = .ok "OrderLine" := rfl
  have hsecond : normalizeIdentifier "entity" "Order_line" = .ok "OrderLine" := rfl
  have hsettled : Settled "OrderLine" := by decide
  obtain ⟨hagain, hname, -, hone⟩ := normalizeIdentifier_settled hfirst Plural.english
  exact ⟨hfirst, hsecond, hsettled, hagain.2 hsettled, hname.2 hsettled,
    congrArg Feature.plural (hone hsecond hsettled hsettled rfl)⟩

/-- Names of one letter run together: the two spellings have features of one name that differ. -/
example : normalizeIdentifier "entity" "a-b" = .ok "AB" ∧ ¬ Settled "AB"
    ∧ normalizeIdentifier "entity" "ab" = .ok "Ab"
    ∧ featureOf Plural.english "AB" = ⟨"Ab", "ABs"⟩ ∧ featureOf Plural.english "Ab" = ⟨"Ab", "Abs"⟩ := by
  decide

end

end Scaffold
