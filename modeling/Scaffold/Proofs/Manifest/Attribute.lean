import Mathlib
import Scaffold.Proofs.Version
import Scaffold.Proofs.Text.Shape

/-!
# Attributes of a tag

An attribute is looked for as text: its name, an equals sign and a double quote, wherever they stand
on the line first.  That is the attribute of the name only if it is written so (`Attribute.Plain`)
and nothing in front of it reads alike (`attributeFrom?_eq_some`).  A tag is looked for as text too,
and a line without that text has no entry (`cut?_eq_none`).
-/

namespace Scaffold.Manifest

open Scaffold.Text

/-! ## Occurrences -/

/-- A text that lacks a character occurs on one side of it. -/
theorem infix_of_separator {needle front back : List Char} {c : Char} (hc : c ∉ needle)
    (h : needle <:+: front ++ c :: back) : needle <:+: front ∨ needle <:+: back := by
  obtain ⟨s, t, h⟩ := h
  rw [List.append_assoc] at h
  rcases List.append_eq_append_iff.1 h with ⟨rest, hfront, hrest⟩ | ⟨rest, hs, hrest⟩
  · rcases List.append_eq_append_iff.1 hrest with ⟨r, hr, ht⟩ | ⟨r, hr, hcb⟩
    · exact .inl ⟨s, r, by rw [hfront, hr, List.append_assoc]⟩
    · cases r with
      | nil => exact .inl ⟨s, [], by rw [hfront, hr]; simp⟩
      | cons d r =>
          rw [List.cons_append, List.cons.injEq] at hcb
          exact absurd (by rw [hr, hcb.1]; simp) hc
  · cases rest with
    | nil =>
        cases needle with
        | nil => exact .inl (List.nil_infix)
        | cons d needle =>
            rw [List.nil_append, List.cons_append, List.cons.injEq] at hrest
            exact absurd (hrest.1 ▸ List.mem_cons_self) hc
    | cons d rest =>
        rw [List.cons_append, List.cons.injEq] at hrest
        exact .inr ⟨rest, t, by rw [hrest.2, List.append_assoc]⟩

/-- A text occurs behind what lacks its first character. -/
theorem infix_of_not_mem {needle front back : List Char} {c : Char} (hc : c ∉ front)
    (h : c :: needle <:+: front ++ back) : c :: needle <:+: back := by
  induction front with
  | nil => exact h
  | cons d front ih =>
      rw [List.mem_cons, not_or] at hc
      rw [List.cons_append, List.infix_cons_iff] at h
      rcases h with h | h
      · rw [List.cons_prefix_cons] at h
        exact absurd h.1 hc.1
      · exact ih hc.2 h

/-- A text that does not occur in another begins at none of its places, nor where it is followed by a
character that the text can only begin with. -/
theorem not_prefix_append {needle front back s : List Char} {c : Char} (hfront : ¬ needle <:+: front)
    (hc : c ∉ needle.tail) (hs : s ≠ []) (hsuffix : s <:+ front) : ¬ needle <+: s ++ c :: back := by
  rintro ⟨x, hx⟩
  obtain ⟨t, rfl⟩ := hsuffix
  rcases List.append_eq_append_iff.1 hx with ⟨r, hr, -⟩ | ⟨r, hr, hrest⟩
  · exact hfront ⟨t, r, by rw [hr, List.append_assoc]⟩
  · obtain ⟨d, s, rfl⟩ := List.exists_cons_of_ne_nil hs
    cases r with
    | nil => exact hfront ⟨t, [], by rw [hr]; simp⟩
    | cons e r =>
        rw [List.cons_append, List.cons.injEq] at hrest
        refine hc ?_
        rw [hr, hrest.1]
        simp

/-! ## Attributes -/

/-- A text that does not begin another begins it neither when a character follows that the text
lacks. -/
theorem not_prefix_of_separator {needle s back : List Char} {c : Char} (h : ¬ needle <+: s)
    (hc : c ∉ needle) : ¬ needle <+: s ++ c :: back := by
  rintro ⟨x, hx⟩
  rcases List.append_eq_append_iff.1 hx with ⟨r, hr, -⟩ | ⟨r, hr, hrest⟩
  · exact h ⟨r, hr.symm⟩
  · cases r with
    | nil => exact h ⟨[], by rw [hr, List.append_nil, List.append_nil]⟩
    | cons e r =>
        rw [List.cons_append, List.cons.injEq] at hrest
        exact hc (by rw [hr, hrest.1]; simp)

/-- White space in a tag. -/
def isSpace (c : Char) : Bool := c == ' ' || c == '\t' || c == '\r' || c == '\n'

/-- Decide whether a character can stand in the name of an attribute. -/
def isAttributeChar (c : Char) : Bool :=
  !isSpace c && c != '=' && c != '"' && c != '\x27' && c != '<' && c != '>' && c != '/'

theorem isWordChar_of_isSpace {c : Char} (h : isSpace c = true) : isWordChar c = false := by
  simp only [isSpace, Bool.or_eq_true, beq_iff_eq] at h
  rcases h with ((rfl | rfl) | rfl) | rfl <;> decide

/-- An attribute as it is written. -/
structure Attribute where
  /-- The white space in front of it. -/
  gap : List Char
  /-- Its name. -/
  name : List Char
  /-- The equals sign, with white space around it. -/
  sign : List Char
  /-- The quote its value stands in. -/
  quote : Char
  /-- Its value. -/
  value : List Char
deriving Repr, DecidableEq

namespace Attribute

/-- The text of an attribute. -/
def text (a : Attribute) : List Char := a.gap ++ a.name ++ a.sign ++ a.quote :: a.value ++ [a.quote]

/-- An attribute that markup can have. -/
structure WellFormed (a : Attribute) : Prop where
  /-- White space divides it from what comes before. -/
  gap_ne : a.gap ≠ []
  gap : ∀ c ∈ a.gap, isSpace c = true
  name_ne : a.name ≠ []
  name : ∀ c ∈ a.name, isAttributeChar c = true
  sign : ∀ c ∈ a.sign, (isSpace c || c == '=') = true
  equals : '=' ∈ a.sign
  quote : a.quote = '"' ∨ a.quote = '\x27'
  /-- The quote ends the value. -/
  value : a.quote ∉ a.value

/-- An attribute without white space around its sign, in double quotes. -/
def Plain (a : Attribute) : Prop := a.sign = ['='] ∧ a.quote = '"'

end Attribute

/-- What an attribute begins with when it is plain. -/
def attributeStart (name : List Char) : List Char := name ++ ['=', '"']

/-! ## The search for an attribute -/

theorem valueOf?_eq {name value rest : List Char} (hvalue : '"' ∉ value) :
    valueOf? name (attributeStart name ++ value ++ '"' :: rest)
      = some ⟨attributeStart name, value, '"' :: rest⟩ := by
  have hdrop : dropStart? (name ++ ['=', '"']) (attributeStart name ++ value ++ '"' :: rest)
      = some (value ++ '"' :: rest) := by
    rw [dropStart?_eq_some, attributeStart, List.append_assoc (name ++ _)]
  have hall : ∀ c ∈ value, (c != '"') = true := by
    intro c hc
    simp only [bne_iff_ne, ne_eq]
    rintro rfl
    exact hvalue hc
  unfold valueOf?
  rw [hdrop]
  simp only
  rw [List.dropWhile_append_of_pos hall, List.takeWhile_append_of_pos hall]
  simp [attributeStart]

theorem valueOf?_eq_none {name cs : List Char} (h : ¬ attributeStart name <+: cs) :
    valueOf? name cs = none := by
  unfold valueOf?
  split
  · rfl
  next rest hrest => exact absurd ⟨rest, (dropStart?_eq_some.1 hrest).symm⟩ h

section

variable {name : List Char} {accept : List Char → Bool} {inTag : Bool} {previous : Option Char}

/-- The search goes past a text in which the attribute begins nowhere but inside a word. -/
theorem attributeFrom?_append {front back : List Char} (hin : inTag = true → '>' ∉ front)
    (hfront : ∀ p s, s ≠ [] → front = p ++ s → attributeStart name <+: s ++ back →
      (p.getLast?.or previous).any isWordChar = true) :
    attributeFrom? name accept inTag previous (front ++ back)
      = (attributeFrom? name accept inTag (front.getLast?.or previous) back).map (Cut.prepend front) := by
  induction front generalizing previous with
  | nil =>
      have hid : Cut.prepend [] = id := rfl
      rw [hid, Option.map_id]
      rfl
  | cons c front ih =>
      have hlast : ∀ front : List Char,
          (c :: front).getLast?.or previous = front.getLast?.or (some c) := by
        intro front
        cases front with
        | nil => rfl
        | cons d front =>
            rw [List.getLast?_cons_cons, List.getLast?_eq_some_getLast (List.cons_ne_nil d front)]
            rfl
      have hnone : (if previous.any isWordChar = true then none
          else (valueOf? name (c :: (front ++ back))).filter fun cut => accept cut.value) = none := by
        by_cases hstart : attributeStart name <+: c :: (front ++ back)
        · exact if_pos (hfront [] (c :: front) (List.cons_ne_nil _ _) rfl hstart)
        · rw [valueOf?_eq_none hstart, Option.filter_none, ite_self]
      have hstop : (inTag && c == '>') = false := by
        cases inTag with
        | false => rfl
        | true =>
            have hne : c ≠ '>' := fun h => hin rfl (h ▸ List.mem_cons_self)
            simpa using hne
      have hrest := @ih (some c) (fun h hmem => hin h (List.mem_cons_of_mem c hmem))
        (fun p s hs hsplit hstart => by
          rw [← hlast p]
          exact hfront (c :: p) s hs (by rw [hsplit, List.cons_append]) hstart)
      rw [List.cons_append, attributeFrom?, hnone, hlast]
      simp only [hstop, Bool.false_eq_true, if_false, hrest, Option.map_map]
      rfl

theorem attributeFrom?_eq_none {cs : List Char} (h : ¬ attributeStart name <:+: cs) :
    attributeFrom? name accept inTag previous cs = none := by
  induction cs generalizing previous with
  | nil => rfl
  | cons c cs ih =>
      rw [List.infix_cons_iff, not_or] at h
      rw [attributeFrom?, valueOf?_eq_none h.1, ih h.2]
      simp

/-- An attribute that starts a word is found. -/
theorem attributeFrom?_here {cs : List Char} {cut : Cut} (hprevious : previous.any isWordChar = false)
    (hcut : valueOf? name cs = some cut) (haccept : accept cut.value = true) (hne : cs ≠ []) :
    attributeFrom? name accept inTag previous cs = some cut := by
  cases cs with
  | nil => exact absurd rfl hne
  | cons c cs =>
      have hfilter : (some cut).filter (fun cut => accept cut.value) = some cut := by
        simp [Option.filter, haccept]
      simp only [attributeFrom?, hprevious, Bool.false_eq_true, if_false, hcut, hfilter]

/-- In a text an attribute begins nowhere but inside a word, so that the search does not find it.
`previous` is the character before the text. -/
def Overlooked (name : List Char) (previous : Option Char) (front : List Char) : Prop :=
  ∀ p s, front = p ++ s → attributeStart name <+: s → (p.getLast?.or previous).any isWordChar = true

theorem overlooked_of_absent {front : List Char} (h : ¬ attributeStart name <:+: front) :
    Overlooked name previous front := fun p _ hsplit hstart =>
  absurd (hstart.isInfix.trans ⟨p, [], by rw [hsplit, List.append_nil]⟩) h

/-- The search finds the first attribute of a name that it does not overlook, if it is plain. -/
theorem attributeFrom?_eq_some {front gap value rest : List Char}
    (hname : ∀ c ∈ name, isAttributeChar c = true) (hname_ne : name ≠ [])
    (hgap : ∀ c ∈ gap, isSpace c = true) (hgap_ne : gap ≠ [])
    (hfront : Overlooked name previous front) (hin : inTag = true → '>' ∉ front)
    (hvalue : '"' ∉ value) (haccept : accept value = true) :
    attributeFrom? name accept inTag previous
        (front ++ gap ++ (attributeStart name ++ value ++ '"' :: rest))
      = some ⟨front ++ gap ++ attributeStart name, value, '"' :: rest⟩ := by
  have hspace : ∀ c ∈ attributeStart name, isSpace c = false := by
    intro c hc
    simp only [attributeStart, List.mem_append, List.mem_cons, List.not_mem_nil, or_false] at hc
    rcases hc with hc | rfl | rfl
    · have hchar := hname c hc
      simp only [isAttributeChar, Bool.and_eq_true, Bool.not_eq_true'] at hchar
      exact hchar.1.1.1.1.1.1
    · decide
    · decide
  obtain ⟨first, name', hfirst⟩ := List.exists_cons_of_ne_nil hname_ne
  have hstart : attributeStart name = first :: (name' ++ ['=', '"']) := by
    rw [attributeStart, hfirst, List.cons_append]
  -- Past the text in front, which white space ends.
  have hpast : ∀ back, attributeFrom? name accept inTag previous (front ++ (gap ++ back))
      = (attributeFrom? name accept inTag (front.getLast?.or previous) (gap ++ back)).map
          (Cut.prepend front) := by
    intro back
    refine attributeFrom?_append hin fun p s hs hsplit hstart => hfront p s hsplit ?_
    obtain ⟨c, gap', rfl⟩ := List.exists_cons_of_ne_nil hgap_ne
    by_contra hno
    refine absurd hstart (not_prefix_of_separator hno fun hc => ?_)
    have hno := hspace c hc
    rw [hgap c List.mem_cons_self] at hno
    cases hno
  -- Past the white space, in which no name begins.
  have hover : ∀ previous back, attributeFrom? name accept inTag previous (gap ++ back)
      = (attributeFrom? name accept inTag (gap.getLast?.or previous) back).map (Cut.prepend gap) := by
    intro previous back
    refine attributeFrom?_append (fun _ hmem => ?_) fun p s hs hsplit hprefix => ?_
    · exact absurd (hgap '>' hmem) (by decide)
    · obtain ⟨c, s, rfl⟩ := List.exists_cons_of_ne_nil hs
      rw [hstart, List.cons_append, List.cons_prefix_cons] at hprefix
      have hno := hspace first (by rw [hstart]; exact List.mem_cons_self)
      rw [hgap first (by rw [hsplit, hprefix.1]; simp)] at hno
      cases hno
  have hlast : ∀ previous, (gap.getLast?.or previous).any isWordChar = false := by
    intro previous
    rw [List.getLast?_eq_some_getLast hgap_ne, Option.some_or, Option.any_some]
    exact isWordChar_of_isSpace (hgap _ (List.getLast_mem hgap_ne))
  have hhere := @valueOf?_eq name value rest hvalue
  rw [List.append_assoc front, hpast, hover,
    attributeFrom?_here (hlast _) hhere haccept (by simp [hstart])]
  simp [Cut.prepend]

end

/-! ## The search for a tag -/

/-- The search goes past a text at none of whose places a tag begins. -/
theorem findInclude?_append {tag front back : List Char}
    (hfront : ∀ s, s ≠ [] → s <:+ front → ¬ tag <+: s ++ back) :
    findInclude? tag (front ++ back) = (findInclude? tag back).map (Cut.prepend front) := by
  induction front with
  | nil =>
      have hid : Cut.prepend [] = id := rfl
      rw [hid, Option.map_id]
      rfl
  | cons c front ih =>
      have hnone : includeOf? tag (c :: (front ++ back)) = none := by
        unfold includeOf?
        split
        · rfl
        next rest hrest =>
          exact absurd ⟨rest, (dropStart?_eq_some.1 hrest).symm⟩
            (hfront (c :: front) (List.cons_ne_nil _ _) (List.suffix_refl _))
      have hrest := ih fun s hs hsuffix => hfront s hs (hsuffix.trans (List.suffix_cons c front))
      rw [List.cons_append, findInclude?, hnone]
      simp only [hrest, Option.map_map]
      rfl

theorem findInclude?_eq_none {tag cs : List Char} (h : ¬ tag <:+: cs) :
    findInclude? tag cs = none := by
  have hpast := @findInclude?_append tag cs [] fun s hs hsuffix hstart => by
    rw [List.append_nil] at hstart
    exact h (hstart.isInfix.trans hsuffix.isInfix)
  rw [List.append_nil] at hpast
  rw [hpast]
  rfl

/-- A tag begins with a bracket, which stands nowhere else in it. -/
theorem EntryKind.toList_openTag (k : EntryKind) :
    k.openTag.toList = '<' :: k.element.toList ∧ '<' ∉ k.element.toList := by
  cases k <;> decide

/-- What sets the tags of an entry apart from a version element and from a value in quotes. -/
theorem EntryKind.mem_tags (k : EntryKind) : 'V' ∉ k.openTag.toList ∧ 'V' ∉ k.closeTag.toList
    ∧ '>' ∈ k.closeTag.toList ∧ '"' ∉ k.closeTag.toList := by
  cases k <;> decide

theorem contains_eq_false_iff {s t : String} :
    contains s t = false ↔ ¬ t.toList <:+: s.toList := by
  rw [contains, Bool.eq_false_iff, ne_eq, occursIn_iff]

/-- No entry is found on a line without a tag of its kind. -/
theorem cut?_eq_none {k : EntryKind} {line : String} (h : contains line k.openTag = false) :
    k.cut? line = none :=
  findInclude?_eq_none (contains_eq_false_iff.1 h)

end Scaffold.Manifest
