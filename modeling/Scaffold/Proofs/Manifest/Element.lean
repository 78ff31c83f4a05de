import Mathlib
import Scaffold.Proofs.Manifest.Attribute

/-!
# Elements

An entry as markup writes it: a start tag with attributes, one of which is `Include`, and what
stands around it on its lines.  The search for entries goes line by line and knows nothing of
elements.  It finds the identity of an element whose start tag is on one line, unless something in
front of the identity misleads it (`Element.identity?_opening`).  A line opens an entry of one
identity at most (`Element.identity_eq_of_opening`).
-/

namespace Scaffold.Manifest

open Scaffold.Text

/-! ## Elements -/

/-- What comes behind the attributes of a start tag. -/
inductive Ending where
  /-- The tag closes itself. -/
  | empty (rear : List Char)
  /-- The element is closed on the line of its start tag. -/
  | short (inside rear : List Char)
  /-- The element goes on below: the text behind the tag, the lines between, and the text around the
  closing tag. -/
  | long (first : List Char) (inner : List String) (last rear : List Char)
deriving Repr, DecidableEq

namespace Ending

/-- The text on the line of the start tag. -/
def onOpening (k : EntryKind) : Ending → List Char
  | .empty rear => '/' :: '>' :: rear
  | .short inside rear => '>' :: (inside ++ k.closeTag.toList ++ rear)
  | .long first _ _ _ => '>' :: first

/-- The lines below the start tag. -/
def below (k : EntryKind) : Ending → List String
  | .long _ inner last rear => inner ++ [String.ofList (last ++ k.closeTag.toList ++ rear)]
  | _ => []

/-- The texts inside the element, line by line. -/
def contents : Ending → List (List Char)
  | .empty _ => []
  | .short inside _ => [inside]
  | .long first inner last _ => first :: inner.map String.toList ++ [last]

end Ending

/-- An entry as it is written. -/
structure Element where
  /-- The text in front of the tag. -/
  before : List Char
  /-- The attributes in front of the identity. -/
  front : List Attribute
  /-- The white space in front of the identity. -/
  gap : List Char
  /-- The value of `Include`. -/
  identity : String
  /-- The attributes behind the identity. -/
  back : List Attribute
  /-- The white space at the end of the tag. -/
  tail : List Char
  /-- The end of the tag and all behind it. -/
  ending : Ending
deriving Repr, DecidableEq

/-- The text of attributes. -/
def attributesText (as : List Attribute) : List Char := as.flatMap Attribute.text

theorem attributesText_cons (a : Attribute) (as : List Attribute) :
    attributesText (a :: as) = a.text ++ attributesText as := List.flatMap_cons

/-- The name of the attribute that holds an identity. -/
def includeName : List Char := ['I', 'n', 'c', 'l', 'u', 'd', 'e']

/-- The name of the attribute that holds a version. -/
def versionName : List Char := ['V', 'e', 'r', 's', 'i', 'o', 'n']

theorem isAttributeChar_includeName : ∀ c ∈ includeName, isAttributeChar c = true := by
  simp [includeName, isAttributeChar, isSpace]

theorem isAttributeChar_versionName : ∀ c ∈ versionName, isAttributeChar c = true := by
  simp [versionName, isAttributeChar, isSpace]

namespace Element

/-- The attribute that holds the identity. -/
def includes (e : Element) : Attribute := ⟨e.gap, includeName, ['='], '"', e.identity.toList⟩

/-- All attributes of the tag. -/
def attributes (e : Element) : List Attribute := e.front ++ e.includes :: e.back

/-- The line of the start tag. -/
def opening (k : EntryKind) (e : Element) : String :=
  String.ofList (e.before ++ k.openTag.toList ++ attributesText e.attributes ++ e.tail
    ++ e.ending.onOpening k)

/-- The lines of the element. -/
def lines (k : EntryKind) (e : Element) : List String := e.opening k :: e.ending.below k

/-- An element that stands in lines as markup has it, with its start tag on one line, no other start
tag on its lines, and its end on the first line that can be its end. -/
structure WellFormed (k : EntryKind) (e : Element) : Prop where
  attributes : ∀ a ∈ e.attributes, a.WellFormed
  names : (e.attributes.map Attribute.name).Nodup
  identity : e.identity ≠ ""
  tail : ∀ c ∈ e.tail, isSpace c = true
  before : ¬ k.openTag.toList <:+: e.before
  behind : ¬ k.openTag.toList <:+: e.ending.onOpening k
  below : ∀ l ∈ e.ending.below k, contains l k.openTag = false
  /-- Nothing on the first line, nor on a line between, looks like the end of one that goes on
  below. -/
  closed : ∀ first inner last rear, e.ending = .long first inner last rear →
    contains (e.opening k) "/>" = false ∧ contains (e.opening k) k.closeTag = false
      ∧ (∀ l ∈ inner, contains l k.closeTag = false) ∧ ¬ k.closeTag.toList <:+: last

/-- Nothing in front of the identity ends the tag or reads as an identity. -/
structure Legible (e : Element) : Prop where
  open_tag : '>' ∉ attributesText e.front
  first : ¬ attributeStart includeName <:+: attributesText e.front

/-! ## Identities -/

section

variable {k : EntryKind} {e : Element}

theorem includes_mem (e : Element) : e.includes ∈ e.attributes := by simp [attributes]

/-- White space comes before attributes. -/
theorem isSpace_head {as : List Attribute} (has : ∀ a ∈ as, a.WellFormed) {gap : List Char}
    (hgap : ∀ c ∈ gap, isSpace c = true) (hgap_ne : gap ≠ []) (back : List Char) :
    ∀ c ∈ (attributesText as ++ gap ++ back).head?, isSpace c = true := by
  cases as with
  | nil =>
      obtain ⟨d, gap, rfl⟩ := List.exists_cons_of_ne_nil hgap_ne
      simpa [attributesText] using hgap d List.mem_cons_self
  | cons a as =>
      have ha := has a List.mem_cons_self
      obtain ⟨d, gap', hd⟩ := List.exists_cons_of_ne_nil ha.gap_ne
      have hspace := ha.gap d (by rw [hd]; exact List.mem_cons_self)
      simpa [attributesText, Attribute.text, hd] using hspace

/-- The text of the opening line around the identity. -/
theorem toList_opening (k : EntryKind) (e : Element) :
    (e.opening k).toList = e.before ++ (k.openTag.toList ++ (attributesText e.front ++ e.gap
      ++ (attributeStart includeName ++ e.identity.toList
        ++ '"' :: (attributesText e.back ++ e.tail ++ e.ending.onOpening k)))) := by
  simp [opening, attributes, attributesText, includes, Attribute.text, attributeStart]

/-- The identity of an element is found on its opening line. -/
theorem cut?_opening (h : e.WellFormed k) (hlegible : e.Legible) :
    k.cut? (e.opening k) = some ⟨e.before ++ (k.openTag.toList ++ (attributesText e.front ++ e.gap
      ++ attributeStart includeName)), e.identity.toList,
      '"' :: (attributesText e.back ++ e.tail ++ e.ending.onOpening k)⟩ := by
  have hinclude := h.attributes _ e.includes_mem
  have hidentity : (!e.identity.toList.isEmpty) = true := by
    have hne : e.identity.toList ≠ [] := fun hnil => h.identity (String.toList_eq_nil_iff.1 hnil)
    simpa using hne
  have hfound := @attributeFrom?_eq_some includeName (!·.isEmpty) true k.openTag.toList.getLast?
    (attributesText e.front) e.gap e.identity.toList
    (attributesText e.back ++ e.tail ++ e.ending.onOpening k) isAttributeChar_includeName
      (by decide) hinclude.gap
    hinclude.gap_ne (overlooked_of_absent hlegible.first) (fun _ => hlegible.open_tag)
      hinclude.value hidentity
  have hhead : (attributesText e.front ++ e.gap ++ (attributeStart includeName ++ e.identity.toList
      ++ '"' :: (attributesText e.back ++ e.tail ++ e.ending.onOpening k))).head?.any isWordChar
      = false := by
    rw [Option.any_eq_false_iff_get]
    intro hsome
    exact isWordChar_of_isSpace (isSpace_head (fun a ha => h.attributes a (by simp [attributes, ha]))
      hinclude.gap hinclude.gap_ne _ _ (Option.get_mem hsome))
  obtain ⟨htag, hbracket⟩ := k.toList_openTag
  have hhere : includeOf? k.openTag.toList (k.openTag.toList ++ (attributesText e.front ++ e.gap
      ++ (attributeStart includeName ++ e.identity.toList
        ++ '"' :: (attributesText e.back ++ e.tail ++ e.ending.onOpening k))))
      = some ⟨k.openTag.toList ++ (attributesText e.front ++ e.gap ++ attributeStart includeName),
        e.identity.toList, '"' :: (attributesText e.back ++ e.tail ++ e.ending.onOpening k)⟩ := by
    unfold includeOf?
    rw [dropStart?_eq_some.2 rfl]
    simp only [hhead, Bool.false_eq_true, if_false]
    change (attributeFrom? includeName _ _ _ _).map _ = _
    rw [hfound]
    rfl
  rw [EntryKind.cut?, toList_opening, findInclude?_append]
  · rw [htag, List.cons_append] at hhere ⊢
    rw [findInclude?, hhere]
    rfl
  · intro s hs hsuffix
    rw [htag, List.cons_append]
    refine not_prefix_append (htag ▸ h.before) ?_ hs hsuffix
    exact hbracket

theorem identity?_opening (h : e.WellFormed k) (hlegible : e.Legible) :
    k.identity? (e.opening k) = some e.identity := by
  rw [EntryKind.identity?, cut?_opening h hlegible, Option.map_some, String.ofList_toList]

/-! ## One identity -/

/-- Where a run of characters ends is fixed by what follows it. -/
theorem eq_of_run {p : Char → Bool} {front front' back back' : List Char}
    (hfront : ∀ c ∈ front, p c = true) (hfront' : ∀ c ∈ front', p c = true)
    (hback : ∀ c ∈ back.head?, p c = false) (hback' : ∀ c ∈ back'.head?, p c = false)
    (h : front ++ back = front' ++ back') : front = front' ∧ back = back' := by
  have hend : ∀ cs : List Char, (∀ c ∈ cs.head?, p c = false) → cs.takeWhile p = [] := by
    intro cs hcs
    cases cs with
    | nil => rfl
    | cons c cs => rw [List.takeWhile_cons, hcs c rfl, if_neg Bool.false_ne_true]
  have htake := congrArg (List.takeWhile p) h
  rw [List.takeWhile_append_of_pos hfront, List.takeWhile_append_of_pos hfront', hend back hback,
    hend back' hback', List.append_nil, List.append_nil] at htake
  subst htake
  exact ⟨rfl, List.append_cancel_left h⟩

theorem isSpace_of_isAttributeChar {c : Char} (h : isAttributeChar c = true) : isSpace c = false := by
  simp only [isAttributeChar, Bool.and_eq_true, Bool.not_eq_true'] at h
  exact h.1.1.1.1.1.1

theorem isAttributeChar_of_isSign {c : Char} (h : (isSpace c || c == '=') = true) :
    isAttributeChar c = false := by
  rw [Bool.or_eq_true, beq_iff_eq] at h
  rcases h with hspace | rfl
  · simp [isAttributeChar, hspace]
  · decide

theorem head?_append_of_forall {p : Char → Prop} {front back : List Char} (hne : front ≠ [])
    (hfront : ∀ c ∈ front, p c) : ∀ c ∈ (front ++ back).head?, p c := by
  intro c hc
  rw [List.head?_append_of_ne_nil _ hne] at hc
  exact hfront c (List.mem_of_mem_head? hc)

/-- The text of an attribute has one reading, whatever comes behind it. -/
theorem text_append_inj {a b : Attribute} (ha : a.WellFormed) (hb : b.WellFormed) {rest rest' : List Char}
    (h : a.text ++ rest = b.text ++ rest') : a = b ∧ rest = rest' := by
  have hname : ∀ {a : Attribute}, a.WellFormed → ∀ rest,
      ∀ c ∈ (a.name ++ rest).head?, isSpace c = false := fun ha _ =>
    head?_append_of_forall ha.name_ne fun c hc => isSpace_of_isAttributeChar (ha.name c hc)
  have hsign : ∀ {a : Attribute}, a.WellFormed → ∀ rest,
      ∀ c ∈ (a.sign ++ rest).head?, isAttributeChar c = false := fun ha _ =>
    head?_append_of_forall (List.ne_nil_of_mem ha.equals) fun c hc =>
      isAttributeChar_of_isSign (ha.sign c hc)
  have hquote : ∀ {a : Attribute}, a.WellFormed → ∀ rest,
      ∀ c ∈ (a.quote :: rest).head?, (isSpace c || c == '=') = false := by
    intro a ha rest c hc
    rw [List.head?_cons, Option.mem_some_iff] at hc
    rcases ha.quote with h | h <;> rw [← hc, h] <;> decide
  have hvalue : ∀ {a : Attribute}, a.WellFormed → ∀ c ∈ a.value, (c != a.quote) = true := by
    intro a ha c hc
    rw [bne_iff_ne]
    rintro rfl
    exact ha.value hc
  simp only [Attribute.text, List.append_assoc, List.cons_append, List.nil_append] at h
  obtain ⟨hgaps, h⟩ := eq_of_run ha.gap hb.gap (hname ha _) (hname hb _) h
  obtain ⟨hnames, h⟩ := eq_of_run ha.name hb.name (hsign ha _) (hsign hb _) h
  obtain ⟨hsigns, h⟩ := eq_of_run ha.sign hb.sign (hquote ha _) (hquote hb _) h
  rw [List.cons.injEq] at h
  obtain ⟨hquotes, h⟩ := h
  obtain ⟨hvalues, h⟩ := eq_of_run (hvalue ha) (hquotes ▸ hvalue hb) (by simp) (by simp [hquotes]) h
  rw [List.cons.injEq] at h
  obtain ⟨_, _, _, _, _⟩ := a
  obtain ⟨_, _, _, _, _⟩ := b
  simp_all

/-- White space, then a name: that is no end of a tag. -/
theorem attributesText_cons_ne {as : List Attribute} {a : Attribute} {gap back rest : List Char} {c : Char}
    (ha : a.WellFormed) (hgap : ∀ c ∈ gap, isSpace c = true)
    (hc : isSpace c = false ∧ isAttributeChar c = false) :
    gap ++ c :: back ≠ attributesText (a :: as) ++ rest := by
  intro heq
  obtain ⟨d, name, hname⟩ := List.exists_cons_of_ne_nil ha.name_ne
  have hd := ha.name d (by rw [hname]; exact List.mem_cons_self)
  have hrun := @eq_of_run isSpace gap a.gap (c :: back) (d :: (name ++ (a.sign ++ a.quote ::
    (a.value ++ a.quote :: (attributesText as ++ rest))))) hgap ha.gap (by simp [hc.1])
    (by simp [isSpace_of_isAttributeChar hd]) (by simpa [attributesText, Attribute.text, hname] using heq)
  rw [List.cons.injEq] at hrun
  rw [← hrun.2.1, hc.2] at hd
  cases hd

/-- The text of a tag has one reading as attributes. -/
theorem attributesText_injective {as bs : List Attribute} {gap gap' back back' : List Char} {c c' : Char}
    (has : ∀ a ∈ as, a.WellFormed) (hbs : ∀ b ∈ bs, b.WellFormed)
    (hgap : ∀ c ∈ gap, isSpace c = true) (hgap' : ∀ c ∈ gap', isSpace c = true)
    (hc : isSpace c = false ∧ isAttributeChar c = false)
    (hc' : isSpace c' = false ∧ isAttributeChar c' = false)
    (h : attributesText as ++ (gap ++ c :: back) = attributesText bs ++ (gap' ++ c' :: back')) :
    as = bs := by
  induction as generalizing bs with
  | nil =>
      cases bs with
      | nil => rfl
      | cons b bs => exact absurd h (attributesText_cons_ne (hbs b List.mem_cons_self) hgap hc)
  | cons a as ih =>
      cases bs with
      | nil => exact absurd h.symm (attributesText_cons_ne (has a List.mem_cons_self) hgap' hc')
      | cons b bs =>
          rw [List.forall_mem_cons] at has hbs
          rw [attributesText_cons, attributesText_cons, List.append_assoc, List.append_assoc] at h
          obtain ⟨rfl, hrest⟩ := text_append_inj has.1 hbs.1 h
          rw [ih has.2 hbs.2 hrest]

/-- What comes behind the attributes begins with no white space and no name. -/
theorem onOpening_eq_cons (k : EntryKind) (ending : Ending) : ∃ c rest, ending.onOpening k = c :: rest
    ∧ isSpace c = false ∧ isAttributeChar c = false := by
  cases ending with
  | empty rear => exact ⟨'/', _, rfl, by decide⟩
  | short inside rear => exact ⟨'>', _, rfl, by decide⟩
  | long first inner last rear => exact ⟨'>', _, rfl, by decide⟩

/-- The first start tag on a line stands no further on than another one. -/
theorem prefix_of_tag {front front' back back' : List Char} (hno : ¬ k.openTag.toList <:+: front')
    (heq : front ++ (k.openTag.toList ++ back) = front' ++ (k.openTag.toList ++ back')) :
    front' <+: front := by
  obtain ⟨htag, hbracket⟩ := k.toList_openTag
  rcases List.append_eq_append_iff.1 heq with ⟨rest, hfront, hrest⟩ | ⟨rest, hfront, -⟩
  · cases rest with
    | nil =>
        rw [hfront, List.append_nil]
    | cons c rest =>
        have hprefix : k.openTag.toList <+: c :: rest ++ (k.openTag.toList ++ back') := ⟨back, hrest⟩
        rw [htag] at hno hprefix
        exact absurd hprefix
          (not_prefix_append hno hbracket (List.cons_ne_nil _ _) (hfront ▸ List.suffix_append _ _))
  · exact ⟨rest, hfront.symm⟩

/-- A line opens an entry of one identity. -/
theorem identity_eq_of_opening {e' : Element} (h : e.WellFormed k) (h' : e'.WellFormed k)
    (heq : e.opening k = e'.opening k) : e.identity = e'.identity := by
  have hlines := congrArg String.toList heq
  simp only [opening, String.toList_ofList, List.append_assoc] at hlines
  have hbefore : e.before = e'.before := List.IsPrefix.eq_of_length_le (prefix_of_tag h.before hlines.symm)
    (prefix_of_tag h'.before hlines).length_le
  rw [hbefore, List.append_cancel_left_eq, List.append_cancel_left_eq] at hlines
  obtain ⟨c, back, hending, hc⟩ := onOpening_eq_cons k e.ending
  obtain ⟨c', back', hending', hc'⟩ := onOpening_eq_cons k e'.ending
  rw [hending, hending'] at hlines
  have hattributes := attributesText_injective h.attributes h'.attributes h.tail h'.tail hc hc' hlines
  have hmem : e'.includes ∈ e.attributes := hattributes ▸ e'.includes_mem
  have hsame : e.includes = e'.includes := List.inj_on_of_nodup_map h.names e.includes_mem hmem rfl
  have hvalue : e.identity.toList = e'.identity.toList := congrArg Attribute.value hsame
  exact String.toList_inj.1 hvalue

end

end Element

end Scaffold.Manifest
