import Mathlib
import Scaffold.Proofs.Manifest.Child
import Scaffold.Proofs.Manifest.Replacement

/-!
# Revisions

Setting the version of an entry changes one line of it: the attribute that holds the version, else
the first version element below the opening line, else the opening line, which gets an attribute
(`Element.Revision`).  Where the version can be found, the edits of a merge make such a revision and
no other change (`Element.setVersion?_lines`), the element has the version then
(`Element.Revision.version?_eq`), and it is still one element with the same identity
(`Element.Revision.wellFormed`).
-/

namespace Scaffold.Manifest

open Scaffold.Text

/-! ## The version of an element -/

/-- An attribute with another value, if it has the name. -/
def Attribute.set (name value : List Char) (a : Attribute) : Attribute :=
  if a.name = name then { a with value := value } else a

/-- The attribute that a version is added as. -/
def Attribute.ofVersion (version : String) : Attribute :=
  ⟨[' '], versionName, ['='], '"', version.toList⟩

theorem Attribute.wellFormed_ofVersion {version : String} (h : '"' ∉ version.toList) :
    (Attribute.ofVersion version).WellFormed where
  gap_ne := List.cons_ne_nil _ _
  gap := by simp [ofVersion, isSpace]
  name_ne := List.cons_ne_nil _ _
  name := isAttributeChar_versionName
  sign := by simp [ofVersion]
  equals := List.mem_singleton_self _
  quote := .inl rfl
  value := h

/-- The version elements of an element that goes on below its opening line are read line by line:
each is on one line, none is open at the closing tag or comes behind it, and none on the opening
line hides one below. -/
structure ChildrenLegible (first : List Char) (inner : List String) (last rear : List Char) : Prop where
  between : ∀ l ∈ inner, ∀ value, childVersion? l.toList = some value → '<' ∉ value
  final : ∀ value, childVersion? last = some value → '<' ∉ value
  closed : versionOpen <:+: last → (childVersion? last).isSome = true
  behind : ¬ versionOpen <:+: rear
  visible : (childVersion? first).isSome = true →
    ∀ cs ∈ inner.map String.toList ++ [last], childVersion? cs = none

namespace Element

/-- The version: the first attribute of its name, else the first version element inside. -/
def version? (e : Element) : Option (List Char) :=
  ((e.attributes.find? fun a => a.name = versionName).map Attribute.value).or
    (e.ending.contents.findSome? childVersion?)

/-- The version of an element is found where it stands: no text in front of it reads alike. -/
inductive VersionLegible (k : EntryKind) (e : Element) : Prop
  | tag {as bs : List Attribute} {a : Attribute} (attributes : e.attributes = as ++ a :: bs)
      (name : a.name = versionName) (plain : a.Plain)
      (first : ¬ attributeStart versionName <:+: e.before ++ k.openTag.toList ++ attributesText as)
  | child (none : ∀ a ∈ e.attributes, a.name ≠ versionName)
      (line : ¬ attributeStart versionName <:+: (e.opening k).toList)
      (children : ∀ first inner last rear, e.ending = .long first inner last rear →
        ChildrenLegible first inner last rear)

/-- An element with another version: in the attribute that holds it, else in the first version element
below the opening line, else in a new attribute. -/
inductive Revision (version : String) (e : Element) : Element → Prop
  | tag (h : ∃ a ∈ e.attributes, a.name = versionName ∧ a.Plain) :
      Revision version e { e with
        front := e.front.map (Attribute.set versionName version.toList)
        back := e.back.map (Attribute.set versionName version.toList) }
  | inner {first last rear cs : List Char} {as bs : List String} {l : String}
      (none : ∀ a ∈ e.attributes, a.name ≠ versionName)
      (ending : e.ending = .long first (as ++ l :: bs) last rear)
      (front : ∀ x ∈ as, childVersion? x.toList = Option.none)
      (child : replaceChild? version l.toList = some cs) :
      Revision version e { e with ending := .long first (as ++ String.ofList cs :: bs) last rear }
  | last {first last rear cs : List Char} {inner : List String}
      (none : ∀ a ∈ e.attributes, a.name ≠ versionName)
      (ending : e.ending = .long first inner last rear)
      (front : ∀ x ∈ inner, childVersion? x.toList = Option.none)
      (child : replaceChild? version last = some cs) :
      Revision version e { e with ending := .long first inner cs rear }
  | added (none : ∀ a ∈ e.attributes, a.name ≠ versionName) :
      Revision version e { e with back := .ofVersion version :: e.back }

section

variable {version : String} {e e' : Element} {as bs : List Attribute} {a : Attribute}

/-- An attribute that is set is the only one of its name. -/
theorem map_set (h : ((as ++ a :: bs).map Attribute.name).Nodup) (value : List Char) :
    (as ++ a :: bs).map (Attribute.set a.name value) = as ++ { a with value := value } :: bs := by
  rw [List.map_append, List.map_cons, List.nodup_append] at h
  obtain ⟨-, hback, hfront⟩ := h
  rw [List.nodup_cons] at hback
  have hkept : ∀ xs : List Attribute, (∀ x ∈ xs, x.name ≠ a.name) →
      xs.map (Attribute.set a.name value) = xs := by
    intro xs hxs
    refine (List.map_congr_left fun x hx => ?_).trans (List.map_id xs)
    rw [Attribute.set, if_neg (hxs x hx), id]
  have has := hkept as fun x hx => hfront _ (List.mem_map_of_mem hx) _ List.mem_cons_self
  have hbs := hkept bs fun x hx hname => hback.1 (hname ▸ List.mem_map_of_mem hx)
  rw [List.map_append, List.map_cons, has, hbs, Attribute.set, if_pos rfl]

/-- The attributes of an element whose version attribute is set. -/
theorem attributes_set (e : Element) (value : List Char) :
    attributes { e with
        front := e.front.map (Attribute.set versionName value)
        back := e.back.map (Attribute.set versionName value) }
      = e.attributes.map (Attribute.set versionName value) := by
  have hinclude : Attribute.set versionName value e.includes = e.includes :=
    if_neg (by decide : includeName ≠ versionName)
  rw [attributes, attributes, List.map_append, List.map_cons, hinclude]
  rfl

/-- The opening line around the value of an attribute. -/
theorem toList_opening_of_attributes {k : EntryKind} (hattributes : e.attributes = as ++ a :: bs)
    (hplain : a.Plain) : (e.opening k).toList
      = e.before ++ k.openTag.toList ++ attributesText as ++ a.gap
        ++ (attributeStart a.name ++ a.value
          ++ '"' :: (attributesText bs ++ e.tail ++ e.ending.onOpening k)) := by
  obtain ⟨hsign, hquote⟩ := hplain
  simp [opening, hattributes, attributesText, Attribute.text, attributeStart, hsign, hquote]

/-- What is replaced when the value of a version attribute is. -/
def matchedVersion (value : List Char) : List Char := attributeStart versionName ++ value ++ ['"']

/-- The attribute that holds the version is set to what the version stands for as a replacement
text. -/
theorem setAttribute?_expands {k : EntryKind} (h : e.WellFormed k)
    (hattributes : e.attributes = as ++ a :: bs) (hname : a.name = versionName) (hplain : a.Plain)
    (hfirst : Overlooked versionName none (e.before ++ k.openTag.toList ++ attributesText as)) :
    setAttribute? version (e.opening k) = some (opening k { e with
      front := e.front.map (Attribute.set versionName (expand (matchedVersion a.value) version.toList))
      back := e.back.map (Attribute.set versionName
        (expand (matchedVersion a.value) version.toList)) }) := by
  have ha : a.WellFormed := h.attributes a (by simp [hattributes])
  have hvalue : '"' ∉ a.value := hplain.2 ▸ ha.value
  have hfound := @attributeFrom?_eq_some versionName (fun _ => true) false none
    (e.before ++ k.openTag.toList ++ attributesText as) a.gap a.value
    (attributesText bs ++ e.tail ++ e.ending.onOpening k) isAttributeChar_versionName (by decide)
    ha.gap ha.gap_ne hfirst nofun hvalue rfl
  have hset := map_set (hattributes ▸ h.names) (expand (matchedVersion a.value) version.toList)
  rw [hname, ← hattributes, ← attributes_set] at hset
  have hafter := toList_opening_of_attributes (k := k) hset hplain
  have hstart : "Version=\"".toList = attributeStart versionName := rfl
  rw [setAttribute?, toList_opening_of_attributes hattributes hplain, hname]
  change (attributeFrom? versionName _ _ _ _).map _ = _
  rw [hfound, Option.map_some, Option.some.injEq, ← String.toList_inj, String.toList_ofList, hafter]
  simp only [hstart, expand_versionAttribute, List.length_append, Nat.add_sub_cancel]
  rw [← List.length_append, ← List.length_append, ← List.length_append, List.take_left]
  simp [attributeStart, matchedVersion]

theorem setAttribute?_opening {k : EntryKind} (h : e.WellFormed k) (hdollar : '$' ∉ version.toList)
    (hattributes : e.attributes = as ++ a :: bs) (hname : a.name = versionName) (hplain : a.Plain)
    (hfirst : ¬ attributeStart versionName <:+: e.before ++ k.openTag.toList ++ attributesText as) :
    setAttribute? version (e.opening k) = some (opening k { e with
      front := e.front.map (Attribute.set versionName version.toList)
      back := e.back.map (Attribute.set versionName version.toList) }) := by
  have hset := @setAttribute?_expands version e as bs a k h hattributes hname hplain
    (overlooked_of_absent hfirst)
  rwa [expand_eq hdollar] at hset

theorem setAttribute?_eq_none {line : String}
    (h : ¬ attributeStart versionName <:+: line.toList) : setAttribute? version line = none := by
  rw [setAttribute?]
  change (attributeFrom? versionName _ _ _ _).map _ = _
  rw [attributeFrom?_eq_none h]
  rfl

theorem addAttribute?_opening (h : e.WellFormed .package) (hlegible : e.Legible) :
    addAttribute? version (e.opening .package)
      = some (opening .package { e with back := .ofVersion version :: e.back }) := by
  rw [addAttribute?, cut?_opening h hlegible, Option.map_some, Option.some.injEq, ← String.toList_inj,
    String.toList_ofList, toList_opening]
  simp [attributesText, Attribute.ofVersion, Attribute.text, versionAttribute, versionName]

end

end Element

/-! ## Setting a version -/

/-- A line that is replaced. -/
theorem carryOut?_replaceEdit (above beneath : List String) (line updated : String) :
    LineEdit.carryOut? (above ++ line :: beneath) (replaceEdit above.length line updated)
      = some (above ++ updated :: beneath) := by
  unfold replaceEdit
  split
  next h => rw [beq_iff_eq.1 h, LineEdit.carryOut?]
  next =>
    have hmodify : (above ++ line :: beneath).modify above.length (fun _ => updated)
        = above ++ updated :: beneath := by
      induction above with
      | nil => rfl
      | cons x above ih => simp [ih]
    simp [LineEdit.carryOut?, LineEdit.tryApply, LineEdit.inRange, LineEdit.apply, hmodify]

section

variable {version : String} {above ls beneath : List String}

theorem setChild?_eq_none (h : ∀ l ∈ ls, setElement? version l = none) :
    setChild? version (above ++ ls ++ beneath) above.length ls.length = some none := by
  induction ls generalizing above with
  | nil => rfl
  | cons l ls ih =>
      rw [List.forall_mem_cons] at h
      have hline : (above ++ l :: ls ++ beneath)[above.length]? = some l := by simp
      have hrest := @ih (above ++ [l]) h.2
      rw [List.length_append, List.length_singleton, List.append_assoc above] at hrest
      rw [List.length_cons, setChild?, hline]
      simp only [h.1]
      exact hrest

theorem setChild?_eq_some {as bs : List String} {l updated : String}
    (has : ∀ x ∈ as, setElement? version x = none) (hl : setElement? version l = some updated) :
    setChild? version (above ++ (as ++ l :: bs) ++ beneath) above.length (as ++ l :: bs).length
      = some (some (replaceEdit (above ++ as).length l updated)) := by
  induction as generalizing above with
  | nil =>
      have hline : (above ++ ([] ++ l :: bs) ++ beneath)[above.length]? = some l := by simp
      rw [List.nil_append, List.length_cons, setChild?] at *
      rw [hline]
      simp [hl]
  | cons x as ih =>
      rw [List.forall_mem_cons] at has
      have hline : (above ++ (x :: as ++ l :: bs) ++ beneath)[above.length]? = some x := by simp
      have hrest := @ih (above ++ [x]) has.2
      rw [List.length_append, List.length_singleton, List.append_assoc above,
        List.append_assoc above] at hrest
      simp only [List.append_assoc, List.singleton_append] at hrest
      rw [List.cons_append, List.length_cons, setChild?] at *
      rw [hline]
      simp only [has.1, List.append_assoc]
      exact hrest

/-- The line of the closing tag is read for a version as the text in front of the tag is. -/
theorem ChildrenLegible.closing {first last rear : List Char} {inner : List String}
    (h : ChildrenLegible first inner last rear) (k : EntryKind) :
    childVersion? (last ++ k.closeTag.toList ++ rear) = childVersion? last
      ∧ replaceChild? version (last ++ k.closeTag.toList ++ rear)
        = (replaceChild? version last).map (· ++ (k.closeTag.toList ++ rear)) := by
  rw [List.append_assoc]
  cases hchild : childVersion? last with
  | some value =>
      have hsome : (childVersion? last).isSome = true := by rw [hchild]; rfl
      rw [← hchild]
      exact childVersion?_append hsome _
  | none =>
      have hlast : ¬ versionOpen <:+: last := by
        intro hopen
        have hsome := h.closed hopen
        rw [hchild] at hsome
        cases hsome
      have htag : k.closeTag.toList = '<' :: '/' :: (k.element ++ ">").toList
          ∧ '<' ∉ (k.element ++ ">").toList := by cases k <;> decide
      have hno : cutAt? versionOpen (last ++ (k.closeTag.toList ++ rear)) = none := by
        rw [cutAt?_eq_none_iff, htag.1]
        intro hopen
        have hsplit : last ++ ('<' :: '/' :: (k.element ++ ">").toList ++ rear)
            = (last ++ ['<']) ++ '/' :: ((k.element ++ ">").toList ++ rear) := by simp
        rw [hsplit] at hopen
        rcases infix_of_separator (by decide) hopen with hopen | hopen
        · rcases List.infix_concat_iff.1 hopen with hopen | hopen
          · obtain ⟨t, ht⟩ := hopen
            have hend := congrArg List.getLast? ht
            rw [List.getLast?_concat, List.getLast?_append_of_ne_nil _ (by decide)] at hend
            exact absurd hend (by decide)
          · exact hlast hopen
        · exact h.behind (infix_of_not_mem htag.2 hopen)
      have hreplace : replaceChild? version last = none := replaceChild?_eq_none_iff.2 hchild
      rw [hreplace]
      simp [childVersion?, replaceChild?, hno]

/-- The line of the closing tag is set as the text in front of the tag is. -/
theorem ChildrenLegible.setElement?_closing {first last rear : List Char} {inner : List String}
    (h : ChildrenLegible first inner last rear) (k : EntryKind) (hversion : Settable version) :
    setElement? version (String.ofList (last ++ k.closeTag.toList ++ rear))
      = (replaceChild? version last).map fun cs => String.ofList (cs ++ k.closeTag.toList ++ rear) := by
  obtain ⟨hread, hreplace⟩ := @ChildrenLegible.closing version _ _ _ _ h k
  rw [setElement?_eq hversion.dollar, String.toList_ofList, hreplace]
  · simp [Function.comp_def]
  · rw [String.toList_ofList, hread]
    exact h.final

/-- A line in between without a version element is not set, and no other one is left alone. -/
theorem ChildrenLegible.setElement?_between {first last rear : List Char} {inner : List String}
    (h : ChildrenLegible first inner last rear) (hversion : Settable version) {l : String}
    (hl : l ∈ inner) :
    setElement? version l = (replaceChild? version l.toList).map String.ofList
      ∧ (setElement? version l = none → childVersion? l.toList = none) := by
  have hline : setElement? version l = (replaceChild? version l.toList).map String.ofList :=
    setElement?_eq hversion.dollar (h.between l hl)
  refine ⟨hline, fun hset => ?_⟩
  rw [hline, Option.map_eq_none_iff] at hset
  exact replaceChild?_eq_none_iff.1 hset

namespace Element

/-- The version elements below the opening line: the first is set, or there is none. -/
theorem setChild?_below {e : Element} {k : EntryKind} (hnone : ∀ a ∈ e.attributes, a.name ≠ versionName)
    (hchildren : ∀ first inner last rear, e.ending = .long first inner last rear →
      ChildrenLegible first inner last rear) (hversion : Settable version) (above beneath : List String) :
    setChild? version (above ++ e.ending.below k ++ beneath) above.length (e.ending.below k).length
        = some none
      ∨ ∃ edits e', setChild? version (above ++ e.ending.below k ++ beneath) above.length
            (e.ending.below k).length = some (some edits)
          ∧ LineEdit.carryOut? (above ++ e.ending.below k ++ beneath) edits
            = some (above ++ e'.ending.below k ++ beneath)
          ∧ e'.opening k = e.opening k ∧ e.Revision version e' := by
  cases hending : e.ending with
  | empty rear => exact .inl rfl
  | short inside rear => exact .inl rfl
  | long first inner last rear =>
      obtain ⟨before, front, gap, identity, back, tail, ending⟩ := e
      subst hending
      have hlegible := hchildren _ _ _ _ rfl
      have hclosing := hlegible.setElement?_closing k hversion
      have hbetween := fun {l} (hl : l ∈ inner) => hlegible.setElement?_between hversion hl
      cases hinner : inner.findSome? (setElement? version) with
      | some updated =>
          obtain ⟨as, l, bs, rfl, hl, has⟩ := List.findSome?_eq_some_iff.1 hinner
          have hl' := hl
          rw [(hbetween (by simp)).1, Option.map_eq_some_iff] at hl'
          obtain ⟨cs, hcs, rfl⟩ := hl'
          have hset := @setChild?_eq_some version above beneath as
            (bs ++ [String.ofList (last ++ k.closeTag.toList ++ rear)]) l _ has hl
          have hcarry := carryOut?_replaceEdit (above ++ as)
            (bs ++ [String.ofList (last ++ k.closeTag.toList ++ rear)] ++ beneath) l (String.ofList cs)
          refine .inr ⟨replaceEdit (above ++ as).length l (String.ofList cs), _, ?_, ?_, ?_,
            .inner hnone rfl (fun x hx => (hbetween (by simp [hx])).2 (has x hx)) hcs⟩
          · simpa [Ending.below] using hset
          · simpa [Ending.below] using hcarry
          · rfl
      | none =>
          have hall := List.findSome?_eq_none_iff.1 hinner
          cases hlast : replaceChild? version last with
          | some cs =>
              rw [hlast, Option.map_some] at hclosing
              have hset := @setChild?_eq_some version above beneath inner [] _ _ hall hclosing
              have hcarry := carryOut?_replaceEdit (above ++ inner) beneath
                (String.ofList (last ++ k.closeTag.toList ++ rear))
                (String.ofList (cs ++ k.closeTag.toList ++ rear))
              refine .inr ⟨_, _, hset, ?_, ?_, .last hnone rfl
                (fun x hx => (hbetween hx).2 (hall x hx)) hlast⟩
              · simpa [Ending.below] using hcarry
              · rfl
          | none =>
              rw [hlast, Option.map_none] at hclosing
              refine .inl (setChild?_eq_none fun l hl => ?_)
              rcases List.mem_append.1 hl with hl | hl
              · exact hall l hl
              · rw [List.mem_singleton.1 hl]
                exact hclosing

/-- The version of an element is set on one of its lines, and no other line changes. -/
theorem setVersion?_lines {e : Element} (h : e.WellFormed .package) (hlegible : e.Legible)
    (hplace : e.VersionLegible .package) (hversion : Settable version) (above beneath : List String) :
    ∃ edits e', setVersion? version (above ++ e.lines .package ++ beneath) above.length
        (above.length + (e.ending.below .package).length) = some edits
      ∧ LineEdit.carryOut? (above ++ e.lines .package ++ beneath) edits
        = some (above ++ e'.lines .package ++ beneath)
      ∧ e.Revision version e' := by
  have hline : (above ++ e.lines .package ++ beneath)[above.length]? = some (e.opening .package) := by
    simp [lines]
  have hfirst : ∀ updated, LineEdit.carryOut? (above ++ e.lines .package ++ beneath)
      (replaceEdit above.length (e.opening .package) updated)
      = some (above ++ updated :: e.ending.below .package ++ beneath) := by
    intro updated
    have hreplace := carryOut?_replaceEdit above (e.ending.below .package ++ beneath)
      (e.opening .package) updated
    simpa [lines] using hreplace
  have hbelow : above ++ e.lines .package ++ beneath
      = above ++ [e.opening .package] ++ e.ending.below .package ++ beneath := by
    simp [lines]
  unfold setVersion?
  rw [hline, Nat.add_sub_cancel_left]
  cases hplace with
  | @tag as bs a hattributes hname hplain hbefore =>
      have hset := setAttribute?_opening h hversion.dollar hattributes hname hplain hbefore
      simp only [hset]
      exact ⟨_, _, rfl, hfirst _, .tag ⟨a, by simp [hattributes], hname, hplain⟩⟩
  | child hnone hnot hchildren =>
      simp only [setAttribute?_eq_none hnot]
      have hsearch := setChild?_below (k := .package) hnone hchildren hversion
        (above ++ [e.opening .package]) beneath
      rw [← hbelow, List.length_append, List.length_singleton] at hsearch
      rcases hsearch with hchild | ⟨edits, e', hchild, hcarry, hopening, hrevision⟩
      · have hadd := @addAttribute?_opening version e h hlegible
        simp only [hchild, hadd]
        exact ⟨_, _, rfl, hfirst _, .added hnone⟩
      · simp only [hchild]
        refine ⟨_, e', rfl, ?_, hrevision⟩
        simpa [lines, hopening] using hcarry

/-! ## What a revision keeps -/

variable {k : EntryKind} {e e' : Element}

/-- Without a version attribute the version is read from the version elements. -/
theorem version?_of_unnamed {ending : Ending} (hnone : ∀ a ∈ e.attributes, a.name ≠ versionName) :
    version? { e with ending := ending } = ending.contents.findSome? childVersion? := by
  have hfind : e.attributes.find? (fun a => a.name = versionName) = none := by
    rw [List.find?_eq_none]
    exact fun a ha => by simpa using hnone a ha
  change ((e.attributes.find? fun a => a.name = versionName).map Attribute.value).or _ = _
  rw [hfind]
  rfl

/-- Version attributes that agree tell the version. -/
theorem version?_of_named {value : List Char} (hsome : ∃ a ∈ e.attributes, a.name = versionName)
    (hvalue : ∀ a ∈ e.attributes, a.name = versionName → a.value = value) : e.version? = some value := by
  obtain ⟨a, ha, hname⟩ := hsome
  rw [version?]
  cases hfind : e.attributes.find? (fun a => a.name = versionName) with
  | none =>
      rw [List.find?_eq_none] at hfind
      exact absurd (by simpa using hname) (hfind a ha)
  | some b =>
      rw [Option.map_some, Option.some_or, hvalue b (List.mem_of_find?_eq_some hfind)]
      simpa using List.find?_some hfind

/-- A version element below the opening line is not hidden by one on it. -/
theorem VersionLegible.visible (h : e.VersionLegible k) {first last rear : List Char} {inner : List String}
    (hending : e.ending = .long first inner last rear) (hnone : ∀ a ∈ e.attributes, a.name ≠ versionName)
    {cs : List Char} (hcs : cs ∈ inner.map String.toList ++ [last])
    (hsome : (childVersion? cs).isSome = true) : childVersion? first = none := by
  cases h with
  | tag hattributes hname => exact absurd hname (hnone _ (by simp [hattributes]))
  | child _ _ hchildren =>
      by_contra hfirst
      rw [(hchildren _ _ _ _ hending).visible (Option.isSome_iff_ne_none.2 hfirst) cs hcs] at hsome
      cases hsome

/-- The attributes of an element with one more. -/
theorem attributes_added (e : Element) (a : Attribute) :
    (attributes { e with back := a :: e.back }).Perm (a :: e.attributes) := by
  have hmiddle := @List.perm_middle _ a (e.front ++ [e.includes]) e.back
  simpa [attributes, includes] using hmiddle

/-- A revision sets the version. -/
theorem Revision.version?_eq (h : e.Revision version e') (hplace : e.VersionLegible k)
    (hversion : Settable version) : e'.version? = some version.toList := by
  cases h with
  | tag h =>
      obtain ⟨a, ha, hname, -⟩ := h
      refine version?_of_named ?_ ?_
      · rw [attributes_set]
        refine ⟨_, List.mem_map_of_mem ha, ?_⟩
        rw [Attribute.set, if_pos hname]
        exact hname
      · rw [attributes_set]
        intro b hb hbname
        obtain ⟨a, -, rfl⟩ := List.mem_map.1 hb
        unfold Attribute.set at hbname ⊢
        split at hbname
        next hset => rw [if_pos hset]
        next hset => exact absurd hbname hset
  | inner hnone hending hfront hset =>
      have hfirst := hplace.visible hending hnone (by simp) (isSome_of_replaceChild? hset)
      rw [version?_of_unnamed hnone]
      simp only [Ending.contents, List.map_append, List.map_cons, List.cons_append, List.findSome?_cons,
        hfirst, List.append_assoc, List.findSome?_append]
      rw [List.findSome?_eq_none_iff.2, Option.none_or, String.toList_ofList,
        childVersion?_replaceChild? hversion.opening hset]
      simpa using hfront
  | last hnone hending hfront hset =>
      have hfirst := hplace.visible hending hnone (by simp) (isSome_of_replaceChild? hset)
      rw [version?_of_unnamed hnone]
      simp only [Ending.contents, List.cons_append, List.findSome?_cons, hfirst, List.findSome?_append]
      rw [List.findSome?_eq_none_iff.2, Option.none_or, childVersion?_replaceChild? hversion.opening hset]
      simpa using hfront
  | added hnone =>
      have hperm := e.attributes_added (.ofVersion version)
      refine version?_of_named ⟨_, hperm.mem_iff.2 List.mem_cons_self, rfl⟩ fun a ha hname => ?_
      rcases List.mem_cons.1 (hperm.mem_iff.1 ha) with rfl | hmem
      · rfl
      · exact absurd hname (hnone a hmem)

/-- A text that does not occur around a value in quotes, nor in another value, does not occur when the
value is replaced. -/
theorem not_infix_of_value {needle front back old value : List Char} (hquote : '"' ∉ needle)
    (h : ¬ needle <:+: front ++ '"' :: (old ++ '"' :: back)) (hvalue : ¬ needle <:+: value) :
    ¬ needle <:+: front ++ '"' :: (value ++ '"' :: back) := by
  intro hinfix
  rcases infix_of_separator hquote hinfix with hfront | hinfix
  · exact h (hfront.trans (List.prefix_append _ _).isInfix)
  · rcases infix_of_separator hquote hinfix with hin | hback
    · exact hvalue hin
    · refine h (hback.trans ⟨front ++ '"' :: (old ++ ['"']), [], by simp⟩)

/-- A tag that does not occur around a version element does not occur when its value is replaced. -/
theorem not_infix_of_replaceChild? {needle cs cs' : List Char} (hlength : 1 < needle.length)
    (hletter : 'V' ∉ '<' :: needle) (hversion : '<' ∉ version.toList)
    (hset : replaceChild? version cs = some cs') (h : ¬ '<' :: needle <:+: cs) :
    ¬ '<' :: needle <:+: cs' := by
  obtain ⟨⟨front, rest⟩, hopen, hset⟩ := Option.bind_eq_some_iff.1 hset
  obtain ⟨⟨value, back⟩, hclose, rfl⟩ := Option.map_eq_some_iff.1 hset
  rw [cutAt?_eq_some hopen, cutAt?_eq_some hclose] at h
  intro hinfix
  have hsplit : front ++ (versionElement version).toList ++ back
      = (front ++ ['<']) ++ 'V' :: ((versionName.tail ++ '>' :: version.toList ++ ['<', '/'])
        ++ 'V' :: (versionName.tail ++ '>' :: back)) := by
    simp [toList_versionElement, versionOpen, versionClose, versionName]
  change '<' :: needle <:+: front ++ (versionElement version).toList ++ back at hinfix
  rw [hsplit] at hinfix
  rcases infix_of_separator hletter hinfix with hfront | hinfix
  · exact h (hfront.trans ⟨[], versionName ++ '>' :: (value ++ versionClose ++ back), by
      simp [versionOpen]⟩)
  · rcases infix_of_separator hletter hinfix with hin | hback
    · have hshort := infix_of_not_mem (by simp [versionName, hversion]) hin
      have := hshort.length_le
      simp at this
      omega
    · exact h (hback.trans ⟨front ++ versionOpen ++ value ++ '<' :: '/' :: ['V'], [], by
        simp [versionClose, versionName]⟩)

/-- Only the text behind the start tag matters to the opening line. -/
theorem opening_of_onOpening (e : Element) {ending : Ending}
    (h : ending.onOpening k = e.ending.onOpening k) :
    opening k { e with ending := ending } = e.opening k := by
  simp only [opening, h]
  rfl

/-- The opening line of an element with another version still does not look like its end. -/
theorem Revision.not_infix_opening (h : e.Revision version e') (hversion : Settable version)
    (hnames : (e.attributes.map Attribute.name).Nodup)
    {needle : List Char} (hquote : '"' ∉ needle) (hclosing : '>' ∈ needle)
    (hopening : ¬ needle <:+: (e.opening k).toList) : ¬ needle <:+: (e'.opening k).toList := by
  have hvalue : ∀ cs : List Char, '>' ∉ cs → ¬ needle <:+: cs := fun cs hcs hin =>
    hcs (hin.subset hclosing)
  cases h with
  | tag h =>
      obtain ⟨a, ha, hname, hplain⟩ := h
      obtain ⟨as, bs, hattributes⟩ := List.append_of_mem ha
      have hset := map_set (hattributes ▸ hnames) version.toList
      rw [hname, ← hattributes, ← attributes_set] at hset
      rw [toList_opening_of_attributes hattributes hplain] at hopening
      rw [toList_opening_of_attributes hset hplain]
      have hkeep := @not_infix_of_value needle
        (e.before ++ k.openTag.toList ++ attributesText as ++ a.gap ++ versionName ++ ['='])
        (attributesText bs ++ e.tail ++ e.ending.onOpening k) a.value version.toList hquote ?_
        (hvalue _ hversion.closing)
      · simpa [attributeStart] using hkeep
      · simpa [attributeStart, hname] using hopening
  | inner _ hending =>
      rwa [opening_of_onOpening e (by rw [hending]; rfl)]
  | last _ hending =>
      rwa [opening_of_onOpening e (by rw [hending]; rfl)]
  | added =>
      have hline : ∀ back, (opening k { e with back := back }).toList
          = e.before ++ k.openTag.toList ++ attributesText e.front ++ e.gap ++ attributeStart includeName
            ++ e.identity.toList ++ '"' :: (attributesText back ++ (e.tail ++ e.ending.onOpening k)) := by
        intro back
        rw [toList_opening]
        simp
      have hadded : attributesText (.ofVersion version :: e.back) ++ (e.tail ++ e.ending.onOpening k)
          = ' ' :: versionName ++ ['='] ++ '"' :: (version.toList
            ++ '"' :: (attributesText e.back ++ (e.tail ++ e.ending.onOpening k))) := by
        simp [attributesText, Attribute.ofVersion, Attribute.text]
      have hold := hline e.back
      rw [hline, hadded]
      change (e.opening k).toList = _ at hold
      rw [hold] at hopening
      intro hin
      rcases infix_of_separator hquote hin with hin | hin
      · exact hopening (hin.trans (List.prefix_append _ _).isInfix)
      rcases infix_of_separator hquote hin with hin | hin
      · exact hvalue _ (by decide) hin
      rcases infix_of_separator hquote hin with hin | hin
      · exact hvalue _ hversion.closing hin
      · exact hopening (hin.trans
          ((List.suffix_cons '"' _).trans (List.suffix_append _ _)).isInfix)

/-- Neither tag occurs where only the value of a version element is another one. -/
theorem not_infix_tags_of_replaceChild? (k : EntryKind) (hversion : Settable version) {cs cs' : List Char}
    (hset : replaceChild? version cs = some cs') :
    (¬ k.openTag.toList <:+: cs → ¬ k.openTag.toList <:+: cs')
      ∧ (¬ k.closeTag.toList <:+: cs → ¬ k.closeTag.toList <:+: cs') := by
  obtain ⟨hV, hV', -, -⟩ := k.mem_tags
  have htags : (∃ name, k.openTag.toList = '<' :: name ∧ 1 < name.length)
      ∧ ∃ name, k.closeTag.toList = '<' :: name ∧ 1 < name.length := by
    cases k <;> exact ⟨⟨_, rfl, by decide⟩, _, rfl, by decide⟩
  obtain ⟨⟨name, hopen, hlong⟩, name', hclose, hlong'⟩ := htags
  rw [hopen] at hV ⊢
  rw [hclose] at hV' ⊢
  exact ⟨not_infix_of_replaceChild? hlong hV hversion.opening hset,
    not_infix_of_replaceChild? hlong' hV' hversion.opening hset⟩

/-- Nothing on the opening line of a revised element that goes on below looks like its end. -/
theorem Revision.closed_opening (hr : e.Revision version e') (h : e.WellFormed k)
    (hversion : Settable version) {first last rear : List Char} {inner : List String}
    (hending : e.ending = .long first inner last rear) :
    contains (e'.opening k) "/>" = false ∧ contains (e'.opening k) k.closeTag = false := by
  obtain ⟨-, -, hclosing, hquote⟩ := k.mem_tags
  obtain ⟨hempty, hclosed, -⟩ := h.closed _ _ _ _ hending
  rw [contains_eq_false_iff] at hempty hclosed ⊢
  rw [contains_eq_false_iff]
  exact ⟨hr.not_infix_opening hversion h.names (by decide) (by decide) hempty,
    hr.not_infix_opening hversion h.names hquote hclosing hclosed⟩

/-- The attributes stay well-formed, and their names different, where the version attribute is set. -/
theorem WellFormed.attributes_set (h : e.WellFormed k) {a : Attribute} {value : List Char}
    (hvalue : '"' ∉ value) (ha : a ∈ e.attributes) (hname : a.name = versionName) (hplain : a.Plain) :
    (∀ b ∈ e.attributes.map (Attribute.set versionName value), b.WellFormed)
      ∧ ((e.attributes.map (Attribute.set versionName value)).map Attribute.name).Nodup := by
  obtain ⟨as, bs, hattributes⟩ := List.append_of_mem ha
  have hset := map_set (hattributes ▸ h.names) value
  rw [hname, ← hattributes] at hset
  have hold := h.attributes a ha
  rw [hset]
  refine ⟨fun b hb => ?_, by simpa [hattributes, hname] using h.names⟩
  rw [List.mem_append, List.mem_cons] at hb
  rcases hb with hb | rfl | hb
  · exact h.attributes b (by simp [hattributes, hb])
  · refine { hold with name := hname ▸ hold.name, name_ne := hname ▸ hold.name_ne, value := ?_ }
    rw [hplain.2]
    exact hvalue
  · exact h.attributes b (by simp [hattributes, hb])

/-- One more attribute, under a name that is not there, leaves the attributes well-formed and their
names different. -/
theorem WellFormed.attributes_added (h : e.WellFormed k) {a : Attribute} (ha : a.WellFormed)
    (hnew : ∀ b ∈ e.attributes, b.name ≠ a.name) :
    (∀ b ∈ Element.attributes { e with back := a :: e.back }, b.WellFormed)
      ∧ ((Element.attributes { e with back := a :: e.back }).map Attribute.name).Nodup := by
  have hperm := Element.attributes_added e a
  refine ⟨fun b hb => ?_, ?_⟩
  · rcases List.mem_cons.1 (hperm.mem_iff.1 hb) with rfl | hmem
    · exact ha
    · exact h.attributes b hmem
  · rw [(hperm.map _).nodup_iff, List.map_cons, List.nodup_cons]
    refine ⟨fun hmem => ?_, h.names⟩
    obtain ⟨b, hb, hname⟩ := List.mem_map.1 hmem
    exact hnew b hb hname

/-- A member of a list with one entry replaced is the new one, or was there before. -/
theorem mem_of_mem_replaced {α : Type} {xs ys : List α} {x y z : α} (h : z ∈ xs ++ y :: ys) :
    z ∈ xs ++ x :: ys ∨ z = y := by
  simp only [List.mem_append, List.mem_cons] at h ⊢
  tauto

/-- A revised element is one that markup can have. -/
theorem Revision.wellFormed (hr : e.Revision version e') (h : e.WellFormed k)
    (hversion : Settable version) : e'.WellFormed k := by
  have hline := fun {first inner last rear} => @Revision.closed_opening _ _ _ _ hr h hversion first
    last rear inner
  cases hr with
  | tag htag =>
      obtain ⟨a, ha, hname, hplain⟩ := htag
      obtain ⟨hformed, hnames⟩ := h.attributes_set hversion.quote ha hname hplain
      rw [← attributes_set] at hformed hnames
      exact { h with
        attributes := hformed
        names := hnames
        closed := fun _ _ _ _ hending =>
          ⟨(hline hending).1, (hline hending).2, (h.closed _ _ _ _ hending).2.2⟩ }
  | @inner first last rear cs as bs l hnone hending hfront hset =>
      have hbelow := h.below
      have hbehind := h.behind
      have hclosed := (h.closed _ _ _ _ hending).2.2
      rw [hending] at hbelow hbehind
      obtain ⟨hopen, hclose⟩ := not_infix_tags_of_replaceChild? k hversion hset
      refine { h with behind := hbehind, below := ?_, closed := ?_ }
      · intro x hx
        rw [Ending.below, List.append_assoc, List.cons_append] at hx
        rcases mem_of_mem_replaced (x := l) hx with hmem | rfl
        · exact hbelow x (by simpa [Ending.below] using hmem)
        · rw [contains_eq_false_iff, String.toList_ofList]
          exact hopen (contains_eq_false_iff.1 (hbelow l (by simp [Ending.below])))
      · rintro _ _ _ _ ⟨⟩
        refine ⟨(hline hending).1, (hline hending).2, fun x hx => ?_, hclosed.2⟩
        rcases mem_of_mem_replaced (x := l) hx with hmem | rfl
        · exact hclosed.1 x hmem
        · rw [contains_eq_false_iff, String.toList_ofList]
          exact hclose (contains_eq_false_iff.1 (hclosed.1 l (by simp)))
  | @last first last rear cs inner hnone hending hfront hset =>
      have hbelow := h.below
      have hbehind := h.behind
      have hclosed := (h.closed _ _ _ _ hending).2.2
      rw [hending] at hbelow hbehind
      refine { h with behind := hbehind, below := ?_, closed := ?_ }
      · intro x hx
        simp only [Ending.below, List.mem_append, List.mem_singleton] at hx
        rcases hx with hx | rfl
        · exact hbelow x (by simp [Ending.below, hx])
        · have hlast := contains_eq_false_iff.1
            (hbelow (String.ofList (last ++ k.closeTag.toList ++ rear)) (by simp [Ending.below]))
          have hwhole := (@childVersion?_append version _ (isSome_of_replaceChild? hset)
            (k.closeTag.toList ++ rear)).2
          rw [hset, Option.map_some] at hwhole
          rw [contains_eq_false_iff]
          rw [String.toList_ofList, List.append_assoc] at hlast ⊢
          exact (not_infix_tags_of_replaceChild? k hversion hwhole).1 hlast
      · rintro _ _ _ _ ⟨⟩
        exact ⟨(hline hending).1, (hline hending).2, hclosed.1,
          (not_infix_tags_of_replaceChild? k hversion hset).2 hclosed.2⟩
  | added hnone =>
      obtain ⟨hformed, hnames⟩ :=
        h.attributes_added (Attribute.wellFormed_ofVersion hversion.quote) hnone
      exact { h with
        attributes := hformed
        names := hnames
        closed := fun _ _ _ _ hending =>
          ⟨(hline hending).1, (hline hending).2, (h.closed _ _ _ _ hending).2.2⟩ }

end Element

end

end Scaffold.Manifest
