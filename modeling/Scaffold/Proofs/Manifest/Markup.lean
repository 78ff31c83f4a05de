import Mathlib
import Scaffold.Proofs.Manifest.Reader
import Scaffold.Proofs.Manifest.Upsert

/-!
# The entries a reader finds

`entryTags` are the entries with an identity that a reader of markup finds.  Where each of them
stands on lines of its own, and no other line is taken for one (`Mergeable`), a merge of a package
or a project leaves exactly one, and every line that belongs to none is still there, in the same
order (`Kept`, `merge?_keeps_others`).  Comments may stand between the lines, and other entries may
go over several.

What is ruled out are lines that a reader and the search take differently: entries of the identity
in comments, start tags whose attributes go on below, and elements whose end the search does not
find.
-/

namespace Scaffold.Manifest

open Scaffold.Text

/-! ## Entries outside comments -/

/-- Decide whether a tag opens an entry with an identity. -/
def Tag.opens (k : EntryKind) (identity : String) (t : Tag) : Bool :=
  t.name = k.element.toList && (t.attributes.find? fun a => a.1 = includeName).any
    fun a => k.sameIdentity (String.ofList a.2) identity

/-- The tags of a text that open an entry with an identity. -/
def entryTags (k : EntryKind) (identity : String) (cs : List Char) : List Tag :=
  (Reader.content.read cs).2.filter (Tag.opens k identity)

/-- A text that begins and ends outside tags and comments. -/
def Whole (cs : List Char) : Prop := (Reader.content.read cs).1 = .content

/-- Such a text in which no entry with an identity is opened. -/
def Quiet (k : EntryKind) (identity : String) (cs : List Char) : Prop :=
  Whole cs ∧ entryTags k identity cs = []

section

variable {k : EntryKind} {identity : String} {front back cs : List Char}

theorem Whole.read (h : Whole cs) : Reader.content.read cs = (.content, (Reader.content.read cs).2) :=
  Prod.ext h rfl

theorem Whole.append_iff (h : Whole front) : Whole (front ++ back) ↔ Whole back := by
  rw [Whole, Reader.read_append, h]
  rfl

theorem entryTags_append (h : Whole front) :
    entryTags k identity (front ++ back) = entryTags k identity front ++ entryTags k identity back := by
  rw [entryTags, Reader.read_append, h, List.filter_append]
  rfl

theorem quiet_of_not_mem (h : '<' ∉ cs) : Quiet k identity cs := by
  rw [Quiet, Whole, entryTags, Reader.read_content h]
  exact ⟨rfl, rfl⟩

theorem Quiet.append (h : Quiet k identity front) (h' : Quiet k identity back) :
    Quiet k identity (front ++ back) :=
  ⟨(Whole.append_iff h.1).2 h'.1, by rw [entryTags_append h.1, h.2, h'.2]; rfl⟩

end

namespace Element

/-- The text from the end of the start tag on. -/
def behind (k : EntryKind) (e : Element) : List Char :=
  (match e.ending with
  | .empty rear => rear
  | .short inside rear => inside ++ k.closeTag.toList ++ rear
  | .long first _ _ _ => first) ++ '\n' :: (unlines (e.ending.below k)).toList

/-- The start tag. -/
def asTag (k : EntryKind) (e : Element) : Tag :=
  ⟨k.element.toList, e.attributes.map fun a => (a.name, a.value)⟩

/-- A reader finds the start tag of an element and no other entry with an identity. -/
structure Outside (k : EntryKind) (identity : String) (e : Element) : Prop where
  values : ∀ a ∈ e.attributes, '<' ∉ a.value
  before : Quiet k identity e.before
  behind : Quiet k identity (e.behind k)

section

variable {k : EntryKind} {identity : String} {e : Element}

/-- The lines of an element are the text in front of its start tag, the tag and what is behind. -/
theorem toList_unlines_lines (k : EntryKind) (e : Element) : ∃ close, (close = [] ∨ close = ['/'])
    ∧ (unlines (e.lines k)).toList = e.before ++ (k.openTag.toList ++ (attributesText e.attributes
      ++ e.tail ++ close ++ '>' :: e.behind k)) := by
  cases hending : e.ending with
  | empty rear =>
      refine ⟨['/'], .inr rfl, ?_⟩
      simp [lines, unlines_cons, opening, behind, hending, Ending.onOpening, Ending.below]
  | short inside rear =>
      refine ⟨[], .inl rfl, ?_⟩
      simp [lines, unlines_cons, opening, behind, hending, Ending.onOpening, Ending.below]
  | long first inner last rear =>
      refine ⟨[], .inl rfl, ?_⟩
      simp [lines, unlines_cons, opening, behind, hending, Ending.onOpening, Ending.below]

/-- The start tag is read between what comes before and behind it. -/
theorem read_lines (h : e.WellFormed k) (hout : e.Outside k identity) :
    Reader.content.read (unlines (e.lines k)).toList
      = (.content, (Reader.content.read e.before).2 ++ e.asTag k
        :: (Reader.content.read (e.behind k)).2) := by
  obtain ⟨close, hclose, htext⟩ := toList_unlines_lines k e
  have hopen : Reader.content.read k.openTag.toList = (.opened k.element.toList, []) := by
    cases k <;> rfl
  have hread := @Reader.read_attributes k.element.toList [] _ fun a ha =>
    ⟨h.attributes a ha, hout.values a ha⟩
  have hattributes : Reader.read (.opened k.element.toList) (attributesText e.attributes)
      = (.tag k.element.toList (e.asTag k).attributes [], []) := by
    obtain ⟨a, as, has⟩ := List.exists_cons_of_ne_nil (List.ne_nil_of_mem e.includes_mem)
    have ha := h.attributes a (has ▸ List.mem_cons_self)
    obtain ⟨c, gap, hgap⟩ := List.exists_cons_of_ne_nil ha.gap_ne
    have hspace := ha.gap c (hgap ▸ List.mem_cons_self)
    have hcons : attributesText e.attributes = c :: (gap ++ (a.name ++ (a.sign ++ a.quote ::
        (a.value ++ a.quote :: attributesText as)))) := by
      simp [has, attributesText, Attribute.text, hgap]
    rw [hcons] at hread ⊢
    rw [Reader.read_opened hspace, hread]
    rfl
  have htail := @Reader.read_of_step (.tag k.element.toList (e.asTag k).attributes []) e.tail
    fun c hc => Reader.step_tag_of_isSpace (h.tail c hc)
  have hslash : Reader.read (.tag k.element.toList (e.asTag k).attributes []) close
      = (.tag k.element.toList (e.asTag k).attributes [], []) := by
    rcases hclose with rfl | rfl <;> rfl
  have hbehind : Reader.read (.tag k.element.toList (e.asTag k).attributes []) ('>' :: e.behind k)
      = (.content, e.asTag k :: (Reader.content.read (e.behind k)).2) := by
    have hend : Reader.step (.tag k.element.toList (e.asTag k).attributes []) '>'
        = (.content, some (e.asTag k)) := rfl
    rw [Reader.read_cons, hend, hout.behind.1.read]
    rfl
  rw [htext]
  exact Reader.read_trans hout.before.1.read (Reader.read_trans hopen
    (Reader.read_trans (Reader.read_trans (Reader.read_trans hattributes htail) hslash) hbehind))

/-- An element is one entry. -/
theorem entryTags_lines (h : e.WellFormed k) (hout : e.Outside k identity)
    (hsame : k.sameIdentity e.identity identity = true) :
    Whole (unlines (e.lines k)).toList
      ∧ entryTags k identity (unlines (e.lines k)).toList = [e.asTag k] := by
  have hread := read_lines h hout
  refine ⟨congrArg Prod.fst hread, ?_⟩
  have hfind : ((e.asTag k).attributes.find? fun a => a.1 = includeName)
      = some (includeName, e.identity.toList) := by
    have hmem : (includeName, e.identity.toList) ∈ (e.asTag k).attributes :=
      List.mem_map.2 ⟨e.includes, e.includes_mem, rfl⟩
    cases hfind : (e.asTag k).attributes.find? fun a => a.1 = includeName with
    | none =>
        rw [List.find?_eq_none] at hfind
        exact absurd (by simp) (hfind _ hmem)
    | some found =>
        obtain ⟨a, ha, rfl⟩ := List.mem_map.1 (List.mem_of_find?_eq_some hfind)
        have hname : a.name = includeName := by simpa using List.find?_some hfind
        have hsame : a.name = e.includes.name := hname
        rw [List.inj_on_of_nodup_map h.names ha e.includes_mem hsame]
        rfl
  have hopens : (e.asTag k).opens k identity = true := by
    rw [Tag.opens, hfind]
    simp [asTag, hsame]
  rw [entryTags, hread]
  simp only [List.filter_append, List.filter_cons, hopens, if_true]
  have hbefore := hout.before.2
  have hbehind := hout.behind.2
  rw [entryTags] at hbefore hbehind
  rw [hbefore, hbehind, List.nil_append]

/-- A reader finds of a revised element what it finds of the element. -/
theorem Revision.read_behind {version : String} {e' : Element} (hr : e.Revision version e')
    (hplace : e.VersionLegible k) (hversion : Settable version)
    (hvalues : ∀ cs ∈ e.ending.contents, ∀ value, childVersion? cs = some value → '>' ∉ value) :
    Reader.content.read (e'.behind k) = Reader.content.read (e.behind k) := by
  have hlegible : ∀ {first inner last rear}, e.ending = .long first inner last rear →
      (∀ a ∈ e.attributes, a.name ≠ versionName) → ChildrenLegible first inner last rear := by
    intro first inner last rear hending hnone
    cases hplace with
    | tag hattributes hname => exact absurd hname (hnone _ (by simp [hattributes]))
    | child _ _ hchildren => exact hchildren _ _ _ _ hending
  cases hr with
  | tag => rfl
  | @inner first last rear cs as bs l hnone hending hfront hset =>
      have hvalue : ∀ value, childVersion? l.toList = some value → '<' ∉ value ∧ '>' ∉ value :=
        fun value hchild => ⟨(hlegible hending hnone).between l (by simp) value hchild,
          hvalues l.toList (by simp [hending, Ending.contents]) value hchild⟩
      have hsame := Reader.read_congr (fun r => Reader.read_replaceChild? r hset hversion hvalue) .content
        (first ++ '\n' :: (unlines as).toList)
        ('\n' :: (unlines (bs ++ [String.ofList (last ++ k.closeTag.toList ++ rear)])).toList)
      simpa [behind, hending, Ending.below, toList_unlines] using hsame
  | @last first last rear cs inner hnone hending hfront hset =>
      have hvalue : ∀ value, childVersion? last = some value → '<' ∉ value ∧ '>' ∉ value :=
        fun value hchild => ⟨(hlegible hending hnone).final value hchild,
          hvalues last (by simp [hending, Ending.contents]) value hchild⟩
      have hsame := Reader.read_congr (fun r => Reader.read_replaceChild? r hset hversion hvalue) .content
        (first ++ '\n' :: (unlines inner).toList) (k.closeTag.toList ++ rear ++ ['\n'])
      simpa [behind, hending, Ending.below, toList_unlines] using hsame
  | added => rfl

/-- A reader finds a new entry. -/
theorem outside_fresh {indent : String} {version : Option String}
    (hindent : ∀ c ∈ indent.toList, isBlank c = true) (hidentity : '<' ∉ identity.toList)
    (hversion : ∀ v, version = some v → '<' ∉ v.toList) :
    (fresh indent.toList identity version).Outside k identity where
  values := by
    intro a ha
    simp only [attributes, fresh, List.nil_append, List.mem_cons, List.mem_map, Option.mem_toList] at ha
    rcases ha with rfl | ⟨v, hv, rfl⟩
    · exact hidentity
    · exact hversion v hv
  before := quiet_of_not_mem (not_mem_of_isBlank hindent)
  behind := quiet_of_not_mem (by simp [behind, fresh, Ending.below])

theorem Revision.outside {version : String} {e' : Element} (hr : e.Revision version e')
    (h : e.Outside k identity) (hplace : e.VersionLegible k) (hversion : Settable version)
    (hvalues : ∀ cs ∈ e.ending.contents, ∀ value, childVersion? cs = some value → '>' ∉ value) :
    e'.Outside k identity := by
  have hread := hr.read_behind hplace hversion hvalues
  have hset : ∀ a : Attribute, '<' ∉ a.value → '<' ∉ (a.set versionName version.toList).value := by
    intro a ha
    unfold Attribute.set
    split
    · exact hversion.opening
    · exact ha
  refine ⟨?_, ?_, ?_⟩
  · cases hr with
    | tag =>
        rw [attributes_set]
        intro a ha
        obtain ⟨b, hb, rfl⟩ := List.mem_map.1 ha
        exact hset b (h.values b hb)
    | inner => exact h.values
    | last => exact h.values
    | added =>
        intro a ha
        have hmem : a ∈ e.attributes ∨ a = .ofVersion version := by
          simp only [attributes, List.mem_append, List.mem_cons] at ha ⊢
          tauto
        rcases hmem with hmem | rfl
        · exact h.values a hmem
        · exact hversion.opening
  · cases hr <;> exact h.before
  · rw [Quiet, Whole, entryTags, hread]
    exact h.behind

end

end Element

/-! ## Manifests with comments -/

/-- The entries with an identity are those of the pieces: a reader finds no other outside comments. -/
structure OutsideComments (k : EntryKind) (identity : String) (doc : List Piece) : Prop where
  lines : ∀ ls, .lines ls ∈ doc → Quiet k identity (unlines ls).toList
  entries : ∀ e, .entry e ∈ doc → e.Outside k identity

/-- The lines that end groups and the project are outside tags and comments, and the groups end. -/
structure Grouped (k : EntryKind) (ls : List String) : Prop where
  outside : ∀ above l beneath, ls = above ++ l :: beneath →
    trim l = "</ItemGroup>" ∨ trim l = "</Project>" → Whole (unlines above).toList
  ends : ∀ above l beneath, ls = above ++ l :: beneath → k.cut? l ≠ none →
    ∃ x ∈ l :: beneath, trim x = "</ItemGroup>"

section

variable {k : EntryKind} {identity : String} {doc : List Piece}

theorem toList_unlines_append (ls ls' : List String) :
    (unlines (ls ++ ls')).toList = (unlines ls).toList ++ (unlines ls').toList := by
  simp [toList_unlines]

/-- A reader finds the entries of a manifest. -/
theorem entryTags_linesOf (hlaid : Laid k identity doc) (hout : OutsideComments k identity doc) :
    Whole (unlines (linesOf k doc)).toList
      ∧ entryTags k identity (unlines (linesOf k doc)).toList = doc.filterMap fun
        | .lines _ => none
        | .entry e => some (e.asTag k) := by
  induction doc with
  | nil => exact quiet_of_not_mem (by simp [linesOf])
  | cons p doc ih =>
      obtain ⟨hwhole, htags⟩ := ih
        ⟨fun ls hls => hlaid.lines ls (List.mem_cons_of_mem p hls),
          fun e he => hlaid.entries e (List.mem_cons_of_mem p he)⟩
        ⟨fun ls hls => hout.lines ls (List.mem_cons_of_mem p hls),
          fun e he => hout.entries e (List.mem_cons_of_mem p he)⟩
      rw [linesOf_cons, toList_unlines_append]
      cases p with
      | lines ls =>
          obtain ⟨hfirst, hnone⟩ := hout.lines ls List.mem_cons_self
          exact ⟨(Whole.append_iff hfirst).2 hwhole, by
            rw [Piece.text, entryTags_append hfirst, hnone, htags]
            rfl⟩
      | entry e =>
          obtain ⟨hformed, -, hsame⟩ := hlaid.entries e List.mem_cons_self
          obtain ⟨hfirst, hone⟩ := Element.entryTags_lines hformed
            (hout.entries e List.mem_cons_self) hsame
          exact ⟨(Whole.append_iff hfirst).2 hwhole, by
            rw [Piece.text, entryTags_append hfirst, hone, htags]
            rfl⟩

/-- The lines of a group hold no entry. -/
theorem Group.whole {indent : String} {head tail : List String} (h : Group indent head tail) :
    Quiet k identity (unlines head).toList ∧ Quiet k identity (unlines tail).toList := by
  have hline : ∀ {front tag : List Char}, '<' ∉ front → Quiet k identity tag →
      Quiet k identity (front ++ tag) := fun hfront htag => (quiet_of_not_mem hfront).append htag
  cases h with
  | none => exact ⟨quiet_of_not_mem nofun, quiet_of_not_mem nofun⟩
  | @new outer gap hblank hgap hcolumn =>
      have hbracket := not_mem_of_isBlank hblank
      have hopen := @hline ((unlines gap).toList ++ outer.toList ++ [' ', ' ']) "<ItemGroup>\n".toList
        (by rcases hgap with rfl | rfl <;> simp [toList_unlines, hbracket]) ⟨rfl, by cases k <;> rfl⟩
      have hclose := @hline (outer.toList ++ [' ', ' ']) "</ItemGroup>\n".toList (by simp [hbracket])
        ⟨rfl, by cases k <;> rfl⟩
      constructor
      · simpa [toList_unlines] using hopen
      · simpa [toList_unlines] using hclose

/-- The lines around the place of a new entry are whole. -/
theorem Place.whole {above beneath : List String} (h : Place k above beneath)
    (hgrouped : Grouped k (above ++ beneath)) (hwhole : Whole (unlines (above ++ beneath)).toList) :
    Whole (unlines above).toList := by
  cases h with
  | group hbeneath hends => exact hgrouped.outside above _ _ (by rw [hbeneath]) (.inl hends)
  | @below l rest habove hentry hopen =>
      subst habove
      obtain ⟨x, hx, hends⟩ := hgrouped.ends rest l beneath (by simp) hentry
      exact absurd hends (hopen x hx)
  | project hbeneath hends => exact hgrouped.outside above _ _ (by rw [hbeneath]) (.inr hends)
  | bottom hbeneath => rwa [hbeneath, List.append_nil] at hwhole

/-- A manifest that a merge keeps: the entries with the identity are on lines of their own, outside
comments, and no other line is taken for one. -/
structure Mergeable (k : EntryKind) (identity : String) (version : Option String) (doc : List Piece) :
    Prop where
  laid : Laid k identity doc
  outside : OutsideComments k identity doc
  identity_ne : identity ≠ ""
  quote : '"' ∉ identity.toList
  bracket : '<' ∉ identity.toList
  /-- A version that is given can be set on each entry, and none ends a comment. -/
  version : ∀ v, version = some v → Settable v ∧ ∀ e, .entry e ∈ doc → e.VersionLegible k
    ∧ ∀ cs ∈ e.ending.contents, ∀ value, childVersion? cs = some value → '>' ∉ value
  /-- Without an entry there is a place for one. -/
  grouped : (∀ p ∈ doc, p.isEntry = false) → Grouped k (linesOf k doc)

/-- What a merge leaves: an entry, in a group of its own if it is the first of its kind, between the
lines that belong to no entry with the identity. -/
structure Kept (k : EntryKind) (identity : String) (doc : List Piece) (above head : List String)
    (e : Element) (tail beneath : List String) : Prop where
  others : above ++ beneath = linesOf k (doc.filter fun p => !p.isEntry)
  group : ∃ indent, Group indent head tail
  /-- If there are entries, the one that is left is where the first was, with its identity. -/
  place : (∀ p ∈ doc, p.isEntry = false) ∨ ∃ front old back, doc = front ++ .entry old :: back
    ∧ (∀ p ∈ front, p.isEntry = false) ∧ above = linesOf k front ∧ head = [] ∧ tail = []
    ∧ e.identity = old.identity
  same : k.sameIdentity e.identity identity = true
  /-- A reader finds the entry, and no other with the identity outside comments. -/
  once : entryTags k identity (unlines (above ++ head ++ e.lines k ++ tail ++ beneath)).toList
    = [e.asTag k]
  whole : Whole (unlines (above ++ head ++ e.lines k ++ tail ++ beneath)).toList

/-- Lines without entries around the lines of one entry hold one entry. -/
theorem once_of_quiet {above head tail beneath : List String} {e : Element}
    (habove : Quiet k identity (unlines above).toList) (hhead : Quiet k identity (unlines head).toList)
    (he : Whole (unlines (e.lines k)).toList
      ∧ entryTags k identity (unlines (e.lines k)).toList = [e.asTag k])
    (htail : Quiet k identity (unlines tail).toList)
    (hbeneath : Quiet k identity (unlines beneath).toList) :
    entryTags k identity (unlines (above ++ head ++ e.lines k ++ tail ++ beneath)).toList = [e.asTag k]
      ∧ Whole (unlines (above ++ head ++ e.lines k ++ tail ++ beneath)).toList := by
  simp only [toList_unlines_append, List.append_assoc]
  rw [Whole.append_iff habove.1, Whole.append_iff hhead.1, Whole.append_iff he.1,
    Whole.append_iff htail.1, entryTags_append habove.1, entryTags_append hhead.1,
    entryTags_append he.1, entryTags_append htail.1, habove.2, hhead.2, he.2, htail.2, hbeneath.2]
  exact ⟨rfl, hbeneath.1⟩

/-- Pieces that are lines hold no entry. -/
theorem quiet_linesOf {part : List Piece} (hlaid : Laid k identity doc)
    (hout : OutsideComments k identity doc) (hpart : ∀ p ∈ part, p ∈ doc ∧ p.isEntry = false) :
    Quiet k identity (unlines (linesOf k part)).toList := by
  obtain ⟨hwhole, htags⟩ := @entryTags_linesOf k identity part
    ⟨fun ls hls => hlaid.lines ls (hpart _ hls).1, fun e he => nomatch (hpart _ he).2⟩
    ⟨fun ls hls => hout.lines ls (hpart _ hls).1, fun e he => nomatch (hpart _ he).2⟩
  refine ⟨hwhole, htags.trans ?_⟩
  rw [List.filterMap_eq_nil_iff]
  intro p hp
  have hno := (hpart p hp).2
  cases p with
  | lines ls => rfl
  | entry e => cases hno

/-- Pieces that are lines are all kept. -/
theorem filter_isEntry_eq {part : List Piece} (h : ∀ p ∈ part, p.isEntry = false) :
    part.filter (fun p => !p.isEntry) = part :=
  List.filter_eq_self.2 fun p hp => by rw [h p hp]; rfl

/-- A merge that can be carried out and keeps a manifest. -/
def Keeps (k : EntryKind) (identity : String) (version : Option String) (doc : List Piece) : Prop :=
  ∃ edits above head e tail beneath,
    (Entry.mk k identity version).merge? (linesOf k doc) = some edits
      ∧ LineEdit.carryOut? (linesOf k doc) edits
        = some (above ++ head ++ Element.lines k e ++ tail ++ beneath)
      ∧ Kept k identity doc above head e tail beneath

section

variable {version : Option String}

/-- The first entry is revised where it stands, and the others go. -/
theorem Mergeable.keeps_of_entry {front back : List Piece} {old : Element}
    (h : Mergeable k identity version (front ++ .entry old :: back))
    (hkind : k = .package ∨ version = none) (hfirst : ∀ p ∈ front, p.isEntry = false) :
    Keeps k identity version (front ++ .entry old :: back) := by
  obtain ⟨hformed, -, hsame⟩ := h.laid.entries old (by simp)
  have hold := h.outside.entries old (by simp)
  obtain ⟨edits, e, hmerge, hcarry, hkept, hrevised⟩ := merge?_of_entry h.laid hfirst
    (fun v hv => ⟨hkind.resolve_right (by simp [hv]), ((h.version v hv).2 old (by simp)).1,
      (h.version v hv).1⟩) (Entry.mk k identity version).text
  have he : e.WellFormed k ∧ e.Outside k identity ∧ e.identity = old.identity := by
    cases version with
    | none =>
        rw [hkept rfl]
        exact ⟨hformed, hold, rfl⟩
    | some v =>
        obtain ⟨hsettable, hversions⟩ := h.version v rfl
        obtain ⟨hplace, hvalues⟩ := hversions old (by simp)
        have hr := hrevised v rfl
        exact ⟨hr.wellFormed hformed hsettable, hr.outside hold hplace hsettable hvalues, hr.identity_eq⟩
  obtain ⟨hformed', hout', hidentity⟩ := he
  have hempty : Quiet k identity (unlines []).toList := quiet_of_not_mem nofun
  obtain ⟨honce, hwhole⟩ := once_of_quiet
    (quiet_linesOf h.laid h.outside fun p hp => ⟨by simp [hp], hfirst p hp⟩) hempty
    (Element.entryTags_lines hformed' hout' (hidentity ▸ hsame)) hempty
    (@quiet_linesOf k identity _ (back.filter fun p => !p.isEntry) h.laid h.outside fun p hp => by
      rw [List.mem_filter] at hp
      exact ⟨by simp [hp.1], by simpa using hp.2⟩)
  refine ⟨edits, linesOf k front, [], e, [], linesOf k (back.filter fun p => !p.isEntry), hmerge, ?_,
    ?_, ⟨"", .none nofun⟩, .inr ⟨front, old, back, rfl, hfirst, rfl, rfl, rfl, hidentity⟩,
    hidentity ▸ hsame, honce, hwhole⟩
  · rw [hcarry, linesOf_append, linesOf_cons, Piece.text]
    simp
  · rw [List.filter_append, filter_isEntry_eq hfirst, linesOf_append]
    rfl

/-- A first entry goes where there is a place for it. -/
theorem Mergeable.keeps_of_no_entry (h : Mergeable k identity version doc)
    (hkind : k = .package ∨ version = none) (hnone : ∀ p ∈ doc, p.isEntry = false) :
    Keeps k identity version doc := by
  have hmerge := merge?_of_no_entry h.laid hnone (Entry.mk k identity version).text version
  obtain ⟨upper, head, indent, tail, lower, hlines, hcarry, hplace, hgroup⟩ :=
    carryOut?_insertEntry_lines k (Entry.mk k identity version).text (linesOf k doc)
  have hall := quiet_linesOf h.laid h.outside fun p hp => ⟨hp, hnone p hp⟩
  have hgrouped := h.grouped hnone
  rw [hlines] at hall hgrouped
  have habove := hplace.whole hgrouped hall.1
  have hparts := hall
  rw [Quiet, toList_unlines_append, Whole.append_iff habove, entryTags_append habove,
    List.append_eq_nil_iff] at hparts
  obtain ⟨hbeneath, hquiet, hquiet'⟩ := hparts
  obtain ⟨hhead, htail⟩ := @Group.whole k identity _ _ _ hgroup
  have hblank := (@Group.not_opens k identity _ _ _ hgroup).1
  have hformed : (Element.fresh indent.toList identity version).WellFormed k :=
    Element.wellFormed_fresh hblank h.identity_ne h.quote fun v hv => (h.version v hv).1.quote
  have hout : (Element.fresh indent.toList identity version).Outside k identity :=
    Element.outside_fresh hblank h.bracket fun v hv => (h.version v hv).1.opening
  have hsame : k.sameIdentity (Element.fresh indent.toList identity version).identity identity = true := by
    simp [Element.fresh, EntryKind.sameIdentity]
  obtain ⟨honce, hwhole⟩ := once_of_quiet ⟨habove, hquiet⟩ hhead
    (Element.entryTags_lines hformed hout hsame) htail ⟨hbeneath, hquiet'⟩
  refine ⟨_, upper, head, .fresh indent.toList identity version, tail, lower, hmerge, ?_, ?_,
    ⟨indent, hgroup⟩, .inl hnone, hsame, honce, hwhole⟩
  · rw [hcarry, Element.lines_fresh hkind]
    simp
  · rw [filter_isEntry_eq hnone, hlines]

/-- A merge of either kind keeps a manifest. -/
theorem Mergeable.keeps (h : Mergeable k identity version doc) (hkind : k = .package ∨ version = none) :
    Keeps k identity version doc := by
  cases hfind : doc.find? Piece.isEntry with
  | none => exact h.keeps_of_no_entry hkind (by simpa using hfind)
  | some p =>
      obtain ⟨hentry, front, back, rfl, hfront⟩ := List.find?_eq_some_iff_append.1 hfind
      cases p with
      | lines ls => cases hentry
      | entry old => exact h.keeps_of_entry hkind (by simpa using hfront)

end

/-- **A merge touches nothing but the entries of its identity.**  A merge of a package, with or
without a version, and one of a project leave a mergeable manifest with one entry of the identity
where a reader finds any, and with every line that belongs to none of its entries. -/
theorem merge?_keeps_others (identity : String) (doc : List Piece) :
    (∀ version, Mergeable .package identity version doc →
      ∃ edits above head e tail beneath,
        mergeDependency? identity version (linesOf .package doc) = some edits
          ∧ LineEdit.carryOut? (linesOf .package doc) edits
            = some (above ++ head ++ Element.lines .package e ++ tail ++ beneath)
          ∧ Kept .package identity doc above head e tail beneath)
      ∧ (Mergeable .reference identity none doc →
        ∃ edits above head e tail beneath,
          mergeReference? identity (linesOf .reference doc) = some edits
            ∧ LineEdit.carryOut? (linesOf .reference doc) edits
              = some (above ++ head ++ Element.lines .reference e ++ tail ++ beneath)
            ∧ Kept .reference identity doc above head e tail beneath) :=
  ⟨fun _ h => h.keeps (.inl rfl), fun h => h.keeps (.inr rfl)⟩

end

/-- A manifest with an entry and its duplicate below a comment and an entry on two lines. -/
def commentedManifest : List Piece :=
  [.lines ["<!-- <A Include=\"Lib\" /> -->", "<PackageReference Include=\"Other\"", "  Version=\"3\" />"],
    .entry .sample, .entry .sample, .lines ["</ItemGroup>"]]

theorem laid_commentedManifest (k : EntryKind) : Laid k "Lib" commentedManifest where
  lines := by
    intro ls hls l hl
    simp only [commentedManifest, List.mem_cons, Piece.lines.injEq, reduceCtorEq, List.not_mem_nil,
      false_or, or_false] at hls
    rcases hls with rfl | rfl
    · simp only [List.mem_cons, List.not_mem_nil, or_false] at hl
      rcases hl with rfl | rfl | rfl <;> cases k <;> decide
    · rw [List.mem_singleton.1 hl]
      cases k <;> decide
  entries := by
    intro e he
    simp only [commentedManifest, List.mem_cons, Piece.entry.injEq, reduceCtorEq, List.not_mem_nil,
      false_or, or_false, or_self] at he
    subst he
    exact ⟨Element.wellFormed_sample k, ⟨nofun, by decide⟩, by cases k <;> decide⟩

set_option maxRecDepth 2000 in
theorem outsideComments_commentedManifest (k : EntryKind) : OutsideComments k "Lib" commentedManifest where
  lines := by
    intro ls hls
    simp only [commentedManifest, List.mem_cons, Piece.lines.injEq, reduceCtorEq, List.not_mem_nil,
      false_or, or_false] at hls
    rcases hls with rfl | rfl
    · exact ⟨rfl, by cases k <;> rfl⟩
    · exact ⟨rfl, by cases k <;> rfl⟩
  entries := by
    intro e he
    simp only [commentedManifest, List.mem_cons, Piece.entry.injEq, reduceCtorEq, List.not_mem_nil,
      false_or, or_false, or_self] at he
    subst he
    have hfresh := @Element.outside_fresh k "Lib" "  " (some "1.0") (by simp [isBlank]) (by decide)
      (by rintro _ ⟨⟩; decide)
    exact hfresh

theorem mergeable_commentedManifest {k : EntryKind} {version : Option String}
    (hversion : ∀ v, version = some v → k = .package ∧ Settable v) :
    Mergeable k "Lib" version commentedManifest where
  laid := laid_commentedManifest k
  outside := outsideComments_commentedManifest k
  identity_ne := by decide
  quote := by decide
  bracket := by decide
  version := by
    intro v hv
    obtain ⟨rfl, hsettable⟩ := hversion v hv
    refine ⟨hsettable, fun e he => ?_⟩
    simp only [commentedManifest, List.mem_cons, Piece.entry.injEq, reduceCtorEq, List.not_mem_nil,
      false_or, or_false, or_self] at he
    subst he
    exact ⟨Element.versionLegible_sample, nofun⟩
  grouped := fun hnone => nomatch hnone (.entry .sample) (by simp [commentedManifest])

/-- The comment and the other entry stay, and the duplicate goes. -/
theorem merge?_keeps_others_commented :
    Mergeable .package "Lib" (some "2.0") commentedManifest
      ∧ Mergeable .reference "Lib" none commentedManifest
      ∧ (∃ edits above head e tail beneath,
        mergeDependency? "Lib" (some "2.0") (linesOf .package commentedManifest) = some edits
          ∧ LineEdit.carryOut? (linesOf .package commentedManifest) edits
            = some (above ++ head ++ Element.lines .package e ++ tail ++ beneath)
          ∧ Kept .package "Lib" commentedManifest above head e tail beneath)
      ∧ ∃ edits above head e tail beneath,
        mergeReference? "Lib" (linesOf .reference commentedManifest) = some edits
          ∧ LineEdit.carryOut? (linesOf .reference commentedManifest) edits
            = some (above ++ head ++ Element.lines .reference e ++ tail ++ beneath)
          ∧ Kept .reference "Lib" commentedManifest above head e tail beneath := by
  have hpackage : Mergeable .package "Lib" (some "2.0") commentedManifest :=
    mergeable_commentedManifest (by rintro _ ⟨⟩; exact ⟨rfl, settable_sample⟩)
  have hreference : Mergeable .reference "Lib" none commentedManifest := mergeable_commentedManifest nofun
  obtain ⟨hdependency, hmerge⟩ := merge?_keeps_others "Lib" commentedManifest
  exact ⟨hpackage, hreference, hdependency _ hpackage, hmerge hreference⟩

end Scaffold.Manifest
