import Mathlib
import Scaffold.Proofs.Manifest
import Scaffold.Proofs.Manifest.Layout

/-!
# Merging a dependency

In a manifest of entries on lines of their own (`Regular`) a merge leaves one entry of the package,
whatever entries of it there were (`mergeDependency?_upserts`).  The first stays at its place and
the later ones are gone with all their lines; without any, one is put in between the lines
(`Upserted`).  The entry has the version that was given, and without one an entry that was there
stays as it was.

Two things can mislead the search, and are ruled out of a regular manifest: an attribute that is not
written in the way the search looks for it, and a closing tag with another start tag on its line.
-/

namespace Scaffold.Manifest

open Scaffold.Text

/-! ## New entries -/

/-- An entry as it is put in. -/
def Element.fresh (before : List Char) (identity : String) (version : Option String) : Element :=
  ⟨before, [], [' '], identity, version.toList.map .ofVersion, [' '], .empty []⟩

section

variable {k : EntryKind} {identity indent : String} {version : Option String}

theorem Element.opening_fresh (hversion : k = .package ∨ version = none) :
    (Element.fresh indent.toList identity version).opening k
      = indent ++ (Entry.mk k identity version).text := by
  rw [← String.toList_inj, Element.toList_opening]
  rcases k with _ | _
  · cases version with
    | none => simp [fresh, Entry.text, EntryKind.openTag, EntryKind.element, attributesText,
        attributeStart, includeName, Ending.onOpening]
    | some v => simp [fresh, Entry.text, EntryKind.openTag, EntryKind.element, attributesText,
        attributeStart, includeName, versionName, Ending.onOpening, Attribute.ofVersion, Attribute.text,
        versionAttribute]
  · obtain rfl := hversion.resolve_left (by decide)
    simp [fresh, Entry.text, EntryKind.openTag, EntryKind.element, attributesText,
        attributeStart, includeName, Ending.onOpening]

theorem Element.lines_fresh (hversion : k = .package ∨ version = none) :
    (Element.fresh indent.toList identity version).lines k
      = [indent ++ (Entry.mk k identity version).text] := by
  rw [Element.lines, Element.opening_fresh hversion]
  rfl

theorem not_mem_of_isBlank {cs : List Char} (h : ∀ c ∈ cs, isBlank c = true) : '<' ∉ cs := fun hmem =>
  absurd (h '<' hmem) (by decide)

theorem Element.wellFormed_includes {e : Element} (hgap_ne : e.gap ≠ [])
    (hgap : ∀ c ∈ e.gap, isSpace c = true) (hquote : '"' ∉ e.identity.toList) :
    e.includes.WellFormed where
  gap_ne := hgap_ne
  gap := hgap
  name_ne := List.cons_ne_nil _ _
  name := isAttributeChar_includeName
  sign := by simp [includes]
  equals := List.mem_singleton_self _
  quote := .inl rfl
  value := hquote

theorem Element.wellFormed_fresh (hindent : ∀ c ∈ indent.toList, isBlank c = true)
    (hidentity : identity ≠ "") (hquote : '"' ∉ identity.toList)
    (hversion : ∀ v, version = some v → '"' ∉ v.toList) :
    (Element.fresh indent.toList identity version).WellFormed k where
  attributes := by
    intro a ha
    simp only [attributes, fresh, List.nil_append, List.mem_cons, List.mem_map, Option.mem_toList] at ha
    rcases ha with rfl | ⟨v, hv, rfl⟩
    · exact wellFormed_includes (List.cons_ne_nil _ _) (by simp [isSpace]) hquote
    · exact Attribute.wellFormed_ofVersion (hversion v hv)
  names := by
    cases version with
    | none => exact List.nodup_singleton _
    | some v =>
        change [includeName, versionName].Nodup
        decide
  identity := hidentity
  tail := by simp [fresh, isSpace]
  before := by
    intro hin
    rw [k.toList_openTag.1] at hin
    exact not_mem_of_isBlank hindent (hin.subset List.mem_cons_self)
  behind := by
    change ¬ k.openTag.toList <:+: ['/', '>']
    cases k <;> decide
  below := nofun
  closed := nofun

/-! ## Regular manifests -/

/-- A manifest of entries on lines of their own and of lines without a start tag of their kind. -/
structure Regular (k : EntryKind) (doc : List Piece) : Prop where
  lines : ∀ ls, .lines ls ∈ doc → ∀ l ∈ ls, contains l k.openTag = false
  entries : ∀ e, .entry e ∈ doc → e.WellFormed k ∧ e.Legible

/-- Decide whether a piece is an entry with an identity. -/
def Piece.names (k : EntryKind) (identity : String) : Piece → Bool
  | .lines _ => false
  | .entry e => k.sameIdentity e.identity identity

/-- A piece as lines, unless it is an entry with an identity. -/
def Piece.unless (k : EntryKind) (identity : String) (p : Piece) : Piece :=
  if p.names k identity then p else .lines (p.text k)

/-- A line opens an entry with an identity. -/
def Opens (k : EntryKind) (identity line : String) : Prop :=
  ∃ e : Element, e.WellFormed k ∧ k.sameIdentity e.identity identity = true ∧ line = e.opening k

variable {doc front back : List Piece}

theorem linesOf_unless (k : EntryKind) (identity : String) (doc : List Piece) :
    linesOf k (doc.map (Piece.unless k identity)) = linesOf k doc := by
  rw [linesOf, List.flatMap_map]
  refine List.flatMap_congr fun p _ => ?_
  unfold Piece.unless
  split <;> rfl

theorem isEntry_unless (p : Piece) : (p.unless k identity).isEntry = p.names k identity := by
  unfold Piece.unless
  split
  next h =>
    cases p with
    | lines ls => cases h
    | entry e => exact h.symm
  next h => exact (Bool.eq_false_iff.2 h).symm

/-- The entries with one identity are laid out in a regular manifest. -/
theorem Regular.laid (h : Regular k doc) (identity : String) :
    Laid k identity (doc.map (Piece.unless k identity)) where
  lines := by
    intro ls hls l hl
    obtain ⟨p, hp, hpls⟩ := List.mem_map.1 hls
    unfold Piece.unless at hpls
    split at hpls
    next hnames =>
      subst hpls
      cases hnames
    next hnames =>
      cases hpls
      cases p with
      | lines ls => exact reads_eq_false_of_cut? (cut?_eq_none (h.lines ls hp l hl))
      | entry e =>
          obtain ⟨hformed, hlegible⟩ := h.entries e hp
          rcases List.mem_cons.1 hl with rfl | hl
          · rw [reads, Element.identity?_opening hformed hlegible]
            exact Bool.eq_false_iff.2 hnames
          · exact reads_eq_false_of_cut? (cut?_eq_none (hformed.below l hl))
  entries := by
    intro e he
    obtain ⟨p, hp, hpe⟩ := List.mem_map.1 he
    unfold Piece.unless at hpe
    split at hpe
    next hnames =>
      subst hpe
      exact ⟨(h.entries e hp).1, (h.entries e hp).2, hnames⟩
    next => cases hpe

/-- A line that opens an entry has a start tag. -/
theorem Opens.contains {l : String} (h : Opens k identity l) : contains l k.openTag = true := by
  obtain ⟨e, -, -, rfl⟩ := h
  rw [Text.contains, occursIn_iff, Element.toList_opening]
  exact (List.prefix_append _ _).isInfix.trans (List.suffix_append _ _).isInfix

/-- Only entries of a regular manifest open entries. -/
theorem Regular.exists_of_opens (h : Regular k doc) {l : String} (hl : l ∈ linesOf k doc)
    (hopens : Opens k identity l) : ∃ p ∈ doc, p.names k identity = true := by
  obtain ⟨p, hp, hl⟩ := List.mem_flatMap.1 hl
  refine ⟨p, hp, ?_⟩
  have htag := hopens.contains
  cases p with
  | lines ls =>
      rw [h.lines ls hp l hl] at htag
      cases htag
  | entry e =>
      have hformed := (h.entries e hp).1
      rcases List.mem_cons.1 hl with rfl | hl
      · obtain ⟨e', hformed', hsame, hline⟩ := hopens
        rw [Piece.names, Element.identity_eq_of_opening hformed hformed' hline]
        exact hsame
      · rw [hformed.below l hl] at htag
        cases htag

/-- Pieces of a regular manifest that are no entries of a package open none. -/
theorem Regular.not_opens (h : Regular k doc) {part : List Piece}
    (hpart : ∀ p ∈ part, p ∈ doc ∧ p.names k identity = false) :
    ∀ l ∈ linesOf k part, ¬ Opens k identity l := by
  intro l hl hopens
  have hregular : Regular k part :=
    ⟨fun ls hls => h.lines ls (hpart _ hls).1, fun e he => h.entries e (hpart _ he).1⟩
  obtain ⟨p, hp, hnames⟩ := hregular.exists_of_opens hl hopens
  rw [(hpart p hp).2] at hnames
  cases hnames

theorem isEntry_map_unless {part : List Piece} (h : ∀ p ∈ part, p.names k identity = false) :
    ∀ p ∈ part.map (Piece.unless k identity), p.isEntry = false := by
  intro p hp
  obtain ⟨q, hq, rfl⟩ := List.mem_map.1 hp
  rw [isEntry_unless]
  exact h q hq

theorem linesOf_filter_unless (k : EntryKind) (identity : String) (part : List Piece) :
    linesOf k ((part.map (Piece.unless k identity)).filter fun p => !p.isEntry)
      = linesOf k (part.filter fun p => !p.names k identity) := by
  rw [List.filter_map, linesOf_unless]
  refine congrArg _ (List.filter_congr fun p _ => ?_)
  rw [Function.comp_apply, isEntry_unless]

/-- The lines of a group have no start tag. -/
theorem Group.contains_eq_false {head tail : List String} (h : Group indent head tail) :
    (∀ c ∈ indent.toList, isBlank c = true) ∧ ∀ l ∈ head ++ tail, contains l k.openTag = false := by
  cases h with
  | none hblank => exact ⟨hblank, nofun⟩
  | @new outer gap hblank hgap hcolumn =>
      constructor
      · intro c hc
        rw [hcolumn, String.toList_append, List.mem_append] at hc
        rcases hc with hc | hc
        · exact hblank c hc
        · have hspace : c = ' ' := by simpa using hc
          rw [hspace]
          decide
      · intro l hl
        have hgroup : ∀ s : String, s = "  <ItemGroup>" ∨ s = "  </ItemGroup>" →
            contains (outer ++ s) k.openTag = false := by
          intro s hs
          rw [contains_eq_false_iff, String.toList_append]
          intro hinfix
          rw [k.toList_openTag.1] at hinfix
          have hin := infix_of_not_mem (not_mem_of_isBlank hblank) hinfix
          rcases hs with rfl | rfl <;> cases k <;> exact absurd hin (by decide)
        have hcases : l = "" ∨ l = outer ++ "  <ItemGroup>" ∨ l = outer ++ "  </ItemGroup>" := by
          rcases hgap with rfl | rfl
          · exact .inr (by simpa using hl)
          · simpa using hl
        rcases hcases with rfl | rfl | rfl
        · cases k <;> decide
        · exact hgroup _ (.inl rfl)
        · exact hgroup _ (.inr rfl)

/-- The lines of a group open no entry. -/
theorem Group.not_opens {head tail : List String} (h : Group indent head tail) :
    (∀ c ∈ indent.toList, isBlank c = true) ∧ ∀ l ∈ head ++ tail, ¬ Opens k identity l := by
  refine ⟨(h.contains_eq_false (k := k)).1, fun l hl hopens => ?_⟩
  have htag := hopens.contains
  rw [h.contains_eq_false.2 l hl] at htag
  cases htag

/-! ## Merging a dependency -/

/-- What a merge leaves: an entry, with the lines above and beneath it. -/
inductive Upserted (identity : String) (version : Option String) (doc : List Piece) :
    (above : List String) → Element → (beneath : List String) → Prop
  /-- The first entry stays where it is, with the same identity; the later ones are gone. -/
  | updated {front back : List Piece} {old e : Element} (doc_eq : doc = front ++ .entry old :: back)
      (first : ∀ p ∈ front, p.names .package identity = false)
      (same : EntryKind.package.sameIdentity old.identity identity = true)
      (identity_eq : e.identity = old.identity) (kept : version = none → e = old) :
      Upserted identity version doc (linesOf .package front) e
        (linesOf .package (back.filter fun p => !p.names .package identity))
  /-- There was none, and one is put in between the lines, which all stay. -/
  | added {upper lower head tail : List String} {indent : String}
      (absent : ∀ p ∈ doc, p.names .package identity = false)
      (lines : linesOf .package doc = upper ++ lower) (group : Group indent head tail) :
      Upserted identity version doc (upper ++ head) (.fresh indent.toList identity version)
        (tail ++ lower)

theorem Element.Revision.identity_eq {v : String} {e e' : Element} (h : e.Revision v e') :
    e'.identity = e.identity := by
  cases h <;> rfl

/-- The only line that opens an entry, among lines that open none. -/
theorem opens_iff {e : Element} {above beneath : List String} (he : e.WellFormed k)
    (hsame : k.sameIdentity e.identity identity = true)
    (habove : ∀ l ∈ above, ¬ Opens k identity l) (hbeneath : ∀ l ∈ beneath, ¬ Opens k identity l)
    {i : Nat} {l : String} (hl : (above ++ e.lines k ++ beneath)[i]? = some l) :
    Opens k identity l ↔ i = above.length := by
  rw [List.append_assoc] at hl
  constructor
  · intro hopens
    by_contra hi
    rcases Nat.lt_or_gt_of_ne hi with hi | hi
    · rw [List.getElem?_append_left hi] at hl
      exact habove l (List.mem_of_getElem? hl) hopens
    · obtain ⟨j, rfl⟩ := Nat.exists_eq_add_of_lt hi
      rw [List.getElem?_append_right (by omega), Element.lines, List.cons_append,
        (by omega : above.length + j + 1 - above.length = j + 1), List.getElem?_cons_succ] at hl
      rcases List.mem_append.1 (List.mem_of_getElem? hl) with hl | hl
      · have htag := hopens.contains
        rw [he.below l hl] at htag
        cases htag
      · exact hbeneath l hl hopens
  · rintro rfl
    have hopening : l = e.opening k := by simpa [Element.lines, eq_comm] using hl
    exact ⟨e, he, hsame, hopening⟩

/-- A merge that leaves one entry of a package, with the version that was given. -/
def Upserts (identity : String) (version : Option String) (doc : List Piece) : Prop :=
  ∃ edits above e beneath, (Entry.mk .package identity version).merge? (linesOf .package doc) = some edits
    ∧ LineEdit.carryOut? (linesOf .package doc) edits = some (above ++ e.lines .package ++ beneath)
    ∧ Upserted identity version doc above e beneath
    ∧ e.WellFormed .package ∧ (∀ v, version = some v → e.version? = some v.toList)
    ∧ ∀ i l, (above ++ e.lines .package ++ beneath)[i]? = some l →
      (Opens .package identity l ↔ i = above.length)

section

variable {version : Option String}

/-- The first entry is revised where it stands, and the later ones go. -/
theorem Regular.upserts_of_entry {old : Element} (h : Regular .package (front ++ .entry old :: back))
    (hfirst : ∀ p ∈ front, p.names .package identity = false)
    (hsame : EntryKind.package.sameIdentity old.identity identity = true)
    (hversion : ∀ v, version = some v → Settable v ∧ old.VersionLegible .package) :
    Upserts identity version (front ++ .entry old :: back) := by
  obtain ⟨hformed, hlegible⟩ := h.entries old (by simp)
  have hlaid := h.laid identity
  have hwhole := linesOf_unless .package identity (front ++ .entry old :: back)
  have hkeep : (Piece.entry old).unless .package identity = .entry old := if_pos hsame
  rw [List.map_append, List.map_cons, hkeep] at hlaid hwhole
  obtain ⟨edits, e, hmerge, hcarry, hkept, hrevised⟩ := merge?_of_entry hlaid (isEntry_map_unless hfirst)
    (fun v hv => ⟨rfl, (hversion v hv).2, (hversion v hv).1⟩) (Entry.mk .package identity version).text
  have hresult : linesOf .package (front.map (Piece.unless .package identity) ++ .entry e ::
        (back.map (Piece.unless .package identity)).filter fun p => !p.isEntry)
      = linesOf .package front ++ e.lines .package
        ++ linesOf .package (back.filter fun p => !p.names .package identity) := by
    rw [linesOf_append, linesOf_unless, linesOf_cons, Piece.text, linesOf_filter_unless, List.append_assoc]
  rw [hwhole] at hmerge hcarry
  rw [hresult] at hcarry
  have he : e.identity = old.identity ∧ e.WellFormed .package := by
    cases version with
    | none =>
        rw [hkept rfl]
        exact ⟨rfl, hformed⟩
    | some v => exact ⟨(hrevised v rfl).identity_eq,
        (hrevised v rfl).wellFormed hformed (hversion v rfl).1⟩
  refine ⟨edits, _, e, _, hmerge, hcarry, .updated rfl hfirst hsame he.1 hkept, he.2,
    fun v hv => (hrevised v hv).version?_eq (hversion v hv).2 (hversion v hv).1,
    fun i l hl => opens_iff he.2 (he.1 ▸ hsame) ?_ ?_ hl⟩
  · exact h.not_opens fun p hp => ⟨by simp [hp], hfirst p hp⟩
  · refine h.not_opens fun p hp => ?_
    rw [List.mem_filter] at hp
    exact ⟨by simp [hp.1], by simpa using hp.2⟩

/-- A first entry is put in between the lines. -/
theorem Regular.upserts_of_no_entry (h : Regular .package doc)
    (habsent : ∀ p ∈ doc, p.names .package identity = false) (hidentity : identity ≠ "")
    (hquote : '"' ∉ identity.toList) (hversion : ∀ v, version = some v → Settable v) :
    Upserts identity version doc := by
  have hmerge := merge?_of_no_entry (h.laid identity) (isEntry_map_unless habsent)
    (Entry.mk .package identity version).text version
  rw [linesOf_unless] at hmerge
  obtain ⟨upper, head, indent, tail, lower, hlines, hcarry, -, hgroup⟩ :=
    carryOut?_insertEntry_lines .package (Entry.mk .package identity version).text
      (linesOf .package doc)
  obtain ⟨hindent, hgroupLines⟩ := @Group.not_opens .package identity _ _ _ hgroup
  have hformed : (Element.fresh indent.toList identity version).WellFormed .package :=
    Element.wellFormed_fresh hindent hidentity hquote fun v hv => (hversion v hv).quote
  have hall := h.not_opens fun p hp => ⟨hp, habsent p hp⟩
  rw [hlines] at hall
  refine ⟨_, upper ++ head, .fresh indent.toList identity version, tail ++ lower, hmerge, ?_,
    .added habsent hlines hgroup, hformed, ?_, fun i l hl => opens_iff hformed ?_ ?_ ?_ hl⟩
  · rw [hcarry, Element.lines_fresh (.inl rfl)]
    simp
  · rintro v rfl
    rfl
  · simp [Element.fresh, EntryKind.sameIdentity]
  · intro l hl
    rcases List.mem_append.1 hl with hl | hl
    · exact hall l (by simp [hl])
    · exact hgroupLines l (by simp [hl])
  · intro l hl
    rcases List.mem_append.1 hl with hl | hl
    · exact hgroupLines l (by simp [hl])
    · exact hall l (by simp [hl])

end

/-- **Merging a dependency leaves one entry of it, with the version that was given**, in every
regular manifest and for every package.  It is the entry that was there first, or a new one, and its
opening line is the only line that opens an entry of the package. -/
theorem mergeDependency?_upserts {doc : List Piece} {identity : String} {version : Option String}
    (hdoc : Regular .package doc) (hidentity : identity ≠ "") (hquote : '"' ∉ identity.toList)
    (hversion : ∀ v, version = some v → Settable v ∧ ∀ e, .entry e ∈ doc →
      EntryKind.package.sameIdentity e.identity identity = true → e.VersionLegible .package) :
    ∃ edits above e beneath, mergeDependency? identity version (linesOf .package doc) = some edits
      ∧ LineEdit.carryOut? (linesOf .package doc) edits
        = some (above ++ e.lines .package ++ beneath)
      ∧ Upserted identity version doc above e beneath
      ∧ e.WellFormed .package ∧ (∀ v, version = some v → e.version? = some v.toList)
      ∧ ∀ i l, (above ++ e.lines .package ++ beneath)[i]? = some l →
        (Opens .package identity l ↔ i = above.length) := by
  rw [mergeDependency?_eq]
  change Upserts identity version doc
  cases hfind : doc.find? (Piece.names .package identity) with
  | none =>
      exact hdoc.upserts_of_no_entry (by simpa using hfind) hidentity hquote fun v hv => (hversion v hv).1
  | some p =>
      obtain ⟨hnames, front, back, rfl, hfront⟩ := List.find?_eq_some_iff_append.1 hfind
      cases p with
      | lines ls => cases hnames
      | entry old =>
          exact hdoc.upserts_of_entry (by simpa using hfront) hnames fun v hv =>
            ⟨(hversion v hv).1, (hversion v hv).2 old (by simp) hnames⟩

end

/-! ## A manifest with a duplicate -/

/-- An entry on one line. -/
def Element.sample : Element where
  before := [' ', ' ']
  front := []
  gap := [' ']
  identity := "Lib"
  back := [.ofVersion "1.0"]
  tail := [' ']
  ending := .empty []

/-- An entry of the same package that goes on below its opening line. -/
def Element.sampleTwin : Element where
  before := [' ', ' ']
  front := []
  gap := [' ']
  identity := "LIB"
  back := []
  tail := []
  ending := .long [] ["    <PrivateAssets>all</PrivateAssets>"] [' ', ' '] []

/-- A manifest with both. -/
def sampleManifest : List Piece :=
  [.lines ["<ItemGroup>"], .entry .sample, .entry .sampleTwin, .lines ["</ItemGroup>"]]

theorem Element.wellFormed_sample (k : EntryKind) : Element.sample.WellFormed k := by
  have hfresh := @Element.wellFormed_fresh k "Lib" "  " (some "1.0") (by simp [isBlank])
    (by decide) (by decide) (by rintro _ ⟨⟩; decide)
  exact hfresh

theorem Element.wellFormed_sampleTwin : Element.sampleTwin.WellFormed .package where
  attributes := by
    intro a ha
    obtain rfl := List.mem_singleton.1 ha
    exact wellFormed_includes (List.cons_ne_nil _ _) (by simp [sampleTwin, isSpace]) (by decide)
  names := List.nodup_singleton _
  identity := by decide
  tail := nofun
  before := by decide
  behind := by decide
  below := by decide
  closed := by
    rintro _ _ _ _ ⟨⟩
    decide

theorem regular_sampleManifest : Regular .package sampleManifest where
  lines := by
    intro ls hls l hl
    simp only [sampleManifest, List.mem_cons, Piece.lines.injEq, reduceCtorEq, List.not_mem_nil,
      false_or, or_false] at hls
    rcases hls with rfl | rfl <;> rw [List.mem_singleton.1 hl] <;> decide
  entries := by
    intro e he
    simp only [sampleManifest, List.mem_cons, Piece.entry.injEq, reduceCtorEq, List.not_mem_nil,
      false_or, or_false] at he
    rcases he with rfl | rfl
    · exact ⟨Element.wellFormed_sample _, nofun, by decide⟩
    · exact ⟨Element.wellFormed_sampleTwin, nofun, by decide⟩

theorem Element.versionLegible_sample : Element.sample.VersionLegible .package :=
  @VersionLegible.tag _ _ [sample.includes] [] (.ofVersion "1.0") rfl rfl ⟨rfl, rfl⟩ (by decide)

theorem Element.versionLegible_sampleTwin : Element.sampleTwin.VersionLegible .package := by
  refine .child ?_ (by decide) ?_
  · intro a ha
    rw [List.mem_singleton.1 ha]
    decide
  · rintro _ _ _ _ ⟨⟩
    refine ⟨fun l hl value hvalue => ?_, by decide, by decide, by decide, by decide⟩
    rw [List.mem_singleton.1 hl] at hvalue
    rw [(by decide : childVersion? "    <PrivateAssets>all</PrivateAssets>".toList = none)] at hvalue
    cases hvalue

theorem settable_sample : Settable "2.0" := ⟨by decide, by decide, by decide, by decide⟩

/-- The entry and its duplicate become one entry with the version. -/
theorem mergeDependency?_upserts_duplicate :
    Regular .package sampleManifest ∧ Settable "2.0"
      ∧ ∃ edits above e beneath,
        mergeDependency? "Lib" (some "2.0") (linesOf .package sampleManifest) = some edits
          ∧ LineEdit.carryOut? (linesOf .package sampleManifest) edits
            = some (above ++ e.lines .package ++ beneath)
          ∧ Upserted "Lib" (some "2.0") sampleManifest above e beneath
          ∧ e.version? = some "2.0".toList := by
  obtain ⟨edits, above, e, beneath, hmerge, hcarry, hupserted, -, hversion, -⟩ :=
    @mergeDependency?_upserts sampleManifest "Lib" (some "2.0")
      regular_sampleManifest (by decide) (by decide) (by
        rintro v ⟨⟩
        refine ⟨settable_sample, fun e he _ => ?_⟩
        simp only [sampleManifest, List.mem_cons, Piece.entry.injEq, reduceCtorEq, List.not_mem_nil,
          false_or, or_false] at he
        rcases he with rfl | rfl
        · exact Element.versionLegible_sample
        · exact Element.versionLegible_sampleTwin)
  exact ⟨regular_sampleManifest, settable_sample, edits, above, e, beneath, hmerge, hcarry, hupserted,
    hversion _ rfl⟩

example : (mergeDependency? "Lib" (some "2.0") (linesOf .package sampleManifest)).bind
      (LineEdit.carryOut? (linesOf .package sampleManifest))
    = some ["<ItemGroup>", "  <PackageReference Include=\"Lib\" Version=\"2.0\" />", "</ItemGroup>"] := by
  decide

end Scaffold.Manifest
