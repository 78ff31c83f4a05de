import Mathlib
import Scaffold.Proofs.Manifest.Upsert

/-!
# Versions to the letter

A version is written as it was given into a new entry and into an attribute that is added.  The
value of an attribute that is there is set by way of a replacement text instead, so that it is the
version exactly if the version is literal (`Sole.dependOn?_tag`).  Merging one version and then
another therefore leaves what merging the other alone leaves exactly if that one is literal
(`dependOn?_literal`).

An identity is taken as it is given, and not every one is found again on the line that it is put in
with: none without characters, none with a quote, and in one that ends in the text of a version
attribute (`EndsInVersion`) the version is set in the wrong place.
-/

namespace Scaffold.Manifest

open Scaffold.Text

/-- Make plain lines depend on a version of a package. -/
def dependOn? (identity version : String) (lines : List String) : Option (List String) :=
  (mergeDependency? identity (some version) lines).bind (LineEdit.carryOut? lines)

/-- In quotes an identity ends in the text that a version attribute begins with. -/
def EndsInVersion (identity : String) : Prop :=
  ∃ front, identity.toList = front ++ versionName ++ ['='] ∧ front.getLast?.any isWordChar = false

/-- An element with another value in the attribute that holds its version. -/
def Element.withVersion (value : List Char) (e : Element) : Element :=
  { e with
    front := e.front.map (Attribute.set versionName value)
    back := e.back.map (Attribute.set versionName value) }

/-- The only entry of an identity in a manifest, on one line. -/
structure Sole (identity : String) (above : List String) (e : Element) (beneath : List String) : Prop where
  formed : e.WellFormed .package
  legible : e.Legible
  same : EntryKind.package.sameIdentity e.identity identity = true
  line : e.ending.below .package = []
  others : ∀ l ∈ above ++ beneath, reads .package identity l = false

section

variable {identity v w : String} {above beneath : List String} {e : Element}

/-! ## The only entry -/

/-- A merge changes the line of the only entry, and no other. -/
theorem Sole.dependOn?_eq (h : Sole identity above e beneath) {updated : String}
    (hset : setAttribute? w (e.opening .package) = some updated
      ∨ setAttribute? w (e.opening .package) = none
        ∧ addAttribute? w (e.opening .package) = some updated) :
    dependOn? identity w (above ++ e.opening .package :: beneath)
      = some (above ++ updated :: beneath) := by
  have hlaid : Laid .package identity [.lines above, .entry e, .lines beneath] := by
    refine ⟨fun ls hls l hl => h.others l ?_, fun e' he' => ?_⟩
    · simp only [List.mem_cons, Piece.lines.injEq, reduceCtorEq, List.not_mem_nil, false_or,
        or_false] at hls
      rcases hls with rfl | rfl <;> simp [hl]
    · simp only [List.mem_cons, Piece.entry.injEq, reduceCtorEq, List.not_mem_nil, false_or,
        or_false] at he'
      exact he' ▸ ⟨h.formed, h.legible, h.same⟩
  have hlines : linesOf .package [.lines above, .entry e, .lines beneath]
      = above ++ e.opening .package :: beneath := by
    simp [linesOf, Piece.text, Element.lines, h.line]
  have hspans : entries .package identity (above ++ e.opening .package :: beneath)
      = [(above.length, above.length)] := by
    rw [← hlines, entries_linesOf hlaid]
    simp [spansFrom, h.line]
  have hline : (above ++ e.opening .package :: beneath)[above.length]? = some (e.opening .package) := by
    simp
  have hversion : setVersion? w (above ++ e.opening .package :: beneath) above.length above.length
      = some (replaceEdit above.length (e.opening .package) updated) := by
    rw [setVersion?, hline, Nat.sub_self]
    rcases hset with hset | ⟨hnone, hadd⟩
    · simp only [hset]
    · simp only [hnone, setChild?, hadd]
  have hmerge : mergeDependency? identity (some w) (above ++ e.opening .package :: beneath)
      = some (replaceEdit above.length (e.opening .package) updated) := by
    rw [mergeDependency?_eq, Entry.merge?, merge?_of_entries hspans]
    change (setVersion? w _ above.length above.length).map ([] ++ ·) = _
    rw [hversion]
    rfl
  rw [dependOn?, hmerge, Option.bind_some, carryOut?_replaceEdit]

/-- A version attribute is set to the version exactly if the version is literal. -/
theorem Sole.dependOn?_tag (h : Sole identity above e beneath) {as bs : List Attribute} {a : Attribute}
    (hattributes : e.attributes = as ++ a :: bs) (hname : a.name = versionName) (hplain : a.Plain)
    (hfirst : Overlooked versionName none
    (e.before ++ EntryKind.package.openTag.toList ++ attributesText as))
    (hw : '"' ∉ w.toList) :
    ∃ value, dependOn? identity w (above ++ e.opening .package :: beneath)
        = some (above ++ (e.withVersion value).opening .package :: beneath)
      ∧ (value = w.toList ↔ IsLiteral w.toList) := by
  have hset : setAttribute? w (e.opening .package)
      = some ((e.withVersion (expand (Element.matchedVersion a.value) w.toList)).opening .package) :=
    Element.setAttribute?_expands h.formed hattributes hname hplain hfirst
  have hquote : '"' ∈ Element.matchedVersion a.value := by simp [Element.matchedVersion]
  exact ⟨_, h.dependOn?_eq (.inl hset), expand_eq_self_iff hquote hw⟩

/-- A version that is added stands on the line as it was given. -/
theorem Sole.dependOn?_added (h : Sole identity above e beneath)
    (hnone : ¬ attributeStart versionName <:+: (e.opening .package).toList) (w : String) :
    dependOn? identity w (above ++ e.opening .package :: beneath)
      = some (above ++ Element.opening .package { e with back := .ofVersion w :: e.back } :: beneath) :=
  h.dependOn?_eq (.inr
    ⟨Element.setAttribute?_eq_none hnone, Element.addAttribute?_opening h.formed h.legible⟩)

/-! ## A new entry -/

/-- A quote in a text with two of them stands at one of two places. -/
theorem eq_of_quotes {before inside front back : List Char} (hbefore : '"' ∉ before)
    (hinside : '"' ∉ inside) (h : before ++ '"' :: (inside ++ ['"']) = front ++ '"' :: back) :
    front = before ∨ front = before ++ '"' :: inside := by
  have hsplit : ∀ {xs ys front back : List Char}, '"' ∉ xs → xs ++ '"' :: ys = front ++ '"' :: back →
      front = xs ∨ ∃ rest, front = xs ++ '"' :: rest ∧ ys = rest ++ '"' :: back := by
    intro xs ys front back hxs h
    rcases List.append_eq_append_iff.1 h with ⟨r, hfront, hrest⟩ | ⟨r, hxs', hrest⟩
    · cases r with
      | nil => exact .inl (by simpa using hfront)
      | cons c r =>
          obtain ⟨rfl, hys⟩ := List.cons.inj hrest
          exact .inr ⟨r, hfront, hys⟩
    · cases r with
      | nil => exact .inl (by simpa using hxs'.symm)
      | cons c r =>
          obtain ⟨rfl, -⟩ := List.cons.inj hrest
          exact absurd (by simp [hxs']) hxs
  rcases hsplit hbefore h with hfront | ⟨rest, hfront, hrest⟩
  · exact .inl hfront
  · rcases hsplit hinside hrest with hrest | ⟨rest', -, hrest'⟩
    · exact .inr (hrest ▸ hfront)
    · simp at hrest'

/-- In front of the version of a new entry nothing reads as a version. -/
theorem overlooked_fresh {indent : String} (hindent : ∀ c ∈ indent.toList, isBlank c = true)
    (hquote : '"' ∉ identity.toList) (hends : ¬ EndsInVersion identity) :
    Overlooked versionName none (indent.toList ++ EntryKind.package.openTag.toList
      ++ attributesText [(Element.fresh indent.toList identity (some v)).includes]) := by
  rintro p s hsplit ⟨t, rfl⟩
  have hstart : EntryKind.package.openTag.toList ++ [' '] ++ includeName ++ ['=']
      = "<PackageReference Include=".toList := by decide
  have hbefore : '"' ∉ indent.toList ++ "<PackageReference Include=".toList := by
    rw [List.mem_append, not_or]
    exact ⟨fun hmem => absurd (hindent _ hmem) (by decide), by decide⟩
  have hfront : indent.toList ++ "<PackageReference Include=".toList ++ '"' :: (identity.toList ++ ['"'])
      = (p ++ versionName ++ ['=']) ++ '"' :: t := by
    rw [← hstart]
    simpa [attributesText, Attribute.text, Element.includes, Element.fresh, attributeStart] using hsplit
  rcases eq_of_quotes hbefore hquote hfront with heq | heq
  · -- the first quote comes behind another name
    have hlast := congrArg (fun cs => cs.reverse.take 8) heq
    simp [versionName] at hlast
  · -- the second one comes behind the identity
    have hword : ∀ {r : List Char}, identity.toList = r ++ versionName ++ ['='] →
        r.getLast?.any isWordChar = true := by
      intro r hr
      by_contra hno
      exact hends ⟨r, hr, Bool.eq_false_iff.2 hno⟩
    have hparts : p ++ (versionName ++ ['='])
        = (indent.toList ++ "<PackageReference Include=".toList ++ ['"']) ++ identity.toList := by
      rw [← List.append_assoc, heq]
      simp
    rcases List.append_eq_append_iff.1 hparts with ⟨r, hp, hr⟩ | ⟨r, rfl, hr⟩
    · cases r using List.reverseRecOn with
      | nil => exact absurd (@hword [] (by simpa using hr.symm)) (by decide)
      | append_singleton r c =>
          rw [← List.append_assoc, ← List.concat_eq_append, ← List.concat_eq_append, List.concat_inj] at hp
          have hmem : '"' ∈ versionName ++ ['='] := by simp [hr, ← hp.2]
          exact absurd hmem (by decide)
    · have hr' := hword (by rw [hr, List.append_assoc])
      have hne : r ≠ [] := by
        rintro rfl
        cases hr'
      rwa [List.getLast?_append_of_ne_nil _ hne, Option.or_none]

/-- A new entry is the only one of its identity. -/
theorem sole_fresh {indent : String} {head tail : List String} (hgroup : Group indent head tail)
    (hidentity : identity ≠ "") (hquote : '"' ∉ identity.toList) (hv : '"' ∉ v.toList)
    (hothers : ∀ l ∈ above ++ beneath, reads .package identity l = false) :
    Sole identity (above ++ head) (.fresh indent.toList identity (some v)) (tail ++ beneath) where
  formed := Element.wellFormed_fresh (hgroup.contains_eq_false (k := .package)).1 hidentity hquote
    (by rintro _ ⟨⟩; exact hv)
  legible := by
    refine ⟨List.not_mem_nil, ?_⟩
    change ¬ attributeStart includeName <:+: []
    decide
  same := by simp [Element.fresh, EntryKind.sameIdentity]
  line := rfl
  others := by
    intro l hl
    have hparts : l ∈ above ++ beneath ∨ l ∈ head ++ tail := by
      simp only [List.mem_append] at hl ⊢
      tauto
    rcases hparts with hl | hl
    · exact hothers l hl
    · exact reads_eq_false_of_cut? (cut?_eq_none (hgroup.contains_eq_false.2 l hl))

/-- The line of a new entry tells its version. -/
theorem opening_fresh_injective {indent value : List Char}
    (h : ((Element.fresh indent identity (some v)).withVersion value).opening .package
      = (Element.fresh indent identity (some w)).opening .package) : value = w.toList := by
  have hlist := congrArg String.toList h
  simpa [Element.opening, Element.withVersion, Element.fresh, Element.attributes, attributesText,
    Attribute.text, Attribute.set, Attribute.ofVersion, Element.includes] using hlist

/-- Without an entry of the identity one is put in, at a place that does not depend on the version. -/
theorem dependOn?_of_no_entry {lines : List String} (h : ∀ l ∈ lines, reads .package identity l = false) :
    ∃ above head indent tail beneath, lines = above ++ beneath ∧ Group indent head tail
      ∧ ∀ v, dependOn? identity v lines = some (above ++ head
        ++ (Element.fresh indent.toList identity (some v)).opening .package :: (tail ++ beneath)) := by
  have hlaid : Laid .package identity [.lines lines] := by
    refine ⟨fun ls hls => ?_, fun e he => ?_⟩
    · cases List.mem_singleton.1 hls
      exact h
    · nomatch List.mem_singleton.1 he
  obtain ⟨above, head, indent, tail, beneath, hlines, hcarry, -, hgroup⟩ := exists_place .package lines
  refine ⟨above, head, indent, tail, beneath, hlines, hgroup, fun v => ?_⟩
  have hmerge := merge?_of_no_entry hlaid (by simp [Piece.isEntry])
    (Entry.mk .package identity (some v)).text
    (some v)
  have hwhole : linesOf .package [.lines lines] = lines := List.append_nil lines
  rw [hwhole] at hmerge
  rw [dependOn?, mergeDependency?_eq, Entry.merge?, hmerge, Option.bind_some, hcarry,
    Element.opening_fresh (.inl rfl)]
  simp

/-! ## Identities that are not found -/

/-- A value of an attribute that is found is accepted, and ends at a quote. -/
theorem value_of_attributeFrom? {name cs : List Char} {accept : List Char → Bool} {inTag : Bool}
    {previous : Option Char} {cut : Cut} (h : attributeFrom? name accept inTag previous cs = some cut) :
    accept cut.value = true ∧ '"' ∉ cut.value := by
  induction cs generalizing previous cut with
  | nil => cases h
  | cons c cs ih =>
      rw [attributeFrom?] at h
      split at h
      next found hfound =>
        cases h
        rw [Option.ite_none_left_eq_some, Option.filter_eq_some_iff] at hfound
        obtain ⟨-, hvalue, haccept⟩ := hfound
        refine ⟨haccept, ?_⟩
        unfold valueOf? at hvalue
        split at hvalue
        · cases hvalue
        next rest _ =>
          split at hvalue
          · cases hvalue
          · cases hvalue
            intro hmem
            simpa using List.mem_takeWhile_imp hmem
      next =>
        split at h
        · cases h
        · obtain ⟨rest, hrest, rfl⟩ := Option.map_eq_some_iff.1 h
          have hvalue := ih hrest
          exact hvalue

/-- An identity that is found has characters, and no quote. -/
theorem value_of_cut? {k : EntryKind} {line : String} {cut : Cut} (h : k.cut? line = some cut) :
    cut.value ≠ [] ∧ '"' ∉ cut.value := by
  have hfound : ∀ {tag cs : List Char} {cut : Cut}, findInclude? tag cs = some cut →
      cut.value ≠ [] ∧ '"' ∉ cut.value := by
    intro tag cs cut h
    induction cs generalizing cut with
    | nil => cases h
    | cons c cs ih =>
        rw [findInclude?] at h
        split at h
        next found hfound =>
          cases h
          unfold includeOf? at hfound
          split at hfound
          · cases hfound
          · rw [Option.ite_none_left_eq_some] at hfound
            obtain ⟨inner, hinner, rfl⟩ := Option.map_eq_some_iff.1 hfound.2
            obtain ⟨haccept, hquote⟩ := value_of_attributeFrom? hinner
            have hne : inner.value ≠ [] := by simpa using haccept
            exact ⟨hne, hquote⟩
        next =>
          obtain ⟨rest, hrest, rfl⟩ := Option.map_eq_some_iff.1 h
          have hvalue := ih hrest
          exact hvalue
  exact hfound h

theorem eq_quote_of_toLower {c : Char} (h : c.toLower = '"') : c = '"' := by
  unfold Char.toLower at h
  split at h
  next hupper =>
    have hval := congrArg (fun c => c.val.toNat) h
    simp [UInt32.le_iff_toNat_le] at hval hupper
    omega
  next => exact h

/-- No line is read as an entry of an identity without characters or with a quote. -/
theorem reads_eq_false (h : identity = "" ∨ '"' ∈ identity.toList) (l : String) :
    reads .package identity l = false := by
  rw [reads, EntryKind.identity?]
  cases hcut : EntryKind.package.cut? l with
  | none => rfl
  | some cut =>
      obtain ⟨hne, hquote⟩ := value_of_cut? hcut
      rw [Option.map_some, Option.any_some, EntryKind.sameIdentity, beq_eq_false_iff_ne]
      simp only [String.toList_ofList]
      intro hsame
      rcases h with rfl | hmem
      · exact hne (List.map_eq_nil_iff.1 hsame)
      · have hlower := List.mem_map_of_mem (f := Char.toLower) hmem
        rw [← hsame] at hlower
        obtain ⟨c, hc, hcase⟩ := List.mem_map.1 hlower
        have hself : Char.toLower '"' = '"' := by decide
        rw [hself] at hcase
        exact hquote (eq_quote_of_toLower hcase ▸ hc)

/-! ## Two versions -/

theorem Element.withVersion_fresh (indent : List Char) (identity v w : String) :
    (Element.fresh indent identity (some v)).withVersion w.toList = .fresh indent identity (some w) := by
  simp [Element.withVersion, Element.fresh, Attribute.set, Attribute.ofVersion]

/-- Where a new entry is found again, its version is set to the other one exactly if that is
literal. -/
theorem dependOn?_twice {lines : List String} (hw : '"' ∉ w.toList) (hv : '"' ∉ v.toList)
    (hidentity : identity ≠ "") (hquote : '"' ∉ identity.toList) (hends : ¬ EndsInVersion identity)
    (hlines : ∀ l ∈ lines, reads .package identity l = false) :
    ∃ first second third, dependOn? identity v lines = some first
      ∧ dependOn? identity w lines = some second ∧ dependOn? identity w first = some third
      ∧ (third = second ↔ IsLiteral w.toList) := by
  obtain ⟨above, head, indent, tail, beneath, rfl, hgroup, hmerge⟩ := dependOn?_of_no_entry hlines
  have hsole := sole_fresh hgroup hidentity hquote hv hlines
  have hattributes : (Element.fresh indent.toList identity (some v)).attributes
      = [(Element.fresh indent.toList identity (some v)).includes] ++ .ofVersion v :: [] := rfl
  have hfront := @overlooked_fresh identity v indent (hgroup.contains_eq_false (k := .package)).1
    hquote hends
  obtain ⟨value, hthird, hliteral⟩ := hsole.dependOn?_tag hattributes rfl ⟨rfl, rfl⟩ hfront hw
  refine ⟨_, _, _, hmerge v, hmerge w, hthird, ?_⟩
  rw [← hliteral, List.append_cancel_left_eq, List.cons.injEq]
  refine ⟨fun h => opening_fresh_injective h.1, ?_⟩
  rintro rfl
  exact ⟨congrArg (Element.opening .package) (Element.withVersion_fresh _ _ _ _), rfl⟩

/-- An entry that is not found again is put in a second time. -/
theorem dependOn?_twice_ne {lines : List String} (h : identity = "" ∨ '"' ∈ identity.toList)
    (v w : String) : ∃ first second third, dependOn? identity v lines = some first
      ∧ dependOn? identity w lines = some second ∧ dependOn? identity w first = some third
      ∧ third ≠ second := by
  have hone : ∀ ls : List String, ∃ count, 0 < count
      ∧ ∀ v, ∃ result, dependOn? identity v ls = some result ∧ result.length = ls.length + count := by
    intro ls
    obtain ⟨above, head, indent, tail, beneath, rfl, -, hmerge⟩ :=
      dependOn?_of_no_entry fun l (_ : l ∈ ls) => reads_eq_false h l
    refine ⟨head.length + 1 + tail.length, by omega, fun v => ⟨_, hmerge v, ?_⟩⟩
    simp only [List.length_append, List.length_cons]
    omega
  obtain ⟨count, hcount, hlines⟩ := hone lines
  obtain ⟨first, hfirst, hfirst'⟩ := hlines v
  obtain ⟨second, hsecond, hsecond'⟩ := hlines w
  obtain ⟨more, hmore, hagain⟩ := hone first
  obtain ⟨third, hthird, hthird'⟩ := hagain w
  refine ⟨first, second, third, hfirst, hsecond, hthird, ?_⟩
  rintro rfl
  omega

/-- **A version is written to the letter exactly if it is literal.**  Into a manifest without an
entry of the identity, merging one version and then another leaves what merging the other alone
leaves, exactly if the other is literal and the identity can be found again.  The version attribute
of the only entry, if it is on one line, is set to the version exactly if that is literal, and
nothing else changes.  An attribute that is added has the version as it was given. -/
theorem dependOn?_literal (identity : String) {w : String} (hw : '"' ∉ w.toList) :
    (∀ v lines, ¬ EndsInVersion identity → '"' ∉ v.toList →
      (∀ l ∈ lines, reads .package identity l = false) →
      ∃ first second third, dependOn? identity v lines = some first
        ∧ dependOn? identity w lines = some second ∧ dependOn? identity w first = some third
        ∧ (third = second ↔ identity ≠ "" ∧ '"' ∉ identity.toList ∧ IsLiteral w.toList))
      ∧ ∀ above e beneath, Sole identity above e beneath →
        (∀ as a bs, e.attributes = as ++ a :: bs → a.name = versionName → a.Plain →
          Overlooked versionName none
            (e.before ++ EntryKind.package.openTag.toList ++ attributesText as) →
          ∃ value, dependOn? identity w (above ++ e.opening .package :: beneath)
              = some (above ++ (e.withVersion value).opening .package :: beneath)
            ∧ (value = w.toList ↔ IsLiteral w.toList))
        ∧ (¬ attributeStart versionName <:+: (e.opening .package).toList →
          dependOn? identity w (above ++ e.opening .package :: beneath)
            = some (above ++ Element.opening .package { e with back := .ofVersion w :: e.back } :: beneath)) := by
  refine ⟨fun v lines hends hv hlines => ?_, fun above e beneath hsole => ⟨?_, fun hnone => ?_⟩⟩
  · by_cases hfound : identity ≠ "" ∧ '"' ∉ identity.toList
    · obtain ⟨first, second, third, hfirst, hsecond, hthird, hiff⟩ :=
        dependOn?_twice hw hv hfound.1 hfound.2 hends hlines
      refine ⟨first, second, third, hfirst, hsecond, hthird, ?_⟩
      rw [hiff]
      exact ⟨fun h => ⟨hfound.1, hfound.2, h⟩, fun h => h.2.2⟩
    · have hlost : identity = "" ∨ '"' ∈ identity.toList := by
        by_contra hno
        rw [not_or] at hno
        exact hfound ⟨hno.1, by simpa using hno.2⟩
      obtain ⟨first, second, third, hfirst, hsecond, hthird, hne⟩ :=
        @dependOn?_twice_ne identity lines hlost v w
      exact ⟨first, second, third, hfirst, hsecond, hthird,
        iff_of_false hne fun h => hfound ⟨h.1, h.2.1⟩⟩
  · exact fun as a bs hattributes hname hplain hfirst =>
      hsole.dependOn?_tag hattributes hname hplain hfirst hw
  · exact hsole.dependOn?_added hnone w

theorem isLiteral_hyphen : IsLiteral "2.0-$-".toList := by
  have hhyphen : ¬ Refers ['-'] := by
    rintro (_ | ⟨hchar⟩ | _)
    exact absurd hchar (by decide)
  simp [isLiteral_cons_iff, isLiteral_of_not_mem, hhyphen]

theorem sole_sample : Sole "Lib" ["<ItemGroup>"] .sample ["</ItemGroup>"] where
  formed := Element.wellFormed_sample .package
  legible := (regular_sampleManifest.entries .sample (by decide)).2
  same := by decide
  line := rfl
  others := by decide

/-- A dollar in front of a hyphen is one, in a new entry as in one that is there. -/
theorem dependOn?_literal_hyphen : (∃ first second,
      dependOn? "Lib" "1.0" ["<Project>", "</Project>"] = some first
        ∧ dependOn? "Lib" "2.0-$-" ["<Project>", "</Project>"] = some second
        ∧ dependOn? "Lib" "2.0-$-" first = some second)
    ∧ dependOn? "Lib" "2.0-$-" ["<ItemGroup>", Element.sample.opening .package, "</ItemGroup>"]
      = some ["<ItemGroup>", (Element.sample.withVersion "2.0-$-".toList).opening .package,
        "</ItemGroup>"] := by
  have hends : ¬ EndsInVersion "Lib" := by
    rintro ⟨front, h, -⟩
    have hlength := congrArg List.length h
    simp [versionName] at hlength
  have hboth := dependOn?_literal "Lib" (w := "2.0-$-") (by decide)
  constructor
  · obtain ⟨first, second, third, hfirst, hsecond, hthird, hiff⟩ :=
      hboth.1 "1.0" ["<Project>", "</Project>"] hends (by decide) (by decide)
    obtain rfl := hiff.2 ⟨by decide, by decide, isLiteral_hyphen⟩
    exact ⟨first, third, hfirst, hsecond, hthird⟩
  · obtain ⟨value, hset, hliteral⟩ := (hboth.2 _ _ _ sole_sample).1 [Element.sample.includes]
      (.ofVersion "1.0") []
      rfl rfl ⟨rfl, rfl⟩ (overlooked_of_absent (by decide))
    obtain rfl := hliteral.2 isLiteral_hyphen
    exact hset

/-- A version with a reference in it is written as it is into a new entry, and without the reference
into one that is there. -/
example : dependOn? "Lib" "2.0-$rev" ["  <PackageReference Include=\"Lib\" Version=\"1.0\" />"]
    = some ["  <PackageReference Include=\"Lib\" Version=\"2.0-\" />"] := by decide

end

end Scaffold.Manifest
