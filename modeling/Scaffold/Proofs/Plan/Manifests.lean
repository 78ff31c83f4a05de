import Mathlib
import Scaffold.Plan.Service
import Scaffold.Proofs.Manifest
import Scaffold.Proofs.Manifest.Attribute
import Scaffold.Proofs.Template

/-!
# The manifests of a project

The packages and references that plans ask for are an `EntrySet` (`planEntry_entrySet`): each is
found again on its own line and none is taken for another, whatever the project is called.  The
lines of the manifest template hold no entry (`inert_fill_manifest`).
-/

namespace Scaffold.Manifest

open Scaffold.Text

/-! ## Finding an entry on its line -/

/-- Inside a word no attribute starts. -/
theorem attributeFrom?_skip {name cs : List Char} {accept : List Char → Bool} {inTag : Bool}
    {previous : Option Char} {c : Char} (hprevious : previous.any isWordChar = true)
    (hc : (inTag && c == '>') = false) :
    attributeFrom? name accept inTag previous (c :: cs)
      = (attributeFrom? name accept inTag (some c) cs).map (Cut.prepend [c]) := by
  simp only [attributeFrom?, hprevious, if_true, hc, Bool.false_eq_true, if_false]

/-- The identity of a tag is the value of its attribute. -/
theorem includeOf?_value {tag identity : List Char} (hlast : tag.getLast?.any isWordChar = true)
    (hne : identity ≠ []) (hquote : '"' ∉ identity) (rest : List Char) :
    ∃ cut, includeOf? tag (tag ++ ' ' :: ("Include=\"".toList ++ (identity ++ '"' :: rest)))
      = some cut ∧ cut.value = identity := by
  have hstop : ∀ c ∈ identity, (c != '"') = true := by
    intro c hc
    rw [bne_iff_ne]
    rintro rfl
    exact hquote hc
  have htake : (identity ++ '"' :: rest).takeWhile (· != '"') = identity := by
    rw [List.takeWhile_append_of_pos hstop]
    simp
  have hdrop : (identity ++ '"' :: rest).dropWhile (· != '"') = '"' :: rest := by
    rw [List.dropWhile_append_of_pos hstop]
    simp
  have hvalue : valueOf? "Include".toList ("Include=\"".toList ++ (identity ++ '"' :: rest))
      = some ⟨"Include=\"".toList, identity, '"' :: rest⟩ := by
    have hname : "Include".toList ++ ['=', '"'] = "Include=\"".toList := by decide
    simp only [valueOf?, hname, dropStart?_eq_some.2 rfl, htake, hdrop]
  have hword : isWordChar ' ' = false := by decide
  have hfound : attributeFrom? "Include".toList (!·.isEmpty) true (some ' ')
      ("Include=\"".toList ++ (identity ++ '"' :: rest)) = some _ :=
    attributeFrom?_here (by simp [hword]) hvalue (by simpa using hne) (by simp)
  rw [includeOf?, dropStart?_eq_some.2 rfl]
  simp only [List.head?_cons, Option.any_some, hword, Bool.false_eq_true, if_false,
    attributeFrom?_skip hlast (by decide : (true && ' ' == '>') = false), hfound]
  exact ⟨_, rfl, rfl⟩

/-- The entry on a line in a group is found by its identity. -/
theorem identity?_entry {k : EntryKind} {identity : String} (hne : identity ≠ "")
    (hquote : '"' ∉ identity.toList) (rest : String) :
    k.identity? ("    " ++ (k.openTag ++ (" Include=\"" ++ (identity ++ ("\"" ++ rest)))))
      = some identity := by
  have hlast : k.openTag.toList.getLast?.any isWordChar = true := by cases k <;> decide
  obtain ⟨cut, hcut, hvalue⟩ := includeOf?_value hlast (by simpa using hne) hquote
    rest.toList
  have htext : ("    " ++ (k.openTag ++ (" Include=\"" ++ (identity ++ ("\"" ++ rest))))).toList
      = ' ' :: ' ' :: ' ' :: ' ' :: (k.openTag.toList
        ++ ' ' :: ("Include=\"".toList ++ (identity.toList ++ '"' :: rest.toList))) := by
    simp [String.toList_append]
  have hskip : ∀ cs, includeOf? k.openTag.toList (' ' :: cs) = none := by
    intro cs
    have : dropStart? k.openTag.toList (' ' :: cs) = none := by cases k <;> rfl
    rw [includeOf?, this]
  have htag : ∃ c cs, k.openTag.toList
        ++ ' ' :: ("Include=\"".toList ++ (identity.toList ++ '"' :: rest.toList)) = c :: cs := by
    cases k <;> exact ⟨_, _, rfl⟩
  obtain ⟨c, cs, hcons⟩ := htag
  rw [EntryKind.identity?, EntryKind.cut?, htext]
  simp only [findInclude?, hskip, hcons]
  rw [hcons] at hcut
  simp only [hcut, Option.map_some, Cut.prepend, hvalue]
  rw [String.ofList_toList]

/-! ## The entries of plans -/

/-- A package in some version. -/
def packageEntry (identity version : String) : Entry := ⟨.package, identity, some version⟩

/-- The packages that plans ask for. -/
def packages : List Entry :=
  [packageEntry "Microsoft.EntityFrameworkCore" "9.0.0",
   packageEntry "Microsoft.EntityFrameworkCore.Design" "9.0.0",
   packageEntry "MediatR" "12.4.1", packageEntry "FluentValidation" "11.11.0"]
    ++ Provider.all.map (fun p => packageEntry p.package p.packageVersion)
    ++ [ExternalSystem.cache, .broker].map (fun e => packageEntry e.package e.packageVersion)

/-- The manifest of a layer as an entry of another. -/
def referenceEntry (l : Locator) (layer : Layer) : Entry := ⟨.reference, l.projectReference layer, none⟩

/-- The entries that plans for a project ask for. -/
def PlanEntry (l : Locator) (e : Entry) : Prop :=
  e ∈ packages ∨ ∃ layer, e = referenceEntry l layer

/-! ### Packages -/

/-- The line of a package, by characters. -/
def packageChars (identity version : List Char) : List Char :=
  "    <PackageReference Include=\"".toList ++ identity ++ "\" Version=\"".toList ++ version
    ++ "\" />".toList

/-- Decide whether a name and a version are dotted and the version is found on the line of the
package as it is. -/
def isWellSet (identity version : List Char) : Bool :=
  !identity.isEmpty && identity.all isDottedChar && version.all isDottedChar
    && ((attributeFrom? "Version".toList (fun _ => true) false none
        (packageChars identity version)).map fun cut =>
          cut.before.take (cut.before.length - "Version=\"".toList.length)
            ++ expand ("Version=\"".toList ++ cut.value ++ ['"'])
              ("Version=\"".toList ++ version ++ ['"'])
            ++ cut.after.drop 1)
      == some (packageChars identity version)

theorem packages_isWellSet : ∀ e ∈ packages, e.kind = .package
    ∧ ∃ v ∈ e.version, isWellSet e.identity.toList v.toList = true := by
  simp only [packages, packageEntry, Provider.all, Provider.package, Provider.packageVersion,
    ExternalSystem.package, ExternalSystem.packageVersion, List.map_cons, List.map_nil,
    List.cons_append, List.nil_append, List.forall_mem_cons, List.not_mem_nil, false_imp_iff,
    implies_true, Option.mem_def, Option.some.injEq, exists_eq_left', true_and, and_true]
  repeat rw [String.toList_ofList]
  decide

/-- Packages are told apart by their names, in any ASCII case. -/
theorem packages_nodup :
    (packages.map fun e => e.identity.toList.map Char.toLower).Nodup := by
  simp only [packages, packageEntry, Provider.all, Provider.package, ExternalSystem.package,
    List.map_cons, List.map_nil, List.cons_append, List.nil_append]
  repeat rw [String.toList_ofList]
  decide

/-- What the check of a package says. -/
structure PackageFacts (e : Entry) (version : String) : Prop where
  kind : e.kind = .package
  version_eq : e.version = some version
  ne_empty : e.identity ≠ ""
  identity : Made isDottedChar e.identity
  version_made : Made isDottedChar version
  set : setAttribute? version e.line = some e.line

theorem package_line {e : Entry} {version : String} (hkind : e.kind = .package)
    (hversion : e.version = some version) :
    e.line = "    <PackageReference Include=\"" ++ e.identity ++ "\" Version=\"" ++ version
      ++ "\" />" := by
  obtain ⟨kind, identity, v⟩ := e
  subst hkind hversion
  apply String.toList_inj.1
  simp [Entry.line, Entry.text, versionAttribute]

theorem setAttribute?_of_isWellSet {e : Entry} {version : String} (hkind : e.kind = .package)
    (hversion : e.version = some version)
    (h : isWellSet e.identity.toList version.toList = true) :
    setAttribute? version e.line = some e.line := by
  unfold isWellSet at h
  rw [Bool.and_eq_true, beq_iff_eq] at h
  obtain ⟨-, hset⟩ := h
  have hchars : e.line.toList = packageChars e.identity.toList version.toList := by
    rw [package_line hkind hversion]
    unfold packageChars
    rw [String.toList_append, String.toList_append, String.toList_append, String.toList_append]
  have hattribute : (versionAttribute version).toList
      = "Version=\"".toList ++ version.toList ++ ['"'] := by
    simp [versionAttribute, String.toList_append]
  rw [setAttribute?, hchars]
  obtain ⟨cut, hcut, hsame⟩ := Option.map_eq_some_iff.1 hset
  rw [hcut, Option.map_some, Option.some.injEq, hattribute]
  apply String.toList_inj.1
  rw [String.toList_ofList, hchars]
  exact hsame

theorem packageFacts {e : Entry} (he : e ∈ packages) : ∃ version, PackageFacts e version := by
  obtain ⟨hkind, version, hversion, hcheck⟩ := packages_isWellSet e he
  have hset := setAttribute?_of_isWellSet hkind hversion hcheck
  unfold isWellSet at hcheck
  rw [Bool.and_eq_true] at hcheck
  obtain ⟨hfront, -⟩ := hcheck
  simp only [Bool.and_eq_true, Bool.not_eq_true', List.isEmpty_eq_false_iff,
    List.all_eq_true] at hfront
  have hne : e.identity ≠ "" := by simpa using hfront.1.1
  exact ⟨version, ⟨hkind, hversion, hne, hfront.1.2, hfront.2, hset⟩⟩

/-! ### References -/

theorem reference_line (l : Locator) (layer : Layer) :
    (referenceEntry l layer).line = "    <ProjectReference Include=\"..\\" ++ l.moduleName layer
      ++ "\\" ++ l.moduleName layer ++ ".csproj\" />" := by
  apply String.toList_inj.1
  simp [referenceEntry, Entry.line, Entry.text, Locator.projectReference]

theorem moduleName_dotted {l : Locator} (h : IsProject l.project) (layer : Layer) :
    Made isDottedChar (l.moduleName layer) := by
  cases layer
  case root =>
    intro c hc
    cases hc
  all_goals exact (h.dotted.append (by decide)).append (by decide)

/-! ### The set -/

/-- The line of every entry begins alike. -/
theorem entry_line (e : Entry) : ∃ rest, e.line
    = "    " ++ (e.kind.openTag ++ (" Include=\"" ++ (e.identity ++ ("\"" ++ rest)))) := by
  obtain ⟨kind, identity, version⟩ := e
  cases kind with
  | package =>
      cases version with
      | none =>
          refine ⟨" />", ?_⟩
          apply String.toList_inj.1
          simp [Entry.line, Entry.text, EntryKind.openTag, EntryKind.element]
      | some v =>
          refine ⟨" " ++ versionAttribute v ++ " />", ?_⟩
          apply String.toList_inj.1
          simp [Entry.line, Entry.text, EntryKind.openTag, EntryKind.element]
  | reference =>
      refine ⟨" />", ?_⟩
      apply String.toList_inj.1
      simp [Entry.line, Entry.text, EntryKind.openTag, EntryKind.element]

/-- The line of every entry ends alike. -/
theorem entry_line_closed (e : Entry) : contains e.line "/>" = true := by
  rw [contains, occursIn_iff]
  obtain ⟨kind, identity, version⟩ := e
  cases kind with
  | package =>
      cases version with
      | none =>
          refine ⟨("    <PackageReference Include=\"" ++ identity ++ "\" ").toList, [], ?_⟩
          simp [Entry.line, Entry.text]
      | some v =>
          refine ⟨("    <PackageReference Include=\"" ++ identity ++ "\" " ++ versionAttribute v
            ++ " ").toList, [], ?_⟩
          simp [Entry.line, Entry.text]
  | reference =>
      refine ⟨("    <ProjectReference Include=\"" ++ identity ++ "\" ").toList, [], ?_⟩
      simp [Entry.line, Entry.text]

/-- The characters the line of every entry begins with. -/
theorem entry_line_chars (e : Entry) :
    ∃ rest, e.line.toList = ' ' :: ' ' :: ' ' :: ' ' :: '<' :: 'P' :: rest := by
  obtain ⟨rest, hline⟩ := entry_line e
  rw [hline]
  cases e.kind <;>
  · simp only [EntryKind.openTag, EntryKind.element, String.toList_append]
    exact ⟨_, rfl⟩

theorem leadingBlanks_entry_line (e : Entry) : leadingBlanks e.line = "    " := by
  obtain ⟨rest, hchars⟩ := entry_line_chars e
  have hblank : isBlank ' ' = true := by decide
  have hstop : isBlank '<' = false := by decide
  simp [leadingBlanks, hchars, hblank, hstop]

theorem trim_entry_line (e : Entry) : trim e.line ≠ "</Project>" := by
  intro htrim
  obtain ⟨rest, hchars⟩ := entry_line_chars e
  have hblank : isBlank ' ' = true := by decide
  have hstop : isBlank '<' = false := by decide
  have hprefix : (trim e.line).toList <+: '<' :: 'P' :: rest := by
    have hdrop : e.line.toList.dropWhile isBlank = '<' :: 'P' :: rest := by
      simp [hchars, hblank, hstop]
    rw [trim, String.toList_ofList, trimChars, hdrop, ← List.reverse_suffix, List.reverse_reverse]
    exact List.dropWhile_suffix _
  rw [htrim] at hprefix
  have := List.cons_prefix_cons.1 (List.cons_prefix_cons.1 hprefix).2
  exact absurd this.1 (by decide)

/-- The line of an entry has no entry of the other kind on it. -/
theorem planEntry_other {l : Locator} (hl : IsProject l.project) {e : Entry} (he : PlanEntry l e)
    {k : EntryKind} (hk : k ≠ e.kind) : k.cut? e.line = none := by
  refine cut?_eq_none ?_
  rcases he with he | ⟨layer, rfl⟩
  · obtain ⟨version, facts⟩ := packageFacts he
    obtain rfl : k = .reference := by
      cases k with
      | package => exact absurd facts.kind.symm hk
      | reference => rfl
    rw [package_line facts.kind facts.version_eq]
    have hidentity := (Shaped.hole .dotted facts.identity : Shaped "" _ _)
    have hversion := (Shaped.hole .dotted facts.version_made : Shaped "" _ _)
    refine (Shaped.lit _ : Shaped "" _ _).not_contains (((((Shaped.lit _).append hidentity).append
      (.lit _)).append hversion).append (.lit _)) ?_
    simp only [EntryKind.openTag, EntryKind.element, String.toList_append]
    repeat rw [String.toList_ofList]
    decide
  · obtain rfl : k = .package := by
      cases k with
      | package => rfl
      | reference => exact absurd rfl hk
    have hmodule := (Shaped.hole .dotted (moduleName_dotted hl layer) : Shaped "" _ _)
    rw [reference_line]
    refine (Shaped.lit _ : Shaped "" _ _).not_contains (((((Shaped.lit _).append hmodule).append
      (.lit _)).append hmodule).append (.lit _)) ?_
    simp only [EntryKind.openTag, EntryKind.element, String.toList_append]
    repeat rw [String.toList_ofList]
    decide

/-- The line of an entry is one line. -/
theorem planEntry_plain {l : Locator} (hl : IsProject l.project) {e : Entry} (he : PlanEntry l e) :
    IsPlain e.line := by
  rcases he with he | ⟨layer, rfl⟩
  · obtain ⟨version, facts⟩ := packageFacts he
    rw [package_line facts.kind facts.version_eq]
    have hidentity := (Shaped.hole .dotted facts.identity : Shaped "" _ _)
    have hversion := (Shaped.hole .dotted facts.version_made : Shaped "" _ _)
    refine (((((Shaped.lit _).append hidentity).append (.lit _)).append hversion).append
      (.lit _)).isPlain ?_
    repeat rw [String.toList_ofList]
    decide
  · have hmodule := (Shaped.hole .dotted (moduleName_dotted hl layer) : Shaped "" _ _)
    rw [reference_line]
    refine (((((Shaped.lit _).append hmodule).append (.lit _)).append hmodule).append
      (.lit _)).isPlain ?_
    repeat rw [String.toList_ofList]
    decide

/-- The identity of an entry can stand in its attribute. -/
theorem planEntry_identity {l : Locator} (hl : IsProject l.project) {e : Entry}
    (he : PlanEntry l e) : e.identity ≠ "" ∧ '"' ∉ e.identity.toList ∧ '/' ∉ e.identity.toList := by
  rcases he with he | ⟨layer, rfl⟩
  · obtain ⟨version, facts⟩ := packageFacts he
    exact ⟨facts.ne_empty, facts.identity.not_mem (by decide), facts.identity.not_mem (by decide)⟩
  · have hmodule := moduleName_dotted hl layer
    have hquote := hmodule.not_mem (c := '"') (by decide)
    have hslash := hmodule.not_mem (c := '/') (by decide)
    refine ⟨?_, ?_, ?_⟩
    · simp [referenceEntry, Locator.projectReference]
    · simp [referenceEntry, Locator.projectReference, hquote]
    · simp [referenceEntry, Locator.projectReference, hslash]

/-- Without slashes nothing is lost when backslashes become slashes. -/
theorem eq_of_map_slash {cs ds : List Char} (hcs : '/' ∉ cs) (hds : '/' ∉ ds)
    (h : (cs.map fun c => if c == '\\' then '/' else c)
      = ds.map fun c => if c == '\\' then '/' else c) : cs = ds := by
  induction cs generalizing ds with
  | nil => exact (List.map_eq_nil_iff.1 h.symm).symm
  | cons c cs ih =>
      cases ds with
      | nil => simp at h
      | cons d ds =>
          rw [List.mem_cons, not_or] at hcs hds
          rw [List.map_cons, List.map_cons, List.cons.injEq] at h
          have hcd : c = d := by
            have h := h.1
            by_cases hc : c = '\\' <;> by_cases hd : d = '\\' <;> simp_all
          rw [hcd, ih hcs.2 hds.2 h.2]

/-- Entries of one kind are told apart by their identities. -/
theorem planEntry_distinct {l : Locator} (hl : IsProject l.project) {e e' : Entry}
    (he : PlanEntry l e) (he' : PlanEntry l e') (hkind : e.kind = e'.kind)
    (hsame : e.kind.sameIdentity e.identity e'.identity = true) : e = e' := by
  obtain ⟨-, -, hslash⟩ := planEntry_identity hl he
  obtain ⟨-, -, hslash'⟩ := planEntry_identity hl he'
  rcases he with he | ⟨layer, rfl⟩
  · obtain ⟨version, facts⟩ := packageFacts he
    rcases he' with he' | ⟨layer, rfl⟩
    · refine List.inj_on_of_nodup_map packages_nodup he he' ?_
      simpa [facts.kind, EntryKind.sameIdentity] using hsame
    · rw [facts.kind] at hkind
      cases hkind
  · rcases he' with he' | ⟨layer', rfl⟩
    · obtain ⟨version, facts⟩ := packageFacts he'
      rw [facts.kind] at hkind
      cases hkind
    · have hid : l.projectReference layer = l.projectReference layer' := by
        apply String.toList_inj.1
        refine eq_of_map_slash hslash hslash' ?_
        simpa [EntryKind.sameIdentity, referenceEntry] using hsame
      simp [referenceEntry, hid]

/-- The entries of plans are found again and told apart. -/
theorem planEntry_entrySet {l : Locator} (hl : IsProject l.project) : EntrySet (PlanEntry l) where
  found {e} he := by
    obtain ⟨hne, hquote, -⟩ := planEntry_identity hl he
    obtain ⟨rest, hline⟩ := entry_line e
    rw [hline]
    exact identity?_entry hne hquote rest
  other he _ hk := planEntry_other hl he hk
  distinct he he' := planEntry_distinct hl he he'
  closed {e} _ := entry_line_closed e
  versioned {e} he v hv := by
    rcases he with he | ⟨layer, rfl⟩
    · obtain ⟨version, facts⟩ := packageFacts he
      rw [facts.version_eq] at hv
      cases hv
      exact facts.set
    · cases hv
  indented {e} _ := leadingBlanks_entry_line e
  inside {e} _ := trim_entry_line e

/-! ## Lines without entries -/

/-- A trimmed line is a part of the line. -/
theorem trim_infix (l : String) : (trim l).toList <:+: l.toList := by
  rw [trim, String.toList_ofList, trimChars]
  refine List.IsInfix.trans ?_ (List.dropWhile_suffix isBlank).isInfix
  have := (List.dropWhile_suffix isBlank (l := (l.toList.dropWhile isBlank).reverse)).reverse
  rw [List.reverse_reverse] at this
  exact this.isInfix

/-- Decide whether no line of a shape has an entry or is the end of the project away from the
margin. -/
def isInertShape (shape : List Atom) : Bool :=
  !mayOccur false (fixed "<PackageReference".toList) shape
    && !mayOccur false (fixed "<ProjectReference".toList) shape
    && (!mayOccur false (fixed "</Project>".toList) shape
      || match shape with
        | .char c :: _ => !isBlank c
        | _ => false)

theorem inert_of_shaped {name line : String} {shape : List Atom} (h : Shaped name shape line)
    (hinert : isInertShape shape = true) : Inert line := by
  unfold isInertShape at hinert
  simp only [Bool.and_eq_true, Bool.or_eq_true, Bool.not_eq_true'] at hinert
  obtain ⟨⟨hpackage, hreference⟩, hend⟩ := hinert
  constructor
  · intro k
    refine cut?_eq_none ?_
    cases k with
    | package => exact (Shaped.lit _ : Shaped "" _ _).not_contains h hpackage
    | reference => exact (Shaped.lit _ : Shaped "" _ _).not_contains h hreference
  · intro htrim
    rcases hend with hend | hend
    · have hno := (Shaped.lit _ : Shaped "" _ _).not_contains h hend
      rw [contains, occursIn_iff.2 (htrim ▸ trim_infix line)] at hno
      cases hno
    · unfold Shaped at h
      generalize hchars : line.toList = cs at h
      cases h with
      | nil => cases hend
      | some kind hfront rest => cases hend
      | var kind hname rest => cases hend
      | char c rest =>
          have hc : isBlank c = false := by simpa using hend
          simp [leadingBlanks, hchars, hc]

/-- The lines of a group have no entry. -/
theorem inert_groupLines : ∀ l ∈ groupLines, Inert l := by
  have hcheck : ∀ l ∈ groupLines, isInertShape (fixed l.toList) = true := by
    simp only [groupLines, List.forall_mem_cons, List.not_mem_nil, false_imp_iff, implies_true,
      isInertShape]
    repeat rw [String.toList_ofList]
    decide
  exact fun l hl => inert_of_shaped (.lit l : Shaped "" _ _) (hcheck l hl)

/-- The lines of a new manifest have no entry. -/
theorem inert_fill_manifest {ctx : Context} (h : ctx.Suits .manifest) :
    ∀ l ∈ Template.manifest.lines, Inert (ctx.fill l) := by
  have hcheck : ∀ l ∈ Template.manifest.lines,
      isInertShape (shapeOfLine (Piece.read 0 l.toList)) = true := by
    simp only [Template.lines, Template.manifestLines, Template.sdk, Template.moduleName, slot,
      List.forall_mem_cons, List.not_mem_nil, false_imp_iff, implies_true, isInertShape,
      String.toList_append]
    repeat rw [String.toList_ofList]
    decide
  exact fun l hl => inert_of_shaped (shaped_fill h hl "") (hcheck l hl)

end Scaffold.Manifest
