import Mathlib
import Scaffold.Proofs.Manifest.Bounds
import Scaffold.Proofs.Manifest.Revision

/-!
# Layout

A manifest as pieces: entries with an identity, each on lines of its own, and lines between them
that are not read as such an entry (`Laid`).  The spans that a merge finds are the lines of the
entries then (`entries_linesOf`), so the first entry stays where it is and the others go
(`merge?_of_entry`).  Without entries one is put in, and all lines stay (`merge?_of_no_entry`,
`carryOut?_insertEntry_lines`).
-/

namespace Scaffold.Manifest

open Scaffold.Text

/-! ## Pieces -/

/-- A part of a manifest: lines that are taken as they are, or an entry. -/
inductive Piece where
  | lines (ls : List String)
  | entry (e : Element)
deriving Repr, DecidableEq

namespace Piece

/-- The lines of a piece. -/
def text (k : EntryKind) : Piece → List String
  | .lines ls => ls
  | .entry e => e.lines k

/-- Decide whether a piece is an entry. -/
def isEntry : Piece → Bool
  | .lines _ => false
  | .entry _ => true

end Piece

/-- The lines of a manifest. -/
def linesOf (k : EntryKind) (doc : List Piece) : List String := doc.flatMap (Piece.text k)

/-- A line is read as the opening line of an entry with an identity. -/
def reads (k : EntryKind) (identity line : String) : Bool :=
  (k.identity? line).any (k.sameIdentity · identity)

/-- The entries of a manifest are those with an identity, each on lines of its own, and no other
line is read as one. -/
structure Laid (k : EntryKind) (identity : String) (doc : List Piece) : Prop where
  lines : ∀ ls, .lines ls ∈ doc → ∀ l ∈ ls, reads k identity l = false
  entries : ∀ e, .entry e ∈ doc →
    e.WellFormed k ∧ e.Legible ∧ k.sameIdentity e.identity identity = true

/-- The spans of the entries, counted from a line on. -/
def spansFrom (k : EntryKind) : (start : Nat) → List Piece → List (Nat × Nat)
  | _, [] => []
  | start, .lines ls :: doc => spansFrom k (start + ls.length) doc
  | start, .entry e :: doc =>
      (start, start + (e.ending.below k).length) ::
        spansFrom k (start + (e.ending.below k).length + 1) doc

section

variable {k : EntryKind} {identity : String} {e : Element} {doc front back : List Piece}
  {above beneath : List String}

theorem linesOf_append : linesOf k (front ++ back) = linesOf k front ++ linesOf k back :=
  List.flatMap_append

theorem linesOf_cons (p : Piece) : linesOf k (p :: doc) = p.text k ++ linesOf k doc :=
  List.flatMap_cons

/-! ## Finding the entries -/

theorem reads_eq_false_of_cut? {l : String} (h : k.cut? l = none) : reads k identity l = false := by
  rw [reads, EntryKind.identity?, h]
  rfl

/-- The last line of an entry is found. -/
theorem entryEnd_lines (h : e.WellFormed k) :
    entryEnd k (above ++ e.lines k ++ beneath) above.length
      = above.length + (e.ending.below k).length := by
  have hopening : (above ++ e.lines k ++ beneath)[above.length]?.getD "" = e.opening k := by
    simp [Element.lines]
  have hdrop : (above ++ e.lines k ++ beneath).drop (above.length + 1)
      = e.ending.below k ++ beneath := by
    have hlines : above ++ e.lines k ++ beneath
        = (above ++ [e.opening k]) ++ (e.ending.below k ++ beneath) := by simp [Element.lines]
    have hlength : above.length + 1 = (above ++ [e.opening k]).length := by simp
    rw [hlines, hlength, List.drop_left]
  have hcontains : ∀ t : String, t.toList <:+: e.ending.onOpening k →
      contains (e.opening k) t = true := by
    intro t ht
    rw [contains, occursIn_iff, Element.opening, String.toList_ofList]
    exact ht.trans (List.suffix_append _ _).isInfix
  unfold entryEnd
  simp only
  rw [hopening, hdrop]
  cases hending : e.ending with
  | empty rear =>
      have hempty := hcontains "/>" (by rw [hending]; exact ⟨[], rear, rfl⟩)
      rw [hempty]
      rfl
  | short inside rear =>
      have hclosed := hcontains k.closeTag (by
        rw [hending]
        exact ⟨'>' :: inside, rear, rfl⟩)
      rw [hclosed, Bool.or_true]
      rfl
  | long first inner last rear =>
      obtain ⟨hempty, hclosed, hinner, -⟩ := h.closed _ _ _ _ hending
      have hlast : contains (String.ofList (last ++ k.closeTag.toList ++ rear)) k.closeTag = true := by
        rw [contains, occursIn_iff, String.toList_ofList]
        exact ⟨last, rear, rfl⟩
      have hfind : (inner ++ [String.ofList (last ++ k.closeTag.toList ++ rear)] ++ beneath).findIdx?
          (contains · k.closeTag) = some inner.length := by
        rw [List.append_assoc, List.findIdx?_append, List.findIdx?_eq_none_iff.2 hinner,
          List.singleton_append, List.findIdx?_cons, if_pos hlast]
        simp
      rw [hempty, hclosed]
      simp only [Bool.or_self, Bool.false_eq_true, if_false, Ending.below, hfind, List.length_append,
        List.length_singleton]
      omega

/-- The spans of the entries that are found on some of the lines. -/
def spansIn (k : EntryKind) (identity : String) (ls : List String) (start count : Nat) : List (Nat × Nat) :=
  (List.range' start count).filterMap fun i =>
    if ((ls[i]?).bind k.identity?).any (k.sameIdentity · identity) then some (i, entryEnd k ls i) else none

theorem spansIn_add (ls : List String) (start m n : Nat) : spansIn k identity ls start (m + n)
    = spansIn k identity ls start m ++ spansIn k identity ls (start + m) n := by
  rw [spansIn, ← List.range'_append_1, List.filterMap_append]
  rfl

/-- Lines that are not read as entries have no spans. -/
theorem spansIn_quiet {ls : List String} (hls : ∀ l ∈ ls, reads k identity l = false) :
    spansIn k identity (above ++ ls ++ beneath) above.length ls.length = [] := by
  rw [spansIn, List.filterMap_eq_nil_iff]
  intro i hi
  rw [List.mem_range'_1] at hi
  have hlt : i - above.length < ls.length := by omega
  have hin : (above ++ ls ++ beneath)[i]? = some ls[i - above.length] := by
    rw [List.append_assoc, List.getElem?_append_right hi.1, List.getElem?_append_left hlt,
      List.getElem?_eq_getElem hlt]
  have hline := hls _ (List.getElem_mem hlt)
  rw [reads] at hline
  rw [hin, Option.bind_some, hline]
  rfl

/-- An entry has its lines for a span. -/
theorem spansIn_entry (hformed : e.WellFormed k) (hlegible : e.Legible)
    (hsame : k.sameIdentity e.identity identity = true) :
    spansIn k identity (above ++ e.lines k ++ beneath) above.length (e.lines k).length
      = [(above.length, above.length + (e.ending.below k).length)] := by
  have hbelow : spansIn k identity (above ++ e.lines k ++ beneath) (above.length + 1)
      (e.ending.below k).length = [] := by
    have hnone := @spansIn_quiet k identity (above ++ [e.opening k]) beneath (e.ending.below k) fun l hl =>
      reads_eq_false_of_cut? (cut?_eq_none (hformed.below l hl))
    simpa [Element.lines] using hnone
  have hopening : (above ++ e.lines k ++ beneath)[above.length]? = some (e.opening k) := by
    simp [Element.lines]
  have hlength : (e.lines k).length = 1 + (e.ending.below k).length := Nat.add_comm _ 1
  rw [hlength, spansIn_add, hbelow, List.append_nil, spansIn, List.range'_one, List.filterMap_cons]
  simp only [hopening, Option.bind_some, Element.identity?_opening hformed hlegible, Option.any_some,
    hsame, if_true, entryEnd_lines hformed, List.filterMap_nil]

/-- The search finds the entries of a manifest where they are. -/
theorem spansIn_linesOf (h : Laid k identity doc) (above : List String) :
    spansIn k identity (above ++ linesOf k doc) above.length (linesOf k doc).length
      = spansFrom k above.length doc := by
  induction doc generalizing above with
  | nil => rfl
  | cons p doc ih =>
      have hrest : Laid k identity doc :=
        ⟨fun ls hls => h.lines ls (List.mem_cons_of_mem p hls),
          fun e he => h.entries e (List.mem_cons_of_mem p he)⟩
      have hih := ih hrest (above ++ p.text k)
      rw [List.length_append] at hih
      rw [linesOf_cons, List.length_append, spansIn_add, ← List.append_assoc, hih]
      cases p with
      | lines ls =>
          rw [Piece.text, spansIn_quiet (h.lines ls List.mem_cons_self), List.nil_append, spansFrom]
      | entry e =>
          obtain ⟨hformed, hlegible, hsame⟩ := h.entries e List.mem_cons_self
          rw [Piece.text, spansIn_entry hformed hlegible hsame, List.singleton_append, spansFrom]
          rfl

theorem entries_linesOf (h : Laid k identity doc) :
    entries k identity (linesOf k doc) = spansFrom k 0 doc := by
  have hall := spansIn_linesOf h []
  rw [spansIn, List.nil_append, List.length_nil, ← List.range_eq_range'] at hall
  exact hall

/-! ## Taking entries out -/

/-- The spans of entries are on their lines, one after the other. -/
theorem spansFrom_bounds (k : EntryKind) (start : Nat) (doc : List Piece) :
    (∀ span ∈ spansFrom k start doc,
        start ≤ span.1 ∧ span.1 ≤ span.2 ∧ span.2 < start + (linesOf k doc).length)
      ∧ (spansFrom k start doc).Pairwise fun a b => a.2 < b.1 := by
  induction doc generalizing start with
  | nil => exact ⟨nofun, .nil⟩
  | cons p doc ih =>
      cases p with
      | lines ls =>
          obtain ⟨hbounds, hapart⟩ := ih (start + ls.length)
          refine ⟨fun span hspan => ?_, hapart⟩
          have := hbounds span hspan
          rw [linesOf_cons, Piece.text, List.length_append]
          omega
      | entry e =>
          obtain ⟨hbounds, hapart⟩ := ih (start + (e.ending.below k).length + 1)
          have hlength : (linesOf k (.entry e :: doc)).length
              = (e.ending.below k).length + (linesOf k doc).length + 1 := by
            simp only [linesOf_cons, Piece.text, Element.lines, List.cons_append, List.length_cons,
              List.length_append]
          rw [spansFrom, List.forall_mem_cons, List.pairwise_cons, hlength]
          refine ⟨⟨by simp only; omega, fun span hspan => ?_⟩, fun span hspan => ?_, hapart⟩
          · have := hbounds span hspan
            omega
          · have := hbounds span hspan
            simp only
            omega

/-- Without the spans of its entries a manifest is its other lines. -/
theorem cutOutAll_spansFrom (k : EntryKind) (above : List String) (doc : List Piece) :
    cutOutAll (spansFrom k above.length doc) (above ++ linesOf k doc)
      = above ++ linesOf k (doc.filter fun p => !p.isEntry) := by
  induction doc generalizing above with
  | nil => rfl
  | cons p doc ih =>
      cases p with
      | lines ls =>
          have hih := ih (above ++ ls)
          rw [List.length_append, List.append_assoc, List.append_assoc] at hih
          exact hih
      | entry e =>
          have hih := ih (above ++ e.lines k)
          have hlength : (above ++ e.lines k).length
              = above.length + (e.ending.below k).length + 1 := by
            simp [Element.lines, Nat.add_assoc]
          rw [hlength, List.append_assoc] at hih
          change cutOut (above.length, above.length + (e.ending.below k).length)
            (cutOutAll (spansFrom k (above.length + (e.ending.below k).length + 1) doc)
              (above ++ linesOf k (.entry e :: doc))) = _
          rw [linesOf_cons, Piece.text, hih, cutOut]
          simp only
          rw [← hlength, List.append_assoc above, List.take_left, ← List.append_assoc, List.drop_left]
          rfl

/-! ## Merging into entries -/

theorem spansFrom_append (start : Nat) (hfront : ∀ p ∈ front, p.isEntry = false) :
    spansFrom k start (front ++ back) = spansFrom k (start + (linesOf k front).length) back := by
  induction front generalizing start with
  | nil => rfl
  | cons p front ih =>
      rw [List.forall_mem_cons] at hfront
      cases p with
      | lines ls =>
          rw [List.cons_append, spansFrom, ih _ hfront.2, linesOf_cons, Piece.text, List.length_append,
            Nat.add_assoc]
      | entry e => nomatch hfront.1

/-- With entries of the identity, the first stays where it is, with the version, and the others go. -/
theorem merge?_of_entry (h : Laid k identity (front ++ .entry e :: back))
    (hfront : ∀ p ∈ front, p.isEntry = false) {version : Option String}
    (hversion : ∀ v, version = some v → k = .package ∧ e.VersionLegible k ∧ Settable v)
    (entry : String) :
    ∃ edits e', merge? k identity entry version (linesOf k (front ++ .entry e :: back)) = some edits
      ∧ LineEdit.carryOut? (linesOf k (front ++ .entry e :: back)) edits
        = some (linesOf k (front ++ .entry e' :: back.filter fun p => !p.isEntry))
      ∧ (version = none → e' = e) ∧ ∀ v, version = some v → e.Revision v e' := by
  obtain ⟨hformed, hlegible, -⟩ := h.entries e (by simp)
  have hspans : entries k identity (linesOf k (front ++ .entry e :: back))
      = ((linesOf k front).length, (linesOf k front).length + (e.ending.below k).length) ::
        spansFrom k ((linesOf k front).length + (e.ending.below k).length + 1) back := by
    rw [entries_linesOf h, spansFrom_append 0 hfront, Nat.zero_add, spansFrom]
  have hlines : linesOf k (front ++ .entry e :: back)
      = linesOf k front ++ e.lines k ++ linesOf k back := by
    rw [linesOf_append, linesOf_cons, Piece.text, List.append_assoc]
  have hlength : (linesOf k front ++ e.lines k).length
      = (linesOf k front).length + (e.ending.below k).length + 1 := by
    simp [Element.lines, Nat.add_assoc]
  obtain ⟨hbounds, hapart⟩ :=
    spansFrom_bounds k ((linesOf k front).length + (e.ending.below k).length + 1) back
  have hcut := cutOutAll_spansFrom k (linesOf k front ++ e.lines k) back
  rw [hlength] at hcut
  generalize spansFrom k ((linesOf k front).length + (e.ending.below k).length + 1) back = spans
    at hspans hbounds hapart hcut
  have hin : ∀ span ∈ spans, span.1 ≤ span.2
      ∧ span.2 < (linesOf k front ++ e.lines k ++ linesOf k back).length := by
    intro span hspan
    rw [List.length_append, hlength]
    exact (hbounds span hspan).2
  have hremovals := (carryOut?_removals_eq_some_iff (fun span hspan => (hin span hspan).1)).2
    ⟨(removable_of_apart hin hapart).1, rfl⟩
  rw [hcut] at hremovals
  have hresult : ∀ e', linesOf k (front ++ .entry e' :: back.filter fun p => !p.isEntry)
      = linesOf k front ++ e'.lines k ++ linesOf k (back.filter fun p => !p.isEntry) := by
    intro e'
    rw [linesOf_append, linesOf_cons, Piece.text, List.append_assoc]
  cases version with
  | none =>
      refine ⟨removals spans, e, ?_, by rw [hlines, hremovals, hresult], fun _ => rfl,
        fun _ h => absurd h.symm (Option.some_ne_none _)⟩
      rw [merge?_of_entries hspans, hlines, hremovals]
      simp
  | some v =>
      obtain ⟨rfl, hplace, hsettable⟩ := hversion v rfl
      obtain ⟨edits, e', hset, hcarry, hrevision⟩ := Element.setVersion?_lines hformed hlegible hplace
        hsettable (linesOf .package front) (linesOf .package (back.filter fun p => !p.isEntry))
      refine ⟨removals spans ++ edits, e', ?_, ?_, fun h => absurd h (Option.some_ne_none v), ?_⟩
      · rw [merge?_of_entries hspans, hlines, hremovals]
        simp only [Option.bind_some, Option.elim_some, hset, Option.map_some]
      · rw [hlines, LineEdit.carryOut?_append, hremovals, Option.bind_some, hcarry, hresult]
      · rintro _ ⟨⟩
        exact hrevision

/-- Without an entry of the identity one is put in. -/
theorem merge?_of_no_entry (h : Laid k identity doc) (hdoc : ∀ p ∈ doc, p.isEntry = false)
    (entry : String) (version : Option String) :
    merge? k identity entry version (linesOf k doc) = some (insertEntry k entry (linesOf k doc)) := by
  have hspans : entries k identity (linesOf k doc) = [] := by
    have hnone := @spansFrom_append k doc [] 0 hdoc
    rw [List.append_nil] at hnone
    rw [entries_linesOf h, hnone]
    rfl
  unfold merge?
  rw [hspans]

/-! ## Putting an entry in -/

/-- The place where an entry is put in. -/
inductive Place (k : EntryKind) (above beneath : List String) : Prop
  /-- At the end of a group. -/
  | group {l : String} {rest : List String} (beneath : beneath = l :: rest)
      (ends : trim l = "</ItemGroup>")
  /-- Below the first entry, if no group ends there or further down. -/
  | below {l : String} {rest : List String} (above : above = rest ++ [l]) (entry : k.cut? l ≠ none)
      (open_group : ∀ x ∈ l :: beneath, trim x ≠ "</ItemGroup>")
  /-- At the end of the project. -/
  | project {l : String} {rest : List String} (beneath : beneath = l :: rest)
      (ends : trim l = "</Project>")
  /-- Below all lines. -/
  | bottom (beneath : beneath = [])

/-- The lines around an entry that is put in: none, or those of a group of its own. -/
inductive Group (indent : String) : (head tail : List String) → Prop
  | none (blank : ∀ c ∈ indent.toList, isBlank c = true) : Group indent [] []
  | new {outer : String} {gap : List String} (blank : ∀ c ∈ outer.toList, isBlank c = true)
      (apart : gap = [] ∨ gap = [""]) (column : indent = outer ++ "    ") :
      Group indent (gap ++ [outer ++ "  <ItemGroup>"]) [outer ++ "  </ItemGroup>"]

/-- A new group is set off by one blank line or none. -/
theorem groupGap (ls : List String) (index : Nat) :
    (match index with
      | 0 => []
      | i + 1 => if isBlankText (ls[i]?.getD "") then [] else [""] : List String) = []
    ∨ (match index with
      | 0 => []
      | i + 1 => if isBlankText (ls[i]?.getD "") then [] else [""] : List String) = [""] := by
  cases index with
  | zero => exact .inl rfl
  | succ i => exact ite_eq_or_eq _ _ _

/-- The lines of a new group go between the others. -/
theorem exists_place_of_group {ls : List String} {index : Nat} {outer : String} {gap : List String}
    (houter : ∀ c ∈ outer.toList, isBlank c = true) (hgap : gap = [] ∨ gap = [""])
    (hindex : index ≤ ls.length) (hplace : Place k (ls.take index) (ls.drop index)) :
    ∃ above head indent tail beneath, ls = above ++ beneath
      ∧ (∀ entry, LineEdit.carryOut? ls ((gap ++ [outer ++ "  <ItemGroup>", outer ++ "    " ++ entry,
          outer ++ "  </ItemGroup>"]).zipIdx.map fun x => .insert (index + x.2) x.1)
        = some (above ++ (head ++ (indent ++ entry) :: tail) ++ beneath))
      ∧ Place k above beneath ∧ Group indent head tail := by
  refine ⟨_, _, _, _, _, (List.take_append_drop index ls).symm, fun entry => ?_, hplace,
    .new houter hgap rfl⟩
  have hinserts := @LineEdit.carryOut?_inserts (gap ++ [outer ++ "  <ItemGroup>",
    outer ++ "    " ++ entry, outer ++ "  </ItemGroup>"]) ls index 0 hindex
  simpa using hinserts

/-- The place and the lines around an entry that is put in do not depend on the entry. -/
theorem exists_place (k : EntryKind) (ls : List String) :
    ∃ above head indent tail beneath, ls = above ++ beneath
      ∧ (∀ entry, LineEdit.carryOut? ls (insertEntry k entry ls)
        = some (above ++ (head ++ (indent ++ entry) :: tail) ++ beneath))
      ∧ Place k above beneath ∧ Group indent head tail := by
  unfold insertEntry
  cases hfirst : ls.findIdx? fun l => (k.cut? l).isSome with
  | some first =>
      obtain ⟨hlt, hentry, -⟩ := List.findIdx?_eq_some_iff_getElem.1 hfirst
      have hone : ∀ index text, index ≤ ls.length → LineEdit.carryOut? ls [.insert index text]
          = some (ls.take index ++ ([] ++ text :: []) ++ ls.drop index) := by
        intro index text hindex
        simp [LineEdit.carryOut?, LineEdit.tryApply, LineEdit.inRange, LineEdit.apply, hindex]
      have hblank : ∀ c ∈ (leadingBlanks (ls[first]?.getD "")).toList, isBlank c = true :=
        fun c hc => (mem_leadingBlanks hc).1
      simp only
      cases hgroup : (ls.drop first).findIdx? fun l => trim l == "</ItemGroup>" with
      | some offset =>
          obtain ⟨hoffset, hend, -⟩ := List.findIdx?_eq_some_iff_getElem.1 hgroup
          rw [List.length_drop] at hoffset
          have hin : first + offset < ls.length := by omega
          refine ⟨_, [], _, [], _, (List.take_append_drop (first + offset) ls).symm,
            fun _ => hone _ _ (Nat.le_of_lt hin), .group (List.drop_eq_getElem_cons hin) ?_, .none hblank⟩
          rw [List.getElem_drop] at hend
          simpa using hend
      | none =>
          refine ⟨_, [], _, [], _, (List.take_append_drop (first + 1) ls).symm, fun _ => hone _ _ hlt,
            .below (List.take_succ_eq_append_getElem hlt) ?_ ?_, .none hblank⟩
          · exact Option.isSome_iff_ne_none.1 hentry
          · have hall := List.findIdx?_eq_none_iff.1 hgroup
            rw [List.drop_eq_getElem_cons hlt] at hall
            simpa using hall
  | none =>
      simp only
      cases hclose : lastIndex? (fun l => trim l == "</Project>") ls with
      | some i =>
          obtain ⟨l, hget, htrim⟩ := lastIndex?_spec hclose
          obtain ⟨hlt, rfl⟩ := List.getElem?_eq_some_iff.1 hget
          exact exists_place_of_group (fun c hc => (mem_leadingBlanks hc).1) (groupGap ls i)
            (Nat.le_of_lt hlt) (.project (List.drop_eq_getElem_cons hlt) (by simpa using htrim))
      | none =>
          exact exists_place_of_group (by simp) (groupGap ls _) (Nat.le_refl _) (.bottom List.drop_length)

/-- An entry that is put in comes between the lines, all of which stay. -/
theorem carryOut?_insertEntry_lines (k : EntryKind) (entry : String) (ls : List String) :
    ∃ above head indent tail beneath, ls = above ++ beneath
      ∧ LineEdit.carryOut? ls (insertEntry k entry ls)
        = some (above ++ (head ++ (indent ++ entry) :: tail) ++ beneath)
      ∧ Place k above beneath ∧ Group indent head tail := by
  obtain ⟨above, head, indent, tail, beneath, hls, hcarry, hplace, hgroup⟩ := exists_place k ls
  exact ⟨above, head, indent, tail, beneath, hls, hcarry entry, hplace, hgroup⟩

end

end Scaffold.Manifest
