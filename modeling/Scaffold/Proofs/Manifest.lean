import Mathlib
import Scaffold.Manifest
import Scaffold.Proofs.Artifact

/-!
# Merging manifests

A manifest that plans have worked on holds lines without entries and entries of a known set,
each at most once (`Merged`).  An entry that is there leaves nothing to change
(`merge?_of_mem`); one that is not there is put in, with the lines of a group around it if it is
the first of its kind, and nothing else changes (`merge?_of_not_mem`).

What has to be known of the set is collected in `EntrySet`: its entries are found again on their
own lines and told apart.
-/

namespace Scaffold.Manifest

open Scaffold.Text

/-! ## Entries -/

/-- An entry that a manifest has to have. -/
structure Entry where
  /-- What it refers to. -/
  kind : EntryKind
  /-- What it is found by. -/
  identity : String
  /-- The version of a package. -/
  version : Option String
deriving Repr, DecidableEq

namespace Entry

/-- The entry as it is written. -/
def text (e : Entry) : String :=
  match e.kind with
  | .package =>
      "<PackageReference Include=\"" ++ e.identity ++ "\"" ++ (match e.version with
        | some v => " " ++ versionAttribute v
        | none => "") ++ " />"
  | .reference => "<ProjectReference Include=\"" ++ e.identity ++ "\" />"

/-- The line of an entry in a group. -/
def line (e : Entry) : String := "    " ++ e.text

/-- The edits that merge the entry. -/
def merge? (e : Entry) (lines : List String) : Option (List LineEdit) :=
  Manifest.merge? e.kind e.identity e.text e.version lines

end Entry

theorem mergeDependency?_eq (identity : String) (version : Option String) (lines : List String) :
    mergeDependency? identity version lines = (Entry.mk .package identity version).merge? lines :=
  rfl

theorem mergeReference?_eq (identity : String) (lines : List String) :
    mergeReference? identity lines = (Entry.mk .reference identity none).merge? lines := rfl

/-- A line without an entry, which is not indented if it ends the project. -/
structure Inert (l : String) : Prop where
  /-- It has no entry of any kind. -/
  no_entry : ∀ k : EntryKind, k.cut? l = none
  /-- The end of the project stands at the margin. -/
  margin : trim l = "</Project>" → leadingBlanks l = ""

/-- Entries that are found on their lines and told apart. -/
structure EntrySet (known : Entry → Prop) : Prop where
  /-- The identity is found on the line. -/
  found : ∀ {e}, known e → e.kind.identity? e.line = some e.identity
  /-- No entry of the other kind is. -/
  other : ∀ {e}, known e → ∀ k, k ≠ e.kind → k.cut? e.line = none
  /-- Different entries of a kind have different identities. -/
  distinct : ∀ {e e'}, known e → known e' → e.kind = e'.kind →
    e.kind.sameIdentity e.identity e'.identity = true → e = e'
  /-- An entry is closed on its line. -/
  closed : ∀ {e}, known e → contains e.line "/>" = true
  /-- The version is the one on the line. -/
  versioned : ∀ {e}, known e → ∀ v ∈ e.version, setAttribute? v e.line = some e.line
  /-- Entries are indented alike. -/
  indented : ∀ {e}, known e → leadingBlanks e.line = "    "
  /-- None ends the project. -/
  inside : ∀ {e}, known e → trim e.line ≠ "</Project>"

/-- A manifest with lines without entries and with known entries, each at most once. -/
structure Merged (known : Entry → Prop) (ls : List String) : Prop where
  /-- What the lines are. -/
  lines : ∀ l ∈ ls, Inert l ∨ ∃ e, known e ∧ l = e.line
  /-- No entry is there twice. -/
  once : ∀ e, known e → ls.count e.line ≤ 1

section

variable {known : Entry → Prop} {ls : List String} {e : Entry}

theorem EntrySet.line_injective (hset : EntrySet known) {e e' : Entry} (he : known e)
    (he' : known e') (h : e.line = e'.line) : e = e' := by
  by_cases hkind : e.kind = e'.kind
  · refine hset.distinct he he' hkind ?_
    have hsame : some e.identity = some e'.identity := by
      rw [← hset.found he, ← hset.found he', h, hkind]
    rw [Option.some.injEq] at hsame
    simp [EntryKind.sameIdentity, hsame]
  · have hnone := hset.other he' e.kind hkind
    have hfound := hset.found he
    rw [EntryKind.identity?, h, hnone] at hfound
    cases hfound

/-- An entry is no line without entries. -/
theorem EntrySet.not_inert (hset : EntrySet known) (he : known e) : ¬ Inert e.line := by
  intro h
  have hfound := hset.found he
  rw [EntryKind.identity?, h.no_entry e.kind] at hfound
  cases hfound

/-! ## Looking an entry up -/

/-- The places of a text among lines, as the search for entries lists them. -/
theorem length_filterMap_range (x : String) (ls : List String) :
    ((List.range ls.length).filterMap fun i => if ls[i]? = some x then some (i, i) else none).length
      = ls.count x := by
  induction ls using List.reverseRecOn with
  | nil => rfl
  | append_singleton ls a ih =>
      have hfront : (List.range ls.length).filterMap
            (fun i => if (ls ++ [a])[i]? = some x then some (i, i) else none)
          = (List.range ls.length).filterMap
            (fun i => if ls[i]? = some x then some (i, i) else none) := by
        refine List.filterMap_congr fun i hi => ?_
        rw [List.getElem?_append_left (List.mem_range.1 hi)]
      rw [List.length_append, List.length_singleton, List.range_succ, List.filterMap_append, hfront,
        List.length_append, ih, List.count_append]
      by_cases ha : a = x <;> simp [ha]

/-- The entries with a known identity stand where its line does. -/
theorem entries_eq (hset : EntrySet known) (hls : Merged known ls) (he : known e) :
    entries e.kind e.identity ls = (List.range ls.length).filterMap
      fun i => if ls[i]? = some e.line then some (i, i) else none := by
  refine List.filterMap_congr fun i hi => ?_
  have hi : i < ls.length := List.mem_range.1 hi
  have hget : ls[i]? = some ls[i] := List.getElem?_eq_getElem hi
  simp only [hget, Option.bind_some, Option.some.injEq]
  rcases hls.lines ls[i] (List.getElem_mem hi) with hinert | ⟨e', he', hline⟩
  · have hne : ls[i] ≠ e.line := fun h => hset.not_inert he (h ▸ hinert)
    simp [EntryKind.identity?, hinert.no_entry, hne]
  · rw [hline]
    by_cases hee : e' = e
    · subst hee
      have hend : entryEnd e'.kind ls i = i := by
        rw [entryEnd, hget, Option.getD_some, hline, hset.closed he', Bool.true_or, if_pos rfl]
      simp [hset.found he', EntryKind.sameIdentity, hend]
    · have hne : e'.line ≠ e.line := fun h => hee (hset.line_injective he' he h)
      rw [if_neg hne]
      by_cases hkind : e'.kind = e.kind
      · have hdiff : e.kind.sameIdentity e'.identity e.identity = false := by
          rw [Bool.eq_false_iff]
          intro hsame
          exact hee (hset.distinct he' he hkind (hkind ▸ hsame))
        rw [← hkind, hset.found he', hkind]
        simp [hdiff]
      · have hnone := hset.other he' e.kind (Ne.symm hkind)
        simp [EntryKind.identity?, hnone]

/-- An entry whose line is not there is not found. -/
theorem entries_eq_nil (hset : EntrySet known) (hls : Merged known ls) (he : known e)
    (hmem : e.line ∉ ls) : entries e.kind e.identity ls = [] := by
  rw [entries_eq hset hls he, List.filterMap_eq_nil_iff]
  intro i _
  rw [if_neg fun hget => hmem (List.mem_of_getElem? hget)]

/-- An entry that is there leaves nothing to change. -/
theorem merge?_of_mem (hset : EntrySet known) (hls : Merged known ls) (he : known e)
    (hmem : e.line ∈ ls) : e.merge? ls = some [] := by
  have hcount : ls.count e.line = 1 :=
    Nat.le_antisymm (hls.once e he) (List.count_pos_iff.2 hmem)
  have hentries := entries_eq hset hls he
  have hlen := length_filterMap_range e.line ls
  rw [← hentries, hcount] at hlen
  obtain ⟨place, hplace⟩ := List.length_eq_one_iff.1 hlen
  have hin : place ∈ entries e.kind e.identity ls := by simp [hplace]
  rw [hentries, List.mem_filterMap] at hin
  obtain ⟨i, -, hi⟩ := hin
  split at hi
  next hget =>
    cases hi
    rw [Entry.merge?, Manifest.merge?, hplace]
    cases hversion : e.version with
    | none => rfl
    | some v =>
        have hset? := hset.versioned he v hversion
        simp [LineEdit.carryOut?, setVersion?, hget, hset?, replaceEdit]
  · cases hi

/-! ## Putting an entry in -/

/-- Carry out edits that put lines in one after another. -/
def insertAll (ls : List String) (inserts : List (Nat × String)) : List String :=
  inserts.foldl (fun ls (i, text) => LineEdit.apply ls (.insert i text)) ls

theorem editAll_inserts (path : String) (b : Bool) (ls : List String)
    (inserts : List (Nat × String)) :
    (Artifact.ofLines path b ls).editAll (inserts.map fun (i, text) => .insert i text)
      = Artifact.ofLines path b (insertAll ls inserts) := by
  induction inserts generalizing ls with
  | nil => rfl
  | cons ins inserts ih =>
      have hstep := ih (LineEdit.apply ls (.insert ins.1 ins.2))
      rw [← Artifact.edit_insert_ofLines] at hstep
      exact hstep

/-- The lines put in come to those that were there. -/
theorem insertAll_perm (ls : List String) (inserts : List (Nat × String)) :
    (insertAll ls inserts).Perm (inserts.map Prod.snd ++ ls) := by
  induction inserts generalizing ls with
  | nil => exact .refl _
  | cons ins inserts ih =>
      have hone : (LineEdit.apply ls (.insert ins.1 ins.2)).Perm (ins.2 :: ls) := by
        have hmiddle : (ls.take ins.1 ++ ins.2 :: ls.drop ins.1).Perm
            (ins.2 :: (ls.take ins.1 ++ ls.drop ins.1)) := List.perm_middle
        rwa [List.take_append_drop] at hmiddle
      refine (ih _).trans ?_
      refine (List.Perm.append_left _ hone).trans ?_
      exact List.perm_middle

/-- No line goes out. -/
theorem sublist_insertAll (ls : List String) (inserts : List (Nat × String)) :
    ls.Sublist (insertAll ls inserts) := by
  induction inserts generalizing ls with
  | nil => exact .refl _
  | cons ins inserts ih =>
      refine List.Sublist.trans ?_ (ih _)
      calc ls = ls.take ins.1 ++ ls.drop ins.1 := (List.take_append_drop _ _).symm
        List.Sublist _ (ls.take ins.1 ++ ins.2 :: ls.drop ins.1) :=
          (List.Sublist.refl _).append (List.sublist_cons_self _ _)

/-- The lines around the first entry of its kind. -/
def groupLines : List String := ["", "  <ItemGroup>", "  </ItemGroup>"]

/-- The edits put a line in, with lines of a group before and after it. -/
def PutsIn (line : String) (edits : List LineEdit) : Prop :=
  ∃ inserts : List (Nat × String), edits = inserts.map (fun (i, text) => .insert i text)
    ∧ ∃ before after, inserts.map Prod.snd = before ++ line :: after
      ∧ before ⊆ groupLines ∧ after ⊆ groupLines

/-- A group of its own puts an entry in. -/
theorem putsIn_group (e : Entry) (index : Nat) {gap : List String} (hgap : gap ⊆ groupLines) :
    PutsIn e.line ((gap ++ ["  <ItemGroup>", "    " ++ e.text, "  </ItemGroup>"]).zipIdx.map
      fun x => LineEdit.insert (index + x.2) x.1) := by
  refine ⟨(gap ++ ["  <ItemGroup>", "    " ++ e.text, "  </ItemGroup>"]).zipIdx.map
    fun x => (index + x.2, x.1), ?_, gap ++ ["  <ItemGroup>"], ["  </ItemGroup>"], ?_, ?_, ?_⟩
  · rw [List.map_map]
    rfl
  · have hfst : (Prod.snd ∘ fun x : String × Nat => (index + x.2, x.1)) = Prod.fst := rfl
    rw [List.map_map, hfst, List.zipIdx_map_fst, List.append_assoc]
    rfl
  · exact List.append_subset.2 ⟨hgap, by simp [groupLines]⟩
  · simp [groupLines]

/-- The end of the project is at the margin. -/
theorem margin_of_merged (hset : EntrySet known) (hls : Merged known ls) :
    ((lastIndex? (fun l => trim l == "</Project>") ls).map
      fun i => leadingBlanks (ls[i]?.getD "")).getD "" = "" := by
  cases hclose : lastIndex? (fun l => trim l == "</Project>") ls with
  | none => rfl
  | some i =>
      obtain ⟨l, hget, htrim⟩ := lastIndex?_spec hclose
      have htrim : trim l = "</Project>" := by simpa using htrim
      rw [Option.map_some, Option.getD_some, hget, Option.getD_some]
      rcases hls.lines l (List.mem_of_getElem? hget) with hinert | ⟨e', he', hline⟩
      · exact hinert.margin htrim
      · exact absurd (hline ▸ htrim) (hset.inside he')

/-- An entry that is not there is put in on a line of its own, with the lines of a group if it
is the first of its kind. -/
theorem putsIn_insertEntry (hset : EntrySet known) (hls : Merged known ls) (e : Entry) :
    PutsIn e.line (insertEntry e.kind e.text ls) := by
  unfold insertEntry
  split
  next first hfirst =>
    obtain ⟨hlt, hentry, -⟩ := List.findIdx?_eq_some_iff_getElem.1 hfirst
    have hindent : leadingBlanks (ls[first]?.getD "") = "    " := by
      rw [List.getElem?_eq_getElem hlt, Option.getD_some]
      rcases hls.lines ls[first] (List.getElem_mem hlt) with hinert | ⟨e', he', hline⟩
      · rw [hinert.no_entry] at hentry
        cases hentry
      · rw [hline]
        exact hset.indented he'
    rw [hindent]
    exact ⟨[(_, e.line)], rfl, [], [], rfl, by simp, by simp⟩
  next =>
    simp only [margin_of_merged hset hls, String.empty_append]
    generalize (lastIndex? (fun l => trim l == "</Project>") ls).getD ls.length = index
    refine putsIn_group e index ?_
    cases index with
    | zero => simp
    | succ i =>
        simp only
        split <;> simp [groupLines]

/-- An entry that is not there is put in; nothing else but lines without entries comes with it,
and no line goes out. -/
theorem merge?_of_not_mem (hset : EntrySet known) (hgroup : ∀ l ∈ groupLines, Inert l)
    (hls : Merged known ls) (he : known e) (hmem : e.line ∉ ls) :
    ∃ edits ls', e.merge? ls = some edits ∧ edits ≠ []
      ∧ (∀ path b, (Artifact.ofLines path b ls).editAll edits = Artifact.ofLines path b ls')
      ∧ Merged known ls' ∧ e.line ∈ ls' ∧ ls.Sublist ls'
      ∧ ∀ x ∈ ls', x ∈ ls ∨ x = e.line ∨ x ∈ groupLines := by
  obtain ⟨inserts, hedits, before, after, hsnd, hbefore, hafter⟩ := putsIn_insertEntry hset hls e
  have hperm := insertAll_perm ls inserts
  rw [hsnd] at hperm
  have hin : ∀ x ∈ insertAll ls inserts, x ∈ ls ∨ x = e.line ∨ x ∈ groupLines := by
    intro x hx
    have := hperm.mem_iff.1 hx
    simp only [List.mem_append, List.mem_cons] at this
    rcases this with (hx | rfl | hx) | hx
    · exact .inr (.inr (hbefore hx))
    · exact .inr (.inl rfl)
    · exact .inr (.inr (hafter hx))
    · exact .inl hx
  have hnoEntry : entries e.kind e.identity ls = [] := by
    rw [← List.length_eq_zero_iff, entries_eq hset hls he, length_filterMap_range]
    exact List.count_eq_zero.2 hmem
  refine ⟨_, insertAll ls inserts, ?_, ?_, fun path b => editAll_inserts path b ls inserts, ?_, ?_,
    sublist_insertAll ls inserts, hin⟩
  · rw [Entry.merge?, Manifest.merge?, hnoEntry]
    exact congrArg some hedits
  · intro hnil
    rw [List.map_eq_nil_iff] at hnil
    simp [hnil] at hsnd
  · constructor
    · intro x hx
      rcases hin x hx with hx | rfl | hx
      · exact hls.lines x hx
      · exact .inr ⟨e, he, rfl⟩
      · exact .inl (hgroup x hx)
    · intro e' he'
      have hnot : ∀ part : List String, part ⊆ groupLines → part.count e'.line = 0 := by
        intro part hpart
        exact List.count_eq_zero.2 fun h => hset.not_inert he' (hgroup _ (hpart h))
      rw [hperm.count_eq, List.count_append, List.count_append, List.count_cons, hnot _ hbefore,
        hnot _ hafter]
      by_cases hee : e.line = e'.line
      · have hzero : ls.count e'.line = 0 := List.count_eq_zero.2 (hee ▸ hmem)
        simp [hee, hzero]
      · have := hls.once e' he'
        simp [hee, this]
  · refine hperm.mem_iff.2 ?_
    simp

end

end Scaffold.Manifest
