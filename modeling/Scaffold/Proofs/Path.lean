import Mathlib
import Scaffold.Path
import Scaffold.Proofs.Text.Lines

/-!
# What paths name

A path of plain segments below a root names the components of the root and then the
segments (`components_under`), whatever way the root is spelled.  The directory that holds a
path names its components without the last one (`components_parent`).
-/

namespace Scaffold

open Scaffold.Text

namespace Path

/-! ## Pieces between slashes -/

theorem splitOnChar_ne_nil (sep : Char) (s : String) : splitOnChar sep s ≠ [] := by
  simpa [splitOnChar] using piecesBy_ne_nil (· == sep) s.toList

/-- A slash divides the pieces before it from those after it. -/
theorem splitOnChar_slash (a b : String) :
    splitOnChar '/' (a ++ "/" ++ b) = splitOnChar '/' a ++ splitOnChar '/' b := by
  have hslash : (a ++ "/" ++ b).toList = a.toList ++ '/' :: b.toList := by simp
  rw [splitOnChar, hslash, piecesBy_append_sep (by rfl), List.map_append]
  rfl

/-- A text without slashes is one piece. -/
theorem splitOnChar_of_not_mem {s : String} (h : '/' ∉ s.toList) : splitOnChar '/' s = [s] := by
  have hno : ∀ c ∈ s.toList, (c == '/') = false := by
    intro c hc
    rw [beq_eq_false_iff_ne]
    rintro rfl
    exact h hc
  simp [splitOnChar, piecesBy_of_forall hno]

/-- No piece between slashes holds a slash. -/
theorem not_mem_of_mem_splitOnChar {s piece : String} (h : piece ∈ splitOnChar '/' s) :
    '/' ∉ piece.toList := by
  obtain ⟨cs, hcs, rfl⟩ := List.mem_map.1 h
  intro hmem
  rw [String.toList_ofList] at hmem
  have := not_mem_piecesBy hcs hmem
  simp at this

/-- Pieces put together with slashes fall into the same pieces. -/
theorem splitOnChar_joinWith {ps : List String} (hne : ps ≠ []) (h : ∀ p ∈ ps, '/' ∉ p.toList) :
    splitOnChar '/' (joinWith "/" ps) = ps := by
  induction ps with
  | nil => exact absurd rfl hne
  | cons p ps ih =>
      have hp := splitOnChar_of_not_mem (h p List.mem_cons_self)
      cases ps with
      | nil => exact hp
      | cons q rest =>
          have hrest := ih (by simp) fun r hr => h r (List.mem_cons_of_mem _ hr)
          rw [joinWith, splitOnChar_slash, hp, hrest]
          rfl

/-! ## Segments -/

/-- A piece that names one step downwards. -/
structure IsSegment (s : String) : Prop where
  /-- It is not empty. -/
  ne_empty : s ≠ ""
  /-- It is not the directory itself. -/
  ne_dot : s ≠ "."
  /-- It is not the directory above. -/
  ne_dots : s ≠ ".."
  /-- It is one piece. -/
  no_slash : '/' ∉ s.toList

theorem component?_of_isSegment {s : String} (h : IsSegment s) : component? s = some (.name s) := by
  simp [component?, h.ne_empty, h.ne_dot, h.ne_dots]

theorem filterMap_component?_of_isSegment {segments : List String}
    (h : ∀ s ∈ segments, IsSegment s) :
    segments.filterMap component? = segments.map Component.name := by
  induction segments with
  | nil => rfl
  | cons s segments ih =>
      rw [List.filterMap_cons, component?_of_isSegment (h s List.mem_cons_self),
        ih fun t ht => h t (List.mem_cons_of_mem _ ht)]
      rfl

theorem isAbsolute_of_head {s : String} (h : '/' ∉ s.toList) : isAbsolute s = false := by
  unfold isAbsolute
  cases hs : s.toList with
  | nil => rfl
  | cons c cs =>
      have : c ≠ '/' := by
        rintro rfl
        exact h (by simp [hs])
      simpa using this

theorem isAbsolute_append {a b : String} (ha : a ≠ "") : isAbsolute (a ++ b) = isAbsolute a := by
  unfold isAbsolute
  rw [String.toList_append]
  cases h : a.toList with
  | nil => exact absurd (by simpa using h) ha
  | cons c cs => rfl

/-- More pieces at the end are more components at the end, and idle pieces do not count. -/
theorem components_extend {x base : String} {ps qs : List String} (es : List String)
    (habs : isAbsolute x = isAbsolute base) (hx : splitOnChar '/' x = ps ++ qs)
    (hbase : splitOnChar '/' base = ps ++ es) (hps : ps ≠ [])
    (hidle : es.filterMap component? = []) :
    components x = components base ++ qs.filterMap component? := by
  have hhead (rs : List String) : (ps ++ rs).head? = ps.head? := by
    cases ps with
    | nil => exact absurd rfl hps
    | cons p ps => rfl
  simp only [components, habs, hx, hbase, hhead, List.filterMap_append, hidle, List.append_nil]
  split
  · rfl
  · split <;> rfl

/-- A relative path put after another adds what its pieces name. -/
theorem components_join (base : String) {rest : String} (hrel : isAbsolute rest = false)
    (hfirst : (splitOnChar '/' rest).head? ≠ some ".") :
    components (join base rest) = components base ++ (splitOnChar '/' rest).filterMap component? := by
  unfold join
  rw [if_neg (by simp [hrel])]
  by_cases hempty : base = ""
  · subst hempty
    have hnil : components "" = [] := by decide
    rw [if_pos (by simp), hnil, String.empty_append]
    simp [components, hrel, hfirst]
  · by_cases hslash : base.toList.getLast? = some '/'
    · obtain ⟨front, hfront⟩ := List.getLast?_eq_some_iff.1 hslash
      have hbase : base = String.ofList front ++ "/" ++ "" := by
        apply String.toList_inj.1
        simp [hfront]
      have hjoined : base ++ rest = String.ofList front ++ "/" ++ rest := by
        rw [hbase]
        simp [String.append_assoc]
      rw [if_pos (by simp [hslash])]
      have hpieces : splitOnChar '/' base = splitOnChar '/' (String.ofList front) ++ [""] := by
        rw [hbase, splitOnChar_slash]
        rfl
      refine components_extend [""] (isAbsolute_append hempty) ?_ hpieces (splitOnChar_ne_nil _ _)
        (by decide)
      rw [hjoined, splitOnChar_slash]
    · rw [if_neg (by simp [hempty, hslash])]
      refine components_extend [] ?_ (splitOnChar_slash base rest) (List.append_nil _).symm
        (splitOnChar_ne_nil _ _) rfl
      rw [String.append_assoc, isAbsolute_append hempty]

theorem isAbsolute_joinWith {s : String} (hs : s ≠ "") (rest : List String) :
    isAbsolute (joinWith "/" (s :: rest)) = isAbsolute s := by
  cases rest with
  | nil => rfl
  | cons t rest => rw [joinWith, String.append_assoc, isAbsolute_append hs]

/-! ## Paths of segments -/

/-- Segments put together one by one are the segments with slashes between them. -/
theorem foldl_join_segments {segments : List String} (h : ∀ s ∈ segments, IsSegment s)
    {base : String} (hne : base ≠ "") (hlast : base.toList.getLast? ≠ some '/') :
    segments.foldl join base = joinWith "/" (base :: segments) := by
  induction segments generalizing base with
  | nil => rfl
  | cons s segments ih =>
      have hs := h s List.mem_cons_self
      have hrest := fun t ht => h t (List.mem_cons_of_mem s ht)
      have hjoin : join base s = base ++ "/" ++ s := by
        simp [join, isAbsolute_of_head hs.no_slash, hne, hlast]
      have hslast : (base ++ "/" ++ s).toList.getLast? ≠ some '/' := by
        intro heq
        rw [String.toList_append, List.getLast?_append_of_ne_nil _ (by simpa using hs.ne_empty)]
          at heq
        exact hs.no_slash (List.mem_of_getLast? heq)
      rw [List.foldl_cons, hjoin, ih hrest (by simp [hs.ne_empty]) hslast]
      cases segments with
      | nil => rfl
      | cons t rest => simp [joinWith, String.append_assoc]

/-- The text of a path of segments. -/
theorem text_ofSegments {segments : List String} (hne : segments ≠ [])
    (h : ∀ s ∈ segments, IsSegment s) :
    (RelativePath.ofSegments segments).text = joinWith "/" segments := by
  have hfilter : segments.filter (!·.isEmpty) = segments := by
    rw [List.filter_eq_self]
    intro s hs
    simpa using (h s hs).ne_empty
  rw [RelativePath.ofSegments, hfilter]
  cases segments with
  | nil => exact absurd rfl hne
  | cons s rest =>
      have hs := h s List.mem_cons_self
      have hjoin : join "" s = s := by simp [join, isAbsolute_of_head hs.no_slash]
      rw [List.foldl_cons, hjoin]
      refine foldl_join_segments (fun t ht => h t (List.mem_cons_of_mem _ ht)) hs.ne_empty ?_
      intro hlast
      exact hs.no_slash (List.mem_of_getLast? hlast)

/-- The pieces of a path of segments are the segments. -/
theorem splitOnChar_ofSegments {segments : List String} (hne : segments ≠ [])
    (h : ∀ s ∈ segments, IsSegment s) :
    splitOnChar '/' (RelativePath.ofSegments segments).text = segments := by
  rw [text_ofSegments hne h]
  exact splitOnChar_joinWith hne fun s hs => (h s hs).no_slash

/-! ## The directory above -/

theorem filterMap_dropIdle (ps : List String) :
    (dropIdle ps).filterMap component? = ps.filterMap component? := by
  have key (qs : List String) :
      (qs.dropWhile fun p => p.isEmpty || p == ".").filterMap component?
        = qs.filterMap component? := by
    induction qs with
    | nil => rfl
    | cons q qs ih =>
        rw [List.dropWhile_cons]
        split
        next hidle =>
          have hnone : component? q = none := by simp [component?, hidle]
          rw [ih, List.filterMap_cons, hnone]
        · rfl
  rw [dropIdle, List.filterMap_reverse, key, List.filterMap_reverse, List.reverse_reverse]

/-- The last piece that is not idle names something. -/
theorem dropIdle_eq_nil_or (ps : List String) :
    dropIdle ps = [] ∨ ∃ front last c, dropIdle ps = front ++ [last] ∧ component? last = some c := by
  unfold dropIdle
  cases hrev : ps.reverse.dropWhile fun p => p.isEmpty || p == "." with
  | nil => exact .inl rfl
  | cons last front =>
      have hlast : (last.isEmpty || last == ".") = false := by
        have := List.head?_dropWhile_not (fun p : String => p.isEmpty || p == ".") ps.reverse
        rw [hrev] at this
        simpa using this
      refine .inr ⟨front.reverse, last, if last = ".." then .parent else .name last, by simp, ?_⟩
      simp only [component?, hlast, Bool.false_eq_true, if_false, beq_iff_eq]
      split <;> rfl

/-- Dropping the last piece that names something drops the last component. -/
theorem filterMap_dropLastNamed (ps : List String) :
    (dropLastNamed ps).filterMap component? = (ps.filterMap component?).dropLast := by
  rw [dropLastNamed, filterMap_dropIdle, ← filterMap_dropIdle ps]
  rcases dropIdle_eq_nil_or ps with h | ⟨front, last, c, h, hc⟩
  · simp [h]
  · simp [h, hc]

theorem prefix_dropIdle (ps : List String) : dropIdle ps <+: ps := by
  have := List.dropWhile_suffix (fun p : String => p.isEmpty || p == ".") (l := ps.reverse)
  rw [← List.reverse_prefix, List.reverse_reverse] at this
  exact this

theorem prefix_dropLastNamed (ps : List String) : dropLastNamed ps <+: ps :=
  ((prefix_dropIdle _).trans (List.dropLast_prefix _)).trans (prefix_dropIdle ps)

/-- A text with something in it is absolute exactly when its first piece is empty. -/
theorem isAbsolute_iff_first {p first : String} {rest : List String} (hne : p ≠ "")
    (h : splitOnChar '/' p = first :: rest) : isAbsolute p = true ↔ first = "" := by
  unfold splitOnChar at h
  unfold isAbsolute
  cases hp : p.toList with
  | nil => exact absurd (by simpa using hp) hne
  | cons c cs =>
      rw [hp] at h
      by_cases hc : c = '/'
      · subst hc
        simp only [piecesBy, beq_self_eq_true, if_true, List.map_cons, List.cons.injEq] at h
        rw [← h.1]
        exact ⟨fun _ => rfl, fun _ => rfl⟩
      · have hbeq : (c == '/') = false := by simpa using hc
        simp only [piecesBy, hbeq, Bool.false_eq_true, if_false] at h
        split at h <;>
        · simp only [List.map_cons, List.cons.injEq] at h
          rw [← h.1]
          simp [hc]

/-- The components of a path, by its pieces between slashes. -/
theorem components_of_pieces {p first : String} {rest : List String} (hne : p ≠ "")
    (h : splitOnChar '/' p = first :: rest) :
    components p = if first = "" then .root :: rest.filterMap component?
      else if first = "." then .current :: rest.filterMap component?
      else (first :: rest).filterMap component? := by
  have habs := isAbsolute_iff_first hne h
  by_cases hfirst : first = ""
  · subst hfirst
    simp [components, habs.2 rfl, h, component?]
  · have hrel : isAbsolute p = false := by simpa using mt habs.1 hfirst
    by_cases hdot : first = "."
    · subst hdot
      simp [components, hrel, h, component?]
    · simp [components, hrel, h, hfirst, hdot]

/-- The components of pieces that are joined, where the first one is not empty. -/
theorem components_joinWith {first : String} {rest : List String} (hfirst : first ≠ "")
    (hslash : ∀ q ∈ first :: rest, '/' ∉ q.toList) :
    components (joinWith "/" (first :: rest)) = if first = "." then .current :: rest.filterMap component?
      else (first :: rest).filterMap component? := by
  have hsplit : splitOnChar '/' (joinWith "/" (first :: rest)) = first :: rest :=
    splitOnChar_joinWith (by simp) hslash
  have hne : joinWith "/" (first :: rest) ≠ "" := by
    intro hempty
    have hone : splitOnChar '/' "" = [""] := by decide
    rw [hempty, hone, List.cons.injEq] at hsplit
    exact hfirst hsplit.1.symm
  rw [components_of_pieces hne hsplit, if_neg hfirst]

/-- The components of pieces that are joined behind a slash. -/
theorem components_slash_joinWith {rest : List String} (hslash : ∀ q ∈ rest, '/' ∉ q.toList) :
    components ("/" ++ joinWith "/" rest) = .root :: rest.filterMap component? := by
  have hempty : splitOnChar '/' "" = [""] := by decide
  have hidle : component? "" = none := by decide
  have hpieces : (splitOnChar '/' (joinWith "/" rest)).filterMap component?
      = rest.filterMap component? := by
    cases rest with
    | nil => decide
    | cons q qs => rw [splitOnChar_joinWith (by simp) hslash]
  have hsplit : splitOnChar '/' ("/" ++ joinWith "/" rest)
      = "" :: splitOnChar '/' (joinWith "/" rest) := by
    have := splitOnChar_slash "" (joinWith "/" rest)
    rwa [String.empty_append, hempty] at this
  rw [components_of_pieces (by simp) hsplit, if_pos rfl, hpieces]

/-- All pieces are idle exactly if none of them names a component. -/
theorem isEmpty_dropIdle_iff (ps : List String) :
    (dropIdle ps).isEmpty = true ↔ ps.filterMap component? = [] := by
  rw [← filterMap_dropIdle]
  rcases dropIdle_eq_nil_or ps with h | ⟨front, last, c, h, hc⟩
  · simp [h]
  · simp [h, hc]

/-- The directory that holds a path names the components of the path without the last one. -/
theorem components_parent {p dir : String} (h : parent p = some dir) :
    components dir = (components p).dropLast := by
  obtain ⟨above, habove, hdir⟩ := Option.map_eq_some_iff.1 h
  have hroot : components p ≠ [.root] := by
    intro hroot
    rw [hroot] at habove
    cases habove
  have hne : p ≠ "" := by
    rintro rfl
    cases habove
  have hslash : ∀ q ∈ splitOnChar '/' p, '/' ∉ q.toList :=
    fun q hq => not_mem_of_mem_splitOnChar hq
  cases hsplit : splitOnChar '/' p with
  | nil => exact absurd hsplit (splitOnChar_ne_nil _ _)
  | cons first rest =>
      have hcomponents := components_of_pieces hne hsplit
      rw [hsplit] at hdir hslash
      have hrest : ∀ q ∈ dropLastNamed rest, '/' ∉ q.toList := fun q hq =>
        hslash q (List.mem_cons_of_mem _ ((prefix_dropLastNamed rest).subset hq))
      by_cases hfirst : first = ""
      · -- an absolute path
        subst hfirst
        obtain rfl : dir = "/" ++ joinWith "/" (dropLastNamed rest) := by simpa using hdir.symm
        rw [if_pos rfl] at hcomponents
        rw [hcomponents] at hroot ⊢
        rw [components_slash_joinWith hrest, filterMap_dropLastNamed,
          List.dropLast_cons_of_ne_nil fun hnil => hroot (by rw [hnil])]
      have hfalse : first.isEmpty = false := by simpa using hfirst
      simp only [hfalse, Bool.false_eq_true, if_false] at hdir
      rw [if_neg hfirst] at hcomponents
      by_cases hdot : first = "."
      · -- a path that begins at the directory itself
        subst hdot
        rw [if_pos rfl] at hcomponents
        by_cases hidle : (dropIdle rest).isEmpty = true
        · obtain rfl : dir = "" := by simpa [hidle] using hdir.symm
          rw [hcomponents, (isEmpty_dropIdle_iff rest).1 hidle]
          decide
        · obtain rfl : dir = joinWith "/" ("." :: dropLastNamed rest) := by
            simpa [hidle] using hdir.symm
          rw [hcomponents, components_joinWith hfirst (List.forall_mem_cons.2
            ⟨hslash _ List.mem_cons_self, hrest⟩), if_pos rfl, filterMap_dropLastNamed,
            List.dropLast_cons_of_ne_nil (mt (isEmpty_dropIdle_iff rest).2 hidle)]
      · -- a path that begins with a name
        obtain rfl : dir = joinWith "/" (dropLastNamed (first :: rest)) := by
          simpa [hdot] using hdir.symm
        have hprefix := prefix_dropLastNamed (first :: rest)
        rw [if_neg hdot] at hcomponents
        rw [hcomponents, ← filterMap_dropLastNamed]
        cases hkept : dropLastNamed (first :: rest) with
        | nil => decide
        | cons q qs =>
            rw [hkept, List.cons_prefix_cons] at hprefix
            obtain ⟨rfl, hqs⟩ := hprefix
            rw [components_joinWith hfirst fun r hr => hslash r (List.cons_subset_cons _ hqs.subset hr),
              if_neg hdot]

theorem dropLast_of_parentComponents {cs above : List Component}
    (h : parentComponents cs = some above) : above = cs.dropLast := by
  unfold parentComponents at h
  split at h
  · cases h
  · cases h
  · exact (Option.some.inj h).symm

theorem map_components_parent (p : String) :
    (parent p).map components = parentComponents (components p) := by
  cases h : parent p with
  | none =>
      rw [parent, Option.map_eq_none_iff] at h
      rw [h, Option.map_none]
  | some dir =>
      obtain ⟨above, habove, -⟩ := Option.map_eq_some_iff.1 h
      rw [Option.map_some, components_parent h, habove, dropLast_of_parentComponents habove]

/-! ## Paths with nothing above them -/

/-- Before what the pieces name there is at most the root or the directory itself. -/
theorem exists_components_eq (p : String) :
    ∃ front, (front = [] ∨ front = [.root] ∨ front = [.current])
      ∧ components p = front ++ (splitOnChar '/' p).filterMap component? := by
  unfold components
  dsimp only
  split
  · exact ⟨[.root], by simp, rfl⟩
  · split
    · exact ⟨[.current], by simp, rfl⟩
    · exact ⟨[], by simp, rfl⟩

theorem component?_ne_root (piece : String) : component? piece ≠ some .root := by
  unfold component?
  split
  · simp
  · split <;> simp

/-- No path leads to the root from elsewhere. -/
theorem components_of_last_root {p : String} (h : (components p).getLast? = some .root) :
    components p = [.root] := by
  obtain ⟨front, hfront, hp⟩ := exists_components_eq p
  rw [hp] at h ⊢
  cases hnamed : (splitOnChar '/' p).filterMap component? with
  | nil =>
      rw [hnamed, List.append_nil] at h
      obtain rfl | rfl | rfl := hfront
      · cases h
      · rfl
      · cases h
  | cons c cs =>
      rw [hnamed, List.getLast?_append_of_ne_nil _ (List.cons_ne_nil c cs), ← hnamed] at h
      obtain ⟨piece, -, hpiece⟩ := List.mem_filterMap.1 (List.mem_of_getLast? h)
      exact absurd hpiece (component?_ne_root piece)

/-- Only the empty path has no components. -/
theorem components_eq_nil_iff {p : String} : components p = [] ↔ p = "" := by
  constructor
  · intro hnil
    by_contra hne
    cases hsplit : splitOnChar '/' p with
    | nil => exact splitOnChar_ne_nil _ _ hsplit
    | cons first rest =>
        rw [components_of_pieces hne hsplit] at hnil
        split_ifs at hnil with hfirst hdot
        -- the first piece names something, be it the directory above
        by_cases hdots : first = ".." <;>
          simp [component?, hfirst, hdot, hdots] at hnil
  · rintro rfl
    decide

/-- What a path names without its last component is the directory that holds it, or nothing. -/
theorem dropLast_components (p : String) :
    (components p).dropLast = (parentComponents (components p)).getD [] := by
  cases h : parentComponents (components p) with
  | some above => exact (dropLast_of_parentComponents h).symm
  | none =>
      unfold parentComponents at h
      split at h
      next hlast => rw [List.getLast?_eq_none_iff.1 hlast, List.dropLast_nil, Option.getD_none]
      next hlast => rw [components_of_last_root hlast, List.dropLast_singleton, Option.getD_none]
      next => cases h

/-- What is above a path is the directory that holds it, with what is above that. -/
theorem forall_above_iff {P : List Component → Prop} {p : String} :
    (∀ c ≠ [], c <+: (components p).dropLast → P c)
      ↔ ∀ dir, parentComponents (components p) = some dir → ∀ c ≠ [], c <+: dir → P c := by
  rw [dropLast_components]
  cases parentComponents (components p) with
  | none => simp +contextual
  | some dir => simp

/-! ## Names of files -/

theorem parentComponents_concat_name (dir : List Component) (name : String) :
    parentComponents (dir ++ [.name name]) = some dir := by
  rw [parentComponents, List.getLast?_concat, List.dropLast_concat]

theorem fileName_eq_some_iff {p name : String} :
    fileName p = some name ↔ (components p).getLast? = some (.name name) := by
  unfold fileName
  split <;> simp_all

theorem components_of_fileName {p name : String} {dir : List Component}
    (hdir : parentComponents (components p) = some dir) (hname : fileName p = some name) :
    components p = dir ++ [.name name] := by
  obtain ⟨front, hfront⟩ := List.getLast?_eq_some_iff.1 (fileName_eq_some_iff.1 hname)
  rw [dropLast_of_parentComponents hdir, hfront, List.dropLast_concat]

end Path

/-- The components of the file at some segments below a root. -/
def placeBelow (root : String) (segments : List String) : List Component :=
  Path.components root ++ segments.map Component.name

/-- A path of segments below a root names the root's components and then the segments. -/
theorem components_under {segments : List String} (hne : segments ≠ [])
    (h : ∀ s ∈ segments, Path.IsSegment s) (root : String) :
    Path.components ((RelativePath.ofSegments segments).under root) = placeBelow root segments := by
  have hpieces := Path.splitOnChar_ofSegments hne h
  have hhead : (splitOnChar '/' (RelativePath.ofSegments segments).text).head? ≠ some "." := by
    rw [hpieces]
    intro hdot
    exact (h "." (List.mem_of_mem_head? hdot)).ne_dot rfl
  have hrel : Path.isAbsolute (RelativePath.ofSegments segments).text = false := by
    rw [Path.text_ofSegments hne h]
    cases segments with
    | nil => exact absurd rfl hne
    | cons s rest =>
        have hs := h s List.mem_cons_self
        rw [Path.isAbsolute_joinWith hs.ne_empty]
        exact Path.isAbsolute_of_head hs.no_slash
  rw [RelativePath.under, Path.components_join root hrel hhead, hpieces,
    Path.filterMap_component?_of_isSegment h]
  rfl

theorem placeBelow_inj {root : String} {a b : List String}
    (h : placeBelow root a = placeBelow root b) : a = b := by
  have hinj : Function.Injective Component.name := fun x y hxy => by cases hxy; rfl
  exact List.map_injective_iff.2 hinj (List.append_cancel_left h)

end Scaffold
