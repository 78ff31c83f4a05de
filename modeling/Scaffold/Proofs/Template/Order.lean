import Mathlib
import Scaffold.Proofs.Template

/-!
# Replacing variables in any order

Rendering replaces one variable after another, in the order in which the environment holds them.
Here the result is compared with the template in which every slot of a variable is filled where it
stands (`Context.substitute`).

A step does more than fill slots where a run of characters spells the slot of its variable.  No such
run is in the template, as it would have been read as a slot, but values that were put in can
complete one.  Values hold no brace, so a run that came about begins and ends at a character of the
template (`exists_infix_of_spelled`), and the parts of the template it comes from can be told before
anything is replaced (`Context.Settled`).

That every order gives the filled template exactly if the template is settled is the content of
`Context.render_order`.  In one direction no step finds a run (`replaceEach_unread`).  In the other
a run is completed first and replaced then, which takes two opening braces away for good, as no
value brings any back (`replaceEach_pieces`).
-/

namespace Scaffold

open Scaffold.Text
open Piece

/-- Variables and their values, by characters. -/
abbrev Vars := List (List Char × List Char)

/-- Variables without a brace in a name or a value. -/
def Vars.Braceless (vars : Vars) : Prop := ∀ e ∈ vars, IsSlotName e.1 ∧ IsSlotName e.2

/-- Replace one variable after another. -/
def replaceEach (vars : Vars) (cs : List Char) : List Char :=
  vars.foldl (fun cs e => replaceFrom (Piece.slot e.1).text e.2 0 cs) cs

namespace Piece

/-- Read a template for the slots of known variables only. -/
def readKnown (names : List (List Char)) (skip : Nat) : List Char → List Piece
  | [] => []
  | c :: cs =>
      match skip with
      | k + 1 => readKnown names k cs
      | 0 =>
          match names.find? fun name => (slot name).text.isPrefixOf (c :: cs) with
          | some name => .slot name :: readKnown names ((slot name).text.length - 1) cs
          | none => .char c :: readKnown names 0 cs

/-- The characters of the slot of a variable, as they stand in a text that was not read for it. -/
def spelled (name : List Char) : List Piece := (slot name).text.map .char

/-- A piece with its slot filled, if its variable has a value. -/
def fillWith (vars : Vars) : Piece → List Piece
  | .char c => [.char c]
  | .slot name => (vars.lookup name).elim [.slot name] (List.map .char)

/-- Pieces with their slots filled. -/
def fillAll (vars : Vars) (ps : List Piece) : List Piece := ps.flatMap (fillWith vars)

/-- The number of opening braces that stay. -/
def braces (ps : List Piece) : Nat := ps.count (.char '\x7b')

/-- All slots have names without braces. -/
def Sound (ps : List Piece) : Prop := ∀ name, .slot name ∈ ps → IsSlotName name

end Piece

/-! ## Reading -/

theorem mem_readKnown {names : List (List Char)} {k : Nat} {cs name : List Char}
    (h : .slot name ∈ readKnown names k cs) : name ∈ names := by
  induction cs generalizing k with
  | nil => cases h
  | cons c cs ih =>
      unfold readKnown at h
      split at h
      · exact ih h
      · split at h
        next found hfound =>
          obtain heq | hmem := List.mem_cons.1 h
          · cases heq
            exact List.mem_of_find?_eq_some hfound
          · exact ih hmem
        next =>
          obtain heq | hmem := List.mem_cons.1 h
          · cases heq
          · exact ih hmem

/-- A template is read without loss. -/
theorem unread_readKnown (names : List (List Char)) (k : Nat) (cs : List Char) :
    unread (readKnown names k cs) = cs.drop k := by
  induction cs generalizing k with
  | nil => simp [readKnown]
  | cons c cs ih =>
      unfold readKnown
      split
      · rw [ih]
        rfl
      · split
        next name hname =>
          obtain ⟨rest, hrest⟩ := List.isPrefixOf_iff_prefix.1
            (List.find?_some (p := fun name => (Piece.slot name).text.isPrefixOf (c :: cs)) hname)
          have hcs : cs = '\x7b' :: (name ++ ['\x7d', '\x7d']) ++ rest := (List.cons.inj hrest).2.symm
          have hlength : (Piece.slot name).text.length - 1
              = ('\x7b' :: (name ++ ['\x7d', '\x7d'])).length := rfl
          have hdrop : cs.drop ((Piece.slot name).text.length - 1) = rest := by
            rw [hlength, hcs, List.drop_left]
          rw [unread_cons, ih, hdrop, hrest]
          rfl
        next =>
          rw [unread_cons, ih]
          rfl

/-- The characters of a slot that was read are passed over. -/
theorem readKnown_skip (names : List (List Char)) (front rest : List Char) :
    readKnown names front.length (front ++ rest) = readKnown names 0 rest := by
  induction front with
  | nil => rfl
  | cons c front ih => exact ih

theorem readKnown_char {names : List (List Char)} {c : Char} {cs : List Char}
    (h : ∀ name ∈ names, (Piece.slot name).text.isPrefixOf (c :: cs) = false) :
    readKnown names 0 (c :: cs) = .char c :: readKnown names 0 cs := by
  have hnone : names.find? (fun name => (Piece.slot name).text.isPrefixOf (c :: cs)) = none :=
    List.find?_eq_none.2 fun name hname => by simp [h name hname]
  rw [readKnown]
  simp only [hnone]

theorem readKnown_map_char (names : List (List Char)) {front : List Char} (hfront : '\x7b' ∉ front)
    (rest : List Char) :
    readKnown names 0 (front ++ rest) = front.map .char ++ readKnown names 0 rest := by
  induction front with
  | nil => rfl
  | cons c front ih =>
      rw [List.mem_cons, not_or] at hfront
      have hc : ('\x7b' == c) = false := by simpa using hfront.1
      rw [List.cons_append, readKnown_char fun name _ => by simp [Piece.text, List.isPrefixOf, hc],
        ih hfront.2]
      rfl

/-- The slot of a known variable is read. -/
theorem readKnown_slot {names : List (List Char)} (hnames : ∀ name ∈ names, IsSlotName name)
    {name : List Char}
    (hname : name ∈ names) (rest : List Char) :
    readKnown names 0 ((Piece.slot name).text ++ rest) = .slot name :: readKnown names 0 rest := by
  have hprefix : (Piece.slot name).text.isPrefixOf ((Piece.slot name).text ++ rest) = true :=
    List.isPrefixOf_iff_prefix.2 (List.prefix_append _ _)
  have hfind : names.find?
      (fun n => (Piece.slot n).text.isPrefixOf ((Piece.slot name).text ++ rest)) = some name := by
    cases hfound : names.find? fun n => (Piece.slot n).text.isPrefixOf
      ((Piece.slot name).text ++ rest) with
    | none => exact absurd hprefix (List.find?_eq_none.1 hfound name hname)
    | some other =>
        have hother := List.find?_some
          (p := fun n => (Piece.slot n).text.isPrefixOf ((Piece.slot name).text ++ rest)) hfound
        by_contra hne
        have hno := not_slot_prefix_of_slot (hnames other (List.mem_of_find?_eq_some hfound))
          (hnames name hname)
          (fun heq => hne (congrArg some heq.symm)) rest
        exact absurd (hother.symm.trans hno) (by decide)
  have hskip := readKnown_skip names ('\x7b' :: (name ++ ['\x7d', '\x7d'])) rest
  change readKnown names 0 ('\x7b' :: ('\x7b' :: (name ++ ['\x7d', '\x7d']) ++ rest)) = _
  change names.find? (fun n => (Piece.slot n).text.isPrefixOf
    ('\x7b' :: ('\x7b' :: (name ++ ['\x7d', '\x7d']) ++ rest))) = _ at hfind
  rw [readKnown]
  simp only [hfind]
  exact congrArg (.slot name :: ·) hskip

/-- The slot of another variable is read as the characters it is written with. -/
theorem readKnown_other {names : List (List Char)} (hnames : ∀ name ∈ names, IsSlotName name)
    {n : List Char}
    (hn : IsSlotName n) (hother : n ∉ names) (rest : List Char) :
    readKnown names 0 ((Piece.slot n).text ++ rest) = spelled n ++ readKnown names 0 rest := by
  have hfirst : ∀ name ∈ names,
      (Piece.slot name).text.isPrefixOf ((Piece.slot n).text ++ rest) = false := fun name hname =>
    not_slot_prefix_of_slot (hnames name hname) hn (fun heq => hother (heq ▸ hname)) rest
  calc readKnown names 0 ((Piece.slot n).text ++ rest)
      = .char '\x7b' :: readKnown names 0 ('\x7b' :: ((n ++ ['\x7d', '\x7d']) ++ rest)) :=
        readKnown_char hfirst
    _ = .char '\x7b' :: .char '\x7b' :: readKnown names 0 ((n ++ ['\x7d', '\x7d']) ++ rest) := by
        rw [readKnown_char fun name _ => not_slot_prefix_of_brace hn name rest]
    _ = _ := by
        rw [readKnown_map_char names (not_mem_slot_tail hn)]
        rfl

/-! ## Filling -/

section

variable {vars : Vars} {ps qs : List Piece} {name value : List Char}

theorem fillAll_cons (vars : Vars) (p : Piece) (ps : List Piece) :
    fillAll vars (p :: ps) = fillWith vars p ++ fillAll vars ps := List.flatMap_cons

theorem fillAll_append (vars : Vars) (ps qs : List Piece) :
    fillAll vars (ps ++ qs) = fillAll vars ps ++ fillAll vars qs := List.flatMap_append

/-- Characters are no slots. -/
theorem fillAll_map_char (vars : Vars) (cs : List Char) : fillAll vars (cs.map .char) = cs.map .char := by
  induction cs with
  | nil => rfl
  | cons c cs ih =>
      rw [List.map_cons, fillAll_cons, ih]
      rfl

theorem fillAll_nil (ps : List Piece) : fillAll [] ps = ps := by
  induction ps with
  | nil => rfl
  | cons p ps ih =>
      rw [fillAll_cons, ih]
      cases p <;> rfl

theorem fillWith_slot (vars : Vars) (n : List Char) :
    fillWith vars (.slot n) = (vars.lookup n).elim [.slot n] (List.map .char) := rfl

/-- Variables are filled in one after another. -/
theorem fillAll_append_vars (vars vars' : Vars) (ps : List Piece) :
    fillAll (vars ++ vars') ps = fillAll vars' (fillAll vars ps) := by
  induction ps with
  | nil => rfl
  | cons p ps ih =>
      rw [fillAll_cons, fillAll_cons, fillAll_append, ih]
      congr 1
      cases p with
      | char c => rfl
      | slot n =>
          rw [fillWith_slot, fillWith_slot, List.lookup_append]
          cases vars.lookup n with
          | some value => exact (fillAll_map_char vars' value).symm
          | none => exact (List.append_nil _).symm

/-- The slots that are left are those of other variables. -/
theorem slot_mem_fillAll_iff {n : List Char} :
    .slot n ∈ fillAll vars ps ↔ .slot n ∈ ps ∧ vars.lookup n = none := by
  have hpiece : ∀ p : Piece, .slot n ∈ fillWith vars p ↔ p = .slot n ∧ vars.lookup n = none := by
    intro p
    cases p with
    | char c => simp [fillWith]
    | slot m =>
        rw [fillWith_slot]
        cases hm : vars.lookup m with
        | some value =>
            refine iff_of_false (by simp) ?_
            rintro ⟨heq, hnone⟩
            cases heq
            rw [hm] at hnone
            cases hnone
        | none =>
            rw [Option.elim_none, List.mem_singleton, eq_comm, iff_self_and]
            rintro ⟨⟩
            exact hm
  simp only [fillAll, List.mem_flatMap, hpiece]
  constructor
  · rintro ⟨p, hp, rfl, hnone⟩
    exact ⟨hp, hnone⟩
  · rintro ⟨hmem, hnone⟩
    exact ⟨_, hmem, rfl, hnone⟩

end

/-! ## One step -/

/-- What replacing a variable does to pieces: it fills its slots, and it takes a run of characters
for a slot that spells one. -/
inductive Replaced (name value : List Char) : List Piece → List Piece → Prop
  | nil : Replaced name value [] []
  | char {c : Char} {ps qs : List Piece} (hno : ¬ spelled name <+: .char c :: ps)
      (h : Replaced name value ps qs) : Replaced name value (.char c :: ps) (.char c :: qs)
  | run {ps qs : List Piece} (h : Replaced name value ps qs) :
      Replaced name value (spelled name ++ ps) (value.map .char ++ qs)
  | slot {ps qs : List Piece} (h : Replaced name value ps qs) :
      Replaced name value (.slot name :: ps) (value.map .char ++ qs)
  | other {n : List Char} {ps qs : List Piece} (hn : n ≠ name) (h : Replaced name value ps qs) :
      Replaced name value (.slot n :: ps) (.slot n :: qs)

section

variable {name value : List Char} {ps qs : List Piece}

/-- Characters among which there is no opening brace are not those of a slot. -/
theorem map_char_of_unread {front : List Char} (hfront : '\x7b' ∉ front) (h : front <+: unread ps) :
    front.map .char <+: ps := by
  induction ps generalizing front with
  | nil =>
      obtain rfl := List.prefix_nil.1 h
      exact List.prefix_rfl
  | cons p ps ih =>
      cases front with
      | nil => exact List.nil_prefix
      | cons c front =>
          rw [List.mem_cons, not_or] at hfront
          cases p with
          | char d =>
              obtain ⟨rfl, hrest⟩ := List.cons_prefix_cons.1 h
              exact List.cons_prefix_cons.2 ⟨rfl, ih hfront.2 hrest⟩
          | slot n => exact absurd (List.cons_prefix_cons.1 h).1.symm hfront.1

/-- A slot that begins at a character is spelled by characters. -/
theorem spelled_of_slot (hname : IsSlotName name) {c : Char}
    (h : (Piece.slot name).text <+: c :: unread ps) :
    spelled name <+: .char c :: ps := by
  have hclear := not_mem_slot_tail hname
  obtain ⟨rfl, hrest⟩ := List.cons_prefix_cons.1 h
  refine List.cons_prefix_cons.2 ⟨rfl, ?_⟩
  cases ps with
  | nil => cases List.prefix_nil.1 hrest
  | cons p ps =>
      cases p with
      | char d =>
          obtain ⟨rfl, hbehind⟩ := List.cons_prefix_cons.1 hrest
          exact List.cons_prefix_cons.2 ⟨rfl, map_char_of_unread hclear hbehind⟩
      | slot n =>
          -- behind a brace that is a character there is none that begins a slot
          have htail := (List.cons_prefix_cons.1 hrest).2
          obtain ⟨d, others, hparts⟩ :=
            List.exists_cons_of_ne_nil (l := name ++ ['\x7d', '\x7d']) (by simp)
          rw [hparts] at htail hclear
          obtain ⟨rfl, -⟩ := List.cons_prefix_cons.1 htail
          exact absurd List.mem_cons_self hclear

theorem unread_spelled (name : List Char) : unread (spelled name) = (Piece.slot name).text :=
  unread_map_char _

/-- Replacing a variable in pieces that were read. -/
theorem exists_replaced (hname : IsSlotName name) (hps : Sound ps) (value : List Char) :
    ∃ qs, replaceFrom (Piece.slot name).text value 0 (unread ps) = unread qs
      ∧ Replaced name value ps qs := by
  induction hlength : ps.length using Nat.strong_induction_on generalizing ps with
  | _ n ih =>
    subst hlength
    cases ps with
    | nil => exact ⟨[], rfl, .nil⟩
    | cons p ps =>
        have hrest : Sound ps := fun n hn => hps n (List.mem_cons_of_mem _ hn)
        obtain ⟨qs, hqs, hreplaced⟩ := ih ps.length (Nat.lt_succ_self _) hrest rfl
        cases p with
        | slot n =>
            by_cases hn : n = name
            · subst hn
              refine ⟨_, ?_, .slot hreplaced⟩
              rw [unread_cons, replaceFrom_same_slot, hqs, unread_append, unread_map_char]
            · refine ⟨_, ?_, .other hn hreplaced⟩
              rw [unread_cons, replaceFrom_other_slot hname (hps n List.mem_cons_self) hn, hqs,
                unread_cons]
        | char c =>
            by_cases hrun : spelled name <+: .char c :: ps
            · obtain ⟨back, hback⟩ := hrun
              have hsound : Sound back := fun n hn => hps n (hback ▸ List.mem_append_right _ hn)
              have hshorter : back.length < (Piece.char c :: ps).length := by
                rw [← hback, List.length_append]
                exact Nat.lt_add_of_pos_left (by simp [spelled, Piece.text])
              obtain ⟨qs, hqs, hreplaced⟩ := ih back.length hshorter hsound rfl
              rw [← hback]
              refine ⟨_, ?_, .run hreplaced⟩
              rw [unread_append, unread_spelled, replaceFrom_same_slot, hqs, unread_append,
                unread_map_char]
            · refine ⟨_, ?_, .char hrun hreplaced⟩
              have hno : (Piece.slot name).text.isPrefixOf (c :: unread ps) = false := by
                rw [Bool.eq_false_iff]
                intro hprefix
                exact hrun (spelled_of_slot hname (List.isPrefixOf_iff_prefix.1 hprefix))
              exact (replaceFrom_keep hno).trans (congrArg (c :: ·) hqs)

/-! ### What a step leaves -/

theorem braces_append (ps qs : List Piece) : braces (ps ++ qs) = braces ps + braces qs := List.count_append

theorem braces_slot (n : List Char) (ps : List Piece) : braces (.slot n :: ps) = braces ps :=
  List.count_cons_of_ne (by simp)

theorem braces_char (c : Char) (ps : List Piece) :
    braces (.char c :: ps) = braces ps + if c = '\x7b' then 1 else 0 := by
  simp [braces, List.count_cons]

theorem braces_spelled (name : List Char) :
    0 < braces (spelled name) := List.count_pos_iff.2 List.mem_cons_self

theorem braces_map_char (hvalue : IsSlotName value) : braces (value.map .char) = 0 := by
  refine List.count_eq_zero.2 fun hmem => ?_
  obtain ⟨c, hc, heq⟩ := List.mem_map.1 hmem
  cases heq
  exact (hvalue _ hc).1 rfl

namespace Replaced

/-- The slots of the variable are gone, and there are no new ones. -/
theorem slots (h : Replaced name value ps qs) {n : List Char} (hn : .slot n ∈ qs) :
    .slot n ∈ ps ∧ n ≠ name := by
  have hchars : ∀ cs : List Char, Piece.slot n ∉ cs.map .char := by simp
  induction h with
  | nil => cases hn
  | char hno h ih =>
      obtain ⟨hmem, hne⟩ := ih ((List.mem_cons.1 hn).resolve_left nofun)
      exact ⟨List.mem_cons_of_mem _ hmem, hne⟩
  | run h ih =>
      obtain ⟨hmem, hne⟩ := ih ((List.mem_append.1 hn).resolve_left (hchars _))
      exact ⟨List.mem_append_right _ hmem, hne⟩
  | slot h ih =>
      obtain ⟨hmem, hne⟩ := ih ((List.mem_append.1 hn).resolve_left (hchars _))
      exact ⟨List.mem_cons_of_mem _ hmem, hne⟩
  | other hne' h ih =>
      obtain heq | hmem := List.mem_cons.1 hn
      · cases heq
        exact ⟨List.mem_cons_self, hne'⟩
      · obtain ⟨hmem, hne⟩ := ih hmem
        exact ⟨List.mem_cons_of_mem _ hmem, hne⟩

/-- Characters that spell a slot do not begin at a slot. -/
theorem infix_of_slot {n : List Char} (h : spelled name <:+: .slot n :: ps) : spelled name <:+: ps := by
  refine (List.infix_cons_iff.1 h).resolve_left fun hprefix => ?_
  cases (List.cons_prefix_cons.1 hprefix).1

/-- Where nothing spells a slot only slots are filled. -/
theorem eq_fillAll (h : Replaced name value ps qs) (hno : ¬ spelled name <:+: ps) :
    qs = fillAll [(name, value)] ps := by
  induction h with
  | nil => rfl
  | char _ h ih =>
      rw [fillAll_cons, ← ih fun hin => hno (hin.trans (List.suffix_cons _ _).isInfix)]
      rfl
  | run h ih => exact absurd (List.prefix_append _ _).isInfix hno
  | slot h ih =>
      rw [fillAll_cons, fillWith_slot, List.lookup_cons_self,
        ← ih fun hin => hno (hin.trans (List.suffix_cons _ _).isInfix)]
      rfl
  | other hn h ih =>
      rw [fillAll_cons, fillWith_slot, List.lookup_cons, beq_eq_false_iff_ne.2 hn,
        ← ih fun hin => hno (hin.trans (List.suffix_cons _ _).isInfix)]
      rfl

/-- A value brings no brace, and a run that spells a slot loses its own. -/
theorem braces_le (h : Replaced name value ps qs) (hvalue : IsSlotName value) :
    braces qs ≤ braces ps ∧ (spelled name <:+: ps → braces qs < braces ps) := by
  have hzero := braces_map_char hvalue
  induction h with
  | nil =>
      refine ⟨Nat.le_refl _, fun hin => ?_⟩
      cases List.infix_nil.1 hin
  | char hno h ih =>
      rw [braces_char, braces_char]
      exact ⟨Nat.add_le_add_right ih.1 _,
        fun hin => Nat.add_lt_add_right (ih.2 ((List.infix_cons_iff.1 hin).resolve_left hno)) _⟩
  | run h ih =>
      rw [braces_append, braces_append, hzero, Nat.zero_add]
      have hless := ih.1.trans_lt (Nat.lt_add_of_pos_left (braces_spelled name))
      exact ⟨hless.le, fun _ => hless⟩
  | slot h ih =>
      rw [braces_append, hzero, Nat.zero_add, braces_slot]
      exact ⟨ih.1, fun hin => ih.2 (infix_of_slot hin)⟩
  | other hn h ih =>
      rw [braces_slot, braces_slot]
      exact ⟨ih.1, fun hin => ih.2 (infix_of_slot hin)⟩

end Replaced

end

/-! ## All steps -/

section

variable {vars : Vars} {ps : List Piece} {name : List Char}

theorem replaceEach_append (vars vars' : Vars) (cs : List Char) :
    replaceEach (vars ++ vars') cs = replaceEach vars' (replaceEach vars cs) := List.foldl_append

/-- Steps leave no more braces than there were, and as many only if they just fill slots. -/
theorem replaceEach_pieces (hvars : vars.Braceless) (hps : Sound ps) :
    ∃ qs, replaceEach vars (unread ps) = unread qs
      ∧ (∀ n, .slot n ∈ qs → .slot n ∈ ps ∧ vars.lookup n = none)
      ∧ braces qs ≤ braces ps ∧ (braces qs = braces ps → qs = fillAll vars ps) := by
  induction vars generalizing ps with
  | nil => exact ⟨ps, rfl, fun n hn => ⟨hn, rfl⟩, Nat.le_refl _, fun _ => (fillAll_nil ps).symm⟩
  | cons e vars ih =>
      obtain ⟨name, value⟩ := e
      obtain ⟨⟨hname, hvalue⟩, hrest⟩ := List.forall_mem_cons.1 hvars
      obtain ⟨qs, hqs, hreplaced⟩ := exists_replaced hname hps value
      obtain ⟨hle, hlt⟩ := hreplaced.braces_le hvalue
      obtain ⟨rs, hrs, hslots, hle', hexact⟩ := ih hrest fun n hn => hps n (hreplaced.slots hn).1
      refine ⟨rs, ?_, fun n hn => ?_, hle'.trans hle, fun hsame => ?_⟩
      · rw [← hrs, ← hqs]
        rfl
      · obtain ⟨hmem, hnone⟩ := hslots n hn
        obtain ⟨hmem, hne⟩ := hreplaced.slots hmem
        rw [List.lookup_cons, beq_eq_false_iff_ne.2 hne]
        exact ⟨hmem, hnone⟩
      · have hsteps : braces qs = braces ps := Nat.le_antisymm hle (hsame ▸ hle')
        have hfilled := hreplaced.eq_fillAll fun hin => (hlt hin).ne hsteps
        rw [hexact (hsame.trans hsteps.symm), hfilled, ← fillAll_append_vars]
        rfl

/-! ### Where a run comes from -/

theorem Vars.Braceless.of_lookup (hvars : vars.Braceless) {value : List Char}
    (h : vars.lookup name = some value) :
    IsSlotName value := by
  obtain ⟨before, after, rfl, -⟩ := List.lookup_eq_some_iff.1 h
  exact (hvars (name, value) (by simp)).2

/-- Characters that end in a brace do not end within a value. -/
theorem exists_prefix_of_chars (hvars : vars.Braceless) {front : List Char}
    (hlast : ∀ c ∈ front.getLast?, c = '\x7d') (h : front.map .char <+: fillAll vars ps) :
    ∃ us, us <+: ps ∧ fillAll vars us = front.map .char := by
  have hnil : ∃ us, us <+: ps ∧ fillAll vars us = List.map .char [] := ⟨[], List.nil_prefix, rfl⟩
  induction ps generalizing front with
  | nil => exact ⟨[], List.prefix_rfl, (List.prefix_nil.1 h).symm⟩
  | cons p ps ih =>
      have hrest : ∀ (cs : List Char) {back : List Char}, front = cs ++ back →
          back.map .char <+: fillAll vars ps →
          ∃ us, us <+: ps ∧ fillAll vars us = back.map .char := by
        rintro cs back rfl hback
        refine ih (fun c hc => hlast c ?_) hback ⟨[], List.nil_prefix, rfl⟩
        rw [List.getLast?_append, Option.mem_def.1 hc]
        rfl
      rw [fillAll_cons] at h
      cases p with
      | char d =>
          cases front with
          | nil => exact hnil
          | cons c front =>
              obtain ⟨heq, hbehind⟩ := List.cons_prefix_cons.1 h
              cases heq
              obtain ⟨us, hus, hfill⟩ := hrest [d] rfl hbehind
              refine ⟨.char d :: us, List.cons_prefix_cons.2 ⟨rfl, hus⟩, ?_⟩
              rw [fillAll_cons, hfill]
              rfl
      | slot n =>
          cases hn : vars.lookup n with
          | none =>
              rw [fillWith_slot, hn] at h
              cases front with
              | nil => exact hnil
              | cons c front => cases (List.cons_prefix_cons.1 h).1
          | some value =>
              have hvalue : fillWith vars (.slot n) = value.map .char := by
                rw [fillWith_slot, hn]
                rfl
              rw [hvalue] at h
              obtain hlong | hshort := List.prefix_or_prefix_of_prefix (List.prefix_append _ _) h
              · obtain ⟨back, rfl⟩ := (List.prefix_map_iff_of_injective fun _ _ => Piece.char.inj).1 hlong
                rw [List.map_append, List.prefix_append_right_inj] at h
                obtain ⟨us, hus, hfill⟩ := hrest value rfl h
                refine ⟨.slot n :: us, List.cons_prefix_cons.2 ⟨rfl, hus⟩, ?_⟩
                rw [fillAll_cons, hvalue, hfill, List.map_append]
              · -- the last character would be one of the value
                have hwithin := (List.prefix_map_iff_of_injective fun _ _ => Piece.char.inj).1 hshort
                cases hfront : front.getLast? with
                | none =>
                    rw [List.getLast?_eq_none_iff.1 hfront]
                    exact hnil
                | some c =>
                    have hmem := hwithin.subset (List.mem_of_getLast? hfront)
                    exact absurd (hlast c hfront) (hvars.of_lookup hn c hmem).2

/-- A run that spells a slot comes from pieces of its own, as it begins and ends with a brace. -/
theorem exists_infix_of_spelled (hvars : vars.Braceless) (h : spelled name <:+: fillAll vars ps) :
    ∃ us, us <:+: ps ∧ fillAll vars us = spelled name := by
  have hvalue : ∀ {value : List Char}, IsSlotName value → ∀ {qs : List Piece},
      spelled name <:+: value.map .char ++ qs → spelled name <:+: qs := by
    intro value hvalue qs hin
    induction value with
    | nil => exact hin
    | cons c value ih =>
        obtain ⟨hc, hrest⟩ := List.forall_mem_cons.1 hvalue
        refine ih hrest ((List.infix_cons_iff.1 hin).resolve_left fun hprefix => ?_)
        exact hc.1 (Piece.char.inj (List.cons_prefix_cons.1 hprefix).1).symm
  induction ps with
  | nil => cases List.infix_nil.1 h
  | cons p ps ih =>
      have hback : spelled name <:+: fillAll vars ps →
          ∃ us, us <:+: p :: ps ∧ fillAll vars us = spelled name := by
        intro hin
        obtain ⟨us, hus, hfill⟩ := ih hin
        exact ⟨us, hus.trans (List.suffix_cons _ _).isInfix, hfill⟩
      cases p with
      | char c =>
          obtain hprefix | hin := List.infix_cons_iff.1 h
          · have htext : (Piece.slot name).text = '\x7b' :: '\x7b' :: (name ++ ['\x7d']) ++ ['\x7d'] := by
              simp [Piece.text]
            have hlast : ∀ c ∈ (Piece.slot name).text.getLast?, c = '\x7d' := by
              rw [htext, List.getLast?_concat]
              exact fun c hc => (Option.some.inj hc).symm
            have hfront : (Piece.slot name).text.map .char <+: fillAll vars (.char c :: ps) := hprefix
            obtain ⟨us, hus, hfill⟩ := exists_prefix_of_chars hvars hlast hfront
            exact ⟨us, hus.isInfix, hfill⟩
          · exact hback hin
      | slot n =>
          rw [fillAll_cons, fillWith_slot] at h
          cases hn : vars.lookup n with
          | some value =>
              rw [hn] at h
              exact hback (hvalue (hvars.of_lookup hn) h)
          | none =>
              rw [hn] at h
              exact hback (Replaced.infix_of_slot h)

/-! ### Settled templates -/

/-- No pieces spell the slot of a variable once their slots are filled, unless they have that slot. -/
def Piece.Settled (vars : Vars) (ps : List Piece) : Prop :=
  ∀ us, us <:+: ps → ∀ e ∈ vars, fillAll vars us = spelled e.1 → .slot e.1 ∈ us

/-- Of variables with different names none has the name of a later one. -/
theorem lookup_before {before after : Vars} {value : List Char}
    (hnodup : ((before ++ (name, value) :: after).map Prod.fst).Nodup) : before.lookup name = none := by
  rw [List.lookup_eq_none_iff]
  intro e he
  rw [List.map_append, List.map_cons] at hnodup
  have hne := (List.nodup_append.1 hnodup).2.2 e.1 (List.mem_map_of_mem he) name List.mem_cons_self
  exact bne_iff_ne.2 hne.symm

/-- In a settled template every step just fills slots. -/
theorem replaceEach_unread (hvars : vars.Braceless) (hnodup : (vars.map Prod.fst).Nodup) (hps : Sound ps)
    (h : Settled vars ps) : replaceEach vars (unread ps) = unread (fillAll vars ps) := by
  suffices hgo : ∀ todo done, vars = done ++ todo →
      replaceEach todo (unread (fillAll done ps)) = unread (fillAll vars ps) by
    simpa [fillAll_nil] using hgo vars [] rfl
  intro todo
  induction todo with
  | nil =>
      rintro done rfl
      rw [List.append_nil]
      rfl
  | cons e todo ih =>
      obtain ⟨name, value⟩ := e
      intro done hparts
      have hdone : Vars.Braceless done := fun e he => hvars e (hparts ▸ List.mem_append_left _ he)
      have hnew : done.lookup name = none := lookup_before (hparts ▸ hnodup)
      have hsound : Sound (fillAll done ps) := fun n hn => hps n (slot_mem_fillAll_iff.1 hn).1
      obtain ⟨qs, hqs, hreplaced⟩ :=
        exists_replaced (hvars (name, value) (by simp [hparts])).1 hsound value
      -- a run would come from pieces that have the slot, which is not filled yet
      have hno : ¬ spelled name <:+: fillAll done ps := by
        intro hin
        obtain ⟨us, hus, hfill⟩ := exists_infix_of_spelled hdone hin
        have hall : fillAll vars us = spelled name := by
          rw [hparts, fillAll_append_vars, hfill]
          exact fillAll_map_char _ _
        have hslot := h us hus (name, value) (by simp [hparts]) hall
        have hleft : Piece.slot name ∈ spelled name := hfill ▸ slot_mem_fillAll_iff.2 ⟨hslot, hnew⟩
        simp [spelled] at hleft
      change replaceEach todo (replaceFrom (Piece.slot name).text value 0 (unread (fillAll done ps))) = _
      rw [hqs, hreplaced.eq_fillAll hno, ← fillAll_append_vars]
      exact ih _ (by rw [hparts, List.append_assoc]; rfl)

/-! ### Orders -/

theorem braces_fillAll (hvars : vars.Braceless) (ps : List Piece) :
    braces (fillAll vars ps) = braces ps := by
  induction ps with
  | nil => rfl
  | cons p ps ih =>
      rw [fillAll_cons, braces_append, ih]
      cases p with
      | char c => exact (braces_append [.char c] ps).symm
      | slot n =>
          rw [braces_slot, fillWith_slot]
          cases hn : vars.lookup n with
          | some value =>
              rw [Option.elim_some, braces_map_char (hvars.of_lookup hn), Nat.zero_add]
          | none =>
              rw [Option.elim_none, braces_slot]
              exact Nat.zero_add _

/-- Where no slot is left the opening braces of the text are those that stayed. -/
theorem count_unread (h : ∀ n, .slot n ∉ ps) : (unread ps).count '\x7b' = braces ps := by
  induction ps with
  | nil => rfl
  | cons p ps ih =>
      have hrest := ih fun n hn => h n (List.mem_cons_of_mem _ hn)
      cases p with
      | char c =>
          rw [braces_char, ← hrest, unread_cons]
          simp [Piece.text, List.count_cons]
      | slot n => exact absurd List.mem_cons_self (h n)

theorem lookup_filter (keep : List Char → Bool) (vars : Vars) {n : List Char} (hn : keep n = true) :
    (vars.filter fun e => keep e.1).lookup n = vars.lookup n := by
  induction vars with
  | nil => rfl
  | cons e vars ih =>
      rw [List.filter_cons]
      split
      · rw [List.lookup_cons, List.lookup_cons, ih]
      next he =>
        have hne : (n == e.1) = false := beq_eq_false_iff_ne.2 fun heq => he (heq ▸ hn)
        rw [List.lookup_cons, hne, ih]

theorem fillAll_congr {vars' : Vars} (h : ∀ n, .slot n ∈ ps → vars'.lookup n = vars.lookup n) :
    fillAll vars' ps = fillAll vars ps := by
  refine List.flatMap_congr fun p hp => ?_
  cases p with
  | char c => rfl
  | slot n => rw [fillWith_slot, fillWith_slot, h n hp]

theorem lookup_eq_some_iff_mem (hnodup : (vars.map Prod.fst).Nodup) {value : List Char} :
    vars.lookup name = some value ↔ (name, value) ∈ vars := by
  rw [List.lookup_eq_some_iff]
  constructor
  · rintro ⟨before, after, rfl, -⟩
    simp
  · intro hmem
    obtain ⟨before, after, rfl⟩ := List.append_of_mem hmem
    exact ⟨before, after, rfl, List.lookup_eq_none_iff.1 (lookup_before hnodup)⟩

/-- The order of variables with different names does not matter to a lookup. -/
theorem lookup_perm {vars' : Vars} (hnodup : (vars.map Prod.fst).Nodup) (h : vars'.Perm vars)
    (n : List Char) :
    vars'.lookup n = vars.lookup n := by
  have hnodup' : (vars'.map Prod.fst).Nodup := (h.map Prod.fst).nodup_iff.2 hnodup
  ext value
  rw [lookup_eq_some_iff_mem hnodup, lookup_eq_some_iff_mem hnodup', h.mem_iff]

theorem lookup_eq_none_perm {vars' : Vars} (h : vars'.Perm vars) (n : List Char) :
    vars'.lookup n = none ↔ vars.lookup n = none := by
  simp only [List.lookup_eq_none_iff, h.mem_iff]

/-- If the order does not matter the template is settled: the variables of pieces that spell a slot
can be replaced first, and the one of that slot after them. -/
theorem settled_of_orders (hvars : vars.Braceless) (hps : Sound ps)
    (hknown : ∀ n, .slot n ∈ ps → vars.lookup n ≠ none)
    (h : ∀ vars' : Vars, vars'.Perm vars → replaceEach vars' (unread ps) = unread (fillAll vars ps)) :
    Settled vars ps := by
  intro us hus e he hspells
  by_contra hmem
  obtain ⟨name, value⟩ := e
  obtain ⟨hname, hvalue⟩ := hvars _ he
  let first := vars.filter fun e => decide (.slot e.1 ∈ us)
  let others := vars.filter fun e => !decide (.slot e.1 ∈ us)
  have hother : (name, value) ∈ others := List.mem_filter.2 ⟨he, by simpa using hmem⟩
  have hperm : (first ++ (name, value) :: others.erase (name, value)).Perm vars :=
    ((List.perm_cons_erase hother).symm.append_left first).trans (List.filter_append_perm _ vars)
  have hfirst : Vars.Braceless first := fun e he => hvars e (List.mem_filter.1 he).1
  have hlast : Vars.Braceless (others.erase (name, value)) := fun e he =>
    hvars e (List.mem_filter.1 (List.mem_of_mem_erase he)).1
  obtain ⟨qs, hqs, hslots, hle, hexact⟩ := replaceEach_pieces hfirst hps
  obtain ⟨rs, hrs, hreplaced⟩ := exists_replaced hname (fun n hn => hps n (hslots n hn).1) value
  obtain ⟨ts, hts, hslots', hle', -⟩ :=
    replaceEach_pieces hlast fun n hn => hps n (hslots n (hreplaced.slots hn).1).1
  obtain ⟨hle'', hless⟩ := hreplaced.braces_le hvalue
  have hresult : unread ts = unread (fillAll vars ps) := by
    rw [← h _ hperm, replaceEach_append, hqs, ← hts, ← hrs]
    rfl
  -- no slot is left, so that the braces can be counted in the text
  have hnone : ∀ n, .slot n ∉ ts := by
    intro n hn
    obtain ⟨hmem, hnone⟩ := hslots' n hn
    obtain ⟨hmem, hne⟩ := hreplaced.slots hmem
    obtain ⟨hmem, hnone'⟩ := hslots n hmem
    refine hknown n hmem ((lookup_eq_none_perm hperm n).1 ?_)
    rw [List.lookup_append, hnone', Option.none_or, List.lookup_cons, beq_eq_false_iff_ne.2 hne]
    exact hnone
  have hnone' : ∀ n, .slot n ∉ fillAll vars ps := fun n hn =>
    hknown n (slot_mem_fillAll_iff.1 hn).1 (slot_mem_fillAll_iff.1 hn).2
  have hbraces : braces ts = braces ps := by
    rw [← braces_fillAll hvars ps, ← count_unread hnone, ← count_unread hnone', hresult]
  have hsame : braces qs = braces ps := Nat.le_antisymm hle (hbraces ▸ hle'.trans hle'')
  -- the first variables were just filled in, which completed the slot
  have hspelled : spelled name <:+: qs := by
    obtain ⟨before, after, hparts⟩ := hus
    have hfill : fillAll first us = spelled name :=
      (fillAll_congr fun n hn => lookup_filter _ vars (decide_eq_true hn)).trans hspells
    rw [hexact hsame, ← hparts, fillAll_append, fillAll_append, hfill]
    exact ⟨_, _, rfl⟩
  exact absurd (hbraces ▸ hle') (Nat.not_le_of_lt (hsame ▸ hless hspelled))

end

/-! ## Rendering -/

namespace Context

/-- The variables of a context, by characters. -/
def vars (ctx : Context) : Vars := ctx.environment.map fun e => (e.1.toList, e.2.toList)

/-- A template, read for the variables of a context. -/
def pieces (ctx : Context) (source : String) : List Piece :=
  readKnown (ctx.vars.map Prod.fst) 0 source.toList

/-- A template with every slot of a variable filled where it stands, and everything else as it is. -/
def substitute (ctx : Context) (source : String) : String :=
  String.ofList ((ctx.pieces source).flatMap ctx.fillPiece)

/-- No part of a template spells the slot of a variable once its own slots are filled, unless it has
that slot. -/
def Settled (ctx : Context) (source : String) : Prop :=
  ∀ rest ∈ (ctx.pieces source).tails, ∀ us ∈ rest.inits, ∀ e ∈ ctx.environment,
    us.flatMap ctx.fillPiece = (Piece.slot e.1.toList).text → .slot e.1.toList ∈ us

instance (ctx : Context) (source : String) : Decidable (ctx.Settled source) :=
  inferInstanceAs (Decidable (∀ rest ∈ (ctx.pieces source).tails, _))

variable {ctx : Context}

theorem lookup_vars (ctx : Context) (name : List Char) : ctx.vars.lookup name = ctx.value name := by
  unfold vars value
  induction ctx.environment with
  | nil => rfl
  | cons e env ih =>
      rw [List.map_cons, List.lookup_cons, List.lookup_cons, ih]
      by_cases hname : name = e.1.toList
      · have hkey : String.ofList name = e.1 := by rw [hname, String.ofList_toList]
        rw [beq_iff_eq.2 hname, beq_iff_eq.2 hkey]
        rfl
      · have hkey : String.ofList name ≠ e.1 := fun heq => hname (by rw [← heq, String.toList_ofList])
        rw [beq_eq_false_iff_ne.2 hname, beq_eq_false_iff_ne.2 hkey]

/-- Filling pieces and writing them out. -/
theorem unread_fillAll (ctx : Context) (ps : List Piece) :
    unread (fillAll ctx.vars ps) = ps.flatMap ctx.fillPiece := by
  rw [unread, fillAll, List.flatMap_assoc]
  refine List.flatMap_congr fun p _ => ?_
  cases p with
  | char c => rfl
  | slot name =>
      rw [fillWith_slot, lookup_vars, fillPiece]
      cases ctx.value name with
      | some value => exact unread_map_char value
      | none => exact List.append_nil _

/-- Pieces that only have slots of variables are filled to characters. -/
theorem fillAll_eq_map (ctx : Context) {ps : List Piece}
    (h : ∀ name, .slot name ∈ ps → ctx.vars.lookup name ≠ none) :
    fillAll ctx.vars ps = (ps.flatMap ctx.fillPiece).map .char := by
  rw [fillAll, List.map_flatMap]
  refine List.flatMap_congr fun p hp => ?_
  cases p with
  | char c => rfl
  | slot name =>
      have hknown := h name hp
      rw [lookup_vars] at hknown
      rw [fillWith_slot, lookup_vars, fillPiece]
      cases hvalue : ctx.value name with
      | some value => rfl
      | none => exact absurd hvalue hknown

theorem toList_render (ctx : Context) (source : String) :
    (ctx.render source).toList = replaceEach ctx.vars source.toList := by
  unfold render vars
  induction ctx.environment generalizing source with
  | nil => rfl
  | cons e env ih =>
      obtain ⟨name, value⟩ := e
      simp only [List.foldl_cons]
      rw [ih, replaceAll, String.toList_ofList, toList_slot]
      rfl

theorem unread_pieces (ctx : Context) (source : String) : unread (ctx.pieces source) = source.toList :=
  unread_readKnown _ 0 _

theorem lookup_of_mem_pieces {source : String} {name : List Char} (h : .slot name ∈ ctx.pieces source) :
    ctx.vars.lookup name ≠ none := by
  obtain ⟨e, he, rfl⟩ := List.mem_map.1 (mem_readKnown h)
  intro hnone
  exact absurd (List.lookup_eq_none_iff.1 hnone e he) (by simp)

/-- A template is settled if its pieces are. -/
theorem settled_iff {source : String} :
    ctx.Settled source ↔ Piece.Settled ctx.vars (ctx.pieces source) := by
  have hchars : ∀ {us : List Piece}, us <:+: ctx.pieces source → ∀ name : List Char,
      fillAll ctx.vars us = spelled name ↔ us.flatMap ctx.fillPiece = (Piece.slot name).text := by
    intro us hus name
    rw [ctx.fillAll_eq_map fun n hn => lookup_of_mem_pieces (hus.subset hn), spelled]
    exact (List.map_injective_iff.2 fun _ _ => Piece.char.inj).eq_iff
  constructor
  · intro h us hus e he hfill
    obtain ⟨entry, hentry, rfl⟩ := List.mem_map.1 he
    obtain ⟨rest, hprefix, hsuffix⟩ := List.infix_iff_prefix_suffix.1 hus
    exact h rest ((List.mem_tails _ _).2 hsuffix) us ((List.mem_inits _ _).2 hprefix) entry hentry
      ((hchars hus _).1 hfill)
  · intro h rest hrest us hus e he hfill
    have hin := ((List.mem_inits _ _).1 hus).isInfix.trans ((List.mem_tails _ _).1 hrest).isInfix
    exact h us hin _ (List.mem_map_of_mem he) ((hchars hin _).2 hfill)

/-- A context whose variables have different names and no brace in a name or a value. -/
structure Plain (ctx : Context) : Prop where
  distinct : (ctx.environment.map Prod.fst).Nodup
  braceless : ∀ e ∈ ctx.environment, IsSlotName e.1.toList ∧ IsSlotName e.2.toList

namespace Plain

theorem vars_braceless (h : ctx.Plain) : ctx.vars.Braceless := by
  intro e he
  obtain ⟨entry, hentry, rfl⟩ := List.mem_map.1 he
  exact h.braceless entry hentry

theorem vars_distinct (h : ctx.Plain) : (ctx.vars.map Prod.fst).Nodup := by
  have hnames : ctx.vars.map Prod.fst = (ctx.environment.map Prod.fst).map String.toList := by
    rw [vars, List.map_map, List.map_map]
    rfl
  rw [hnames]
  exact h.distinct.map fun _ _ => String.toList_inj.1

theorem names_braceless (h : ctx.Plain) : ∀ name ∈ ctx.vars.map Prod.fst, IsSlotName name := by
  intro name hname
  obtain ⟨e, he, rfl⟩ := List.mem_map.1 hname
  exact (h.vars_braceless e he).1

theorem sound_pieces (h : ctx.Plain) (source : String) : Sound (ctx.pieces source) := fun _ hname =>
  h.names_braceless _ (mem_readKnown hname)

/-- A template that a check of its braces finds clear is filled as it was read without the
variables. -/
theorem flatMap_pieces (h : ctx.Plain) {ps : List Piece} (hps : staysClear ps = true) :
    (ctx.pieces (String.ofList (unread ps))).flatMap ctx.fillPiece = ps.flatMap ctx.fillPiece := by
  rw [pieces, String.toList_ofList]
  have hnames := h.names_braceless
  induction ps with
  | nil => rfl
  | cons p ps ih =>
      cases p with
      | char c =>
          have hclear : staysClear ps = true := by
            simp only [staysClear, Bool.and_eq_true] at hps
            exact hps.2
          change (readKnown _ 0 (c :: unread ps)).flatMap ctx.fillPiece = _
          rw [readKnown_char fun name _ => not_slot_prefix_of_char hps, List.flatMap_cons,
            List.flatMap_cons,
            ih hclear]
      | slot n =>
          obtain ⟨-, hn, hclear⟩ := staysClear_slot hps
          rw [unread_cons]
          by_cases hknown : n ∈ ctx.vars.map Prod.fst
          · rw [readKnown_slot hnames hknown, List.flatMap_cons, List.flatMap_cons, ih hclear]
          · have hnone : ctx.value n = none := by
              rw [← lookup_vars, List.lookup_eq_none_iff]
              exact fun e he => bne_iff_ne.2 fun heq => hknown (heq ▸ List.mem_map_of_mem he)
            have hspelled : (spelled n).flatMap ctx.fillPiece = (Piece.slot n).text := by
              rw [← unread_fillAll, spelled, fillAll_map_char, unread_map_char]
            rw [readKnown_other hnames hn hknown, List.flatMap_append, List.flatMap_cons, ih hclear,
              hspelled,
              fillPiece, hnone]
            rfl

/-- The order of the variables does not matter to a piece. -/
theorem fillPiece_perm (h : ctx.Plain) {env : List (String × String)} (hperm : env.Perm ctx.environment) :
    (Context.mk ctx.project env).fillPiece = ctx.fillPiece := by
  funext p
  cases p with
  | char c => rfl
  | slot name =>
      rw [fillPiece, fillPiece, ← lookup_vars, ← lookup_vars]
      exact congrArg (Option.getD · _) (lookup_perm h.vars_distinct (hperm.map _) name)

end Plain

/-- **The order in which variables are replaced does not matter exactly to settled templates.**  Let
the variables of a context have different names, and no brace in a name or a value.  For every
template text, every order of the variables renders the text in which each slot of a variable is
filled where it stands exactly if the template is settled for them.  A template whose braces are
clear is settled for all variables, whatever they are filled with, and so is every built-in
template. -/
theorem render_order (h : ctx.Plain) :
    (∀ source, (∀ env : List (String × String), env.Perm ctx.environment →
        (Context.mk ctx.project env).render source = ctx.substitute source) ↔ ctx.Settled source)
    ∧ (∀ ps, staysClear ps = true → ctx.Settled (String.ofList (unread ps)))
    ∧ ∀ t : Template, ctx.Settled t.source := by
  have horders : ∀ source, (∀ env : List (String × String), env.Perm ctx.environment →
      (Context.mk ctx.project env).render source = ctx.substitute source) ↔ ctx.Settled source := by
    intro source
    rw [settled_iff]
    constructor
    · intro hrender
      refine settled_of_orders h.vars_braceless (h.sound_pieces source) (fun _ => lookup_of_mem_pieces)
        fun vars' hperm => ?_
      -- an order of the variables by characters is one of the variables
      obtain ⟨env, rfl, henv⟩ : Relation.Comp
        (fun vars' env => vars' = env.map fun e => (e.1.toList, e.2.toList))
          List.Perm vars' ctx.environment := by
        rw [List.eq_map_comp_perm]
        exact hperm
      have hrendered : ((Context.mk ctx.project env).render source).toList
          = replaceEach (env.map fun e => (e.1.toList, e.2.toList)) source.toList := toList_render _ _
      rw [unread_pieces, unread_fillAll, ← hrendered, hrender env henv, substitute, String.toList_ofList]
    · intro hsettled env hperm
      have hplain : (Context.mk ctx.project env).Plain :=
        ⟨(hperm.map Prod.fst).nodup_iff.2 h.distinct, fun e he => h.braceless e (hperm.mem_iff.1 he)⟩
      have hvars : (Context.mk ctx.project env).vars.Perm ctx.vars := hperm.map _
      have hfill : ∀ us, fillAll (Context.mk ctx.project env).vars us = fillAll ctx.vars us := fun us =>
        fillAll_congr fun n _ => lookup_perm h.vars_distinct hvars n
      apply String.toList_inj.1
      rw [toList_render, ← ctx.unread_pieces, replaceEach_unread hplain.vars_braceless hplain.vars_distinct
        (h.sound_pieces source) fun us hus e he hspells => hsettled us hus e (hvars.mem_iff.1 he)
          ((hfill us).symm.trans hspells), hfill, unread_fillAll, substitute, String.toList_ofList]
  have hclear : ∀ ps, staysClear ps = true → ctx.Settled (String.ofList (unread ps)) := by
    intro ps hps
    refine (horders _).1 fun env hperm => ?_
    have henv : ∀ e ∈ env, IsSlotName e.1.toList ∧ '\x7b' ∉ e.2.toList := fun e he =>
      have hplain := h.braceless e (hperm.mem_iff.1 he)
      ⟨hplain.1, fun hmem => (hplain.2 _ hmem).1 rfl⟩
    apply String.toList_inj.1
    rw [render, foldl_replaceAll_unread henv hps ctx.project, h.fillPiece_perm hperm, substitute,
      String.toList_ofList, h.flatMap_pieces hps]
  exact ⟨horders, hclear,
    fun t => source_eq_readLines t ▸ hclear _ (staysClear_readLines (lines_isWellRead t))⟩

/-- Two variables, each with the name of the other for its value. -/
def crossed : Context := ⟨"Acme", [("A", "B"), ("B", "A")]⟩

/-- Slots side by side are settled for the two variables.  In more braces a slot is not: what it is
filled with completes the slot of the other variable, which is then filled as well. -/
theorem render_order_crossed :
    (∀ env : List (String × String), env.Perm crossed.environment →
      (Context.mk crossed.project env).render "\x7b\x7bA\x7d\x7d-\x7b\x7bB\x7d\x7d" = "B-A")
    ∧ ∃ env : List (String × String), env.Perm crossed.environment
      ∧ (Context.mk crossed.project env).render "\x7b\x7b\x7b\x7bA\x7d\x7d\x7d\x7d"
        ≠ crossed.substitute "\x7b\x7b\x7b\x7bA\x7d\x7d\x7d\x7d" := by
  have hplain : crossed.Plain := ⟨by decide, by decide⟩
  obtain ⟨horders, -⟩ := render_order hplain
  have hpair : crossed.substitute "\x7b\x7bA\x7d\x7d-\x7b\x7bB\x7d\x7d" = "B-A" := by decide +kernel
  have hsettled : crossed.Settled "\x7b\x7bA\x7d\x7d-\x7b\x7bB\x7d\x7d" := by decide +kernel
  have hnested : ¬ crossed.Settled "\x7b\x7b\x7b\x7bA\x7d\x7d\x7d\x7d" := by decide +kernel
  refine ⟨fun env hperm => hpair ▸ (horders _).2 hsettled env hperm, ?_⟩
  rw [← horders] at hnested
  push Not at hnested
  exact hnested

end Context

end Scaffold
