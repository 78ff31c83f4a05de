import Mathlib
import Scaffold.Manifest

/-!
# Replacement texts

A version is put into an attribute that is there as a replacement text, in which a dollar can begin
a reference (`Refers`).  A reference to what is replaced puts in a quote, and any other leaves fewer
characters.  So a text without quotes stands for itself exactly if none of its dollars begins a
reference (`expand_eq_self_iff`).
-/

namespace Scaffold.Manifest

/-- What stands behind a dollar that begins a reference: another dollar, a name, or anything in
braces. -/
inductive Refers : List Char → Prop
  | dollar (rest : List Char) : Refers ('$' :: rest)
  | name {c : Char} (char : isReferenceChar c = true) (rest : List Char) : Refers (c :: rest)
  | braces {name : List Char} (inside : '\x7d' ∉ name) (rest : List Char) :
      Refers ('\x7b' :: (name ++ '\x7d' :: rest))

/-- No dollar of a text begins a reference. -/
def IsLiteral (cs : List Char) : Prop := ∀ front back, cs = front ++ '$' :: back → ¬ Refers back

/-- What a dollar stands for, and how many characters behind it belong to it, if it begins a
reference. -/
def dollar? (matched cs : List Char) : Option (List Char × Nat) :=
  if cs.head? == some '$' then some (['$'], 1)
  else (reference? cs).map fun (isMatched, length) => (if isMatched then matched else [], length)

section

variable {matched cs : List Char}

theorem isLiteral_of_not_mem (h : '$' ∉ cs) : IsLiteral cs := by
  rintro front back rfl
  simp at h

theorem isLiteral_cons_iff {c : Char} : IsLiteral (c :: cs) ↔ (c = '$' → ¬ Refers cs) ∧ IsLiteral cs := by
  constructor
  · intro h
    refine ⟨?_, fun front back hcs => h (c :: front) back (by rw [hcs, List.cons_append])⟩
    rintro rfl
    exact h [] cs rfl
  · rintro ⟨hhere, hrest⟩ front back hcs
    cases front with
    | nil =>
        obtain ⟨rfl, rfl⟩ := List.cons.inj hcs
        exact hhere rfl
    | cons d front => exact hrest front back (List.cons.inj hcs).2

/-! ## References -/

/-- A name in braces ends at the first brace, if there is one. -/
theorem length_takeWhile_lt_iff {c : Char} :
    (cs.takeWhile (· != c)).length < cs.length ↔ c ∈ cs := by
  have hsplit := congrArg List.length (List.takeWhile_append_dropWhile (p := (· != c)) (l := cs))
  rw [List.length_append] at hsplit
  have hrest : cs.dropWhile (· != c) = [] ↔ c ∉ cs := by
    rw [List.dropWhile_eq_nil_iff]
    exact ⟨fun h hc => by simpa using h c hc, fun h x hx => bne_iff_ne.2 (ne_of_mem_of_not_mem hx h)⟩
  rw [← not_iff_not, ← hrest, ← List.length_eq_zero_iff]
  omega

theorem reference?_braces (rest : List Char) : reference? ('\x7b' :: rest)
    = if '\x7d' ∈ rest then some (isZero (rest.takeWhile (· != '\x7d')),
        (rest.takeWhile (· != '\x7d')).length + 2) else none := by
  rw [reference?]
  simp only [length_takeWhile_lt_iff]

theorem reference?_name {c : Char} (hc : c ≠ '\x7b') (rest : List Char) : reference? (c :: rest)
    = if isReferenceChar c then some (isZero (c :: rest.takeWhile isReferenceChar),
        (rest.takeWhile isReferenceChar).length + 1) else none := by
  rw [reference?]
  · rw [List.takeWhile_cons]
    split <;> simp
  · simp
  · intro rest' h
    exact hc (List.cons.inj h).1

/-- A reference has characters, and all of them are in the text. -/
theorem reference?_length {isMatched : Bool} {length : Nat}
    (h : reference? cs = some (isMatched, length)) :
    0 < length ∧ length ≤ cs.length := by
  cases cs with
  | nil => cases h
  | cons c rest =>
      by_cases hbrace : c = '\x7b'
      · subst hbrace
        rw [reference?_braces, Option.ite_none_right_eq_some] at h
        obtain ⟨-, rfl⟩ := Prod.mk.inj (Option.some.inj h.2)
        exact ⟨Nat.succ_pos _, Nat.succ_le_succ (length_takeWhile_lt_iff.2 h.1)⟩
      · rw [reference?_name hbrace, Option.ite_none_right_eq_some] at h
        obtain ⟨-, rfl⟩ := Prod.mk.inj (Option.some.inj h.2)
        exact ⟨Nat.succ_pos _, Nat.succ_le_succ (List.takeWhile_sublist _).length_le⟩

theorem dollar?_of_ne {c : Char} (hc : c ≠ '$') (rest : List Char) : dollar? matched (c :: rest)
    = (reference? (c :: rest)).map fun (isMatched, length) =>
      (if isMatched then matched else [], length) := by
  rw [dollar?, if_neg]
  simpa using hc

theorem isSome_dollar?_iff (matched cs : List Char) : (dollar? matched cs).isSome = true ↔ Refers cs := by
  cases cs with
  | nil => exact ⟨nofun, nofun⟩
  | cons c rest =>
      by_cases hdollar : c = '$'
      · subst hdollar
        exact iff_of_true rfl (.dollar rest)
      · rw [dollar?_of_ne hdollar, Option.isSome_map]
        by_cases hbrace : c = '\x7b'
        · subst hbrace
          rw [reference?_braces]
          constructor
          · intro h
            have hmem : '\x7d' ∈ rest := by
              by_contra hno
              rw [if_neg hno] at h
              cases h
            obtain ⟨name, rest, rfl, hname⟩ := List.eq_append_cons_of_mem hmem
            exact .braces hname rest
          · intro h
            cases h with
            | name hchar => exact absurd hchar (by decide)
            | braces => simp
        · rw [reference?_name hbrace]
          constructor
          · intro h
            refine .name ?_ rest
            by_contra hchar
            rw [if_neg hchar] at h
            cases h
          · intro h
            cases h with
            | dollar => exact absurd rfl hdollar
            | name hchar => rw [if_pos hchar]; rfl
            | braces => exact absurd rfl hbrace

/-- A reference belongs to the text, and stands for what is replaced or for no more characters than
it has. -/
theorem dollar?_spec {inserted : List Char} {length : Nat}
    (h : dollar? matched cs = some (inserted, length)) :
    0 < length ∧ length ≤ cs.length ∧ (inserted = matched ∨ inserted.length ≤ length) := by
  have hinserted : ∀ isMatched : Bool, (if isMatched then matched else []) = matched
      ∨ (if isMatched then matched else []).length ≤ length := by
    rintro (_ | _)
    · exact .inr (Nat.zero_le _)
    · exact .inl rfl
  cases cs with
  | nil => cases h
  | cons c rest =>
      by_cases hdollar : c = '$'
      · subst hdollar
        obtain ⟨rfl, rfl⟩ := Prod.mk.inj (Option.some.inj h)
        exact ⟨Nat.one_pos, Nat.le_add_left _ _, .inr (Nat.le_refl _)⟩
      · rw [dollar?_of_ne hdollar, Option.map_eq_some_iff] at h
        obtain ⟨⟨isMatched, length⟩, href, heq⟩ := h
        obtain ⟨rfl, rfl⟩ := Prod.mk.inj heq
        obtain ⟨hpos, hle⟩ := reference?_length href
        exact ⟨hpos, hle, hinserted isMatched⟩

/-- A quote behind a text makes no other reference of it. -/
theorem dollar?_append_quote (matched cs : List Char) :
    dollar? matched (cs ++ ['"']) = dollar? matched cs := by
  cases cs with
  | nil => rfl
  | cons c rest =>
      by_cases hdollar : c = '$'
      · subst hdollar
        rfl
      · rw [List.cons_append, dollar?_of_ne hdollar, dollar?_of_ne hdollar]
        refine congrArg _ ?_
        by_cases hbrace : c = '\x7b'
        · subst hbrace
          rw [reference?_braces, reference?_braces]
          have hiff : '\x7d' ∈ rest ++ ['"'] ↔ '\x7d' ∈ rest := by simp
          simp only [hiff]
          refine if_ctx_congr Iff.rfl (fun hmem => ?_) fun _ => rfl
          rw [List.takeWhile_append, if_neg (Nat.ne_of_lt (length_takeWhile_lt_iff.2 hmem))]
        · have hstop : (rest ++ ['"']).takeWhile isReferenceChar = rest.takeWhile isReferenceChar := by
            have hquote : ['"'].takeWhile isReferenceChar = [] := by decide
            rw [List.takeWhile_append, hquote, List.append_nil]
            split
            next h => exact ((List.takeWhile_prefix _).eq_of_length h).symm
            next => rfl
          rw [reference?_name hbrace, reference?_name hbrace, hstop]

/-! ## Expanding -/

theorem expandFrom_cons_of_ne {c : Char} (hc : c ≠ '$') (cs : List Char) :
    expandFrom matched 0 (c :: cs) = c :: expandFrom matched 0 cs := by
  rw [expandFrom, if_pos (bne_iff_ne.2 hc)]

theorem expandFrom_dollar (matched cs : List Char) : expandFrom matched 0 ('$' :: cs)
    = match dollar? matched cs with
      | some (inserted, length) => inserted ++ expandFrom matched length cs
      | none => '$' :: expandFrom matched 0 cs := by
  rw [expandFrom, if_neg (by simp), dollar?]
  split
  · rfl
  · cases reference? cs with
    | none => rfl
    | some found => rfl

theorem expandFrom_dollar_of_not_refers (h : ¬ Refers cs) :
    expandFrom matched 0 ('$' :: cs) = '$' :: expandFrom matched 0 cs := by
  rw [← isSome_dollar?_iff matched, Bool.not_eq_true, Option.isSome_eq_false_iff,
    Option.isNone_iff_eq_none] at h
  rw [expandFrom_dollar, h]

/-- Without what is replaced, expanding leaves no more characters than are left of the text. -/
theorem length_expandFrom_le {c : Char} (hc : c ∈ matched) {skip : Nat}
    (h : c ∉ expandFrom matched skip cs) : (expandFrom matched skip cs).length ≤ cs.length - skip := by
  induction cs generalizing skip with
  | nil => exact Nat.zero_le _
  | cons d cs ih =>
      cases skip with
      | succ skip =>
          have hrest := @ih skip h
          rw [expandFrom, List.length_cons]
          omega
      | zero =>
          by_cases hd : d = '$'
          · subst hd
            rw [expandFrom_dollar] at h ⊢
            cases hfound : dollar? matched cs with
            | none =>
                rw [hfound, List.mem_cons, not_or] at h
                have hrest := ih h.2
                simp only [List.length_cons]
                omega
            | some found =>
                obtain ⟨inserted, length⟩ := found
                obtain ⟨-, hlength, hinserted⟩ := dollar?_spec hfound
                rw [hfound, List.mem_append, not_or] at h
                have hrest := ih h.2
                rcases hinserted with rfl | hinserted
                · exact absurd hc h.1
                · simp only [List.length_append, List.length_cons]
                  omega
          · rw [expandFrom_cons_of_ne hd, List.mem_cons, not_or] at h
            have hrest := ih h.2
            rw [expandFrom_cons_of_ne hd, List.length_cons, List.length_cons]
            omega

/-- **A replacement text stands for itself exactly if no dollar in it begins a reference**, when
what is replaced has a character that the text does not have. -/
theorem expand_eq_self_iff {c : Char} (hc : c ∈ matched) (hcs : c ∉ cs) :
    expand matched cs = cs ↔ IsLiteral cs := by
  unfold expand
  induction cs with
  | nil => exact iff_of_true rfl (isLiteral_of_not_mem List.not_mem_nil)
  | cons d cs ih =>
      rw [List.mem_cons, not_or] at hcs
      rw [isLiteral_cons_iff, ← ih hcs.2]
      by_cases hd : d = '$'
      · subst hd
        by_cases hrefers : Refers cs
        · -- the text would have to be shorter than it is
          refine iff_of_false (fun heq => ?_) fun h => h.1 rfl hrefers
          rw [← isSome_dollar?_iff matched, Option.isSome_iff_exists] at hrefers
          obtain ⟨⟨inserted, length⟩, hfound⟩ := hrefers
          obtain ⟨hpos, hlength, hinserted⟩ := dollar?_spec hfound
          rw [expandFrom_dollar, hfound] at heq
          change inserted ++ expandFrom matched length cs = '$' :: cs at heq
          have hno : c ∉ inserted ++ expandFrom matched length cs := by
            rw [heq, List.mem_cons, not_or]
            exact hcs
          rw [List.mem_append, not_or] at hno
          have hrest := length_expandFrom_le hc hno.2
          have htotal := congrArg List.length heq
          rcases hinserted with rfl | hinserted
          · exact hno.1 hc
          · simp only [List.length_append, List.length_cons] at htotal
            omega
        · rw [expandFrom_dollar_of_not_refers hrefers, List.cons.injEq]
          exact ⟨fun h => ⟨fun _ => hrefers, h.2⟩, fun h => ⟨rfl, h.2⟩⟩
      · rw [expandFrom_cons_of_ne hd, List.cons.injEq]
        exact ⟨fun h => ⟨fun heq => absurd heq hd, h.2⟩, fun h => ⟨rfl, h.2⟩⟩

theorem expand_append {front : List Char} (h : '$' ∉ front) (matched back : List Char) :
    expand matched (front ++ back) = front ++ expand matched back := by
  induction front with
  | nil => rfl
  | cons c front ih =>
      rw [List.mem_cons, not_or] at h
      have hrest := ih h.2
      unfold expand at hrest ⊢
      rw [List.cons_append, expandFrom_cons_of_ne (Ne.symm h.1), hrest, List.cons_append]

theorem expandFrom_append_quote {skip : Nat} (h : skip ≤ cs.length) :
    expandFrom matched skip (cs ++ ['"']) = expandFrom matched skip cs ++ ['"'] := by
  induction cs generalizing skip with
  | nil =>
      obtain rfl := Nat.le_zero.1 h
      rfl
  | cons c cs ih =>
      cases skip with
      | succ skip => exact ih (Nat.le_of_succ_le_succ h)
      | zero =>
          by_cases hc : c = '$'
          · subst hc
            rw [List.cons_append, expandFrom_dollar, expandFrom_dollar, dollar?_append_quote]
            cases hfound : dollar? matched cs with
            | none => exact congrArg _ (ih (Nat.zero_le _))
            | some found =>
                obtain ⟨inserted, length⟩ := found
                simp only [ih (dollar?_spec hfound).2.1, List.append_assoc]
          · rw [List.cons_append, expandFrom_cons_of_ne hc, expandFrom_cons_of_ne hc,
              ih (Nat.zero_le _), List.cons_append]

/-- The attribute of a version is expanded around the version. -/
theorem expand_versionAttribute (matched : List Char) (version : String) :
    expand matched (versionAttribute version).toList
      = "Version=\"".toList ++ expand matched version.toList ++ ['"'] := by
  have hsplit : (versionAttribute version).toList
      = "Version=\"".toList ++ (version.toList ++ ['"']) := by
    rw [versionAttribute, String.toList_append, String.toList_append, List.append_assoc]
    rfl
  rw [hsplit, expand_append (by decide), List.append_assoc]
  exact congrArg _ (expandFrom_append_quote (Nat.zero_le _))

end

end Scaffold.Manifest
