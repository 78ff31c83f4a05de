import Mathlib
import Scaffold.Proofs.Names
import Scaffold.Proofs.Text.Lines
import Scaffold.Text.Blank
import Scaffold.Text.Search

/-!
# Shapes of texts

A line that is generated for names nobody knows yet has a shape: fixed characters, places
where some text of a known class stands, and places where *the* name of the line stands.
`mayOccur` compares two shapes by a computation, and when it answers no, no text of the first
shape occurs in a text of the second (`Shaped.not_contains`).  So that a declaration of one kind
is never taken for one of another kind, whatever the names are, is decided shape by shape.

Two lines of one kind differ by their names only, and there the comparison may assume that the
names differ.  It uses this where both names stand at the same place and the same characters of
their class follow: then the texts run on to the same end, and the names would be equal.

The answer yes says nothing: the other places of a shape are compared each for itself, so it is
not seen when two of them hold the same text.
-/

namespace Scaffold.Text

/-- The classes of text a shape leaves open. -/
inductive CharKind where
  /-- Letters and digits. -/
  | name
  /-- Letters, digits and hyphens. -/
  | kebab
  /-- Letters, digits, dots, underscores and hyphens. -/
  | dotted
  /-- What the types of results are written with. -/
  | type
  /-- What a verb and a route are written with. -/
  | route
  /-- Blanks in a line. -/
  | blank
deriving Repr, DecidableEq

/-- Decide whether a character can stand in the type of a result. -/
def isTypeChar (c : Char) : Bool := c.isAlphanum || c == '<' || c == '>' || c == '?'

/-- Decide whether a character does not end a line. -/
def isPlainChar (c : Char) : Bool := c != '\n' && c != '\r'

/-- Decide whether a character can stand in a verb and a route as they are declared. -/
def isRouteChar (c : Char) : Bool := isKebabChar c || ['/', '(', ')', '"', '\x7b', '\x7d', ':'].contains c

/-- Decide whether a character belongs to a class. -/
def CharKind.has : CharKind → Char → Bool
  | .name, c => c.isAlphanum
  | .kebab, c => isKebabChar c
  | .dotted, c => isDottedChar c
  | .type, c => isTypeChar c
  | .route, c => isRouteChar c
  | .blank, c => isBlank c && isPlainChar c

/-- No class has a character that ends a line. -/
theorem CharKind.isPlainChar_of_has {kind : CharKind} {c : Char} (h : kind.has c = true) :
    isPlainChar c = true := by
  have hends : ∀ d : Char, (d = '\n' ∨ d = '\r') → kind.has d = false := by
    rintro d (rfl | rfl) <;> cases kind <;> decide
  by_contra hno
  have hc : c = '\n' ∨ c = '\r' := by
    simpa [isPlainChar, -not_and, Decidable.not_and_iff_or_not] using hno
  rw [hends c hc] at h
  cases h

/-- A part of a shape. -/
inductive Atom where
  /-- This character. -/
  | char (c : Char)
  /-- Some text of a class, maybe an empty one. -/
  | some (kind : CharKind)
  /-- The name of the line, of a class. -/
  | var (kind : CharKind)
deriving Repr, DecidableEq

/-- The shape of a fixed text. -/
def fixed (cs : List Char) : List Atom := cs.map .char

/-- The shape of the texts of a class. -/
def hole (kind : CharKind) : List Atom := [.some kind]

/-- The texts of a shape under a name. -/
inductive Fits (name : List Char) : List Atom → List Char → Prop
  | nil : Fits name [] []
  | char {shape : List Atom} {cs : List Char} (c : Char) (rest : Fits name shape cs) :
      Fits name (.char c :: shape) (c :: cs)
  | some {shape : List Atom} {cs front : List Char} (kind : CharKind)
      (hfront : ∀ c ∈ front, kind.has c = true) (rest : Fits name shape cs) :
      Fits name (.some kind :: shape) (front ++ cs)
  | var {shape : List Atom} {cs : List Char} (kind : CharKind)
      (hname : ∀ c ∈ name, kind.has c = true) (rest : Fits name shape cs) :
      Fits name (.var kind :: shape) (name ++ cs)

namespace Fits

variable {name : List Char}

theorem fixed (cs : List Char) : Fits name (fixed cs) cs := by
  induction cs with
  | nil => exact .nil
  | cons c cs ih => exact .char c ih

theorem append {shape shape' : List Atom} {cs cs' : List Char} (h : Fits name shape cs)
    (h' : Fits name shape' cs') : Fits name (shape ++ shape') (cs ++ cs') := by
  induction h with
  | nil => exact h'
  | char c _ ih => exact .char c ih
  | some kind hfront _ ih =>
      rw [List.append_assoc]
      exact .some kind hfront ih
  | var kind hname _ ih =>
      rw [List.append_assoc]
      exact .var kind hname ih

theorem hole {kind : CharKind} {cs : List Char} (h : ∀ c ∈ cs, kind.has c = true) :
    Fits name (hole kind) cs := by
  rw [← List.append_nil cs]
  exact Fits.some kind h .nil

end Fits

/-! ## The comparison -/

/-- The characters of a class that a shape begins with, if a character outside the class
follows them. -/
def run? (kind : CharKind) : List Atom → Option (List Char)
  | .char c :: shape => if kind.has c then (run? kind shape).map (c :: ·) else Option.some []
  | _ => none

/-- Decide whether what follows two names lets them run on to the same end. -/
def runAlike (kind : CharKind) (shape shape' : List Atom) : Bool :=
  (run? kind shape).isSome && run? kind shape == run? kind shape'

/-- Decide whether a text of the first shape may begin one of the second; `apart` says that
their names differ.  The number bounds the steps. -/
def mayStart (apart : Bool) : Nat → List Atom → List Atom → Bool
  | 0, _, _ => true
  | _ + 1, [], _ => true
  | n + 1, .char c :: needle, shape =>
      match shape with
      | [] => false
      | .char d :: rest => c == d && mayStart apart n needle rest
      | .some kind :: rest =>
          mayStart apart n (.char c :: needle) rest || (kind.has c && mayStart apart n needle shape)
      | .var kind :: rest => mayStart apart n (.char c :: needle) (.some kind :: rest)
  | n + 1, .some kind :: needle, shape =>
      mayStart apart n needle shape ||
        match shape with
        | [] => false
        | .char d :: rest => kind.has d && mayStart apart n (.some kind :: needle) rest
        | .some _ :: rest => mayStart apart n (.some kind :: needle) rest
        | .var kind' :: rest => mayStart apart n (.some kind :: needle) (.some kind' :: rest)
  | n + 1, .var kind :: needle, shape =>
      match shape with
      | .var kind' :: rest =>
          !(apart && kind == kind' && runAlike kind needle rest)
            && mayStart apart n (.some kind :: needle) (.some kind' :: rest)
      | _ => mayStart apart n (.some kind :: needle) shape

/-- A number of steps that suffices for two shapes. -/
def stepBound (needle shape : List Atom) : Nat := 2 * (needle.length + shape.length) + 1

/-- Decide whether a text of the first shape may occur in one of the second. -/
def mayOccur (apart : Bool) (needle : List Atom) : List Atom → Bool
  | [] => mayStart apart (stepBound needle []) needle []
  | .var kind :: shape =>
      mayStart apart (stepBound needle (.var kind :: shape)) needle (.var kind :: shape)
        || mayStart apart (stepBound needle (.var kind :: shape)) needle (.some kind :: shape)
        || mayOccur apart needle shape
  | a :: shape =>
      mayStart apart (stepBound needle (a :: shape)) needle (a :: shape)
        || mayOccur apart needle shape

/-- Two texts with a common beginning, of which one is put together from two parts. -/
theorem prefix_append_cases {as bs cs ds : List Char} (h : as ++ bs <+: cs ++ ds) :
    (∃ rest, cs = as ++ rest ∧ bs <+: rest ++ ds)
      ∨ ∃ rest, as = cs ++ rest ∧ rest ++ bs <+: ds := by
  induction as generalizing cs with
  | nil => exact .inl ⟨cs, rfl, h⟩
  | cons a as ih =>
      cases cs with
      | nil => exact .inr ⟨a :: as, rfl, h⟩
      | cons c cs =>
          rw [List.cons_append, List.cons_append, List.cons_prefix_cons] at h
          obtain ⟨rfl, h⟩ := h
          rcases ih h with ⟨rest, rfl, hrest⟩ | ⟨rest, rfl, hrest⟩
          · exact .inl ⟨rest, rfl, hrest⟩
          · exact .inr ⟨rest, rfl, hrest⟩

/-- A text whose shape begins with a run goes on with another character after it. -/
theorem Fits.run {name cs r : List Char} {kind : CharKind} {shape : List Atom}
    (h : Fits name shape cs) (hr : run? kind shape = Option.some r) :
    (∀ c ∈ r, kind.has c = true) ∧ ∃ d tail, cs = r ++ d :: tail ∧ kind.has d = false := by
  induction h generalizing r with
  | nil => cases hr
  | some => cases hr
  | var => cases hr
  | @char shape cs c rest ih =>
      rw [run?] at hr
      by_cases hc : kind.has c = true
      · rw [if_pos hc] at hr
        obtain ⟨r', hr', rfl⟩ := Option.map_eq_some_iff.1 hr
        obtain ⟨hall, d, tail, rfl, hd⟩ := ih hr'
        exact ⟨List.forall_mem_cons.2 ⟨hc, hall⟩, d, tail, rfl, hd⟩
      · rw [if_neg hc, Option.some.injEq] at hr
        subst hr
        exact ⟨by simp, c, cs, rfl, by simpa using hc⟩

/-- Two texts of a class that run on to the same end are equal. -/
theorem eq_of_prefix_run {p : Char → Bool} {as bs xs ys : List Char} {d e : Char}
    (has : ∀ c ∈ as, p c = true) (hbs : ∀ c ∈ bs, p c = true) (hd : p d = false)
    (he : p e = false) (h : as ++ d :: xs <+: bs ++ e :: ys) : as = bs := by
  induction as generalizing bs with
  | nil =>
      cases bs with
      | nil => rfl
      | cons b bs =>
          have hdb : d = b := (List.cons_prefix_cons.1 h).1
          rw [hdb, hbs b List.mem_cons_self] at hd
          cases hd
  | cons a as ih =>
      cases bs with
      | nil =>
          have hae : a = e := (List.cons_prefix_cons.1 h).1
          rw [← hae, has a List.mem_cons_self] at he
          cases he
      | cons b bs =>
          rw [List.cons_append, List.cons_append, List.cons_prefix_cons] at h
          obtain ⟨rfl, h⟩ := h
          rw [ih (fun c hc => has c (List.mem_cons_of_mem _ hc))
            (fun c hc => hbs c (List.mem_cons_of_mem _ hc)) h]

/-- Names after which the texts run on alike are equal if one text begins the other. -/
theorem eq_of_runAlike {v w ns ts : List Char} {kind : CharKind} {needle shape : List Atom}
    (hv : ∀ c ∈ v, kind.has c = true) (hw : ∀ c ∈ w, kind.has c = true) (hn : Fits v needle ns)
    (ht : Fits w shape ts) (h : v ++ ns <+: w ++ ts) (hrun : runAlike kind needle shape = true) :
    v = w := by
  unfold runAlike at hrun
  rw [Bool.and_eq_true, Option.isSome_iff_exists, beq_iff_eq] at hrun
  obtain ⟨⟨r, hr⟩, heq⟩ := hrun
  obtain ⟨hall, d, tail, rfl, hd⟩ := hn.run hr
  obtain ⟨-, e, tail', rfl, he⟩ := ht.run (heq ▸ hr)
  rw [← List.append_assoc, ← List.append_assoc] at h
  have hext : ∀ {x : List Char}, (∀ c ∈ x, kind.has c = true) → ∀ c ∈ x ++ r, kind.has c = true :=
    fun hx c hc => (List.mem_append.1 hc).elim (hx c) (hall c)
  exact List.append_cancel_right (eq_of_prefix_run (hext hv) (hext hw) hd he h)

theorem mayStart_of_prefix {apart : Bool} (n : Nat) {needle shape : List Atom}
    {v w ns ts : List Char} (hapart : apart = true → v ≠ w) (hn : Fits v needle ns)
    (ht : Fits w shape ts) (h : ns <+: ts) : mayStart apart n needle shape = true := by
  induction n generalizing needle shape ns ts with
  | zero => rfl
  | succ n ih =>
      cases hn with
      | nil => rfl
      | char c hneedle =>
          cases ht with
          | nil => simp at h
          | char d hrest =>
              rw [List.cons_prefix_cons] at h
              obtain ⟨rfl, h⟩ := h
              simp [mayStart, ih hneedle hrest h]
          | var kind hname hrest =>
              simp only [mayStart]
              exact ih (.char c hneedle) (.some kind hname hrest) h
          | @some rest ts front kind hfront hrest =>
              simp only [mayStart, Bool.or_eq_true, Bool.and_eq_true]
              cases front with
              | nil => exact .inl (ih (.char c hneedle) hrest h)
              | cons d front =>
                  rw [List.cons_append, List.cons_prefix_cons] at h
                  obtain ⟨rfl, h⟩ := h
                  exact .inr ⟨hfront _ List.mem_cons_self,
                    ih hneedle (.some kind (fun e he => hfront e (List.mem_cons_of_mem _ he)) hrest) h⟩
      | @some needle ns front kind hfront hneedle =>
          simp only [mayStart, Bool.or_eq_true]
          cases front with
          | nil => exact .inl (ih hneedle ht h)
          | cons e front =>
              cases ht with
              | nil => simp at h
              | char d hrest =>
                  rw [List.cons_append, List.cons_prefix_cons] at h
                  obtain ⟨rfl, h⟩ := h
                  simp only [Bool.and_eq_true]
                  exact .inr ⟨hfront _ List.mem_cons_self,
                    ih (.some kind (fun d hd => hfront d (List.mem_cons_of_mem _ hd)) hneedle) hrest h⟩
              | var kind' hname hrest =>
                  exact .inr (ih (.some kind hfront hneedle) (.some kind' hname hrest) h)
              | @some rest ts front' kind' hfront' hrest =>
                  rcases prefix_append_cases h with ⟨tail, rfl, htail⟩ | ⟨tail, hsplit, htail⟩
                  · exact .inl (ih hneedle (.some kind' (fun d hd =>
                      hfront' d (List.mem_append_right _ hd)) hrest) htail)
                  · exact .inr (ih (.some kind (fun d hd => hfront d
                      (hsplit ▸ List.mem_append_right _ hd)) hneedle) hrest htail)
      | @var needle ns kind hname hneedle =>
          have hsome : Fits v (.some kind :: needle) (v ++ ns) := .some kind hname hneedle
          cases ht with
          | nil =>
              simp only [mayStart]
              exact ih hsome .nil h
          | char d hrest =>
              simp only [mayStart]
              exact ih hsome (.char d hrest) h
          | some kind' hfront hrest =>
              simp only [mayStart]
              exact ih hsome (.some kind' hfront hrest) h
          | var kind' hname' hrest =>
              simp only [mayStart, Bool.and_eq_true, Bool.not_eq_true']
              refine ⟨?_, ih hsome (.some kind' hname' hrest) h⟩
              -- Names that run on alike are equal, so they were not told apart.
              rw [Bool.eq_false_iff]
              intro hrun
              simp only [Bool.and_eq_true, beq_iff_eq] at hrun
              obtain ⟨⟨ha, rfl⟩, hrun⟩ := hrun
              exact hapart ha (eq_of_runAlike hname hname' hneedle hrest h hrun)

theorem mayOccur_of_isInfix {apart : Bool} {needle shape : List Atom} {v w ns ts : List Char}
    (hapart : apart = true → v ≠ w) (hn : Fits v needle ns) (ht : Fits w shape ts)
    (h : ns <:+: ts) : mayOccur apart needle shape = true := by
  have hstart : ∀ {n shape ts}, Fits w shape ts → ns <+: ts → mayStart apart n needle shape = true :=
    fun ht h => mayStart_of_prefix _ hapart hn ht h
  induction ht with
  | nil => exact hstart .nil (by simpa using h)
  | @char shape cs c hrest ih =>
      simp only [mayOccur, Bool.or_eq_true]
      rcases List.infix_cons_iff.1 h with h | h
      · exact .inl (hstart (.char c hrest) h)
      · exact .inr (ih h)
  | @some shape cs front kind hfront hrest ih =>
      simp only [mayOccur, Bool.or_eq_true]
      induction front with
      | nil => exact .inr (ih h)
      | cons c front ihf =>
          rcases List.infix_cons_iff.1 h with h | h
          · exact .inl (hstart (.some kind hfront hrest) h)
          · exact ihf (fun d hd => hfront d (List.mem_cons_of_mem _ hd)) h
  | @var shape cs kind hname hrest ih =>
      simp only [mayOccur, Bool.or_eq_true]
      -- Inside the name only a part of it is left.
      have hinside : ∀ front : List Char, (∀ c ∈ front, kind.has c = true) → ns <:+: front ++ cs →
          mayStart apart (stepBound needle (.var kind :: shape)) needle (.some kind :: shape) = true
            ∨ mayOccur apart needle shape = true := by
        intro front hfront h
        induction front with
        | nil => exact .inr (ih h)
        | cons c front ihf =>
            rcases List.infix_cons_iff.1 h with h | h
            · exact .inl (hstart (.some kind hfront hrest) h)
            · exact ihf (fun d hd => hfront d (List.mem_cons_of_mem _ hd)) h
      rcases hinside _ hname h with h | h
      · exact .inl (.inr h)
      · exact .inr h

/-! ## Lines -/

/-- A text has a shape under a name. -/
def Shaped (name : String) (shape : List Atom) (s : String) : Prop := Fits name.toList shape s.toList

namespace Shaped

variable {name name' : String} {shape shape' : List Atom} {s t : String}

/-- A fixed text. -/
theorem lit (s : String) : Shaped name (fixed s.toList) s := Fits.fixed _

/-- A fixed text by its characters. -/
theorem chars (cs : List Char) : Shaped name (fixed cs) (String.ofList cs) := by
  unfold Shaped
  rw [String.toList_ofList]
  exact Fits.fixed _

/-- A text of a class. -/
theorem hole (kind : CharKind) (h : Made kind.has s) : Shaped name (hole kind) s := Fits.hole h

/-- The name itself. -/
theorem var (kind : CharKind) (h : Made kind.has name) : Shaped name [.var kind] name := by
  have hname : Fits name.toList [.var kind] (name.toList ++ []) := Fits.var kind h .nil
  rwa [List.append_nil] at hname

theorem append (h : Shaped name shape s) (h' : Shaped name shape' t) :
    Shaped name (shape ++ shape') (s ++ t) := by
  unfold Shaped
  rw [String.toList_append]
  exact Fits.append h h'

/-- Decide whether no fixed character of a shape ends a line. -/
def isPlainShape (shape : List Atom) : Bool := shape.all fun
  | .char c => isPlainChar c
  | _ => true

/-- A text whose shape stands in one line does. -/
theorem isPlain (h : Shaped name shape s) (hplain : isPlainShape shape = true) : IsPlain s := by
  have key : ∀ c ∈ s.toList, isPlainChar c = true := by
    unfold Shaped at h
    generalize s.toList = cs at h
    induction h with
    | nil => simp
    | char c rest ih =>
        simp only [isPlainShape, List.all_cons, Bool.and_eq_true] at hplain
        exact List.forall_mem_cons.2 ⟨hplain.1, ih hplain.2⟩
    | some kind hfront rest ih =>
        simp only [isPlainShape, List.all_cons, Bool.true_and] at hplain
        intro c hc
        exact (List.mem_append.1 hc).elim (fun hc => kind.isPlainChar_of_has (hfront c hc))
          (ih hplain c)
    | var kind hname rest ih =>
        simp only [isPlainShape, List.all_cons, Bool.true_and] at hplain
        intro c hc
        exact (List.mem_append.1 hc).elim (fun hc => kind.isPlainChar_of_has (hname c hc))
          (ih hplain c)
  refine ⟨fun hc => ?_, fun hc => ?_⟩
  · exact absurd (key _ hc) (by decide)
  · exact absurd (key _ hc) (by decide)

/-- A text does not occur where its shape cannot. -/
theorem not_contains (h : Shaped name shape s) (h' : Shaped name' shape' t)
    (hno : mayOccur false shape shape' = false) : contains t s = false := by
  rw [Bool.eq_false_iff]
  intro hc
  rw [contains, occursIn_iff] at hc
  rw [mayOccur_of_isInfix (fun hapart => absurd hapart Bool.false_ne_true) h h' hc] at hno
  cases hno

/-- A text does not occur where its shape cannot under another name. -/
theorem not_contains_of_ne (h : Shaped name shape s) (h' : Shaped name' shape' t)
    (hno : mayOccur true shape shape' = false) (hne : name ≠ name') : contains t s = false := by
  rw [Bool.eq_false_iff]
  intro hc
  rw [contains, occursIn_iff] at hc
  rw [mayOccur_of_isInfix (fun _ heq => hne (String.toList_injective heq)) h h' hc] at hno
  cases hno

end Shaped

end Scaffold.Text
