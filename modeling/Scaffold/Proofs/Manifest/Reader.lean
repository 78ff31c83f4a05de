import Mathlib
import Scaffold.Proofs.Manifest.Revision

/-!
# Reading markup

The merge takes lines for entries by what stands on them.  A `Reader` goes through the characters of
a text instead, as one who knows markup does: it finds the tags with their attributes, over line
ends, and none in a comment, in character data or in an instruction.

It reads an attribute as it is written (`Reader.read_attribute`), and it cannot tell, wherever it
is, that the value of a version element is another one (`Reader.read_replaceChild?`).
-/

namespace Scaffold.Manifest

open Scaffold.Text

/-- A tag as a reader of markup finds it: what stands behind its bracket, and its attributes. -/
structure Tag where
  name : List Char
  attributes : List (List Char × List Char)
deriving Repr, DecidableEq

/-- What hides tags from a reader. -/
inductive Hiding where
  | comment
  | data
  | instruction
deriving Repr, DecidableEq

namespace Hiding

/-- What it begins with, behind the bracket. -/
def start : Hiding → List Char
  | .comment => ['!', '-', '-']
  | .data => ['!', '[', 'C', 'D', 'A', 'T', 'A', '[']
  | .instruction => ['?']

/-- What ends it, the last character first. -/
def stop : Hiding → List Char
  | .comment => ['>', '-', '-']
  | .data => ['>', ']', ']']
  | .instruction => ['>', '?']

/-- What begins with a text. -/
def ofStart? (name : List Char) : Option Hiding :=
  [comment, data, instruction].find? (·.start = name)

end Hiding

/-- Where a reader of markup is. -/
inductive Reader where
  /-- Outside tags. -/
  | content
  /-- Behind the bracket of a tag. -/
  | opened (name : List Char)
  /-- Where tags are hidden, with the last two characters, the last one first. -/
  | hidden (by_what : Hiding) (recent : List Char)
  /-- Between the attributes of a tag, or in the name of one. -/
  | tag (name : List Char) (attributes : List (List Char × List Char)) (word : List Char)
  /-- In the value of an attribute. -/
  | value (name : List Char) (attributes : List (List Char × List Char)) (word : List Char)
      (quote : Char) (read : List Char)
  /-- Past a bracket where none can be. -/
  | broken
deriving Repr, DecidableEq

namespace Reader

/-- Read a character, and answer with the tag that it ends. -/
def step : Reader → Char → Reader × Option Tag
  | .content, c => (if c == '<' then .opened [] else .content, none)
  | .opened name, c =>
      if c == '<' then (.broken, none)
      else if c == '>' then (.content, some ⟨name, []⟩)
      else if isSpace c then (.tag name [] [], none)
      else match Hiding.ofStart? (name ++ [c]) with
        | some what => (.hidden what [], none)
        | none => (.opened (name ++ [c]), none)
  | .hidden what recent, c =>
      if what.stop.isPrefixOf (c :: recent) then (.content, none)
      else (.hidden what ((c :: recent).take 2), none)
  | .tag name attributes word, c =>
      if c == '<' then (.broken, none)
      else if c == '>' then (.content, some ⟨name, attributes⟩)
      else if c == '"' || c == '\x27' then (.value name attributes word c [], none)
      else if isAttributeChar c then (.tag name attributes (word ++ [c]), none)
      else (.tag name attributes word, none)
  | .value name attributes word quote read, c =>
      if c == '<' then (.broken, none)
      else if c == quote then (.tag name (attributes ++ [(word, read)]) [], none)
      else (.value name attributes word quote (read ++ [c]), none)
  | .broken, _ => (.broken, none)

/-- Read a text: where the reader is then, and the tags it has found. -/
def read : Reader → List Char → Reader × List Tag
  | r, [] => (r, [])
  | r, c :: cs =>
      let next := r.step c
      let rest := next.1.read cs
      (rest.1, next.2.toList ++ rest.2)

theorem read_cons (r : Reader) (c : Char) (cs : List Char) :
    r.read (c :: cs) = (((r.step c).1.read cs).1, (r.step c).2.toList ++ ((r.step c).1.read cs).2) := rfl

theorem read_append (r : Reader) (front back : List Char) :
    r.read (front ++ back)
      = (((r.read front).1.read back).1, (r.read front).2 ++ ((r.read front).1.read back).2) := by
  induction front generalizing r with
  | nil => rfl
  | cons c front ih => simp only [List.cons_append, read, ih, List.append_assoc]

theorem read_trans {r r' r'' : Reader} {front back : List Char} {tags tags' : List Tag}
    (h : r.read front = (r', tags)) (h' : r'.read back = (r'', tags')) :
    r.read (front ++ back) = (r'', tags ++ tags') := by
  rw [read_append, h, h']

/-- A reader goes on alike past a text when it does so past the part that is another one. -/
theorem read_congr {middle middle' : List Char} (h : ∀ r : Reader, r.read middle = r.read middle')
    (r : Reader) (front back : List Char) :
    r.read (front ++ middle ++ back) = r.read (front ++ middle' ++ back) := by
  rw [read_append r (front ++ middle), read_append r front, h, ← read_append r front, ← read_append]

/-- Characters that change nothing are read past. -/
theorem read_of_step {r : Reader} {cs : List Char} (h : ∀ c ∈ cs, r.step c = (r, none)) :
    r.read cs = (r, []) := by
  induction cs with
  | nil => rfl
  | cons c cs ih =>
      rw [List.forall_mem_cons] at h
      rw [read_cons, h.1, ih h.2]
      rfl

theorem read_broken (cs : List Char) : broken.read cs = (broken, []) := read_of_step fun _ _ => rfl

/-- Text without a bracket is content. -/
theorem read_content {cs : List Char} (h : '<' ∉ cs) : content.read cs = (content, []) := by
  refine read_of_step fun c hc => ?_
  have hne : (c == '<') = false := beq_eq_false_iff_ne.2 (ne_of_mem_of_not_mem hc h)
  simp only [step, hne, Bool.false_eq_true, if_false]

section

variable {name word : List Char} {attributes : List (List Char × List Char)}

theorem step_tag_of_isSpace {c : Char} (h : isSpace c = true) :
    (tag name attributes word).step c = (tag name attributes word, none) := by
  simp only [isSpace, Bool.or_eq_true, beq_iff_eq] at h
  rcases h with ((rfl | rfl) | rfl) | rfl <;> rfl

theorem read_name {cs : List Char} (h : ∀ c ∈ cs, isAttributeChar c = true) :
    (tag name attributes word).read cs = (tag name attributes (word ++ cs), []) := by
  induction cs generalizing word with
  | nil => simp [read]
  | cons c cs ih =>
      rw [List.forall_mem_cons] at h
      have hstep : (tag name attributes word).step c = (tag name attributes (word ++ [c]), none) := by
        have hc := h.1
        simp only [isAttributeChar, Bool.and_eq_true, bne_iff_ne] at hc
        simp [step, h.1, hc]
      rw [read_cons, hstep, ih h.2, List.append_assoc]
      rfl

theorem read_value {quote : Char} {cs read : List Char} (hquote : quote ∉ cs) (hbracket : '<' ∉ cs) :
    (value name attributes word quote read).read cs
      = (value name attributes word quote (read ++ cs), []) := by
  induction cs generalizing read with
  | nil => simp [Reader.read]
  | cons c cs ih =>
      rw [List.mem_cons, not_or] at hquote hbracket
      have hstep : (value name attributes word quote read).step c
          = (value name attributes word quote (read ++ [c]), none) := by
        simp [step, Ne.symm hquote.1, Ne.symm hbracket.1]
      rw [read_cons, hstep, ih hquote.2 hbracket.2, List.append_assoc]
      rfl

/-- An attribute is read as it is written. -/
theorem read_attribute {a : Attribute} (h : a.WellFormed) (hvalue : '<' ∉ a.value) :
    (tag name attributes []).read a.text = (tag name (attributes ++ [(a.name, a.value)]) [], []) := by
  have hsign : (tag name attributes a.name).read a.sign = (tag name attributes a.name, []) := by
    refine read_of_step fun c hc => ?_
    have hchar := h.sign c hc
    rw [Bool.or_eq_true, beq_iff_eq] at hchar
    rcases hchar with hspace | rfl
    · exact step_tag_of_isSpace hspace
    · rfl
  have hopen : (tag name attributes a.name).step a.quote
      = (value name attributes a.name a.quote [], none) := by
    rcases h.quote with hquote | hquote <;> rw [hquote] <;> rfl
  have hclose : (value name attributes a.name a.quote a.value).step a.quote
      = (tag name (attributes ++ [(a.name, a.value)]) [], none) := by
    rcases h.quote with hquote | hquote <;> rw [hquote] <;> rfl
  have hgap := @read_of_step (tag name attributes []) a.gap fun c hc => step_tag_of_isSpace (h.gap c hc)
  have hvalue' : (tag name attributes a.name).read (a.quote :: a.value ++ [a.quote])
      = (tag name (attributes ++ [(a.name, a.value)]) [], []) := by
    have hinside := read_trans (@read_value name a.name attributes a.quote a.value [] h.value hvalue)
      (read_cons _ a.quote [])
    rw [List.nil_append, hclose] at hinside
    rw [List.cons_append, read_cons, hopen, hinside]
    rfl
  rw [Attribute.text, List.append_assoc (a.gap ++ a.name ++ a.sign)]
  exact read_trans (read_trans (read_trans hgap (read_name h.name)) hsign) hvalue'

theorem read_attributes {as : List Attribute} (h : ∀ a ∈ as, a.WellFormed ∧ '<' ∉ a.value) :
    (tag name attributes []).read (attributesText as)
      = (tag name (attributes ++ as.map fun a => (a.name, a.value)) [], []) := by
  induction as generalizing attributes with
  | nil => simp [attributesText, read]
  | cons a as ih =>
      rw [List.forall_mem_cons] at h
      have hrest := read_trans (@read_attribute name attributes a h.1.1 h.1.2) (ih h.2)
      simpa [attributesText] using hrest

/-- The white space behind the name of a tag. -/
theorem read_opened {c : Char} (h : isSpace c = true) (cs : List Char) :
    (opened name).read (c :: cs) = (tag name [] []).read (c :: cs) := by
  have hopened : (opened name).step c = (tag name [] [], none) := by
    simp only [isSpace, Bool.or_eq_true, beq_iff_eq] at h
    rcases h with ((rfl | rfl) | rfl) | rfl <;> rfl
  rw [read_cons, read_cons, hopened, step_tag_of_isSpace h]

end

/-- A text without a bracket to the right hides what was hidden. -/
theorem read_hidden {what : Hiding} {recent cs : List Char} (h : '>' ∉ cs) :
    ∃ recent', (hidden what recent).read cs = (hidden what recent', []) := by
  induction cs generalizing recent with
  | nil => exact ⟨recent, rfl⟩
  | cons c cs ih =>
      rw [List.mem_cons, not_or] at h
      have hstep : (hidden what recent).step c = (hidden what ((c :: recent).take 2), none) := by
        cases what <;> simp [step, Hiding.stop, h.1]
      obtain ⟨recent', hrest⟩ := @ih ((c :: recent).take 2) h.2
      refine ⟨recent', ?_⟩
      rw [read_cons, hstep, hrest]
      rfl

/-- A reader goes on alike past version elements, wherever it is. -/
theorem read_version (r : Reader) {value value' : List Char} (h : '<' ∉ value ∧ '>' ∉ value)
    (h' : '<' ∉ value' ∧ '>' ∉ value') :
    r.read (versionOpen ++ value ++ versionClose) = r.read (versionOpen ++ value' ++ versionClose) := by
  have hbroken : ∀ r : Reader, r.step '<' = (broken, none) → ∀ value,
      r.read (versionOpen ++ value ++ versionClose) = (broken, []) := by
    intro r hr value
    rw [versionOpen, List.cons_append, List.cons_append, read_cons, hr, read_broken]
    rfl
  cases r with
  | content =>
      have hread : ∀ value : List Char, '<' ∉ value → content.read (versionOpen ++ value ++ versionClose)
          = (content, [⟨versionName, []⟩] ++ [] ++ [⟨'/' :: versionName, []⟩]) := fun value hvalue =>
        read_trans (read_trans rfl (read_content hvalue)) rfl
      rw [hread value h.1, hread value' h'.1]
  | hidden what recent =>
      have hread : ∀ value : List Char, '>' ∉ value →
          (hidden what recent).read (versionOpen ++ value ++ versionClose)
            = (hidden what ['>', 'n'], []) := by
        intro value hvalue
        have hopen : (hidden what recent).read versionOpen = (hidden what ['>', 'n'], []) := by
          cases what <;> rfl
        obtain ⟨recent', hvalue⟩ := @read_hidden what ['>', 'n'] value hvalue
        have hclose : (hidden what recent').read versionClose = (hidden what ['>', 'n'], []) := by
          cases what <;> rfl
        exact read_trans (read_trans hopen hvalue) hclose
      rw [hread value h.2, hread value' h'.2]
  | opened name => rw [hbroken _ rfl, hbroken _ rfl]
  | tag name attributes word => rw [hbroken _ rfl, hbroken _ rfl]
  | value name attributes word quote read => rw [hbroken _ rfl, hbroken _ rfl]
  | broken => rw [read_broken, read_broken]

/-- A reader goes on alike past a text in which the value of a version element is another one. -/
theorem read_replaceChild? (r : Reader) {version : String} {cs cs' : List Char}
    (hset : replaceChild? version cs = some cs') (hversion : Settable version)
    (hvalue : ∀ value, childVersion? cs = some value → '<' ∉ value ∧ '>' ∉ value) :
    r.read cs' = r.read cs := by
  obtain ⟨⟨front, rest⟩, hopen, hset⟩ := Option.bind_eq_some_iff.1 hset
  obtain ⟨⟨value, back⟩, hclose, rfl⟩ := Option.map_eq_some_iff.1 hset
  have hcs : cs = front ++ (versionOpen ++ value ++ versionClose) ++ back := by
    rw [cutAt?_eq_some hopen, cutAt?_eq_some hclose]
    simp
  have hold := hvalue value (childVersion?_eq_some_iff.2 ⟨front, rest, back, hopen, hclose⟩)
  change r.read (front ++ (versionElement version).toList ++ back) = _
  rw [hcs, toList_versionElement]
  exact read_congr (fun r => read_version r ⟨hversion.opening, hversion.closing⟩ hold) r front back

end Reader

end Scaffold.Manifest
