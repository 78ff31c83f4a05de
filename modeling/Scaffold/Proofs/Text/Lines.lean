import Mathlib
import Scaffold.Text.Blank
import Scaffold.Text.Search

/-!
# Texts made of terminated lines

`unlines` ends every line with a line feed.  It is undone by `lines` on lines that hold no
line feed and no carriage return (`lines_unlines`), and the pieces of such a text between its
line feeds are the lines and one empty piece (`piecesBy_unlines`).

The rest of the module has what the splitting functions do at a separator and away from one,
stated for any class of separators, so that paths can use it too.
-/

namespace Scaffold.Text

/-! ## Beginnings and ends -/

theorem dropStart?_eq_some {start cs rest : List Char} :
    dropStart? start cs = some rest ↔ cs = start ++ rest := by
  induction start generalizing cs with
  | nil => exact ⟨fun h => Option.some.inj h, fun h => congrArg some h⟩
  | cons p start ih =>
      cases cs with
      | nil => exact ⟨nofun, nofun⟩
      | cons c cs =>
          simp only [dropStart?, beq_iff_eq, List.cons_append, List.cons.injEq]
          split
          next heq => rw [ih, and_iff_right heq.symm]
          next hne => exact ⟨nofun, fun h => absurd h.1.symm hne⟩

theorem dropTail?_eq_some {tail cs rest : List Char} :
    dropTail? tail cs = some rest ↔ cs = rest ++ tail := by
  rw [dropTail?, Option.map_eq_some_iff]
  constructor
  · rintro ⟨front, hfront, rfl⟩
    rw [← List.reverse_reverse cs, dropStart?_eq_some.1 hfront, List.reverse_append,
      List.reverse_reverse]
  · rintro rfl
    exact ⟨rest.reverse, dropStart?_eq_some.2 List.reverse_append, List.reverse_reverse rest⟩

/-! ## Pieces -/

theorem piecesBy_ne_nil (p : Char → Bool) (cs : List Char) : piecesBy p cs ≠ [] := by
  induction cs with
  | nil => simp [piecesBy]
  | cons c cs ih =>
      simp only [piecesBy]
      split
      · simp
      · split <;> simp

/-- A list without separators is one piece. -/
theorem piecesBy_of_forall {p : Char → Bool} {cs : List Char} (h : ∀ c ∈ cs, p c = false) :
    piecesBy p cs = [cs] := by
  induction cs with
  | nil => rfl
  | cons c cs ih =>
      have hc : p c = false := h c List.mem_cons_self
      have hcs := ih fun d hd => h d (List.mem_cons_of_mem _ hd)
      simp [piecesBy, hc, hcs]

/-- A separator divides the pieces before it from those after it. -/
theorem piecesBy_append_sep {p : Char → Bool} {c : Char} (hc : p c = true)
    (as bs : List Char) : piecesBy p (as ++ c :: bs) = piecesBy p as ++ piecesBy p bs := by
  induction as with
  | nil => simp [piecesBy, hc]
  | cons a as ih =>
      simp only [List.cons_append, piecesBy]
      split
      · rw [ih, List.cons_append]
      · rw [ih]
        cases h : piecesBy p as with
        | nil => exact absurd h (piecesBy_ne_nil p as)
        | cons piece rest => simp

/-- No piece holds a separator. -/
theorem not_mem_piecesBy {p : Char → Bool} {cs piece : List Char} (h : piece ∈ piecesBy p cs)
    {c : Char} (hc : c ∈ piece) : p c = false := by
  induction cs generalizing piece with
  | nil =>
      simp only [piecesBy, List.mem_singleton] at h
      subst h
      simp at hc
  | cons d cs ih =>
      simp only [piecesBy] at h
      split at h
      · rcases List.mem_cons.1 h with rfl | h
        · simp at hc
        · exact ih h hc
      next hd =>
        cases hp : piecesBy p cs with
        | nil => exact absurd hp (piecesBy_ne_nil p cs)
        | cons first rest =>
            rw [hp] at h ih
            rcases List.mem_cons.1 h with rfl | h
            · rcases List.mem_cons.1 hc with rfl | hc
              · simpa using hd
              · exact ih List.mem_cons_self hc
            · exact ih (List.mem_cons_of_mem _ h) hc

/-! ## Terminated lines -/

/-- The text of lines that each end with a line feed. -/
def unlines (ls : List String) : String := String.join (ls.map (· ++ "\n"))

@[simp] theorem unlines_nil : unlines [] = "" := rfl

theorem unlines_cons (l : String) (ls : List String) : unlines (l :: ls) = l ++ "\n" ++ unlines ls := by
  apply String.toList_inj.1
  simp [unlines]

theorem toList_unlines (ls : List String) :
    (unlines ls).toList = ls.flatMap fun l => l.toList ++ ['\n'] := by
  induction ls with
  | nil => rfl
  | cons l ls ih => simp [unlines_cons, ih]

/-- A line that can stand in a text of lines: it holds no line feed and no carriage return. -/
def IsPlain (l : String) : Prop := '\n' ∉ l.toList ∧ '\r' ∉ l.toList

theorem isPlain_empty : IsPlain "" := by simp [IsPlain]

theorem IsPlain.append {a b : String} (ha : IsPlain a) (hb : IsPlain b) : IsPlain (a ++ b) := by
  simp [IsPlain, ha.1, ha.2, hb.1, hb.2]

/-- A line of code that ends a statement. -/
def EndsStatement (line : String) : Prop := line.toList.getLast? = some ';'

theorem EndsStatement.append {b : String} (h : EndsStatement b) (a : String) :
    EndsStatement (a ++ b) := by
  unfold EndsStatement at h ⊢
  rw [String.toList_append, List.getLast?_append, h, Option.some_or]

/-- The pieces of a text of lines are its lines and one empty piece after them. -/
theorem piecesBy_unlines {ls : List String} (h : ∀ l ∈ ls, IsPlain l) :
    piecesBy (· == '\n') (unlines ls).toList = ls.map String.toList ++ [[]] := by
  induction ls with
  | nil => rfl
  | cons l ls ih =>
      have hl : ∀ c ∈ l.toList, (c == '\n') = false := by
        intro c hc
        have hne : c ≠ '\n' := fun e => (h l List.mem_cons_self).1 (e ▸ hc)
        simpa using hne
      have hls := ih fun m hm => h m (List.mem_cons_of_mem _ hm)
      simp only [unlines_cons, String.toList_append]
      rw [show "\n".toList = ['\n'] from rfl, List.append_assoc, List.singleton_append,
        piecesBy_append_sep (by rfl), piecesBy_of_forall hl, hls]
      simp

/-- Dropping a carriage return changes nothing where there is none. -/
theorem dropReturn_of_not_mem {cs : List Char} (h : '\r' ∉ cs) : dropReturn cs = cs := by
  unfold dropReturn
  split
  next rest hr =>
    have : '\r' ∈ cs := by
      rw [← List.mem_reverse, hr]
      exact List.mem_cons_self
    exact absurd this h
  next => rfl

/-- Reading the lines of a text of lines gives the lines back. -/
theorem lines_unlines {ls : List String} (h : ∀ l ∈ ls, IsPlain l) : lines (unlines ls) = ls := by
  have hdrop : ∀ l ∈ ls, dropReturn l.toList = l.toList := fun l hl =>
    dropReturn_of_not_mem (h l hl).2
  simp only [lines, piecesBy_unlines h, List.getLast?_append, List.getLast?_singleton,
    Option.some_or, List.dropLast_concat, List.isEmpty_nil, if_true, List.append_nil]
  rw [List.map_map, List.map_map]
  calc ls.map ((String.ofList ∘ dropReturn) ∘ String.toList)
      = ls.map id := List.map_congr_left fun l hl => by simp [hdrop l hl]
    _ = ls := List.map_id ls

/-! ## Blanks -/

theorem mem_leadingBlanks {l : String} {c : Char} (h : c ∈ (leadingBlanks l).toList) :
    isBlank c = true ∧ c ∈ l.toList := by
  simp only [leadingBlanks, String.toList_ofList] at h
  exact ⟨List.mem_takeWhile_imp h, (List.takeWhile_sublist _).subset h⟩

/-- A line that ends in a character that is no blank is not shortened at its end. -/
theorem getLast?_trim {l : String} {c : Char} (hl : l.toList.getLast? = some c)
    (hc : isBlank c = false) : (trim l).toList.getLast? = some c := by
  obtain ⟨front, hfront⟩ : ∃ front, l.toList = front ++ [c] := by
    obtain ⟨front, hf⟩ := List.getLast?_eq_some_iff.1 hl
    exact ⟨front, hf⟩
  have hdrop : ∃ front', (front ++ [c]).dropWhile isBlank = front' ++ [c] := by
    clear hfront hl
    induction front with
    | nil => exact ⟨[], by simp [hc]⟩
    | cons d front ih =>
        by_cases hd : isBlank d
        · simpa [hd] using ih
        · exact ⟨d :: front, by simp [hd]⟩
  obtain ⟨front', hf'⟩ := hdrop
  simp [trim, trimChars, hfront, hf', hc]

end Scaffold.Text
