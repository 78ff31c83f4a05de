import Scaffold.Artifact

/-!
# Line edits

Putting a line in, taking one out and changing the text of one, as data.  The same edits
apply to a plain list of lines, where a position out of range is refused, and to an
artifact, where each line keeps its terminator.
-/

namespace Scaffold

/-- One change to a list of lines. -/
inductive LineEdit where
  | insert (index : Nat) (text : String)
  | remove (index : Nat)
  | replace (index : Nat) (text : String)
deriving Repr, DecidableEq

namespace LineEdit

/-- Decide whether an edit names a position of `count` lines. -/
def inRange (count : Nat) : LineEdit → Bool
  | .insert i _ => i ≤ count
  | .remove i | .replace i _ => i < count

/-- Apply an edit to plain lines, at whatever position it names. -/
def apply (lines : List String) : LineEdit → List String
  | .insert i text => lines.take i ++ text :: lines.drop i
  | .remove i => lines.eraseIdx i
  | .replace i text => lines.modify i fun _ => text

/-- Apply an edit to plain lines, unless its position is out of range. -/
def tryApply (lines : List String) (e : LineEdit) : Option (List String) :=
  if e.inRange lines.length then some (e.apply lines) else none

/-- Apply edits in order, each to the lines the ones before it left. -/
def carryOut? : List String → List LineEdit → Option (List String)
  | lines, [] => some lines
  | lines, e :: es =>
      match e.tryApply lines with
      | some next => carryOut? next es
      | none => none

end LineEdit

/-- Apply an edit to an artifact. -/
def Artifact.edit (a : Artifact) : LineEdit → Artifact
  | .insert i text => a.insertLine i text
  | .remove i => a.removeLine i
  | .replace i text => a.replaceLine i text

/-- Apply edits in order. -/
def Artifact.editAll (a : Artifact) (es : List LineEdit) : Artifact := es.foldl Artifact.edit a

theorem texts_eraseIdx (ls : List Line) (i : Nat) :
    (ls.eraseIdx i).map Line.text = (ls.map Line.text).eraseIdx i := by
  induction ls generalizing i with
  | nil => simp
  | cons l ls ih => cases i <;> simp [ih]

theorem texts_modify (ls : List Line) (i : Nat) (text : String) :
    (ls.modify i fun l => { l with text := text }).map Line.text
      = (ls.map Line.text).modify i fun _ => text := by
  induction ls generalizing i with
  | nil => simp
  | cons l ls ih => cases i <;> simp [ih]

/-- An edit does to the texts of an artifact what it does to plain lines. -/
theorem Artifact.texts_edit (a : Artifact) (e : LineEdit) :
    (a.edit e).texts = e.apply a.texts := by
  cases e with
  | insert i text => simp [edit, insertLine, insertLines, texts, LineEdit.apply]
  | remove i => simp [edit, removeLine, texts, LineEdit.apply, texts_eraseIdx]
  | replace i text => simp [edit, replaceLine, texts, LineEdit.apply, texts_modify]

end Scaffold
