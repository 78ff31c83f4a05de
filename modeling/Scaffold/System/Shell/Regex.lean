import Scaffold.System.Shell.Pattern

/-!
# Regular expressions

Expressions over octets in their basic and their extended form.  A match is the longest of those
that begin first.
-/

namespace Scaffold.Shell

/-- A regular expression. -/
inductive Regex where
  | empty
  /-- One character. -/
  | one (e : Element)
  /-- The beginning of the text. -/
  | start
  /-- The end of the text. -/
  | finish
  | seq (a b : Regex)
  | either (a b : Regex)
  | repeated (r : Regex) (least : Nat) (most : Option Nat)
  /-- A group, by its number. -/
  | group (number : Nat) (r : Regex)
  /-- What a group has matched. -/
  | again (number : Nat)

instance : Inhabited Regex := ⟨.empty⟩

/-! ## Matching -/

/-- How far a match has come. -/
structure Matching where
  /-- How many characters come before. -/
  position : Nat
  /-- The characters that follow. -/
  rest : List Char
  /-- What the groups have matched, the last first. -/
  groups : List (Nat × List Char) := []

/-- Take one character. -/
def Matching.step (m : Matching) (rest : List Char) : Matching :=
  { m with position := m.position + 1, rest }

/-- The ways to go on with an expression, the ones that come first to be preferred. -/
def Regex.ways : Nat → Regex → Matching → List Matching
  | 0, _, _ => []
  | n + 1, r, m =>
      match r with
      | empty => [m]
      | one e =>
          match m.rest with
          | c :: rest => if e.accepts c then [m.step rest] else []
          | [] => []
      | start => if m.position = 0 then [m] else []
      | finish => if m.rest.isEmpty then [m] else []
      | seq a b => (ways n a m).flatMap (ways n b)
      | either a b => ways n a m ++ ways n b m
      | repeated r least most =>
          let more := if most == some 0 then []
            else ((ways n r m).filter fun m' => m.position < m'.position || 0 < least).flatMap
              (ways n (repeated r (least - 1) (most.map (· - 1))))
          if least = 0 then more ++ [m] else more
      | group k r =>
          (ways n r m).map fun m' =>
            { m' with groups := (k, m.rest.take (m'.position - m.position)) :: m'.groups }
      | again k =>
          let old := (m.groups.lookup k).getD []
          if old.isPrefixOf m.rest then
            [{ m with position := m.position + old.length, rest := m.rest.drop old.length }]
          else []

/-- How large an expression is. -/
def Regex.size : Regex → Nat
  | seq a b | either a b => a.size + b.size + 1
  | repeated r least most => (r.size + 1) * (least + (most.getD 0) + 1)
  | group _ r => r.size + 1
  | _ => 1

/-- The longest match that begins at a place. -/
def Regex.matchHere (r : Regex) (m : Matching) : Option Matching :=
  (r.ways (4 * (r.size + m.rest.length) + 8) m).foldl (fun best m => match best with
    | some b => if b.position < m.position then some m else best
    | none => some m) none

/-- The first match from a place on: where it begins, and how far it comes. -/
def Regex.search (r : Regex) : Nat → List Char → Option (Nat × Matching)
  | i, cs =>
      match r.matchHere ⟨i, cs, []⟩ with
      | some m => some (i, m)
      | none =>
          match cs with
          | [] => none
          | _ :: rest => search r (i + 1) rest

/-! ## Reading -/

/-- The form of an expression. -/
structure Dialect where
  /-- Whether the operators are written without a backslash. -/
  extended : Bool

/-- How far an expression has been read. -/
structure RegexSource where
  rest : List Char
  /-- How many groups were opened. -/
  groups : Nat := 0

/-- A step of reading an expression.  There is no result where the text is none. -/
abbrev RegexReading := StateT RegexSource Option

/-- Take an operator, in the form it has in a dialect. -/
def takeOp (d : Dialect) (c : Char) : RegexReading Bool := do
  let s ← get
  match d.extended, s.rest with
  | true, e :: rest =>
      if e == c then
        set { s with rest }
        return true
      else return false
  | false, '\\' :: e :: rest =>
      if e == c then
        set { s with rest }
        return true
      else return false
  | _, _ => return false

/-- Read a number. -/
def takeNumber : RegexReading (Option Nat) := do
  let s ← get
  let digits := s.rest.takeWhile Char.isDigit
  if digits.isEmpty then return none
  set { s with rest := s.rest.drop digits.length }
  return some (digits.foldl (fun n c => n * 10 + (c.toNat - 48)) 0)

/-- Read the set after an opening bracket. -/
def takeSet : RegexReading Regex := do
  let s ← get
  let (negated, cs) := match s.rest with
    | '^' :: rest => (true, rest)
    | cs => (false, cs)
  match readItems (cs.length + 1) true (cs.map fun c => (c, false)) with
  | some (items, rest) =>
      let left : List Char := rest.map fun (c, _) => c
      set { s with rest := left }
      return .one (.set negated items)
  | none => failure

/-- Read the repetitions after an expression. -/
def repetitions (d : Dialect) : Nat → Regex → RegexReading Regex
  | 0, r => return r
  | n + 1, r => do
      let s ← get
      if s.rest.head? == some '*' then
        set { s with rest := s.rest.drop 1 }
        repetitions d n (.repeated r 0 none)
      else if ← takeOp d '+' then repetitions d n (.repeated r 1 none)
      else if ← takeOp d '?' then repetitions d n (.repeated r 0 (some 1))
      else if ← takeOp d '\x7b' then
        let least ← takeNumber
        let comma := (← get).rest.head? == some ','
        if comma then modify fun s => { s with rest := s.rest.drop 1 }
        let most ← if comma then takeNumber else pure least
        if ← takeOp d '\x7d' then repetitions d n (.repeated r (least.getD 0) most) else failure
      else return r

mutual

/-- Read expressions of which one has to match. -/
def readAlternatives (d : Dialect) : Nat → RegexReading Regex
  | 0 => failure
  | n + 1 => do
      let r ← readSequence d n true .empty
      if ← takeOp d '|' then return .either r (← readAlternatives d n) else return r

/-- Read expressions that match one after another. -/
def readSequence (d : Dialect) : Nat → Bool → Regex → RegexReading Regex
  | 0, _, _ => failure
  | n + 1, first, acc => do
      let ends := match d.extended, (← get).rest with
        | _, [] => true
        | true, c :: _ => c == '|' || c == ')'
        | false, '\\' :: c :: _ => c == '|' || c == ')'
        | false, _ => false
      if ends then return acc
      let r ← readAtom d n first
      let r ← match r with
        | .start => pure r
        | r => repetitions d n r
      readSequence d n false (.seq acc r)

/-- Read the smallest part of an expression. -/
def readAtom (d : Dialect) : Nat → Bool → RegexReading Regex
  | 0, _ => failure
  | n + 1, first => do
      if ← takeOp d '(' then
        let number := (← get).groups + 1
        modify fun s => { s with groups := number }
        let r ← readAlternatives d n
        if ← takeOp d ')' then return .group number r else failure
      let s ← get
      let skip (k : Nat) : RegexReading Unit := set { s with rest := s.rest.drop k }
      match s.rest with
      | '\\' :: c :: _ =>
          skip 2
          if c.isDigit && c != '0' then return .again (c.toNat - 48)
          match c with
          | 'n' => return .one (.one '\n')
          | 't' => return .one (.one '\t')
          | 's' => return .one (.set false [.kind fun c => c == ' ' || ('\t' ≤ c && c ≤ '\r')])
          | 'w' => return .one (.set false [.kind fun c => c.isAlphanum || c == '_'])
          | c => return .one (.one c)
      | '.' :: _ =>
          skip 1
          return .one .any
      | '[' :: _ =>
          skip 1
          takeSet
      | '^' :: _ =>
          skip 1
          return if first || d.extended then .start else .one (.one '^')
      | '$' :: rest =>
          skip 1
          let last := d.extended || rest.isEmpty || ("\\)".toList.isPrefixOf rest) ||
            ("\\|".toList.isPrefixOf rest)
          return if last then .finish else .one (.one '$')
      | c :: _ =>
          skip 1
          return .one (.one c)
      | [] => return .empty

end

/-- The expression that a text is. -/
def Regex.ofText? (d : Dialect) (text : String) : Option Regex := do
  let (r, s) ← (readAlternatives d (3 * text.length + 6)).run ⟨text.toList, 0⟩
  if s.rest.isEmpty then some r else none

end Scaffold.Shell
