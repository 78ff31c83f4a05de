import Scaffold.System.Shell.Regex
import Scaffold.System.Shell.Tool

/-!
# Tools for searching

Tools that choose and change lines by what they contain: regular expressions, and characters
one by one.
-/

namespace Scaffold.Shell.Tools

open Scaffold.Text

/-! ## Lines that match -/

/-- The parts of a text that an expression matches. -/
def occurrences (r : Regex) : Nat → Nat → List Char → List (List Char)
  | 0, _, _ => []
  | n + 1, i, cs =>
      match r.search i cs with
      | none => []
      | some (k, m) =>
          let found := (cs.drop (k - i)).take (m.position - k)
          if found.isEmpty then
            match m.rest with
            | [] => []
            | _ :: rest => occurrences r n (m.position + 1) rest
          else found :: occurrences r n m.position m.rest

/-- Decide whether words end on both sides of a match. -/
def atWords (cs : List Char) (i j : Nat) : Bool :=
  let isWord (c : Char) : Bool := c.isAlphanum || c == '_'
  let before := if i = 0 then none else cs[i - 1]?
  !(before.map isWord).getD false && !((cs[j]?).map isWord).getD false

/-- The expressions that options of a search ask for. -/
def searched (o : Options) : Option (List Regex × List String) :=
  let given := (o.given.filter (·.1 == 'e')).map (·.2)
  let (texts, paths) := match given, o.operands with
    | [], text :: paths => ([text], paths)
    | given, paths => (given, paths)
  let texts := texts.flatMap (splitOnChar '\n')
  let texts :=
    if o.has 'i' then texts.map fun s => String.ofList (s.toList.map Char.toLower) else texts
  let literal (s : String) : Regex := s.toList.foldl (fun r c => .seq r (.one (.one c))) .empty
  let regexes := texts.mapM fun s =>
    if o.has 'F' then some (literal s) else Regex.ofText? ⟨o.has 'E'⟩ s
  regexes.map fun rs => (rs.map fun r => if o.has 'x' then .seq .start (.seq r .finish) else r, paths)

/-- Show the lines of texts that match. -/
def grep : Tool := withOptionsBy false 2 "ivcnlLqoEFGwxhHsra" "em" fun o => do
  if o.operands.isEmpty && !o.has 'e' then
    complain ("usage: grep [OPTION]... PATTERNS [FILE]...") 2
    return
  match searched o with
  | none => complain "Invalid regular expression" 2
  | some (regexes, paths) =>
      let prepared (line : String) : List Char :=
        if o.has 'i' then line.toList.map Char.toLower else line.toList
      let isHit (line : String) : Bool :=
        let cs := prepared line
        regexes.any (fun r => match r.search 0 cs with
          | some (i, m) => !o.has 'w' || atWords cs i m.position
          | none => false) != o.has 'v'
      let named := (1 < paths.length || o.has 'H') && !o.has 'h'
      let mut any := false
      let mut failed := false
      for path in (if paths.isEmpty then ["-"] else paths) do
        match ← contentOf path with
        | .error e =>
            failed := true
            if !o.has 's' then complain (path ++ ": " ++ reasonOf e) 2
        | .ok s =>
            let name := if path == "-" then "(standard input)" else path
            let label := if named then name ++ ":" else ""
            let hits := (linesOf s).zipIdx.filter fun (line, _) => isHit line
            let hits := match (o.value? 'm').bind natural? with
              | some n => hits.take n
              | none => hits
            if !hits.isEmpty then any := true
            if o.has 'q' then pure ()
            else if o.has 'l' then (do if !hits.isEmpty then sayLine name)
            else if o.has 'L' then (do if hits.isEmpty then sayLine name)
            else if o.has 'c' then sayLine (label ++ toString hits.length)
            else
              for (line, i) in hits do
                let label := label ++ (if o.has 'n' then toString (i + 1) ++ ":" else "")
                if o.has 'o' then
                  for r in regexes do
                    for found in occurrences r (line.length + 1) 0 line.toList do
                      sayLine (label ++ String.ofList found)
                else sayLine (label ++ line)
      let status := if any && (o.has 'q' || !failed) then 0 else if failed then 2 else 1
      modify fun w => { w with status }

/-! ## Editing lines -/

/-- Which lines an edit is for. -/
inductive Address where
  | line (n : Nat)
  | last
  | matching (r : Regex)

/-- What is done to a line. -/
inductive Action where
  | substitute (r : Regex) (value : List Char) (nth : Nat) (all shows : Bool)
  | print
  | delete
  | quit
  | number
  | exchange (sources targets : List Char)
  /-- Text before a line, after it, or in its place. -/
  | text (kind : Char) (s : List Char)

/-- An edit: its lines, whether it is for the others, and what is done to them. -/
structure Edit where
  first : Option Address
  second : Option Address
  negated : Bool
  action : Action

/-- The text up to a delimiter, and what follows.  A backslash keeps the delimiter from ending
it. -/
def upTo (delimiter : Char) : List Char → Option (List Char × List Char)
  | [] => none
  | '\\' :: c :: rest =>
      (upTo delimiter rest).map fun (cs, r) =>
        (if c == delimiter then c :: cs else '\\' :: c :: cs, r)
  | c :: rest =>
      if c == delimiter then some ([], rest)
      else (upTo delimiter rest).map fun (cs, r) => (c :: cs, r)

/-- Read an address. -/
def readAddress (d : Dialect) (cs : List Char) : Option (Address × List Char) :=
  match cs with
  | '$' :: rest => some (.last, rest)
  | '/' :: rest => do
      let (text, rest) ← upTo '/' rest
      let r ← Regex.ofText? d (String.ofList text)
      return (.matching r, rest)
  | cs =>
      let digits := cs.takeWhile Char.isDigit
      (natural? (String.ofList digits)).map fun n => (.line n, cs.drop digits.length)

/-- Read what is done to lines. -/
def readAction (d : Dialect) (cs : List Char) : Option (Action × List Char) :=
  match cs with
  | 'p' :: rest => some (.print, rest)
  | 'd' :: rest => some (.delete, rest)
  | 'q' :: rest => some (.quit, rest)
  | '=' :: rest => some (.number, rest)
  | 's' :: delimiter :: rest => do
      let (text, rest) ← upTo delimiter rest
      let (value, rest) ← upTo delimiter rest
      let flags := rest.takeWhile fun c => c == 'g' || c == 'p' || c.isDigit
      let r ← Regex.ofText? d (String.ofList text)
      let nth := (natural? (String.ofList (flags.filter Char.isDigit))).getD 1
      return (.substitute r value nth (flags.contains 'g') (flags.contains 'p'),
        rest.drop flags.length)
  | 'y' :: delimiter :: rest => do
      let (a, rest) ← upTo delimiter rest
      let (b, rest) ← upTo delimiter rest
      if a.length = b.length then return (.exchange a b, rest) else none
  | k :: rest =>
      if ['a', 'i', 'c'].contains k then
        let rest := rest.dropWhile (· == ' ')
        let rest := match rest with
          | '\\' :: '\n' :: more => more
          | '\\' :: more => more
          | rest => rest
        some (.text k (rest.takeWhile (· != '\n')), rest.dropWhile (· != '\n'))
      else none
  | [] => none

/-- Read edits. -/
def readEdits (d : Dialect) : Nat → List Char → Option (List Edit)
  | 0, _ => none
  | n + 1, cs => do
      let blanks (cs : List Char) := cs.dropWhile fun c => c == ' ' || c == '\t'
      let cs := cs.dropWhile fun c => c == ' ' || c == '\t' || c == ';' || c == '\n'
      if cs.isEmpty then return []
      let (first, cs) := match readAddress d cs with
        | some (a, rest) => (some a, rest)
        | none => (none, cs)
      let (second, cs) ← match first, cs with
        | some _, ',' :: rest => (readAddress d (blanks rest)).map fun (a, rest) => (some a, rest)
        | _, cs => some (none, cs)
      let (negated, cs) := match blanks cs with
        | '!' :: rest => (true, blanks rest)
        | cs => (false, cs)
      let (action, rest) ← readAction d cs
      match blanks rest with
      | [] => return [⟨first, second, negated, action⟩]
      | c :: rest =>
          if c == ';' || c == '\n' then
            return ⟨first, second, negated, action⟩ :: (← readEdits d n rest)
          else none

/-- The text that a replacement stands for. -/
def replacement (m : Matching) (found : List Char) : List Char → List Char
  | [] => []
  | '&' :: rest => found ++ replacement m found rest
  | '\\' :: c :: rest =>
      (if c == '0' then found
        else if c.isDigit then (m.groups.lookup (c.toNat - 48)).getD []
        else if c == 'n' then ['\n'] else if c == 't' then ['\t'] else [c]) ++
        replacement m found rest
  | c :: rest => c :: replacement m found rest

/-- A text with matches of an expression replaced, from one of them on, and how many there are. -/
def substituted (r : Regex) (value : List Char) (all : Bool) :
    Nat → Nat → Nat → Bool → List Char → List Char × Bool
  | 0, _, _, _, cs => (cs, false)
  | n + 1, nth, i, afterMatch, cs =>
      match r.search i cs with
      | none => (cs, false)
      | some (k, m) =>
          let before := cs.take (k - i)
          let found := (cs.drop (k - i)).take (m.position - k)
          let counts := !(found.isEmpty && before.isEmpty && afterMatch)
          let replaced := counts && nth ≤ 1
          let new := if replaced then replacement m found value else found
          let nth := if counts then nth - 1 else nth
          if replaced && !all then (before ++ new ++ m.rest, true)
          else
            let (step, rest) := if !found.isEmpty then ([], m.rest) else match m.rest with
              | [] => ([], [])
              | c :: rest => ([c], rest)
            if found.isEmpty && step.isEmpty then (before ++ new, replaced)
            else
              let next := m.position + step.length
              let (more, again) := substituted r value all n nth next (!found.isEmpty) rest
              (before ++ new ++ step ++ more, replaced || again)

/-- Decide whether an address is of a line. -/
def Address.covers (n : Nat) (isLast : Bool) (line : List Char) : Address → Bool
  | .line k => k = n
  | .last => isLast
  | .matching r => (r.search 0 line).isSome

/-- What becomes of a line: what is written before it, the line unless it is deleted, what is
written after it, and whether it is the last. -/
structure Edited where
  before : List (List Char) := []
  line : Option (List Char)
  after : List (List Char) := []
  ended : Bool := false

/-- Do an action to a line. -/
def Action.perform (n : Nat) (e : Edited) (line : List Char) : Action → Edited
  | .print => { e with before := e.before ++ [line] }
  | .delete => { e with line := none }
  | .quit => { e with ended := true }
  | .number => { e with before := e.before ++ [(toString n).toList] }
  | .exchange a b =>
      { e with line := some (line.map fun c => ((a.zip b).lookup c).getD c) }
  | .text 'i' s => { e with before := e.before ++ [s] }
  | .text 'c' s => { e with before := e.before ++ [s], line := none }
  | .text _ s => { e with after := e.after ++ [s] }
  | .substitute r value nth all shows =>
      let (new, done) := substituted r value all (line.length + 2) (max nth 1) 0 false line
      let e := { e with line := some new }
      if done && shows then { e with before := e.before ++ [new] } else e

/-- Do the edits to a line.  The flags say which edits are inside their range of lines. -/
def editLine (n : Nat) (isLast : Bool) : List (Edit × Bool) → Edited → Edited × List (Edit × Bool)
  | [], e => (e, [])
  | (edit, inside) :: rest, e =>
      match e.line with
      | none => (e, (edit, inside) :: rest)
      | some line =>
          if e.ended then (e, (edit, inside) :: rest) else
          let at' (a : Option Address) : Bool := (a.map (Address.covers n isLast line)).getD true
          let (chosen, inside) := match edit.second with
            | none => (at' edit.first, false)
            | some second =>
                if inside then
                  (true, match second with
                    | .line k => n < k
                    | a => !a.covers n isLast line)
                else if at' edit.first then
                  (true, match second with
                    | .line k => n < k
                    | .last => !isLast
                    | .matching _ => true)
                else (false, false)
          let e := if chosen != edit.negated then edit.action.perform n e line else e
          let (e, rest) := editLine n isLast rest e
          (e, (edit, inside) :: rest)

/-- Do the edits to the lines of a text.  With each line that is written comes whether it is the
last line of the text. -/
def editLines (quiet : Bool) :
    Nat → List (Edit × Bool) → List (List Char) → List (List Char × Bool)
  | _, _, [] => []
  | n, edits, line :: rest =>
      let (e, edits) := editLine n rest.isEmpty edits { line := some line }
      let kept := if quiet then [] else e.line.toList
      let isLast (cs : List Char) : Bool := rest.isEmpty && e.line == some cs
      e.before.map (fun cs => (cs, isLast cs)) ++ kept.map (fun cs => (cs, rest.isEmpty)) ++
        e.after.map (fun cs => (cs, false)) ++
        (if e.ended then [] else editLines quiet (n + 1) edits rest)

/-- Edit lines. -/
def sed : Tool := withOptions "nErsu" "e" fun o => do
  let given := (o.given.filter (·.1 == 'e')).map (·.2)
  let (script, paths) := match given, o.operands with
    | [], script :: paths => (script, paths)
    | given, paths => (joinWith "\n" given, paths)
  let d : Dialect := ⟨o.has 'E' || o.has 'r'⟩
  match readEdits d (script.length + 1) script.toList with
  | none => complain "-e expression #1: invalid command"
  | some edits =>
      let texts ← contents paths (fun path => "can't read " ++ path) 2
      let all := String.join (texts.map (·.2))
      let lines := (linesOf all).map String.toList
      let out := editLines (o.has 'n') 1 (edits.map fun e => (e, false)) lines
      let text := String.join (out.map fun (cs, _) => String.ofList cs ++ "\n")
      let isOpen := all.toList.getLast? != some '\n' && (out.getLast?.map (·.2)).getD false
      say (if isOpen then String.ofList text.toList.dropLast else text)

/-! ## Characters -/

/-- The characters of an escape and what follows. -/
def trEscape (cs : List Char) : Char × List Char :=
  match cs with
  | 'n' :: rest => ('\n', rest)
  | 't' :: rest => ('\t', rest)
  | 'r' :: rest => ('\r', rest)
  | 'a' :: rest => ('\x07', rest)
  | 'b' :: rest => ('\x08', rest)
  | 'f' :: rest => ('\x0c', rest)
  | 'v' :: rest => ('\x0b', rest)
  | cs =>
      let digits := (cs.take 3).takeWhile fun c => '0' ≤ c && c ≤ '7'
      match digits, cs with
      | [], [] => ('\\', [])
      | [], c :: rest => (c, rest)
      | digits, cs =>
          let code := digits.foldl (fun n c => n * 8 + (c.toNat - 48)) 0
          (Char.ofNat (code % 256), cs.drop digits.length)

/-- Characters by their codes, from one to another. -/
def charsBetween (a b : Char) : List Char :=
  (List.range (b.toNat + 1 - a.toNat)).map fun i => Char.ofNat (a.toNat + i)

/-- The characters of a set, with the place of one that is repeated as often as it takes; or the
message that refuses it. -/
def trSet : Nat → List Char → Except String (List Char × Option (Nat × Char))
  | 0, _ => .ok ([], none)
  | _, [] => .ok ([], none)
  | n + 1, cs => do
      let behind (front : List Char) (rest : List Char) :
          Except String (List Char × Option (Nat × Char)) := do
        let (more, filled) ← trSet n rest
        return (front ++ more, filled.map fun (i, c) => (i + front.length, c))
      match readKind (cs.map fun c => (c, false)), cs with
      | some (item, rest), _ =>
          behind ((charsBetween '\x00' '\u00ff').filter fun c => item.contains c) (rest.map (·.1))
      | none, '[' :: c :: '*' :: ']' :: rest => do
          let (more, _) ← trSet n rest
          return (more, some (0, c))
      | none, '[' :: c :: '*' :: rest =>
          let digits := rest.takeWhile Char.isDigit
          match rest.drop digits.length with
          | ']' :: rest => behind (List.replicate ((natural? (String.ofList digits)).getD 0) c) rest
          | _ => behind ['[', c, '*'] rest
      | none, c :: rest =>
          let (a, rest) := if c == '\\' then trEscape rest else (c, rest)
          match rest with
          | '-' :: e :: rest =>
              let (b, rest) := if e == '\\' then trEscape rest else (e, rest)
              if b < a then
                throw ("range-endpoints of '" ++ String.ofList [a, '-', b] ++
                  "' are in reverse collating sequence order")
              behind (charsBetween a b) rest
          | rest => behind [a] rest
      | none, [] => return ([], none)

/-- A text in which characters of a set that repeat are there once. -/
def squeezed (p : Char → Bool) (cs : List Char) : List Char :=
  cs.foldr (fun c out => if p c && out.head? == some c then out else c :: out) []

/-- Replace, remove or squeeze characters. -/
def tr : Tool := withLeadingOptions "cCdst" "" fun o => do
  let set (s : String) : Except String (List Char × Option (Nat × Char)) :=
    trSet (s.length + 1) s.toList
  let complement (cs : List Char) : List Char :=
    if o.has 'c' || o.has 'C' then (charsBetween '\x00' '\u00ff').filter fun c => !cs.contains c
    else cs
  let single := o.has 'd' != o.has 's'
  match o.operands with
  | [] => misuse "missing operand"
  | _ :: _ :: extra :: _ => misuse ("extra operand " ++ inQuotes extra)
  | [one] =>
      if !single then
        misuse <| "missing operand after " ++ inQuotes one ++
          (if o.has 'd' then "\nTwo strings must be given when both deleting and squeezing repeats."
            else "\nTwo strings must be given when translating.")
      else
        match set one with
        | .error message => complain message
        | .ok (chosen, _) =>
            let chosen := complement chosen
            let cs := (← wholeInput).toList
            say <| String.ofList <|
              if o.has 'd' then cs.filter fun c => !chosen.contains c
              else squeezed chosen.contains cs
  | [one, two] =>
      if o.has 'd' && !o.has 's' then
        misuse ("extra operand " ++ inQuotes two ++
          "\nOnly one string may be given when deleting without squeezing repeats.")
      else
        match set one, set two with
        | .error message, _ | _, .error message => complain message
        | .ok (first, _), .ok (second, filled) =>
            let first := complement first
            let cs := (← wholeInput).toList
            if o.has 'd' then
              say (String.ofList (squeezed second.contains (cs.filter fun c => !first.contains c)))
            else if second.isEmpty && filled.isNone then
              complain "when not truncating set1, string2 must be non-empty"
            else
              let missing := first.length - second.length
              let second := match filled with
                | some (i, c) => second.take i ++ List.replicate missing c ++ second.drop i
                | none =>
                    if o.has 't' then second
                    else second ++ List.replicate missing (second.getLast?.getD ' ')
              let table := (first.zip second).reverse
              let cs := cs.map fun c => (table.lookup c).getD c
              say (String.ofList (if o.has 's' then squeezed second.contains cs else cs))

end Scaffold.Shell.Tools
