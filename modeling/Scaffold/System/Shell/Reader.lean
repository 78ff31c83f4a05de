import Scaffold.System.Shell.Script
import Scaffold.Text.Search

/-!
# Reading scripts

A script is read one line at a time, and a line as far as the commands go that begin on it.  Words
are read together with the commands in them, so characters, tokens and commands are read by one
family of functions.  Each step of it takes a character or goes one level deeper, and the fuel is
a multiple of the length of the script.

The lines of a text that belongs to a redirection follow the line of the redirection.  Until they
come, the text is pending under a number, and then it is kept under that number.
-/

namespace Scaffold.Shell

open Scaffold.Text

/-- A token of a script. -/
inductive Token where
  | ending
  | newline
  /-- An operator. -/
  | mark (s : String)
  /-- The operator of a redirection, with the descriptor before it. -/
  | redirection (descriptor : Option Nat) (s : String)
  | word (w : Word)

/-- A text in the script whose lines are still to come. -/
structure Pending where
  number : Nat
  /-- The line after the last one. -/
  delimiter : String
  /-- Whether the text stands for itself. -/
  quoted : Bool
  /-- Whether the tabs before the lines are left out. -/
  indented : Bool

/-- How far a script has been read. -/
structure Source where
  /-- What is left. -/
  rest : List Char
  /-- The number of the line. -/
  line : Nat := 1
  /-- A token that was looked at and not taken. -/
  ahead : Option Token := none
  /-- The texts whose lines are still to come. -/
  pending : List Pending := []
  /-- The texts that were read, by their numbers. -/
  texts : List (Nat × Word) := []
  /-- The number of the next text. -/
  count : Nat := 0

/-- Why a script cannot be read. -/
structure Fault where
  line : Nat
  reason : String
deriving Repr

/-- A step of reading. -/
abbrev Reading := StateT Source (Except Fault)

/-! ## Characters and tokens -/

/-- Refuse a script. -/
def refuse {α : Type} (reason : String) : Reading α := do throw ⟨(← get).line, reason⟩

/-- The next character, which is not taken. -/
def peekChar : Reading (Option Char) := return (← get).rest.head?

/-- Take a character. -/
def takeChar : Reading Unit := modify fun s =>
  match s.rest with
  | [] => s
  | c :: rest => { s with rest, line := if c == '\n' then s.line + 1 else s.line }

/-- Take so many characters. -/
def takeChars (n : Nat) : Reading Unit := do for _ in List.range n do takeChar

/-- Take the characters of a kind. -/
def takeSpan (p : Char → Bool) : Reading String := do
  let cs := (← get).rest.takeWhile p
  takeChars cs.length
  return String.ofList cs

/-- The words that can be part of a command's form. -/
def reserved : List String :=
  ["!", "\x7b", "\x7d", "case", "do", "done", "elif", "else", "esac", "fi", "for", "if", "in",
   "then", "until", "while"]

/-- The reserved word that a token is. -/
def Token.keyword? : Token → Option String
  | .word [.text s false] => if reserved.contains s then some s else none
  | _ => none

/-- A token in the words of a refusal. -/
def Token.describe (t : Token) : String :=
  match t with
  | .ending => "end of file"
  | .newline => "newline"
  | .mark s => "\"" ++ s ++ "\""
  | .redirection .. => "redirection"
  | .word _ => (t.keyword?.map fun k => "\"" ++ k ++ "\"").getD "word"

/-- Refuse a token, where a certain one could have come. -/
def unexpected {α : Type} (t : Token) (expected : Option String := none) : Reading α :=
  refuse <| "Syntax error: " ++ t.describe ++ " unexpected" ++
    (expected.map fun e => " (expecting \"" ++ e ++ "\")").getD ""

/-- Decide whether a token is the end of the script. -/
def Token.isEnding : Token → Bool
  | .ending => true
  | _ => false

/-- Decide whether a token ends a list of commands. -/
def Token.endsList (t : Token) : Bool :=
  match t with
  | .ending => true
  | .mark s => s == ")" || s == ";;"
  | _ =>
      let closing := ["\x7d", "do", "done", "elif", "else", "esac", "fi", "then"]
      (t.keyword?.map closing.contains).getD false

/-- The characters that end a word. -/
def isMeta (c : Char) : Bool := " \t\n;&|<>()".toList.contains c

/-- The operators, longer ones first. -/
def marks : List String := ["&&", "||", ";;", "&", "|", ";", "(", ")"]

/-- The operators of redirections, longer ones first. -/
def redirectionMarks : List String := ["<<-", "<<", "<&", "<>", "<", ">>", ">&", ">|", ">"]

/-- The first of some operators that comes next. -/
def mark? (all : List String) (cs : List Char) : Option String :=
  all.find? fun s => s.toList.isPrefixOf cs

/-- The characters of parameters that are not names. -/
def isSpecial (c : Char) : Bool := "@*#?$!-".toList.contains c

/-- The assignment a word is. -/
def assignment? : Word → Option (String × Word)
  | .text s false :: rest =>
      match cutAt? ['='] s.toList with
      | some (name, value) =>
          let name := String.ofList name
          if !isName name then none
          else
            let value := String.ofList value
            some (name, if value.isEmpty then rest else .text value false :: rest)
      | none => none
  | _ => none

/-- One command after another. -/
def Command.andThen (a b : Command) : Command :=
  match b with
  | .nothing => a
  | b => .sequence a b

/-- A command with redirections, if there are any. -/
def Command.withRedirections (line : Nat) (c : Command) (rs : List Redirection) : Command :=
  if rs.isEmpty then c else .redirected line c rs

/-- What ends the pieces of a word. -/
inductive Ending where
  /-- A character that ends words. -/
  | word
  /-- A double quote. -/
  | quotes
  /-- The brace of a parameter, inside double quotes or not. -/
  | brace (quoted : Bool)
  /-- Nothing. -/
  | never
  /-- The parentheses of a sum, with so many open inside. -/
  | sum (depth : Nat)
deriving Repr, DecidableEq

/-- Decide whether quotes are open at an ending, so that few characters have a meaning. -/
def Ending.isQuoted : Ending → Bool
  | word => false
  | brace quoted => quoted
  | _ => true

/-- Decide whether a double quote stands for itself before an ending. -/
def Ending.isPlain : Ending → Bool
  | never | sum _ => true
  | _ => false

/-- The text in backquotes and what follows: a backslash there keeps its meaning only before
certain characters. -/
def backquotedText (quoted : Bool) : List Char → Option (List Char × List Char)
  | [] => none
  | '\\' :: c :: rest =>
      (backquotedText quoted rest).map fun (cs, r) =>
        (if c == '\\' || c == '$' || c.toNat == 0x60 || (quoted && c == '"') then (c :: cs, r)
         else ('\\' :: c :: cs, r))
  | c :: rest =>
      if c.toNat == 0x60 then some ([], rest)
      else (backquotedText quoted rest).map fun (cs, r) => (c :: cs, r)

/-- The lines up to a delimiter, and what follows. -/
def linesUpTo (p : Pending) : Nat → List Char → List Char × List Char
  | 0, cs => ([], cs)
  | _, [] => ([], [])
  | n + 1, cs =>
      let line := cs.takeWhile (· != '\n')
      let rest := cs.drop line.length
      let line := if p.indented then line.dropWhile (· == '\t') else line
      if line == p.delimiter.toList then ([], rest.drop 1)
      else
        let (more, left) := linesUpTo p n (rest.drop 1)
        (line ++ rest.take 1 ++ more, left)

/-! ## Words and commands -/

/-- Refuse to go deeper. -/
def tooDeep {α : Type} : Reading α := refuse "Syntax error: too deep"

mutual

/-- The pieces of a word up to an ending, added to the ones before, the last piece first. -/
def pieces : Nat → Ending → Word → Reading Word
  | 0, _, _ => tooDeep
  | n + 1, e, acc => do
      let quoted := e.isQuoted
      match (← get).rest with
      | [] =>
          match e with
          | .word | .never => return acc
          | .quotes => refuse "Syntax error: Unterminated quoted string"
          | .brace _ => refuse "Syntax error: Missing '\x7d'"
          | .sum _ => refuse "Syntax error: Missing '))'"
      | '\\' :: '\n' :: _ =>
          takeChars 2
          pieces n e acc
      | '\\' :: [] =>
          takeChar
          pieces n e (Piece.addText "\\" quoted acc)
      | '\\' :: c :: _ =>
          takeChars 2
          let isEscape := !quoted || c == '$' || c == '\\' || c.toNat == 0x60 ||
            (c == '"' && !e.isPlain) || (c == '\x7d' && e == .brace true)
          let text := if isEscape then c.toString else "\\" ++ c.toString
          pieces n e (Piece.addText text true acc)
      | c :: rest =>
          if c == '$' then
            takeChar
            pieces n e ((← dollar n quoted) :: acc)
          else if c.toNat == 0x60 then
            takeChar
            pieces n e ((← backquoted n quoted) :: acc)
          else if c == '\'' && !quoted then
            takeChar
            let s ← takeSpan (· != '\'')
            if (← peekChar).isNone then refuse "Syntax error: Unterminated quoted string"
            takeChar
            pieces n e (Piece.addText s true acc)
          else if c == '"' && e == .quotes then
            takeChar
            return acc
          else if c == '"' && !e.isPlain then
            takeChar
            let inner ← pieces n .quotes []
            pieces n e ((if inner.isEmpty then [.text "" true] else inner) ++ acc)
          else
            match e with
            | .brace _ =>
                takeChar
                if c == '\x7d' then return acc
                pieces n e (Piece.addText c.toString quoted acc)
            | .word =>
                if isMeta c then return acc
                takeChar
                pieces n e (Piece.addText c.toString quoted acc)
            | .sum depth =>
                takeChar
                if c == ')' && depth == 0 && rest.head? == some ')' then
                  takeChar
                  return acc
                let depth := if c == '(' then depth + 1 else if c == ')' then depth - 1 else depth
                pieces n (.sum depth) (Piece.addText c.toString quoted acc)
            | e =>
                takeChar
                pieces n e (Piece.addText c.toString quoted acc)

/-- What a dollar sign begins. -/
def dollar : Nat → Bool → Reading Piece
  | 0, _ => tooDeep
  | n + 1, quoted => do
      match (← get).rest with
      | '\x7b' :: _ =>
          takeChar
          braced n quoted
      | '(' :: '(' :: _ =>
          takeChars 2
          return .sum (← pieces n (.sum 0) []).reverse quoted
      | '(' :: _ =>
          takeChar
          let c ← list n false
          match ← next n with
          | .mark ")" => return .output c quoted
          | t => unexpected t (some ")")
      | c :: _ =>
          if isSpecial c || c.isDigit then
            takeChar
            return .parameter c.toString .value [] quoted
          else if isNameStart c then
            return .parameter (← takeSpan isNameChar) .value [] quoted
          else return .text "$" quoted
      | [] => return .text "$" quoted

/-- A parameter after its opening brace. -/
def braced : Nat → Bool → Reading Piece
  | 0, _ => tooDeep
  | n + 1, quoted => do
      let rest := (← get).rest
      let measured := match rest with
        | '#' :: c :: _ => isNameChar c || (isSpecial c && rest[2]? == some '\x7d')
        | _ => false
      if measured then takeChar
      let name ← match (← get).rest with
        | c :: _ =>
            if c.isDigit then takeSpan Char.isDigit
            else if isNameStart c then takeSpan isNameChar
            else if isSpecial c then (do takeChar; pure c.toString)
            else pure ""
        | [] => pure ""
      let ending (quoted : Bool) (use : Use) : Reading Piece := do
        return .parameter name use (← pieces n (.brace quoted) []).reverse quoted
      let use (k : Nat) (use : Use) : Reading Piece := do
        takeChars k
        return .parameter name use (← pieces n (.brace quoted) []).reverse quoted
      let pattern (k : Nat) (use : Use) : Reading Piece := do
        takeChars k
        return .parameter name use (← pieces n (.brace false) []).reverse quoted
      if name.isEmpty then ending quoted .unknown
      else match (← get).rest with
        | '\x7d' :: _ => use 0 (if measured then .length else .value)
        | ':' :: '-' :: _ => use 2 (.orElse true)
        | ':' :: '=' :: _ => use 2 (.orAssign true)
        | ':' :: '?' :: _ => use 2 (.orFail true)
        | ':' :: '+' :: _ => use 2 (.instead true)
        | '-' :: _ => use 1 (.orElse false)
        | '=' :: _ => use 1 (.orAssign false)
        | '?' :: _ => use 1 (.orFail false)
        | '+' :: _ => use 1 (.instead false)
        | '%' :: '%' :: _ => pattern 2 (.withoutEnd true)
        | '%' :: _ => pattern 1 (.withoutEnd false)
        | '#' :: '#' :: _ => pattern 2 (.withoutStart true)
        | '#' :: _ => pattern 1 (.withoutStart false)
        | _ => ending quoted .unknown

/-- A command in backquotes. -/
def backquoted : Nat → Bool → Reading Piece
  | 0, _ => tooDeep
  | n + 1, quoted => do
      let s ← get
      match backquotedText quoted s.rest with
      | none => refuse "Syntax error: EOF in backquote substitution"
      | some (inner, rest) =>
          set { s with rest := inner, line := 1, ahead := none }
          let c ← list n false
          match ← next n with
          | .ending =>
              modify fun r => { r with rest, line := s.line, ahead := none }
              return .output c quoted
          | t => unexpected t

/-- Read the texts that are pending. -/
def readTexts : Nat → Reading Unit
  | 0 => tooDeep
  | n + 1 => do
      let s ← get
      match s.pending with
      | [] => return
      | p :: pending =>
          let (body, rest) := linesUpTo p (s.rest.length + 1) s.rest
          let line := s.line + (s.rest.count '\n' - rest.count '\n')
          let w ← if p.quoted then pure [Piece.text (String.ofList body) true]
            else do
              set { s with rest := body }
              pure (← pieces n .never []).reverse
          modify fun r => { r with
            rest, line, pending, texts := (p.number, w) :: r.texts }
          readTexts n

/-- Read a token. -/
def readToken : Nat → Reading Token
  | 0 => tooDeep
  | n + 1 => do
      match (← get).rest with
      | [] =>
          readTexts n
          return .ending
      | '\\' :: '\n' :: _ =>
          takeChars 2
          readToken n
      | '\n' :: _ =>
          takeChar
          readTexts n
          return .newline
      | c :: rest =>
          if c == ' ' || c == '\t' then
            takeChar
            readToken n
          else if c == '#' then
            let _ ← takeSpan (· != '\n')
            readToken n
          else match mark? redirectionMarks (c :: rest), mark? redirectionMarks rest with
            | some s, _ =>
                takeChars s.length
                return .redirection none s
            | none, some s =>
                if c.isDigit then
                  takeChars (s.length + 1)
                  return .redirection (some (c.toNat - 48)) s
                else readWord n
            | none, none => readWord n

/-- Read an operator or a word. -/
def readWord : Nat → Reading Token
  | 0 => tooDeep
  | n + 1 => do
      match mark? marks (← get).rest with
      | some s =>
          takeChars s.length
          return .mark s
      | none => return .word (← pieces n .word []).reverse

/-- The next token, which is not taken. -/
def peek : Nat → Reading Token
  | 0 => tooDeep
  | n + 1 => do
      match (← get).ahead with
      | some t => return t
      | none =>
          let t ← readToken n
          modify fun s => { s with ahead := some t }
          return t

/-- Take a token. -/
def next : Nat → Reading Token
  | 0 => tooDeep
  | n + 1 => do
      let t ← peek n
      modify fun s => { s with ahead := none }
      return t

/-- Take a reserved word that has to come. -/
def expect : Nat → String → Reading Unit
  | 0, _ => tooDeep
  | n + 1, k => do
      let t ← next n
      match t with
      | .mark s => if s != k then unexpected t (some k)
      | t => if t.keyword? != some k then unexpected t (some k)

/-- Take line breaks. -/
def skipNewlines : Nat → Reading Unit
  | 0 => tooDeep
  | n + 1 => do
      match ← peek n with
      | .newline =>
          let _ ← next n
          skipNewlines n
      | _ => return

/-- Commands up to a token that ends a list; where they are needed there is one at least, unless
the script ends. -/
def list : Nat → Bool → Reading Command
  | 0, _ => tooDeep
  | n + 1, needed => do
      skipNewlines n
      let t ← peek n
      if t.isEnding || (!needed && t.endsList) then return .nothing
      let c ← andOr n
      match ← peek n with
      | .mark "&" =>
          let _ ← next n
          return Command.andThen (.background c) (← list n false)
      | .mark ";" | .newline =>
          let _ ← next n
          return c.andThen (← list n false)
      | _ => return c

/-- Commands that depend on each other's success. -/
def andOr : Nat → Reading Command
  | 0 => tooDeep
  | n + 1 => do joints n (← pipeline n)

/-- What depends on the success of a command. -/
def joints : Nat → Command → Reading Command
  | 0, _ => tooDeep
  | n + 1, c => do
      match ← peek n with
      | .mark "&&" =>
          let _ ← next n
          skipNewlines n
          joints n (.joint true c (← pipeline n))
      | .mark "||" =>
          let _ ← next n
          skipNewlines n
          joints n (.joint false c (← pipeline n))
      | _ => return c

/-- Commands that read each other's output. -/
def pipeline : Nat → Reading Command
  | 0 => tooDeep
  | n + 1 => do
      let negated := (← peek n).keyword? == some "!"
      if negated then
        let _ ← next n
      let c ← piped n
      return if negated then .negation c else c

/-- Commands that read each other's output, of which none is a negation. -/
def piped : Nat → Reading Command
  | 0 => tooDeep
  | n + 1 => do
      let first ← command n
      match ← pipes n with
      | [] => return first
      | more => return .pipeline (first :: more)

/-- The commands that read the output of the one before. -/
def pipes : Nat → Reading (List Command)
  | 0 => tooDeep
  | n + 1 => do
      match ← peek n with
      | .mark "|" =>
          let _ ← next n
          skipNewlines n
          let c ← command n
          return c :: (← pipes n)
      | _ => return []

/-- One command. -/
def command : Nat → Reading Command
  | 0 => tooDeep
  | n + 1 => do
      let line := (← get).line
      let t ← peek n
      match t with
      | .mark "(" =>
          let _ ← next n
          let c ← list n true
          expect n ")"
          return Command.withRedirections line (.subshell c) (← redirections n)
      | .word _ =>
          match t.keyword? with
          | none => simple n line [] [] []
          | some k =>
              let _ ← next n
              let c ← compound n line t k
              return c.withRedirections line (← redirections n)
      | .redirection .. => simple n line [] [] []
      | t => unexpected t

/-- A command that begins with a reserved word. -/
def compound : Nat → Nat → Token → String → Reading Command
  | 0, _, _, _ => tooDeep
  | n + 1, line, t, k => do
      match k with
      | "\x7b" =>
          let c ← list n true
          expect n "\x7d"
          return c
      | "if" => choices n
      | "while" | "until" =>
          let test ← list n true
          expect n "do"
          let body ← list n true
          expect n "done"
          return .loop (k == "while") test body
      | "for" =>
          let name ← match ← next n with
            | .word [.text s false] =>
                if isName s then pure s else refuse "Syntax error: Bad for loop variable"
            | _ => refuse "Syntax error: Bad for loop variable"
          skipNewlines n
          let words ←
            if (← peek n).keyword? == some "in" then
              let _ ← next n
              let ws ← wordsHere n
              match ← next n with
              | .mark ";" | .newline => pure (some ws)
              | t => unexpected t
            else
              match ← peek n with
              | .mark ";" =>
                  let _ ← next n
                  pure none
              | _ => pure none
          skipNewlines n
          expect n "do"
          let body ← list n true
          expect n "done"
          return .iteration line name words body
      | "case" =>
          let w ← match ← next n with
            | .word w => pure w
            | t => refuse ("Syntax error: " ++ t.describe ++ " unexpected (expecting word)")
          skipNewlines n
          expect n "in"
          return .selection line w (← cases n)
      | _ => unexpected t

/-- The rest of a conditional after its first word. -/
def choices : Nat → Reading Command
  | 0 => tooDeep
  | n + 1 => do
      let test ← list n true
      expect n "then"
      let yes ← list n true
      match (← peek n).keyword? with
      | some "elif" =>
          let _ ← next n
          return .conditional test yes (← choices n)
      | some "else" =>
          let _ ← next n
          let no ← list n true
          expect n "fi"
          return .conditional test yes no
      | _ =>
          expect n "fi"
          return .conditional test yes .nothing

/-- The words up to something else. -/
def wordsHere : Nat → Reading (List Word)
  | 0 => tooDeep
  | n + 1 => do
      match ← peek n with
      | .word w =>
          let _ ← next n
          return w :: (← wordsHere n)
      | _ => return []

/-- The cases of a selection, to its end. -/
def cases : Nat → Reading (List (List Word × Command))
  | 0 => tooDeep
  | n + 1 => do
      skipNewlines n
      let t ← next n
      if t.keyword? == some "esac" then return []
      let first ← match t with
        | .mark "(" => next n
        | t => pure t
      let ps ← patterns n first
      let body ← list n false
      skipNewlines n
      let t ← next n
      if t.keyword? == some "esac" then return [(ps, body)]
      match t with
      | .mark ";;" => return (ps, body) :: (← cases n)
      | t => unexpected t (some ";;")

/-- The patterns of a case from the given token on, to the parenthesis after them. -/
def patterns : Nat → Token → Reading (List Word)
  | 0, _ => tooDeep
  | n + 1, t => do
      let w := match t with
        | .word w => w
        | _ => []
      match t, ← next n with
      | .ending, _ => unexpected .ending (some ")")
      | _, .mark "|" => return w :: (← patterns n (← next n))
      | _, .mark ")" => return [w]
      | _, t => unexpected t (some ")")

/-- A simple command from the parts of it on that were read. -/
def simple : Nat → Nat → List (String × Word) → List Word → List Redirection → Reading Command
  | 0, _, _, _, _ => tooDeep
  | n + 1, line, assignments, words, rs => do
      match ← peek n with
      | .word w =>
          let _ ← next n
          match words, assignment? w with
          | [], some a => simple n line (assignments ++ [a]) words rs
          | _, _ => simple n line assignments (words ++ [w]) rs
      | .redirection d s =>
          let _ ← next n
          simple n line assignments words (rs ++ [← redirection n d s])
      | .mark "(" =>
          match words, assignments, rs with
          | [w], [], [] =>
              let _ ← next n
              expect n ")"
              let name := Piece.literals w
              if !isName name then refuse "Syntax error: Bad function name"
              skipNewlines n
              return .definition name (← command n)
          | _, _, _ => unexpected (.mark "(")
      | _ => return .simple line assignments words rs

/-- A redirection after its operator. -/
def redirection : Nat → Option Nat → String → Reading Redirection
  | 0, _, _ => tooDeep
  | n + 1, d, s => do
      let w ← match ← next n with
        | .word w => pure w
        | t => unexpected t
      let made (standard : Nat) (c : Channel) : Redirection := .mk (d.getD standard) c w
      match s with
      | "<" => return made 0 .input
      | "<>" => return made 0 .both
      | "<&" => return made 0 .copy
      | ">&" => return made 1 .copy
      | ">>" => return made 1 .append
      | ">" => return made 1 .output
      | ">|" => return made 1 .overwrite
      | _ =>
          let number := (← get).count
          let quoted := w.any fun p => match p with
            | .text _ quoted => quoted
            | _ => false
          let p : Pending := ⟨number, Piece.literals w, quoted, s == "<<-"⟩
          modify fun r => { r with count := number + 1, pending := r.pending ++ [p] }
          return made 0 (.here number)

/-- The redirections after a command. -/
def redirections : Nat → Reading (List Redirection)
  | 0 => tooDeep
  | n + 1 => do
      match ← peek n with
      | .redirection d s =>
          let _ ← next n
          let r ← redirection n d s
          return r :: (← redirections n)
      | _ => return []

end

/-! ## Lines -/

/-- The commands of a line from the given one on. -/
def lineFrom : Nat → Reading Command
  | 0 => tooDeep
  | n + 1 => do
      let fuel := 20 * (← get).rest.length + 100
      let c ← andOr fuel
      let onwards (c : Command) : Reading Command := do
        match ← peek fuel with
        | .newline =>
            let _ ← next fuel
            return c
        | .ending => return c
        | _ => return c.andThen (← lineFrom n)
      match ← next fuel with
      | .ending | .newline => return c
      | .mark ";" => onwards c
      | .mark "&" => onwards (.background c)
      | t => unexpected t

/-- The commands of the next line, or nothing at the end. -/
def readLine? : Reading (Option Command) := do
  let fuel := 20 * (← get).rest.length + 100
  match ← peek fuel with
  | .ending => return none
  | .newline =>
      let _ ← next fuel
      return some .nothing
  | _ => return some (← lineFrom fuel)

end Scaffold.Shell
