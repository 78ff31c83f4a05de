import Scaffold.Command.Grammar
import Scaffold.Text.Search

/-!
# Scanning arguments

The arguments of a run become one level for every command on the way from the top: the options
and words that stand between its name and the next.

* An argument that begins with a dash is an option, or a cluster of letters.  It is never a
  value; a lone dash is.
* A value is joined to its option by `=`, or by nothing to a letter, or is the next argument.
  One that is the next argument is checked when the next option or word of its command comes,
  or when the arguments of its command end; so help that is asked for further down comes before
  a complaint about it.
* After two dashes everything is a word.
* A word of a node that has commands is the name of one.
-/

namespace Scaffold.Command

open Scaffold.Text

/-- Why arguments do not make a run. -/
inductive Stop where
  /-- Help is asked for. -/
  | help (node : Node)
  /-- The version is asked for. -/
  | version
  /-- The arguments do not fit the grammar. -/
  | misuse (node : Node)
deriving Repr, DecidableEq

/-- What was given to one command. -/
structure Level where
  /-- The command. -/
  node : Node
  /-- The options by name, with their values. -/
  given : List (String × String) := []
  /-- The words. -/
  words : List String := []
deriving Repr, DecidableEq

/-- Decide whether an option was given. -/
def Level.has (l : Level) (name : String) : Bool := (l.given.lookup name).isSome

/-- What is read but not checked. -/
inductive Pending where
  | nothing
  /-- An option whose value is to come. -/
  | awaiting (o : OptionForm)
  /-- The value of an option. -/
  | value (o : OptionForm) (s : String)
  /-- A word. -/
  | word (admits : Admits) (s : String)

/-- A level as it is read. -/
structure Progress where
  level : Level
  pending : Pending := .nothing
  /-- Whether everything to come is a word. -/
  wordsOnly : Bool := false

namespace Progress

/-- The complaint about a level. -/
def misuse {α : Type} (p : Progress) : Except Stop α := .error (.misuse p.level.node)

/-- Decide whether the next argument is a value. -/
def isAwaiting (p : Progress) : Bool :=
  match p.pending with
  | .awaiting _ => true
  | _ => false

/-- Give an option. -/
def give (p : Progress) (o : OptionForm) (value : String) : Except Stop Progress :=
  let next := { p with level := { p.level with given := p.level.given ++ [(o.long, value)] } }
  match o.kind with
  | .help => .error (.help p.level.node)
  | .version => .error .version
  | .counter => .ok next
  | .switch => if p.level.has o.long then p.misuse else .ok next
  | .value admits => if p.level.has o.long || !admits value then p.misuse else .ok next

/-- Check what is pending. -/
def settle (p : Progress) : Except Stop Progress :=
  let q := { p with pending := .nothing }
  match p.pending with
  | .nothing => .ok q
  | .awaiting _ => p.misuse
  | .value o s => q.give o s
  | .word admits s =>
      if admits s then .ok { q with level := { q.level with words := q.level.words ++ [s] } }
      else p.misuse

/-- A word, of which there must be one more. -/
def word (p : Progress) (s : String) : Except Stop Progress := do
  let p ← p.settle
  match p.level.node.words[p.level.words.length]? with
  | some (_, admits) => return { p with pending := .word admits s }
  | none => p.misuse

/-- An option by its name, perhaps with a value. -/
def long (p : Progress) (name : String) (value : Option String) : Except Stop Progress := do
  match p.level.node.options.find? (·.long == name) with
  | none => p.misuse
  | some o =>
      match o.kind, value with
      | .value _, some s => (← p.settle).give o s
      | .value _, none => return { ← p.settle with pending := .awaiting o }
      | _, some _ => p.misuse
      | _, none => (← p.settle).give o ""

/-- A cluster of letters.  The first that takes a value takes the rest of the cluster. -/
def cluster (p : Progress) : List Char → Except Stop Progress
  | [] => .ok p
  | c :: cs => do
      match p.level.node.options.find? (·.short == some c) with
      | none => p.misuse
      | some o =>
          let p ← p.settle
          match o.kind, cs with
          | .value _, [] => return { p with pending := .awaiting o }
          | .value _, '=' :: cs => p.give o (String.ofList cs)
          | .value _, cs => p.give o (String.ofList cs)
          | _, cs => (← p.give o "").cluster cs

/-- An argument that is neither a word by its place nor the name of a command. -/
def argument (p : Progress) (arg : String) : Except Stop Progress :=
  match arg.toList with
  | ['-', '-'] => .ok { p with wordsOnly := true }
  | '-' :: '-' :: cs =>
      let name := cs.takeWhile (· != '=')
      let value := match cs.drop name.length with
        | [] => none
        | _ :: rest => some (String.ofList rest)
      p.long (String.ofList name) value
  | '-' :: c :: cs => p.cluster (c :: cs)
  | _ =>
      match p.pending with
      | .awaiting o => .ok { p with pending := .value o arg }
      | _ => p.word arg

/-- Decide whether an option can be read from the variable that stands in for it. -/
def admitsFallback (environment : List (String × String)) (o : OptionForm) : Bool :=
  match o.kind, o.fallback.bind fun name => environment.lookup name with
  | .value admits, some s => admits s
  | _, _ => true

/-- Check a level that is complete. -/
def close (environment : List (String × String)) (p : Progress) : Except Stop Level := do
  let p ← p.settle
  let l := p.level
  let node := l.node
  if l.words.length = node.words.length ∧ node.required.all l.has
      ∧ node.exclusive.all (fun (a, b) => !(l.has a && l.has b))
      ∧ node.options.all (fun o => l.has o.long || admitsFallback environment o) then
    return l
  else p.misuse

end Progress

/-- Read arguments from a node on. -/
def scanFrom (environment : List (String × String)) : List String → Progress → Except Stop (List Level)
  | [], p => do
      let level ← p.close environment
      if level.node.children.isEmpty then return [level] else p.misuse
  | arg :: rest, p => do
      let children := p.level.node.children
      if p.wordsOnly then scanFrom environment rest (← p.word arg)
      else if p.isAwaiting then scanFrom environment rest (← p.argument arg)
      else if arg = "help" ∧ !children.isEmpty then
        match p.level.node.topic? rest with
        | some node => throw (.help node)
        | none => p.misuse
      else
        match children.lookup arg with
        | some child =>
            let below ← scanFrom environment rest { level := { node := child } }
            return (← p.close environment) :: below
        | none => scanFrom environment rest (← p.argument arg)

/-- Read the arguments of a run as levels from the top down. -/
def scan (environment : List (String × String)) (arguments : List String) :
    Except Stop (List Level) :=
  scanFrom environment arguments { level := { node := .top } }

/-- Why arguments do not make a run, if they do not. -/
def refusal? (environment : List (String × String)) (arguments : List String) : Option Stop :=
  match scan environment arguments with
  | .ok _ => none
  | .error stop => some stop

example : refusal? [] ["-vq", "status"] = some (.misuse .top) := by decide +kernel
example : refusal? [] ["--output-format", "odd", "crud", "-h"] = some (.help .crud) := by
  decide +kernel
example : (scan [] ["-r=a", "c", "--", "-x"]).toOption
    = some [⟨.top, [("root", "a")], []⟩, ⟨.crud, [], ["-x"]⟩] := by decide +kernel

end Scaffold.Command
