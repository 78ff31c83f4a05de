import Scaffold.Command.Invocation
import Scaffold.Command.Settings
import Scaffold.Format.JsonRecord
import Scaffold.Report
import Scaffold.Text.Style

/-!
# Printing

How the outcome of a command is written: for people with or without colours, or as JSON for
programs.  Everything that is printed is a list of lines.  A quiet run keeps to errors and to
what programs read.
-/

namespace Scaffold

open Scaffold.Text

/-- How to print. -/
structure Printer where
  /-- How output is rendered. -/
  format : OutputFormat
  /-- Leave out everything but errors. -/
  quiet : Bool
  /-- Use colours. -/
  coloured : Bool
deriving Repr, DecidableEq

namespace Printer

/-- The printer for the options of a run and its settings, where the output is no terminal.  The
settings speak only where the options leave the format open. -/
def ofOptions (options : SharedOptions) (settings : Settings) : Printer :=
  let asked := match options.format with
    | .auto => (Command.formatWords.lookup (asciiLower settings.format)).getD .auto
    | format => format
  let format := if asked = .auto then .plain else asked
  { format := format
    quiet := options.quiet
    coloured := format = .human && !options.noColor && !settings.noColor }

variable (p : Printer)

/-! ## Messages -/

/-- A line, unless the run is quiet. -/
def line (s : String) : List String := if p.quiet then [] else [s]

/-- A line after a mark, both in a colour. -/
def marked (mark : String) (c : Colour) (s : String) : String :=
  if p.coloured then emphasised c mark ++ " " ++ painted c s else mark ++ " " ++ s

/-- A message that something went well. -/
def success (s : String) : List String := p.line (p.marked "✓" .green s)

/-- A message that something failed, which a quiet run has too. -/
def failure (s : String) : List String := [p.marked "✗" .red s]

/-- A message that something needs attention. -/
def warning (s : String) : List String := p.line (p.marked "⚠" .yellow s)

/-- A message that tells something. -/
def info (s : String) : List String := p.line (p.marked "ℹ" .blue s)

/-- The heading of what follows. -/
def header (s : String) : List String := p.line (if p.coloured then emphasised .cyan s else s)

/-! ## Reports -/

/-- A text with blanks after it up to a width. -/
def padTo (width : Nat) (s : String) : String :=
  s ++ String.ofList (List.replicate (width - s.length) ' ')

/-- The outcome of a step in its column. -/
def outcomeCell (o : Outcome) : String :=
  let cell := padTo 9 o.spelling
  if !p.coloured then cell
  else match o with
    | .unchanged => dimmed cell
    | .cleaned => painted .yellow cell
    | .created | .updated => painted .green cell

/-- A step as a line. -/
def step (s : Step) : List String :=
  p.line ("  " ++ p.outcomeCell s.outcome ++ " " ++ s.path ++ " (" ++ s.what ++ ")")

/-- A checkpoint as a message. -/
def checkpoint (c : Checkpoint) : List String :=
  match c.status with
  | .passed => p.success (c.kind.text ++ " passed")
  | .skipped reason => p.info (c.kind.text ++ " skipped: " ++ reason)
  | .failed cause => p.failure (c.kind.text ++ " failed: " ++ cause.message)

/-- A checkpoint for programs. -/
def checkpointJson (c : Checkpoint) : JsonValue :=
  let (status, detail) := match c.status with
    | .passed => ("passed", JsonValue.null)
    | .skipped reason => ("skipped", .string reason)
    | .failed cause => ("failed", .string cause.message)
  .object [("checkpoint", .string c.kind.text), ("detail", detail), ("status", .string status)]

/-- A report for programs, its keys in the order of their letters. -/
def reportJson (r : Report) : JsonValue :=
  let stepJson (s : Step) : JsonValue :=
    .object [("outcome", .string s.outcome.spelling), ("path", .string s.path),
      ("what", .string s.what)]
  .object
    [("changed", .ofNat (changedCount r.steps)),
     ("checkpoints", .array (r.checkpoints.map checkpointJson)),
     ("entity", (r.entity.map JsonValue.string).getD .null),
     ("feature", .string r.feature),
     ("steps", .array (r.steps.map stepJson)),
     ("success", .bool r.isSuccess),
     ("summary", .string r.summary),
     ("unchanged", .ofNat (unchangedCount r.steps))]

/-- A report: its heading, its steps, its checkpoints and what they come to. -/
def report (r : Report) : List String :=
  if p.format = .json then [(reportJson r).compact]
  else
    p.header r.header ++ r.steps.flatMap p.step ++ r.checkpoints.flatMap p.checkpoint ++
      (if r.isSuccess then p.success r.summary else p.warning r.summary)

/-! ## Projects -/

/-- The entities of a project, each with what was generated for it. -/
def entity (name : String) (c : Capabilities) : String :=
  let made := (if c.hasCrud then ["crud"] else []) ++ (if c.hasAction then ["actions"] else [])
  "    " ++ padTo 20 name ++ " " ++ joinWith ", " made

/-- A project. -/
def project (d : Descriptor) : List String :=
  if p.format = .json then [(JsonValue.ofDescriptor d).pretty]
  else
    let provider := (d.provider.map Provider.spelling).getD "(not selected)"
    let entities :=
      if d.entities.isEmpty then ["  entities:     none"]
      else "  entities:" :: d.entities.map fun (name, c) => entity name c
    p.header (d.name ++ " (" ++ d.root ++ ")") ++
      (["  entry point:  " ++ d.entryPoint,
        "  exposure:     " ++ d.style.spelling,
        "  persistence:  " ++ provider,
        "  updated:      " ++ d.updatedAt.text "+00:00"] ++ entities).flatMap p.line

end Printer

end Scaffold
