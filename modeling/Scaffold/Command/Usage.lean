import Scaffold.Command.Grammar
import Scaffold.Text.Search

/-!
# Usage

What is printed when help is asked for, when the arguments do not fit the grammar and when a
shell asks for completions.  All of it is made from the grammar.
-/

namespace Scaffold.Command

open Scaffold.Text

/-- The name of the program. -/
def programName : String := "layerkit"

/-- The line the version is reported with. -/
def versionLine : String := programName ++ " 0.1.0\n"

/-- The way from the top to a node. -/
def Node.path : Node → List String
  | .top => []
  | .init => ["init"]
  | .crud => ["crud"]
  | .action => ["action"]
  | .service => ["service"]
  | .constant => ["constant"]
  | .enum => ["enum"]
  | .status => ["status"]
  | .completions => ["completions"]
  | .config => ["config"]
  | .configGet => ["config", "get"]
  | .configList => ["config", "list"]
  | .configPath => ["config", "path"]
  | .configInit => ["config", "init"]

/-- How a node is called. -/
def Node.usage (n : Node) : String :=
  let words := n.words.map fun (name, _) => "<" ++ name ++ ">"
  let rest := if n.children.isEmpty then words else ["<COMMAND>"]
  "Usage: " ++ joinWith " " (programName :: n.path ++ ["[OPTIONS]"] ++ rest)

/-- An option as it is listed. -/
def OptionForm.listing (o : OptionForm) : String :=
  let short := match o.short with
    | some c => "-" ++ c.toString ++ ", "
    | none => "    "
  let value := match o.kind with
    | .value _ => " <VALUE>"
    | _ => ""
  "  " ++ short ++ "--" ++ o.long ++ value ++ "  " ++ o.purpose

/-- The commands below a node, each by the first of its names. -/
def Node.mainChildren (n : Node) : List (String × Node) :=
  n.children.filter fun (name, child) => child.path.getLast? == some name

/-- The help for a node. -/
def Node.help (n : Node) : String :=
  let commands := n.mainChildren.map fun (name, child) => "  " ++ name ++ "  " ++ child.purpose
  let commandLines := if commands.isEmpty then [] else "Commands:" :: commands ++ [""]
  joinWith "\n" ([n.purpose, "", n.usage, ""] ++ commandLines ++
    "Options:" :: n.options.map OptionForm.listing) ++ "\n"

/-- The complaint about arguments that do not fit a node. -/
def Node.complaint (n : Node) : String :=
  "error: the arguments do not fit\n\n" ++ n.usage ++ "\n\nFor more information, try '--help'.\n"

/-- What can follow the name of the program. -/
def completionWords : List String :=
  Node.top.mainChildren.map (·.1) ++ Node.top.options.map fun o => "--" ++ o.long

/-- The script that completes the first argument in a shell. -/
def completionScript (shell : Shell) : String :=
  let words := joinWith " " completionWords
  match shell with
  | .bash => "complete -W \"" ++ words ++ "\" " ++ programName ++ "\n"
  | .zsh => "#compdef " ++ programName ++ "\n_arguments '1:command:(" ++ words ++ ")'\n"
  | .fish => "complete -c " ++ programName ++ " -f -a \"" ++ words ++ "\"\n"
  | .powerShell =>
      "Register-ArgumentCompleter -Native -CommandName '" ++ programName ++
        "' -ScriptBlock \x7b\n    '" ++ words ++ "' -split ' '\n\x7d\n"
  | .elvish =>
      "set edit:completion:arg-completer[" ++ programName ++ "] = \x7b|@words| all [" ++ words ++
        "] \x7d\n"

end Scaffold.Command
