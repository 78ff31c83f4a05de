import Scaffold.Error
import Scaffold.Text.Style

/-!
# Errors of a command

What can go wrong with a command besides the request it makes: no project is found, the
settings cannot be read, a file cannot be written.  An error is printed with its causes when
the user asks for details, and with advice always.
-/

namespace Scaffold

open Scaffold.Text

/-- Everything a command can fail with. -/
inductive CommandError where
  /-- No root was given and none was found from a directory. -/
  | rootUnresolved (directory : String)
  /-- The settings cannot be read, or hold what they cannot hold. -/
  | settings (message : String) (cause : Option String)
  /-- An error of the request. -/
  | library (error : Error)
  /-- A file of the command line's own could not be read or written. -/
  | file (message cause : String)
deriving Repr, DecidableEq

instance : Coe Error CommandError := ⟨.library⟩

/-- The kinds of failure an exit code tells apart. -/
inductive FailureKind where
  | user | notFound | configuration | externalTool | internal
deriving Repr, DecidableEq

/-- The exit code of a failure. -/
def FailureKind.exitCode : FailureKind → Nat
  | .user => 2
  | .notFound => 3
  | .configuration => 4
  | .externalTool => 5
  | .internal => 1

/-- A conflict is the user's to settle, like a malformed request. -/
def ErrorCategory.failureKind : ErrorCategory → FailureKind
  | .validation | .conflict => .user
  | .notFound => .notFound
  | .externalTool => .externalTool
  | .configuration => .configuration
  | .internal => .internal

namespace CommandError

/-- The sentence an error is reported with. -/
def message : CommandError → String
  | .rootUnresolved directory => "Could not determine the project root from " ++ directory
  | .settings message _ => "Configuration error: " ++ message
  | .library error => error.message
  | .file message _ => "I/O error: " ++ message

/-- What the user can do about an error. -/
def suggestions : CommandError → List String
  | .rootUnresolved directory =>
      [directory ++ " does not carry a layerkit.yaml",
       "Run the command from the solution root",
       "Or pass --root <path>",
       "Or initialise the project: layerkit init <Name>"]
  | .settings message _ =>
      ["Configuration issue: " ++ message,
       "Run: layerkit config path to locate the config file",
       "Use 'layerkit config init' to create a default config"]
  | .library error => error.suggestions
  | .file message _ =>
      ["I/O operation failed: " ++ message, "Check file permissions",
       "Ensure the parent directory exists"]

/-- The kind of failure an error is. -/
def kind : CommandError → FailureKind
  | .rootUnresolved _ => .notFound
  | .settings .. => .configuration
  | .library error => error.category.failureKind
  | .file .. => .internal

/-- The causes below an error, the nearest first.  An error of a request or of a run has its
family between itself and its cause. -/
def causes : CommandError → List String
  | .rootUnresolved _ => []
  | .settings _ cause => cause.toList
  | .library (.request cause) => [cause.message, cause.message]
  | .library (.run cause) => [cause.message, cause.message]
  | .library error => [error.message]
  | .file _ cause => [cause]

/-- What to do to see the causes. -/
def detailsHint : String := "Use -v / --verbose for more details."

/-- An error as plain text, with its causes or with the hint how to see them. -/
def plain (e : CommandError) (verbose : Bool) : String :=
  let causes := if verbose then e.causes.map ("  Caused by: " ++ · ++ "\n") else []
  let hint := if verbose then "" else "\n" ++ detailsHint ++ "\n"
  "\nError: " ++ e.message ++ "\n" ++ String.join causes ++ "\nSuggestions:\n" ++
    String.join (e.suggestions.map ("  " ++ · ++ "\n")) ++ hint

/-- An error for a terminal, with its causes or with the hint how to see them. -/
def coloured (e : CommandError) (verbose : Bool) : String :=
  let causes := if verbose then
      e.causes.map fun c => "\n  " ++ dimmed "→" ++ " " ++ dimmed c ++ "\n"
    else []
  let hint := if verbose then ""
    else "\n" ++ painted .blue "ℹ" ++ " " ++ dimmed detailsHint ++ "\n"
  "\n" ++ emphasised .red "✗" ++ " " ++ emphasised .red "Error:" ++ "\n\n  " ++
    painted .red e.message ++ "\n" ++ String.join causes ++ "\n" ++
    emphasised .yellow "Suggestions:" ++ "\n" ++
    String.join (e.suggestions.map ("  " ++ · ++ "\n")) ++ hint

end CommandError

end Scaffold
