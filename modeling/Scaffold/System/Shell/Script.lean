/-!
# Scripts

The commands of a shell script as it is written: words that are still to be expanded, and
commands made of words and other commands.  All texts in a script are texts of octets.
-/

namespace Scaffold.Shell

/-- What is made of the value of a parameter.  The flag says whether an empty value counts like
none. -/
inductive Use where
  | value
  | length
  /-- The value, or else a word. -/
  | orElse (ifEmpty : Bool)
  /-- The value, or else a word that is assigned as well. -/
  | orAssign (ifEmpty : Bool)
  /-- The value, or else the end with a word as the reason. -/
  | orFail (ifEmpty : Bool)
  /-- A word, if there is a value. -/
  | instead (ifEmpty : Bool)
  /-- The value without what a pattern matches at its start. -/
  | withoutStart (longest : Bool)
  /-- The value without what a pattern matches at its end. -/
  | withoutEnd (longest : Bool)
  /-- Nothing a shell knows. -/
  | unknown
deriving Repr, DecidableEq

/-- What a descriptor becomes. -/
inductive Channel where
  /-- A file to read from. -/
  | input
  /-- A file to write over, unless the shell is told to keep files that are there. -/
  | output
  /-- A file to write over in any case. -/
  | overwrite
  /-- A file to write behind. -/
  | append
  /-- A file to read from and write to. -/
  | both
  /-- What another descriptor is, or nothing. -/
  | copy
  /-- A text in the script, by its number. -/
  | here (number : Nat)
deriving Repr, DecidableEq

mutual

/-- A part of a word. -/
inductive Piece where
  /-- A text that stands for itself. -/
  | text (s : String) (quoted : Bool)
  /-- The value of a parameter, and what is made of it with a word. -/
  | parameter (name : String) (use : Use) (word : List Piece) (quoted : Bool)
  /-- The output of a command. -/
  | output (c : Command) (quoted : Bool)
  /-- The value of a sum. -/
  | sum (word : List Piece) (quoted : Bool)

/-- A command. -/
inductive Command where
  | nothing
  /-- Assignments, a command's words, and redirections, with the line they stand on. -/
  | simple (line : Nat) (assignments : List (String × List Piece)) (words : List (List Piece))
      (redirections : List Redirection)
  /-- Commands of which each reads the output of the one before it. -/
  | pipeline (parts : List Command)
  | negation (c : Command)
  /-- The second command only after success, or only after failure, of the first. -/
  | joint (onSuccess : Bool) (first second : Command)
  | sequence (first second : Command)
  | background (c : Command)
  | subshell (c : Command)
  | redirected (line : Nat) (c : Command) (redirections : List Redirection)
  | conditional (test yes no : Command)
  /-- A body for as long as a test succeeds, or fails. -/
  | loop (whileSuccess : Bool) (test body : Command)
  /-- A body for each word, or for each parameter if no words are given. -/
  | iteration (line : Nat) (name : String) (words : Option (List (List Piece))) (body : Command)
  /-- The body of the first case with a pattern that matches a word. -/
  | selection (line : Nat) (word : List Piece) (cases : List (List (List Piece) × Command))
  | definition (name : String) (body : Command)

/-- A redirection of a descriptor. -/
inductive Redirection where
  | mk (descriptor : Nat) (channel : Channel) (target : List Piece)

end

instance : Inhabited Piece := ⟨.text "" false⟩
instance : Inhabited Command := ⟨.nothing⟩

/-- A word. -/
abbrev Word := List Piece

/-- Decide whether a character can begin a name. -/
def isNameStart (c : Char) : Bool := c.isAlpha || c == '_'

/-- Decide whether a character can go on in a name. -/
def isNameChar (c : Char) : Bool := isNameStart c || c.isDigit

/-- Decide whether a text is a name. -/
def isName (s : String) : Bool :=
  (s.toList.head?.map isNameStart).getD false && s.toList.all isNameChar

/-- The text of a word as it is written, without its quotes. -/
def Piece.literals (ps : Word) : String :=
  ps.foldl (fun s p => match p with
    | .text t _ => s ++ t
    | _ => s) ""

/-- Put a text behind the pieces of a word, the last piece first. -/
def Piece.addText (s : String) (quoted : Bool) : Word → Word
  | .text t q :: rest =>
      if q == quoted then .text (t ++ s) q :: rest else .text s quoted :: .text t q :: rest
  | rest => .text s quoted :: rest

end Scaffold.Shell
