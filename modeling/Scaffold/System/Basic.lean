import Scaffold.Descriptor

/-!
# The operating system

What a command needs of the machine it runs on: files as bytes, directories, variables,
other programs, a clock.  Every operation on a file can be refused, and says why.

The monad is a parameter, so that a command runs on a machine in memory as well as on a real
one.
-/

namespace Scaffold

/-- Why the operating system refuses an operation. -/
inductive OsError where
  | notFound
  | permissionDenied
  | busy
  | alreadyExists
  | notDirectory
  | isDirectory
  | invalidArgument
  | nameTooLong
  /-- A path that holds the character zero. -/
  | zeroInPath
  /-- Any other reason, in its own words. -/
  | other (text : String)
deriving Repr, DecidableEq

/-- The words of a reason, with its number. -/
def OsError.message : OsError → String
  | .notFound => "No such file or directory (os error 2)"
  | .permissionDenied => "Permission denied (os error 13)"
  | .busy => "Device or resource busy (os error 16)"
  | .alreadyExists => "File exists (os error 17)"
  | .notDirectory => "Not a directory (os error 20)"
  | .isDirectory => "Is a directory (os error 21)"
  | .invalidArgument => "Invalid argument (os error 22)"
  | .nameTooLong => "File name too long (os error 36)"
  | .zeroInPath => "file name contained an unexpected NUL byte"
  | .other text => text

/-- A computation the operating system may refuse. -/
abbrev Os (m : Type → Type) := ExceptT OsError m

/-- What a path can name. -/
inductive EntryKind where
  | file | directory
deriving Repr, DecidableEq

/-- A program that has ended. -/
structure Finished where
  /-- Its exit code, unless it was killed. -/
  code : Option Int
  /-- What it wrote to its output. -/
  output : ByteArray
  /-- What it wrote to its error output. -/
  errors : ByteArray

/-- A machine to run on. -/
structure System (m : Type → Type) where
  /-- What a path names. -/
  kindOf : String → Os m EntryKind
  /-- The bytes of a file. -/
  read : String → Os m ByteArray
  /-- Write a file, new or over an old one. -/
  write : String → ByteArray → Os m Unit
  /-- Make one directory. -/
  createDir : String → Os m Unit
  /-- The entries of a directory, in no particular order. -/
  list : String → Os m (List (String × EntryKind))
  /-- Move a file to a path, over the file that is there. -/
  rename : String → String → Os m Unit
  /-- Remove a file. -/
  remove : String → Os m Unit
  /-- A file name nobody uses. -/
  spareName : m String
  /-- The directory relative paths start from. -/
  currentDir : Os m String
  /-- The environment variables. -/
  environment : m (List (String × String))
  /-- The home directory of the account, for when no variable names one. -/
  accountHome : m String
  /-- Run a program with arguments in a directory. -/
  launch : String → List String → String → Os m Finished
  /-- The present moment. -/
  now : m Instant
  /-- An identifier that was not used before. -/
  freshId : m Uuid

end Scaffold
