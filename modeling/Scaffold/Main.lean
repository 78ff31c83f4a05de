import Scaffold.Command.Run

/-!
# The program

The outer layer: a system that is the machine the program runs on, and the entry point.  All
that is decided is decided by `run`; here files are read and written and texts are printed.

This layer starts no other programs, so to it the build tool is always missing.  Clock,
variables and account are read from the files the kernel keeps about them.
-/

namespace Scaffold.Host

open Scaffold.Text

/-! ## Refusals -/

/-- The reason a file operation was refused. -/
def refusalOf : IO.Error → OsError
  | .noFileOrDirectory .. => .notFound
  | .permissionDenied .. => .permissionDenied
  | .alreadyExists .. => .alreadyExists
  | .inappropriateType _ number _ => if number = 21 then .isDirectory else .notDirectory
  | .invalidArgument _ number details =>
      if number = 36 then .nameTooLong else if number = 22 then .invalidArgument else .other details
  | .resourceBusy .. => .busy
  | e => .other (toString e)

/-- A file operation. -/
def guarded {α : Type} (x : IO α) : Os IO α :=
  ExceptT.mk do
    try return .ok (← x)
    catch e => return .error (refusalOf e)

/-! ## Files -/

/-- A path as an entry of the working directory. -/
def entryAt (path : String) : IO.FS.DirEntry := { root := ".", fileName := path }

/-- What an entry is, links followed. -/
def kindOfEntry (e : IO.FS.DirEntry) : IO EntryKind := do
  return if (← e.path.metadata).type == .dir then .directory else .file

/-- The entries of a directory. -/
def entriesOf (path : String) : IO (List (String × EntryKind)) := do
  let entries ← (entryAt path).path.readDir
  entries.toList.mapM fun e => return (e.fileName, ← kindOfEntry e)

/-- The text of a file the kernel keeps; one that cannot be read is empty. -/
def kernelFile (path : String) : IO String := do
  try return lossyText (← IO.FS.readBinFile path)
  catch _ => return ""

/-! ## Surroundings -/

/-- The variables in the form the kernel keeps them: a zero after each. -/
def variablesOf (s : String) : List (String × String) :=
  (splitOnChar '\x00' s).filterMap fun entry =>
    (cutAt? ['='] entry.toList).map fun (name, value) => (String.ofList name, String.ofList value)

/-- The words of a line. -/
def wordsOf (s : String) : List String :=
  ((piecesBy isBlank s.toList).filter (!·.isEmpty)).map String.ofList

/-- The present moment, from the moment of the start of the machine and the time since then. -/
def momentOf (stat uptime : String) : Instant :=
  let started := ((lines stat).findSome? fun line => match wordsOf line with
    | ["btime", n] => n.toNat?
    | _ => none).getD 0
  let since := (wordsOf uptime).headD "0"
  let whole := since.toList.takeWhile Char.isDigit
  let places := ((since.toList.drop (whole.length + 1)) ++ List.replicate 9 '0').take 9
  ⟨Int.ofNat (started + numberOf whole), numberOf places⟩

/-- The home directory of the account a process runs under. -/
def homeOf (status accounts : String) : String :=
  let account := ((lines status).findSome? fun line => match wordsOf line with
    | "Uid:" :: id :: _ => some id
    | _ => none).getD ""
  ((lines accounts).findSome? fun line => match splitOnChar ':' line with
    | [_, _, id, _, _, home, _] => if id = account then some home else none
    | _ => none).getD "/"

/-- A random identifier of the fourth version. -/
def idOf (bytes : ByteArray) : Uuid :=
  let n := bytes.toList.foldl (fun n b => n * 256 + b.toNat) 0
  let high := n / Nat.pow 2 80 % Nat.pow 2 48
  let middle := n / Nat.pow 2 64 % Nat.pow 2 12
  let low := n % Nat.pow 2 62
  ⟨high * Nat.pow 2 80 + 4 * Nat.pow 2 76 + middle * Nat.pow 2 64 + 2 * Nat.pow 2 62 + low⟩

/-- The machine the program runs on. -/
def system : System IO where
  kindOf path := guarded (kindOfEntry (entryAt path))
  read path := guarded (IO.FS.readBinFile path)
  write path content := guarded (IO.FS.writeBinFile path content)
  createDir path := guarded (IO.FS.createDir path)
  list path := guarded (entriesOf path)
  rename source target := guarded (IO.FS.rename source target)
  remove path := guarded (IO.FS.removeFile path)
  spareName := do
    let n := (← IO.getRandomBytes 3).toList.foldl (fun n b => n * 256 + b.toNat) 0
    return ".tmp" ++ String.ofList (hexText 6 n)
  currentDir := guarded do return (← IO.currentDir).toString
  environment := variablesOf <$> kernelFile "/proc/self/environ"
  accountHome := return homeOf (← kernelFile "/proc/self/status") (← kernelFile "/etc/passwd")
  launch _ _ _ := throw .notFound
  now := return momentOf (← kernelFile "/proc/stat") (← kernelFile "/proc/uptime")
  freshId := idOf <$> IO.getRandomBytes 16

end Scaffold.Host

/-- Run the program, print what it prints and end with its exit code. -/
def main (arguments : List String) : IO UInt32 := do
  let done ← Scaffold.run Scaffold.Host.system arguments
  IO.print done.out
  IO.eprint done.err
  return done.exit.toUInt32
