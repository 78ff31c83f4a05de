import Scaffold.System.Shell.Tool

/-!
# Tools for files

Tools that show and change the entries of directories, and the parts of paths.
-/

namespace Scaffold.Shell.Tools

open Scaffold.Text

/-! ## Paths -/

/-- A path without the slashes at its end. -/
def withoutSlashes (path : String) : String :=
  let cs := (path.toList.reverse.dropWhile (· == '/')).reverse
  if cs.isEmpty && !path.isEmpty then "/" else String.ofList cs

/-- The last name of a path. -/
def lastName (path : String) : String :=
  let path := withoutSlashes path
  if path == "/" then path else (splitOnChar '/' path).getLast?.getD ""

/-- What comes before the last name of a path. -/
def directoryName (path : String) : String :=
  let path := withoutSlashes path
  if path == "/" then "/"
  else if !path.toList.contains '/' then "."
  else withoutSlashes (String.ofList (path.toList.reverse.dropWhile (· != '/')).reverse)

/-- Show the last name of a path, without an ending. -/
def basename : Tool := withLeadingOptions "az" "s" fun o => do
  let shown (tail path : String) : Step Unit := do
    let name := lastName path
    sayLine <| match dropTail? tail.toList name.toList with
      | some rest => if rest.isEmpty || tail.isEmpty then name else String.ofList rest
      | none => name
  match o.has 'a' || o.has 's', o.operands with
  | _, [] => misuse "missing operand"
  | true, paths => paths.forM (shown ((o.value? 's').getD ""))
  | false, [path] => shown "" path
  | false, [path, tail] => shown tail path
  | false, _ :: _ :: extra :: _ => misuse ("extra operand " ++ inQuotes extra)

/-- Show what comes before the last names of paths. -/
def dirname : Tool := withOptions "z" "" fun o =>
  if o.operands.isEmpty then misuse "missing operand"
  else o.operands.forM fun path => sayLine (directoryName path)

/-- Show the directory. -/
def pwd : Tool := do sayLine (octets (Machine.pathOf (← read).directory))

/-! ## Showing -/

/-- The names in a directory, in order. -/
def namesIn (path : String) (o : Options) : Step (List String) := do
  let entries := (((← get).disk.list (← read).directory (ofOctets path)).toOption).getD []
  let names := entries.map fun (name, _) => octets name
  let names := if o.has 'a' then "." :: ".." :: names
    else if o.has 'A' then names
    else names.filter fun name => name.toList.head? != some '.'
  let names := names.mergeSort fun a b => a ≤ b
  return if o.has 'r' then names.reverse else names

/-- Show a name, with a mark of what it names. -/
def showName (directory : String) (o : Options) (name : String) : Step Unit := do
  let mark ← match ← nodeAt (if directory.isEmpty then name else directory ++ "/" ++ name) with
    | .ok (_, .directory) => pure (if o.has 'p' || o.has 'F' then "/" else "")
    | _ => pure ""
  sayLine (name ++ mark)

/-- Show the entries of directories, and of those below them if an option asks for it.  Each
has a title, except the only one. -/
def showDirectories (o : Options) : Nat → Bool → Bool → List String → Step Unit
  | 0, _, _, _ => pure ()
  | _, _, _, [] => pure ()
  | n + 1, first, titled, path :: rest => do
      if !first then say "\n"
      if titled then sayLine (path ++ ":")
      let names ← namesIn path o
      for name in names do showName path o name
      let inner ← if !o.has 'R' then pure [] else
        (names.filter fun name => name != "." && name != "..").filterM fun name => do
          return match ← nodeAt (path ++ "/" ++ name) with
            | .ok (_, .directory) => true
            | _ => false
      showDirectories o n false titled (inner.map (path ++ "/" ++ ·) ++ rest)

/-- Show the entries of directories. -/
def ls : Tool := withOptionsBy false 2 "1aARrpFdCmxtSUfhiln" "" fun o => do
  let paths := if o.operands.isEmpty then ["."] else o.operands.mergeSort fun a b => a ≤ b
  let mut files := []
  let mut directories := []
  for path in paths do
    match ← nodeAt path with
    | .error e => complain ("cannot access " ++ inQuotes path ++ ": " ++ reasonOf e) 2
    | .ok (_, .directory) =>
        if o.has 'd' then files := files ++ [path] else directories := directories ++ [path]
    | .ok (_, .file _) => files := files ++ [path]
  for path in files do showName "" o path
  let all := (← get).disk.entries.length + directories.length + 1
  showDirectories o all files.isEmpty (1 < o.operands.length || o.has 'R') directories

/-! ## Changing -/

/-- The paths from a path upwards, the highest first. -/
def pathsDownTo (path : String) : List String :=
  let pieces := splitOnChar '/' path
  ((List.range pieces.length).map fun i => joinWith "/" (pieces.take (i + 1))).filter (!·.isEmpty)

/-- Make directories. -/
def mkdir : Tool := withOptions "pv" "m" fun o => do
  if o.operands.isEmpty then misuse "missing operand"
  for path in o.operands do
    for part in (if o.has 'p' then pathsDownTo path else [path]) do
      match ← tryChange fun d here => d.createDir here (ofOctets part) with
      | none => if o.has 'v' then sayLine ("mkdir: created directory " ++ inQuotes part)
      | some e =>
          let isThere := match ← nodeAt part with
            | .ok (_, .directory) => true
            | _ => false
          if !(o.has 'p' && isThere) then
            complain ("cannot create directory " ++ inQuotes part ++ ": " ++ reasonOf e)

/-- The entries below a place. -/
def below (d : Disk) (place : Place) : List (Place × Node) :=
  d.entries.filter fun (p, _) => place.isPrefixOf p && p != place

/-- The disk without a place and what is below it. -/
def without (d : Disk) (place : Place) : Disk :=
  ⟨d.entries.filter fun (p, _) => !place.isPrefixOf p⟩

/-- The disk with what is at a place, and below it, at another place as well. -/
def copied (d : Disk) (source target : Place) : Disk :=
  (d.entries.filter fun (p, _) => source.isPrefixOf p).foldl
    (fun d (p, n) => d.put (target ++ p.drop source.length) n) d

/-- Remove empty directories. -/
def rmdir : Tool := withOptions "pv" "" fun o => do
  if o.operands.isEmpty then misuse "missing operand"
  for path in o.operands do
    let refused (reason : String) : Step Unit :=
      complain ("failed to remove " ++ inQuotes path ++ ": " ++ reason)
    match ← nodeAt path with
    | .error e => refused (reasonOf e)
    | .ok (_, .file _) => refused "Not a directory"
    | .ok (place, .directory) =>
        if (below (← get).disk place).isEmpty then
          modify fun w => { w with disk := without w.disk place }
        else refused "Directory not empty"

/-- Remove files, and directories with what is in them. -/
def rm : Tool := withOptions "rRfvdi" "" fun o => do
  if o.operands.isEmpty && !o.has 'f' then misuse "missing operand"
  for path in o.operands do
    let refused (reason : String) : Step Unit :=
      complain ("cannot remove " ++ inQuotes path ++ ": " ++ reason)
    match ← nodeAt path with
    | .error .notFound => if !o.has 'f' then refused "No such file or directory"
    | .error e => refused (reasonOf e)
    | .ok (place, node) =>
        if node.kind == .directory && !(o.has 'r' || o.has 'R') then refused "Is a directory"
        else
          modify fun w => { w with disk := without w.disk place }
          if o.has 'v' then sayLine ("removed " ++ inQuotes path)

/-- Make files that are not there. -/
def touch : Tool := withOptions "acm" "dtr" fun o => do
  if o.operands.isEmpty then misuse "missing file operand"
  for path in o.operands do
    match ← nodeAt path with
    | .ok _ => pure ()
    | .error _ =>
        if !o.has 'c' then
          match ← tryChange fun d here => d.write here (ofOctets path) .empty with
          | none => pure ()
          | some e => complain ("cannot touch " ++ inQuotes path ++ ": " ++ reasonOf e)

/-- The place that something is put at for a path: in the directory there, or else at the path. -/
def targetOf (source target : String) : Step (Except OsError Place) := do
  let w ← get
  let here := (← read).directory
  match ← nodeAt target with
  | .ok (place, .directory) => return .ok (place ++ [ofOctets (lastName source)])
  | .ok (place, .file _) => return .ok place
  | .error _ =>
      match w.disk.follow here (ofOctets (withoutSlashes target)) with
      | .ok ⟨dir, some name, _⟩ => return .ok (dir ++ [name])
      | .ok ⟨dir, none, _⟩ => return .ok dir
      | .error e => return .error e

/-- Copy or move something to a path. -/
def transfer (moving deep : Bool) (source target : String) : Step Unit := do
  match ← nodeAt source with
  | .error e => complain ("cannot stat " ++ inQuotes source ++ ": " ++ reasonOf e)
  | .ok (place, node) =>
      if node.kind == .directory && !deep then
        complain ("-r not specified; omitting directory " ++ inQuotes source)
      else
        match ← targetOf source target with
        | .error e =>
            complain <| if moving then
                "cannot move " ++ inQuotes source ++ " to " ++ inQuotes target ++ ": " ++ reasonOf e
              else "cannot create regular file " ++ inQuotes target ++ ": " ++ reasonOf e
        | .ok goal =>
            if goal == place then
              complain (inQuotes source ++ " and " ++ inQuotes target ++ " are the same file")
            else
              modify fun w =>
                let disk := copied w.disk place goal
                { w with disk := if moving then without disk place else disk }

/-- Copy or move what the operands but the last name to the last one. -/
def transferAll (moving deep : Bool) (operands : List String) : Step Unit := do
  match operands.getLast?, operands.dropLast with
  | none, _ => misuse "missing file operand"
  | some source, [] => misuse ("missing destination file operand after " ++ inQuotes source)
  | some target, [source] => transfer moving deep source target
  | some target, sources =>
      match ← nodeAt target with
      | .ok (_, .directory) => sources.forM fun source => transfer moving deep source target
      | .ok (_, .file _) => complain ("target " ++ inQuotes target ++ ": Not a directory")
      | .error _ => complain ("target " ++ inQuotes target ++ ": No such file or directory")

/-- Copy files, and directories with what is in them. -/
def cp : Tool := withOptions "rRapfvin" "" fun o =>
  transferAll false (o.has 'r' || o.has 'R' || o.has 'a') o.operands

/-- Move files and directories. -/
def mv : Tool := withOptions "fvin" "" fun o => transferAll true true o.operands

end Scaffold.Shell.Tools
