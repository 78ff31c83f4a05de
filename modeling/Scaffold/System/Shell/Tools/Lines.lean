import Scaffold.System.Shell.Tool

/-!
# Tools for lines

Tools that show, choose, count and order the lines of files and of their input.
-/

namespace Scaffold.Shell.Tools

open Scaffold.Text

/-! ## Whole texts -/

/-- A number in at least so many columns. -/
def column (width n : Nat) : String :=
  let s := toString n
  String.ofList (List.replicate (width - s.length) ' ') ++ s

/-- A number in a base, in at least so many digits. -/
def inBase (base width n : Nat) : String :=
  let digits := Nat.toDigits base n
  String.ofList (List.replicate (width - digits.length) '0' ++ digits)

/-- The texts of lines with their numbers, where the last line may be open. -/
def numbered (onlyFull : Bool) : Nat → List (List Char) → List String
  | _, [] => []
  | n, line :: rest =>
      if rest.isEmpty && line.isEmpty then []
      else
        let mark := if onlyFull && line.isEmpty then "" else column 6 n ++ "\t"
        let next := if onlyFull && line.isEmpty then n else n + 1
        (mark ++ String.ofList line ++ (if rest.isEmpty then "" else "\n")) ::
          numbered onlyFull next rest

/-- Show texts. -/
def cat : Tool := withOptions "nbeEtTuvsA" "" fun o => do
  for path in (if o.operands.isEmpty then ["-"] else o.operands) do
    let place := (← nodeAt path).toOption.map (·.1)
    match ← contentOf path with
    | .error e => complain (shown path ++ ": " ++ reasonOf e)
    | .ok s =>
        if !s.isEmpty && place.isSome && place == (← read).target then
          complain (shown path ++ ": input file is output file")
        else
          let s := if o.has 'E' || o.has 'A' then replaceAll s "\n" "$\n" else s
          let s := if o.has 'T' || o.has 'A' then replaceAll s "\t" "^I" else s
          say <| if o.has 'n' || o.has 'b' then
              String.join (numbered (o.has 'b') 1 (piecesBy (· == '\n') s.toList))
            else s

/-- Show the input and write it to files. -/
def tee : Tool := withOptions "ai" "" fun o => do
  let s ← wholeInput
  for path in o.operands do
    let old ← contentOf path
    let old := if o.has 'a' then (old.toOption).getD "" else ""
    match ← tryChange fun d here =>
        d.write here (ofOctets path) ⟨(toBytes (old ++ s)).toArray⟩ with
    | none => pure ()
    | some e => complain (shown path ++ ": " ++ reasonOf e)
  say s

/-- Show lines, the last first. -/
def tac : Tool := withOptions "" "" fun o => do
  let refusal (path : String) := "failed to open " ++ inQuotes path ++ " for reading"
  for (_, s) in ← contents o.operands refusal do
    let pieces := splitOnChar '\n' s
    let full := pieces.dropLast.map (· ++ "\n")
    let all := full ++ (if pieces.getLast? == some "" then [] else pieces.drop full.length)
    say (String.join all.reverse)

/-- Show lines, each from its end. -/
def rev : Tool := withOptions "" "" fun o => do
  for (_, s) in ← contents o.operands fun path => "cannot open " ++ path do
    let lines := (piecesBy (· == '\n') s.toList).map fun cs =>
      octets (String.ofList (decoded cs).reverse)
    say (joinWith "\n" lines)
where
  /-- The characters that octets encode. -/
  decoded (cs : List Char) : List Char := (ofOctets (String.ofList cs)).toList

/-- Put the lines of texts next to each other.  The input is given out line by line to all that
ask for it, or to the first one if lines are put behind each other. -/
def paste : Tool := withOptions "s" "d" fun o => do
  let marks := ((o.value? 'd').getD "\t").toList
  let texts ← contents o.operands
  let shares := (o.operands.filter (· == "-")).length
  let mark (i : Nat) : String := ((marks[i % max marks.length 1]?).map Char.toString).getD ""
  let row (cells : List String) : String :=
    String.join (cells.zipIdx.map fun (s, i) => if i = 0 then s else mark (i - 1) ++ s)
  let share (i : Nat) (lines : List String) : List String :=
    if o.has 's' then (if i = 0 then lines else [])
    else (lines.zipIdx.filter fun (_, k) => k % shares = i).map (·.1)
  let tables := texts.zipIdx.map fun ((path, s), i) =>
    if path == "-" && 1 < shares then
      share ((texts.take i).filter (·.1 == "-")).length (linesOf s)
    else linesOf s
  if o.has 's' then tables.forM fun lines => sayLine (row lines)
  else
    let height := (tables.map List.length).foldl max 0
    for i in List.range height do sayLine (row (tables.map fun lines => (lines[i]?).getD ""))

/-- An octet as a character of a table. -/
def octetName (c : Char) : String :=
  match c with
  | '\x00' => "\\0"
  | '\x07' => "\\a"
  | '\x08' => "\\b"
  | '\t' => "\\t"
  | '\n' => "\\n"
  | '\x0b' => "\\v"
  | '\x0c' => "\\f"
  | '\r' => "\\r"
  | c => if ' ' ≤ c && c ≤ '~' then c.toString else inBase 8 3 c.toNat

/-- The cells of a table of octets: how they are written, and how many octets make one. -/
def octetCells (format : String) : List Char → List String :=
  let right (width : Nat) (s : String) : String :=
    String.ofList (List.replicate (width - s.length) ' ') ++ s
  let single (f : Char → String) (cs : List Char) : List String := cs.map f
  let rec pairs (f : Nat → String) : List Char → List String
    | [] => []
    | [a] => [f a.toNat]
    | a :: b :: rest => f (a.toNat + 256 * b.toNat) :: pairs f rest
  match format with
  | "c" => single fun c => right 4 (octetName c)
  | "x1" => single fun c => " " ++ inBase 16 2 c.toNat
  | "o1" => single fun c => " " ++ inBase 8 3 c.toNat
  | "u1" => single fun c => right 4 (toString c.toNat)
  | "d1" => single fun c =>
      right 5 (if c.toNat < 128 then toString c.toNat else "-" ++ toString (256 - c.toNat))
  | "x2" => pairs fun n => " " ++ inBase 16 4 n
  | _ => pairs fun n => " " ++ inBase 8 6 n

/-- Show octets as a table. -/
def od : Tool := withOptions "cbxovd" "AtNj" fun o => do
  let s := String.join ((← contents o.operands).map (·.2))
  let format := (o.value? 't').getD <|
    if o.has 'c' then "c" else if o.has 'b' then "o1" else if o.has 'x' then "x2" else "o2"
  let place (n : Nat) : String :=
    match o.value? 'A' with
    | some "n" => ""
    | some "d" => inBase 10 7 n
    | some "x" => inBase 16 6 n
    | _ => inBase 8 7 n
  let rec rows : Nat → Nat → List Char → Option (List Char) → Bool → List String
    | 0, _, _, _, _ => []
    | n + 1, i, cs, last, starred =>
        if cs.isEmpty then [place i]
        else
          let row := cs.take 16
          if last == some row && !o.has 'v' then
            (if starred then [] else ["*"]) ++ rows n (i + 16) (cs.drop 16) last true
          else
            (place i ++ String.join (octetCells format row)) ::
              rows n (i + row.length) (cs.drop 16) (some row) false
  for row in rows (s.length + 1) 0 s.toList none false do
    if !row.isEmpty then sayLine row

/-- The characters of a line with a break wherever it would come to be wider than so many
columns.  A tab goes on to the next column that eight divides. -/
def broken (width : Nat) : Nat → List Char → List Char
  | _, [] => []
  | column, c :: rest =>
      let after (column : Nat) : Nat := if c == '\t' then (column / 8 + 1) * 8 else column + 1
      if width < after column && column != 0 then '\n' :: c :: broken width (after 0) rest
      else c :: broken width (after column) rest

/-- Show lines in pieces of a width. -/
def fold : Tool := withOptions "bs" "w" fun o => do
  let width := ((o.value? 'w').bind natural?).getD 80
  for (_, s) in ← contents o.operands do
    let lines := (piecesBy (· == '\n') s.toList).map fun cs => String.ofList (broken width 0 cs)
    say (joinWith "\n" lines)

/-! ## Beginnings and ends -/

/-- The first lines of a text, with their ends. -/
def firstLines (n : Nat) (s : String) : String :=
  let pieces := splitOnChar '\n' s
  let full := pieces.dropLast.map (· ++ "\n")
  if n ≤ full.length then String.join (full.take n) else s

/-- The text after its first lines. -/
def afterLines (n : Nat) (s : String) : String :=
  String.ofList (s.toList.drop (firstLines n s).length)

/-- How many lines a text has. -/
def countLines (s : String) : Nat := (linesOf s).length

/-- Arguments with a first one that is a number as an option for lines. -/
def withNumber : List String → List String
  | [] => []
  | s :: rest => match s.toList with
    | '-' :: d :: _ =>
        if d.isDigit then "-n" :: String.ofList (s.toList.drop 1) :: rest else s :: rest
    | _ => s :: rest

/-- Show a part of each text, with titles if there are several. -/
def showParts (part : Options → String → Option String) (o : Options) : Step Unit := do
  let paths := if o.operands.isEmpty then ["-"] else o.operands
  let titled := (1 < paths.length || o.has 'v') && !o.has 'q'
  let mut first := true
  for path in paths do
    match ← contentOf path with
    | .error .isDirectory => complain ("error reading " ++ inQuotes path ++ ": Is a directory")
    | .error e => complain ("cannot open " ++ inQuotes path ++ " for reading: " ++ reasonOf e)
    | .ok s =>
        if titled then
          sayLine ((if first then "" else "\n") ++ "==> " ++
            (if path == "-" then "standard input" else path) ++ " <==")
        first := false
        match part o s with
        | some s => say s
        | none =>
            let (what, value) := match o.value? 'c' with
              | some value => ("bytes", value)
              | none => ("lines", (o.value? 'n').getD "")
            complain ("invalid number of " ++ what ++ ": " ++ inQuotes value)
            return

/-- The beginning of a text that options ask for. -/
def beginning (o : Options) (s : String) : Option String :=
  let amount (all : Nat) (value : String) : Option Nat := match value.toList with
    | '-' :: digits => (natural? (String.ofList digits)).map (all - ·)
    | _ => natural? value
  match o.value? 'c' with
  | some value => (amount s.length value).map fun n => String.ofList (s.toList.take n)
  | none => (amount (countLines s) ((o.value? 'n').getD "10")).map fun n => firstLines n s

/-- The end of a text that options ask for. -/
def ending (o : Options) (s : String) : Option String :=
  let skipped (all : Nat) (value : String) : Option Nat := match value.toList with
    | '+' :: digits => (natural? (String.ofList digits)).map (· - 1)
    | '-' :: digits => (natural? (String.ofList digits)).map (all - ·)
    | _ => (natural? value).map (all - ·)
  match o.value? 'c' with
  | some value => (skipped s.length value).map fun n => String.ofList (s.toList.drop n)
  | none => (skipped (countLines s) ((o.value? 'n').getD "10")).map fun n => afterLines n s

/-- Run a tool that takes a number of lines as an option of its own. -/
def withLineNumber (t : Tool) : Tool := fun job =>
  t { job with arguments := withNumber job.arguments }

/-- Show the beginnings of texts. -/
def head : Tool := withLineNumber (withOptions "qvz" "nc" (showParts beginning))

/-- Show the ends of texts. -/
def tail : Tool := withLineNumber (withOptions "qvz" "nc" (showParts ending))

/-! ## Counting -/

/-- How many words a text has. -/
def countWords (s : String) : Nat :=
  ((piecesBy (fun c => c == ' ' || ('\t' ≤ c && c ≤ '\r')) s.toList).filter (!·.isEmpty)).length

/-- Count the lines, words and characters of texts. -/
def wc : Tool := withOptions "lwcmL" "" fun o => do
  let kinds : List (Char × (String → Nat)) :=
    [('l', fun s => (s.toList.filter (· == '\n')).length), ('w', countWords),
     ('m', String.length), ('c', String.length)]
  let chosen := kinds.filter fun (k, _) => o.has k
  let chosen := if chosen.isEmpty then kinds.filter fun (k, _) => k != 'm' else chosen
  let mut sizes := 0
  for path in o.operands do
    match ← contentOf path with
    | .ok s => sizes := sizes + s.length
    | .error _ => pure ()
  let width := if o.operands.length ≤ 1 && chosen.length = 1 then 1
    else if o.operands.isEmpty then 7 else (toString sizes).length
  let row (counts : List Nat) (name : String) : Step Unit :=
    sayLine (joinWith " " (counts.map (column width)) ++ (if name.isEmpty then "" else " " ++ name))
  let mut totals := chosen.map fun _ => 0
  for path in (if o.operands.isEmpty then [""] else o.operands) do
    match ← contentOf (if path.isEmpty then "-" else path) with
    | .error e => complain (shown path ++ ": " ++ reasonOf e)
    | .ok s =>
        let counts := chosen.map fun (_, f) => f s
        totals := (totals.zip counts).map fun (a, b) => a + b
        row counts path
  if 1 < o.operands.length then row totals "total"

/-! ## Order -/

/-- A key to order lines by: fields from one to another, and how they are compared. -/
structure SortKey where
  first : Nat
  last : Option Nat
  numeric : Bool
  backward : Bool
  anyCase : Bool
  noBlanks : Bool

/-- The key that a text describes, with the general options. -/
def SortKey.ofText (general : String) (s : String) : SortKey :=
  let (start, stop) := match cutAt? [','] s.toList with
    | some (a, b) => (a, some b)
    | none => (s.toList, none)
  let number (cs : List Char) : Nat :=
    (natural? (String.ofList (cs.takeWhile Char.isDigit))).getD 1
  let own := (start ++ stop.getD []).filter Char.isAlpha
  let flags := if own.isEmpty then general.toList else own
  ⟨number start, stop.map number, flags.contains 'n', flags.contains 'r', flags.contains 'f',
    flags.contains 'b'⟩

/-- The fields of a line: between separators, or each with the blanks before it. -/
def fieldsOfLine (separator : Option Char) (line : String) : List String :=
  match separator with
  | some c => splitOnChar c line
  | none =>
      let rec go : Nat → List Char → List String
        | 0, _ => []
        | _, [] => []
        | n + 1, cs =>
            let blanks := cs.takeWhile fun c => c == ' ' || c == '\t'
            let word := (cs.drop blanks.length).takeWhile fun c => !(c == ' ' || c == '\t')
            String.ofList (blanks ++ word) :: go n (cs.drop (blanks.length + word.length))
      go (line.length + 1) line.toList

/-- The part of a line that a key compares. -/
def SortKey.part (separator : Option Char) (k : SortKey) (line : String) : String :=
  let fields := fieldsOfLine separator line
  let fields := match k.last with
    | some n => fields.take n
    | none => fields
  let s := joinWith ((separator.map Char.toString).getD "") (fields.drop (k.first - 1))
  let s :=
    if k.noBlanks then String.ofList (s.toList.dropWhile fun c => c == ' ' || c == '\t') else s
  if k.anyCase then String.ofList (s.toList.map Char.toUpper) else s

/-- The number at the beginning of a text: how often a unit of so many places after the point
goes into it. -/
def leadingNumber (places : Nat) (s : String) : Int :=
  let cs := s.toList.dropWhile fun c => c == ' ' || c == '\t'
  let (negative, cs) := match cs with
    | '-' :: rest => (true, rest)
    | cs => (false, cs)
  let whole := cs.takeWhile Char.isDigit
  let fraction := match cs.drop whole.length with
    | '.' :: rest => rest.takeWhile Char.isDigit
    | _ => []
  let digits := whole ++ fraction.take places ++ List.replicate (places - fraction.length) '0'
  let n := Int.ofNat (digits.foldl (fun n c => n * 10 + (c.toNat - 48)) 0)
  if negative then -n else n

/-- Compare two lines by a key. -/
def SortKey.compare (separator : Option Char) (k : SortKey) (a b : String) : Ordering :=
  let x := k.part separator a
  let y := k.part separator b
  let o := if k.numeric then
      let places := max x.length y.length
      Ord.compare (leadingNumber places x) (leadingNumber places y)
    else Ord.compare x y
  if k.backward then o.swap else o

/-- Put lines in order. -/
def sort : Tool := withOptionsBy false 2 "nrufbscdgiM" "kto" fun o => do
  let mut lines := []
  for path in (if o.operands.isEmpty then ["-"] else o.operands) do
    match ← contentOf path with
    | .ok s => lines := lines ++ linesOf s
    | .error e =>
        complain ((if e == .isDirectory then "read failed: " else "cannot read: ") ++ shown path ++
          ": " ++ reasonOf e) 2
        return
  let general := String.ofList (o.given.map (·.1))
  let separator := (o.value? 't').bind fun s => s.toList.head?
  let named := (o.given.filter (·.1 == 'k')).map fun (_, s) => SortKey.ofText general s
  let keys := if named.isEmpty then [SortKey.ofText general "1"] else named
  let byKeys (a b : String) : Ordering :=
    (keys.map fun k => k.compare separator a b).foldl (fun o p => o.then p) .eq
  let order (a b : String) : Ordering :=
    let last := if o.has 's' || o.has 'u' then .eq
      else if o.has 'r' then (compare a b).swap else compare a b
    (byKeys a b).then last
  let sorted := lines.mergeSort fun a b => order a b != .gt
  let sorted := if !o.has 'u' then sorted
    else (sorted.foldl (fun (kept : List String) line => match kept with
      | last :: _ => if byKeys last line == .eq then kept else line :: kept
      | [] => [line]) []).reverse
  let text := String.join (sorted.map (· ++ "\n"))
  match o.value? 'o' with
  | none => say text
  | some path =>
      match ← tryChange fun d here => d.write here (ofOctets path) ⟨(toBytes text).toArray⟩ with
      | none => pure ()
      | some e => complain ("open failed: " ++ shown path ++ ": " ++ reasonOf e) 2

/-- Lines that follow each other and are the same, with how many there are. -/
def runs (same : String → String → Bool) (lines : List String) : List (Nat × String) :=
  lines.foldr (fun line found => match found with
    | (n, other) :: rest => if same line other then (n + 1, line) :: rest else (1, line) :: found
    | [] => [(1, line)]) []

/-- Show lines that follow each other and are the same only once. -/
def uniq : Tool := withOptions "cdui" "fsw" fun o => do
  let lower (s : String) : String := String.ofList (s.toList.map Char.toLower)
  let same (a b : String) : Bool := a == b || (o.has 'i' && lower a == lower b)
  for (_, s) in ← contents (o.operands.take 1) do
    for (n, line) in runs same (linesOf s) do
      if (!o.has 'd' || 1 < n) && (!o.has 'u' || n = 1) then
        sayLine (if o.has 'c' then column 7 n ++ " " ++ line else line)

/-! ## Parts of lines -/

/-- The ranges that a list of numbers names, the end of each possibly open. -/
def rangesOf (s : String) : Option (List (Nat × Option Nat)) :=
  (splitOnChar ',' s).mapM fun part =>
    match cutAt? ['-'] part.toList with
    | none => (natural? part).map fun n => (n, some n)
    | some (a, b) => do
        let low ← if a.isEmpty then some 1 else natural? (String.ofList a)
        if b.isEmpty then (if a.isEmpty then none else some (low, none))
        else (natural? (String.ofList b)).map fun high => (low, some high)

/-- Show parts of lines. -/
def cut : Tool := withOptions "sn" "bcfd" fun o => do
  let list := (o.value? 'f').or ((o.value? 'c').or (o.value? 'b'))
  let what := if (o.value? 'f').isSome then "fields" else "byte/character positions"
  match list, list.bind rangesOf with
  | none, _ => misuse "you must specify a list of bytes, characters, or fields"
  | some _, none => misuse "invalid byte, character or field list"
  | some _, some ranges =>
      if ranges.any fun (low, _) => low = 0 then misuse (what ++ " are numbered from 1") else
      let chosen (i : Nat) : Bool :=
        ranges.any fun (low, high) =>
          low ≤ i + 1 && (high.map fun h => decide (i + 1 ≤ h)).getD true
      let choose {α : Type} (xs : List α) : List α :=
        (xs.zipIdx.filter fun (_, i) => chosen i).map (·.1)
      let separator := ((o.value? 'd').bind fun s => s.toList.head?).getD '\t'
      for (_, s) in ← contents o.operands do
        for line in linesOf s do
          if (o.value? 'f').isSome then
            let fields := splitOnChar separator line
            if 1 < fields.length then sayLine (joinWith separator.toString (choose fields))
            else if !o.has 's' then sayLine line
          else sayLine (String.ofList (choose line.toList))

end Scaffold.Shell.Tools
