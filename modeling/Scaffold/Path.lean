import Scaffold.Error
import Scaffold.Text.Search

/-!
# Paths

A path is a text with slashes; what it names is its list of components.  Repeated slashes
and inner or trailing dots name nothing, and `..` is kept as it is.  Paths are compared by
components, so `a//b` and `a/./b` are one path.
-/

namespace Scaffold

open Scaffold.Text

/-! ## Components -/

/-- One step of a path. -/
inductive Component where
  /-- The root of the file system. -/
  | root
  /-- A dot at the beginning of a relative path. -/
  | current
  /-- The directory above. -/
  | parent
  /-- A plain name. -/
  | name (text : String)
deriving Repr, DecidableEq

namespace Component

/-- The text of a component. -/
def text : Component → String
  | .root => "/"
  | .current => "."
  | .parent => ".."
  | .name text => text

/-- The order of the kinds of component. -/
def rank : Component → Nat
  | .root => 0
  | .current => 1
  | .parent => 2
  | .name _ => 3

/-- Components are ordered by kind, and names by their characters. -/
def lt : Component → Component → Bool
  | .name a, .name b => a < b
  | a, b => a.rank < b.rank

end Component

/-- The list of components is ordered like the words of a dictionary. -/
def componentsLt : List Component → List Component → Bool
  | _, [] => false
  | [], _ :: _ => true
  | a :: as, b :: bs => if a = b then componentsLt as bs else a.lt b

namespace Path

/-- Decide whether a path starts at the root of the file system. -/
def isAbsolute (p : String) : Bool := p.toList.head? == some '/'

/-- The component a piece between slashes stands for, if any. -/
def component? (piece : String) : Option Component :=
  if piece.isEmpty || piece == "." then none
  else if piece == ".." then some .parent
  else some (.name piece)

/-- The components of a path. -/
def components (p : String) : List Component :=
  let pieces := splitOnChar '/' p
  let rest := pieces.filterMap component?
  if isAbsolute p then .root :: rest
  else if pieces.head? == some "." then .current :: rest
  else rest

/-- One path put after another; an absolute second path stands alone. -/
def join (base rest : String) : String :=
  if isAbsolute rest then rest
  else if base.isEmpty || base.toList.getLast? == some '/' then base ++ rest
  else base ++ "/" ++ rest

/-- The text of a list of components. -/
def ofComponents (cs : List Component) : String := cs.foldl (fun p c => join p c.text) ""

/-- The components of the directory that holds a path; the root and the empty path have none. -/
def parentComponents (cs : List Component) : Option (List Component) :=
  match cs.getLast? with
  | none | some .root => none
  | some _ => some cs.dropLast

/-- Drop the pieces at the end that name nothing. -/
def dropIdle (pieces : List String) : List String :=
  (pieces.reverse.dropWhile fun p => p.isEmpty || p == ".").reverse

/-- The pieces between slashes that are left when the last one that names something goes,
with everything after it and the idle pieces before it. -/
def dropLastNamed (pieces : List String) : List String :=
  dropIdle (dropIdle pieces).dropLast

/-- The directory that holds a path, spelled as the path spells it. -/
def parent (p : String) : Option String :=
  (parentComponents (components p)).map fun _ =>
    match splitOnChar '/' p with
    | [] => ""
    | first :: rest =>
        if first.isEmpty then "/" ++ joinWith "/" (dropLastNamed rest)
        else if first == "." then
          if (dropIdle rest).isEmpty then "" else joinWith "/" (first :: dropLastNamed rest)
        else joinWith "/" (dropLastNamed (first :: rest))

/-- The last component of a path, if it is a plain name. -/
def fileName (p : String) : Option String :=
  match (components p).getLast? with
  | some (.name n) => some n
  | _ => none

end Path

/-! ## Paths below a root -/

/-- A path below the root of a project. -/
structure RelativePath where
  /-- The path as written. -/
  text : String
deriving Repr, DecidableEq

namespace RelativePath

/-- Refuses absolute paths. -/
def parse (p : String) : Except RequestError RelativePath :=
  if Path.isAbsolute p then .error (.absolutePath p) else .ok ⟨p⟩

/-- The path through the given segments; empty ones are left out. -/
def ofSegments (segments : List String) : RelativePath :=
  ⟨(segments.filter (!·.isEmpty)).foldl Path.join ""⟩

/-- The place of the path below a root. -/
def under (p : RelativePath) (root : String) : String := Path.join root p.text

/-- The last segment, if it is a plain name. -/
def fileName (p : RelativePath) : Option String := Path.fileName p.text

/-- The path with one slash between its segments. -/
def slashed (p : RelativePath) : String :=
  joinWith "/" ((Path.components p.text).map Component.text)

end RelativePath

example : Path.parent "/work//a/./b/" = some "/work//a" := by decide
example : Path.parent "./b" = some "." := by decide
example : Path.parent "b" = some "" := by decide
example : (RelativePath.ofSegments ["src", "Acme.Api", "", "Program.cs"]).slashed
    = "src/Acme.Api/Program.cs" := by decide

end Scaffold
