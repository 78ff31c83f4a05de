import Scaffold.Feature
import Scaffold.Text.Search

/-!
# Template variables

A template is a text with slots, names between double braces.  A context gives some names a
value; rendering puts the values into the slots and leaves the other slots as they are.
-/

namespace Scaffold

open Scaffold.Text

/-- The slot of a variable in a template. -/
def slot (name : String) : String := "\x7b\x7b" ++ name ++ "\x7d\x7d"

/-- The values of the variables of one rendering. -/
structure Context where
  /-- The project the rendering is for. -/
  project : String
  /-- Names and values, each name once. -/
  environment : List (String × String)
deriving Repr, DecidableEq

namespace Context

/-- The list with the value of `name` set, in its place or at the end. -/
def assign (name value : String) : List (String × String) → List (String × String)
  | [] => [(name, value)]
  | (n, v) :: rest =>
      if n = name then (name, value) :: rest else (n, v) :: assign name value rest

/-- The context with the value of `name` set. -/
def set (ctx : Context) (name value : String) : Context :=
  { ctx with environment := assign name value ctx.environment }

/-- The value of a variable. -/
def get? (ctx : Context) (name : String) : Option String := ctx.environment.lookup name

/-- The variables every rendering for a project has. -/
def ofProject (year : Nat) (project : String) : Context :=
  ⟨project, [("PROJECT_NAME", project), ("PROJECT_NAME_KEBAB", kebabCase project),
    ("YEAR", toString year)]⟩

/-- The context with the variables of an entity. -/
def withFeature (ctx : Context) (f : Feature) : Context :=
  (((ctx.set "ENTITY" f.name).set "ENTITY_CAMEL" (camelCase f.name)).set "ENTITY_PLURAL" f.plural).set
    "ENTITY_PLURAL_KEBAB" (kebabCase f.plural)

/-- Fill the slots of the variables that have a value. -/
def render (ctx : Context) (source : String) : String :=
  ctx.environment.foldl (fun text (name, value) => replaceAll text (slot name) value) source

end Context

end Scaffold
