import Scaffold.Error
import Scaffold.Template.Builtin

/-!
# The template catalogue

Templates a user provides come before the built-in ones of the same name.
-/

namespace Scaffold

/-- Templates provided by the user, by name. -/
structure Catalog where
  /-- Names and sources, each name once. -/
  overrides : List (String × String) := []
deriving Repr, DecidableEq

namespace Catalog

/-- The catalogue with one more override; it replaces one of the same name. -/
def insert (c : Catalog) (name source : String) : Catalog :=
  ⟨Context.assign name source c.overrides⟩

/-- The source of a template. -/
def source? (c : Catalog) (name : String) : Option String :=
  (c.overrides.lookup name).or ((Template.ofName? name).map Template.source)

/-- The text of a template with its slots filled. -/
def resolve (c : Catalog) (name : String) (ctx : Context) : Except Error String :=
  match c.source? name with
  | some source => .ok (ctx.render source)
  | none => .error (.run (.templateNotFound name))

end Catalog

end Scaffold
