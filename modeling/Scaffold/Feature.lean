import Scaffold.Text.Words

/-!
# Features

A feature is an entity under its singular and its plural name.  Both are in Pascal case.
-/

namespace Scaffold

open Scaffold.Text

/-- The names one entity is generated under. -/
structure Feature where
  /-- The singular name. -/
  name : String
  /-- The plural name. -/
  plural : String
deriving Repr, DecidableEq

namespace Feature

/-- The feature of a singular and a plural, each put into Pascal case. -/
def ofNames (name plural : String) : Feature := ⟨pascalCase name, pascalCase plural⟩

/-- The repository interface, `IInvoiceRepository`. -/
def repositoryContract (f : Feature) : String := "I" ++ f.name ++ "Repository"

/-- The repository class, `InvoiceRepository`. -/
def repositoryImpl (f : Feature) : String := f.name ++ "Repository"

end Feature

end Scaffold
