import Scaffold.Error
import Scaffold.Text.Words

/-!
# Identifiers

A name a user gives is trimmed, checked and put into Pascal case.  Accepted are texts of
ASCII letters, digits, underscores, hyphens and spaces whose Pascal form starts with a
letter.
-/

namespace Scaffold

open Scaffold.Text

/-- The characters a name may be typed with. -/
def isNameChar (c : Char) : Bool :=
  c.isAlphanum || c == '_' || c == '-' || c == ' '

/-- The Pascal form of a name, or why it cannot be one. -/
def normalizeIdentifier (field raw : String) : Except RequestError String :=
  let trimmed := trim raw
  if trimmed.isEmpty then .error (.missingField field)
  else match trimmed.toList.find? (fun c => !isNameChar c) with
    | some bad => .error (.invalidIdentifier field trimmed s!"character '{bad}' is not allowed")
    | none =>
        let pascal := pascalCase trimmed
        if pascal.toList.head?.any Char.isAlpha then .ok pascal
        else .error (.invalidIdentifier field trimmed "must start with a letter")

example : normalizeIdentifier "entity" " order line " = .ok "OrderLine" := rfl
example : normalizeIdentifier "entity" "--" =
    .error (.invalidIdentifier "entity" "--" "must start with a letter") := rfl

end Scaffold
