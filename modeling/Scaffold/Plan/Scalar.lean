import Scaffold.Plan.Basic

/-!
# Plans for constants and enums

A constant is one line in a class of constants.  An enum is a file of its own and a property
of its type on an entity.
-/

namespace Scaffold.Site

/-- The class that holds the constants of an entity, or the shared ones. -/
def constantsClass : Option Feature → String
  | some f => f.name ++ "Constants"
  | none => "AppConstants"

/-- The task of a constant. -/
def constantPlan (s : Site) (f : Option Feature) (name : String) : List Task :=
  [⟨name, s.locator.constants f,
    .declare ⟨Detection.constant name, [constantLine name], .endOfBlock, false,
      some Template.constants.name⟩ (s.context.set "CLASS_NAME" (constantsClass f))⟩]

/-- The tasks of an enum. -/
def enumPlan (s : Site) (f : Feature) (name : String) : List Task :=
  let entity := s.locator.entityType f
  [⟨"enum type", s.locator.enumType name,
     .declare ⟨Detection.enumDeclaration name, enumBlock name, .endOfFile, true,
       some Template.enumType.name⟩ (s.context.set "ENUM_NAME" name)⟩,
   importLine entity ("using " ++ s.project ++ ".Domain.Enums;"),
   ⟨"enum property", entity,
     .declare ⟨Detection.property name name, [propertyLine name name], .endOfBlock, false, none⟩
       (s.featureContext f)⟩]

end Scaffold.Site
