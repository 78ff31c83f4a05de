import Scaffold.Plan.Basic

/-!
# Plans for entities

The tasks that generate the canonical use cases of an entity, and those that add one action
to it.  An action is carried through the same layers; the class of the entity and its
mapping are there already.
-/

namespace Scaffold.Site

/-- The repository methods of several use cases, each name once, in order of first use. -/
def distinctMethods (useCases : List UseCase) : List RepositoryMethod :=
  (useCases.flatMap (·.methods)).foldl
    (fun found m => if found.any (·.name == m.name) then found else found ++ [m]) []

/-- The tasks of the canonical use cases of an entity. -/
def crudPlan (s : Site) (f : Feature) (provider : Provider) : List Task :=
  let useCases := UseCase.fullSet f
  s.layerGraph
    ++ [s.entityType f, s.persistenceMapping f]
    ++ s.persistence f provider
    ++ s.repository f (distinctMethods useCases)
    ++ s.applicationLayer
    ++ useCases.flatMap (s.useCase f)
    ++ useCases.flatMap (s.exposure f)
    ++ s.entryPoint f
    ++ s.infrastructureWiring f provider

/-- The tasks of one action on an entity. -/
def actionPlan (s : Site) (f : Feature) (u : UseCase) (provider : Provider) : List Task :=
  s.layerGraph
    ++ s.persistence f provider
    ++ s.repository f u.methods
    ++ s.applicationLayer
    ++ s.useCase f u
    ++ s.exposure f u
    ++ s.entryPoint f
    ++ s.infrastructureWiring f provider

end Scaffold.Site
