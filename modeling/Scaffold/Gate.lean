import Scaffold.Locator
import Scaffold.Task

/-!
# Gates

Questions asked before the first task of a request.  They read files and never write, so a
request that a gate refuses leaves everything as it was.
-/

namespace Scaffold

variable {m : Type → Type} [Monad m]

/-- Refuse an entrypoint that is exposed already. -/
def requireUnexposed (files : FilePort m) (root : String) (l : Locator) (f : Feature)
    (entry : Entrypoint) : Fallible m Unit := do
  let path := l.exposure f
  let file ← loadArtifact files (path.under root)
  let detection := entry.detection l.style
  if lineContains file.render detection then
    throw (.request (.alreadyPresent (entry.verb.spelling ++ " " ++ detection) path.slashed
      (entry.key l.style)))

/-- Refuse a service that is registered already, under whatever lifetime. -/
def requireUnregistered (files : FilePort m) (root : String) (l : Locator) (p : Placement)
    (name : String) : Fallible m Unit := do
  let path := l.wiring p.wiringLayer
  let file ← loadArtifact files (path.under root)
  let detection := Detection.serviceRegistration name
  if file.containsText detection then
    throw (.request (.alreadyPresent ("I" ++ name ++ "Service registration") path.slashed detection))

/-- Refuse to go on without the entity's class. -/
def requireEntity (files : FilePort m) (root : String) (l : Locator) (f : Feature) :
    Fallible m Unit := do
  let path := l.entityType f
  if !(← files.pathExists (path.under root)) then
    throw (.run (.prerequisiteMissing ("entity '" ++ f.name ++ "'") path.slashed))

end Scaffold
