import Scaffold.Error
import Scaffold.Artifact

/-!
# Reports

A report tells what a request did: one step for every file it looked after, and how the
checkpoints went that ran afterwards.
-/

namespace Scaffold

/-! ## Steps -/

/-- One step of a request. -/
structure Step where
  /-- What was looked after. -/
  what : String
  /-- The file, below the root. -/
  path : String
  /-- What became of it. -/
  outcome : Outcome
deriving Repr, DecidableEq

/-- How many steps wrote something. -/
def changedCount (steps : List Step) : Nat := steps.countP (·.outcome.changed)

/-- How many steps wrote nothing. -/
def unchangedCount (steps : List Step) : Nat := steps.length - changedCount steps

/-! ## Checkpoints -/

/-- An external command that runs after the steps. -/
inductive CheckpointKind where
  | build
  | migration (name : String)
deriving Repr, DecidableEq

/-- How a checkpoint is named. -/
def CheckpointKind.text : CheckpointKind → String
  | .build => "build"
  | .migration name => "migration " ++ name

/-- How a checkpoint went. -/
inductive CheckpointStatus where
  | passed
  | skipped (reason : String)
  | failed (cause : RunError)
deriving Repr, DecidableEq

/-- A checkpoint and how it went. -/
structure Checkpoint where
  /-- What ran. -/
  kind : CheckpointKind
  /-- How it went. -/
  status : CheckpointStatus
deriving Repr, DecidableEq

/-- The cause of a failed checkpoint. -/
def Checkpoint.failure? (c : Checkpoint) : Option RunError :=
  match c.status with
  | .failed cause => some cause
  | .passed | .skipped _ => none

/-! ## Reports -/

/-- The result of one request. -/
structure Report where
  /-- What was asked for. -/
  feature : String
  /-- The entity it was asked for. -/
  entity : Option String
  /-- The heading of the steps. -/
  header : String
  /-- The steps in order. -/
  steps : List Step
  /-- The checkpoints in order. -/
  checkpoints : List Checkpoint
deriving Repr, DecidableEq

namespace Report

/-- The first failure of a checkpoint. -/
def firstFailure? (r : Report) : Option RunError := r.checkpoints.findSome? Checkpoint.failure?

/-- Decide whether no checkpoint failed. -/
def isSuccess (r : Report) : Bool := r.firstFailure?.isNone

/-- The one line that sums a report up. -/
def summary (r : Report) : String :=
  let subject := match r.entity with
    | some entity => r.feature ++ " for " ++ entity
    | none => r.feature
  let counts := s!"{subject}: {changedCount r.steps} artifact(s) changed, {unchangedCount r.steps} already up to date"
  match r.firstFailure? with
  | some cause => counts ++ "; " ++ cause.message
  | none => counts

end Report

end Scaffold
