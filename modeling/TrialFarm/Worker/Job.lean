import TrialFarm.Span
import TrialFarm.Wire.Record

/-!
# Jobs

A job is one trial to be made. When the engine has made it, the job turns the outcome into what the
server is told.

## Main definitions

* `Outcome`: what an engine finds.
* `Job`: a trial to be made.
* `Completed`: a finished trial, ready to be reported.
* `Job.complete`: the report of a job and an outcome.
-/

namespace TrialFarm

/-- What an engine finds in one trial. -/
structure Outcome where
  solved : Bool
  seed : UInt64
  flips : UInt64
  /-- The time to load the problem and to set up the trial. -/
  init : Span
  solve : Span
  numVars : UInt64
  numClauses : UInt64
  deriving DecidableEq, Repr, Inhabited

/-- A trial to be made. -/
structure Job where
  taskId : TaskId
  /-- The path of the problem. -/
  path : String
  /-- Flips before the trial gives up. -/
  flipBudget : UInt64
  deriving DecidableEq, Repr, Inhabited

/-- A finished trial. -/
structure Completed where
  record : TrialRecord
  /-- What is reported before the record, if the trial found a solution. -/
  solution : Option Solution
  deriving DecidableEq, Repr

namespace Job

/-- The error of a trial that failed. -/
def failure (job : Job) (e : Error) : Error :=
  .internal ("trial of " ++ job.path ++ " failed: " ++ e.message)

/-- Flips per second. No time means no rate. -/
def rate (flips : UInt64) (solve : Span) : Binary64 :=
  let seconds := solve.seconds
  .ofFloat (if seconds > 0.0 then flips.toFloat / seconds else 0.0)

/-- What is reported of an outcome. `overall` is the time of the whole trial. -/
def report (job : Job) (o : Outcome) (overall : Span) : Completed where
  record :=
    { taskId := job.taskId
      instancesProcessed := 1
      flips := o.flips
      flipsPerSecond := rate o.flips o.solve
      initMicros := o.init.micros
      solveMicros := o.solve.micros
      overallMicros := overall.micros
      seed := o.seed
      numVars := o.numVars
      numClauses := o.numClauses
      solved := o.solved }
  solution :=
    if o.solved then some ⟨o.seed, o.flips, o.solve.micros, o.numVars, o.numClauses, job.path⟩
    else none

/-- What becomes of a job when the engine has answered. -/
def complete (job : Job) (overall : Span) : Except Error Outcome → Except Error Completed
  | .error e => .error (job.failure e)
  | .ok o => .ok (job.report o overall)

end Job

end TrialFarm
