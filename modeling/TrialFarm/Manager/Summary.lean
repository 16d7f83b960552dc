import TrialFarm.Number.Shortest
import TrialFarm.Span
import TrialFarm.Wire.Record

/-!
# Summaries

What the manager reports of a run: the statistics of each file, each solution, and the summary of
the whole run, which merges the statistics of all files.

## Main definitions

* `RunSummary`: the merged statistics of a run.
* `RunSummary.addStatistics`, `RunSummary.addSolution`: what enters it.
* `RunSummary.lines`, `fileLines`, `solutionLines`, `durationLine`: the lines of the report.
-/

namespace TrialFarm

/-- The merged statistics of a run. -/
structure RunSummary where
  instancesStarted : UInt64
  totalFlips : UInt64
  avgFlipsPerSecond : Binary64
  avgFlipsPerVar : Binary64
  avgFlipsPerClause : Binary64
  /-- Milliseconds of preparation. -/
  initMillis : Binary64
  /-- Milliseconds of search. -/
  solveMillis : Binary64
  /-- Milliseconds of whole trials. -/
  overallMillis : Binary64
  instancesSolved : UInt64
  /-- Fewest flips to a solution; the largest word if there is none. -/
  minFlipsToSolve : UInt64
  deriving DecidableEq, Repr

/-- Flips per variable or clause. Nothing has no flips. -/
def ratio (flips per : UInt64) : Float :=
  if per = 0 then 0.0 else flips.toFloat / per.toFloat

/-- Microseconds as milliseconds. -/
def millis (micros : UInt64) : Float :=
  micros.toFloat / 1000.0

namespace RunSummary

/-- The summary of a run that has not reported anything. -/
def empty : RunSummary :=
  ⟨0, 0, ⟨0⟩, ⟨0⟩, ⟨0⟩, ⟨0⟩, ⟨0⟩, ⟨0⟩, 0, Statistics.unsolved⟩

/-- The mean of two values with the numbers of trials as weights. -/
def weigh (before added total : UInt64) (old : Binary64) (new : Float) : Binary64 :=
  .ofFloat ((old.toFloat * before.toFloat + new * added.toFloat) / total.toFloat)

/-- A number increased by another. -/
def increased (old : Binary64) (amount : Float) : Binary64 :=
  .ofFloat (old.toFloat + amount)

/-- Averages after the statistics of a file, weighted with the numbers of trials. Without trials
there is nothing to average. -/
def addAverages (r : RunSummary) (s : Statistics) : RunSummary :=
  let before := r.instancesStarted
  let total := before + s.instancesStarted
  if total = 0 then r
  else
    let mean := weigh before s.instancesStarted total
    { r with
      avgFlipsPerSecond := mean r.avgFlipsPerSecond s.avgFlipsPerSecond.toFloat
      avgFlipsPerVar := mean r.avgFlipsPerVar (ratio s.totalFlips s.numVars)
      avgFlipsPerClause := mean r.avgFlipsPerClause (ratio s.totalFlips s.numClauses) }

/-- Merges the statistics of a file. -/
def addStatistics (r : RunSummary) (s : Statistics) : RunSummary :=
  { r.addAverages s with
    instancesStarted := r.instancesStarted + s.instancesStarted
    totalFlips := r.totalFlips + s.totalFlips
    initMillis := increased r.initMillis (millis s.initMicros)
    solveMillis := increased r.solveMillis (millis s.solveMicros)
    overallMillis := increased r.overallMillis (millis s.overallMicros)
    instancesSolved := r.instancesSolved + s.timesSolved
    minFlipsToSolve :=
      if s.timesSolved = 0 then r.minFlipsToSolve else min r.minFlipsToSolve s.minFlipsToSolve }

/-- Takes note of a solution. -/
def addSolution (r : RunSummary) (s : Solution) : RunSummary :=
  { r with minFlipsToSolve := min r.minFlipsToSolve s.flips }

/-- The line on the fewest flips to a solution. -/
def minFlipsLine (flips : UInt64) : String :=
  toString flips ++ " flips until solved (min)"

/-- The lines on a run with a name. -/
def lines (r : RunSummary) (name : String) : List String :=
  [name ++ " overall statistic:",
    toString r.instancesStarted ++ " instances started",
    toString r.totalFlips ++ " flips executed",
    r.avgFlipsPerSecond.shown ++ " flips per second (avg)",
    r.avgFlipsPerVar.shown ++ " flips per var (avg)",
    r.avgFlipsPerClause.shown ++ " flips per clause (avg)",
    r.initMillis.shown ++ " total init duration (ms)",
    r.solveMillis.shown ++ " total solve duration (ms)",
    r.overallMillis.shown ++ " total overall duration (ms)",
    toString r.instancesSolved ++ " instances solved"]
  ++ if r.minFlipsToSolve = Statistics.unsolved then [] else [minFlipsLine r.minFlipsToSolve]

end RunSummary

/-- The lines on the final statistics of a file. -/
def fileLines (f : TaskFile) (s : Statistics) : List String :=
  let budget := f.maxFlips.toUInt64 * f.startConfigs.toUInt64
  ["filename: " ++ f.filename,
    toString s.numVars ++ " num variables",
    toString s.numClauses ++ " num clauses",
    toString s.instancesStarted ++ " / " ++ toString f.startConfigs ++ " start configurations",
    toString s.totalFlips ++ " / (" ++ toString f.maxFlips ++ " * " ++ toString f.startConfigs
      ++ " = " ++ toString budget ++ ") flips",
    s.avgFlipsPerSecond.shown ++ " flips per second (avg)",
    shownFloat (ratio s.totalFlips s.numVars) ++ " flips per var (avg)",
    shownFloat (ratio s.totalFlips s.numClauses) ++ " flips per clause (avg)",
    toString s.initMicros ++ " total init duration (us)",
    toString s.solveMicros ++ " total solve duration (us)",
    toString s.overallMicros ++ " total overall duration (us)",
    toString s.timesSolved ++ " times solved"]
  ++ if s.timesSolved = 0 then [] else [RunSummary.minFlipsLine s.minFlipsToSolve]

/-- Whole flips per second of a solution. No time means no rate. -/
def Solution.rate (s : Solution) : Float :=
  if s.solveMicros = 0 then 0.0
  else (s.flips.toFloat / s.solveMicros.toFloat * 1000000.0).round

/-- The lines on a solution. -/
def solutionLines (s : Solution) : List String :=
  ["SATISFIABLE",
    "filename: " ++ s.filename,
    "seed: " ++ toString s.seed,
    "num_flips_done: " ++ toString s.flips,
    "solve_duration: " ++ shownFloat (millis s.solveMicros) ++ " ms",
    "num_vars: " ++ toString s.numVars,
    "num_clauses: " ++ toString s.numClauses,
    "flips per second: " ++ shownFloat s.rate,
    "flips per var: " ++ shownFloat (ratio s.flips s.numVars),
    "flips per clause: " ++ shownFloat (ratio s.flips s.numClauses)]

/-- The line on a length of time. -/
def durationLine (label : String) (d : Span) : String :=
  label ++ ": " ++ shownFloat (d.seconds * 1000.0) ++ " ms"

end TrialFarm
