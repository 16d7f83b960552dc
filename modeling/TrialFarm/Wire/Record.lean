import TrialFarm.Wire.Codec

/-!
# Records

The records that travel inside messages. The layout of a record is that of its fields in order.

## Main definitions

* `TaskFile`: a file submitted for solving.
* `Statistics`: the merged results of one file.
* `Batch`: a grant of trials of one file.
* `TrialRecord`: the outcome of finished trials.
* `Solution`: a satisfying trial, reproducible from its seed.
-/

namespace TrialFarm

open Wire

/-- The number of a task: its place in the order of submission. -/
abbrev TaskId := UInt32

/-- A file submitted for solving. -/
structure TaskFile where
  /-- Trials to start in all; 0 means without bound. -/
  startConfigs : UInt32
  /-- Flips per trial; 0 leaves the number to the worker. -/
  maxFlips : UInt32
  /-- The path, which means the same file to every worker. -/
  filename : String
  deriving DecidableEq, Repr, Inhabited

namespace TaskFile

instance : Layout TaskFile where
  write f := write (f.startConfigs, f.maxFlips, f.filename)
  read := readAs fun (startConfigs, maxFlips, filename) => ⟨startConfigs, maxFlips, filename⟩

/-- The size of a file with an empty name. -/
def minEncodedLen : Nat := 8 + prefixedLen 0

/-- The size of a file. -/
def encodedLen (f : TaskFile) : Nat :=
  minEncodedLen + f.filename.utf8ByteSize

end TaskFile

/-- The merged results of one file. -/
structure Statistics where
  /-- Trials that ended, solved or not. -/
  instancesStarted : UInt64
  /-- Flips of all trials. -/
  totalFlips : UInt64
  /-- Flips per second, averaged with the numbers of trials as weights. -/
  avgFlipsPerSecond : Binary64
  /-- Microseconds of preparation. -/
  initMicros : UInt64
  /-- Microseconds of search. -/
  solveMicros : UInt64
  /-- Microseconds of whole trials. -/
  overallMicros : UInt64
  /-- Variables, as the first trial with flips reported them. -/
  numVars : UInt64
  /-- Clauses, as the first trial with flips reported them. -/
  numClauses : UInt64
  /-- Trials that found a solution. -/
  timesSolved : UInt64
  /-- Fewest flips of a trial that found a solution; the largest word if there is none. -/
  minFlipsToSolve : UInt64
  deriving DecidableEq, Repr

namespace Statistics

/-- The largest word, which stands for "no solution yet". -/
def unsolved : UInt64 := 0xffffffffffffffff

/-- The statistics of a file without results. -/
def empty : Statistics := ⟨0, 0, ⟨0⟩, 0, 0, 0, 0, 0, 0, unsolved⟩

instance : Inhabited Statistics := ⟨empty⟩

instance : Layout Statistics where
  write s :=
    write (s.instancesStarted, s.totalFlips, s.avgFlipsPerSecond, s.initMicros, s.solveMicros,
      s.overallMicros, s.numVars, s.numClauses, s.timesSolved, s.minFlipsToSolve)
  read := readAs fun (a, b, c, d, e, f, g, h, i, j) => ⟨a, b, c, d, e, f, g, h, i, j⟩

/-- The size of statistics. -/
def encodedLen : Nat := 80

end Statistics

/-- A grant of trials of one file. -/
structure Batch where
  file : TaskFile
  /-- Trials to start. -/
  instances : UInt32
  /-- The task against which results are to be reported. -/
  taskId : TaskId
  deriving DecidableEq, Repr, Inhabited

namespace Batch

instance : Layout Batch where
  write b := write (b.file, b.instances, b.taskId)
  read := readAs fun (file, instances, taskId) => ⟨file, instances, taskId⟩

/-- The size of a batch. -/
def encodedLen (b : Batch) : Nat :=
  b.file.encodedLen + 8

end Batch

/-- The outcome of finished trials of one task. -/
structure TrialRecord where
  taskId : TaskId
  instancesProcessed : UInt32
  flips : UInt64
  flipsPerSecond : Binary64
  initMicros : UInt64
  solveMicros : UInt64
  overallMicros : UInt64
  seed : UInt64
  numVars : UInt64
  numClauses : UInt64
  solved : Bool
  deriving DecidableEq, Repr, Inhabited

namespace TrialRecord

instance : Layout TrialRecord where
  write r :=
    write (r.taskId, r.instancesProcessed, r.flips, r.flipsPerSecond, r.initMicros, r.solveMicros,
      r.overallMicros, r.seed, r.numVars, r.numClauses, r.solved)
  read := readAs fun (a, b, c, d, e, f, g, h, i, j, k) => ⟨a, b, c, d, e, f, g, h, i, j, k⟩

/-- The size of a record. -/
def encodedLen : Nat := 73

end TrialRecord

/-- A satisfying trial, reproducible from its seed. -/
structure Solution where
  seed : UInt64
  flips : UInt64
  solveMicros : UInt64
  numVars : UInt64
  numClauses : UInt64
  filename : String
  deriving DecidableEq, Repr, Inhabited

namespace Solution

instance : Layout Solution where
  write s := write (s.seed, s.flips, s.solveMicros, s.numVars, s.numClauses, s.filename)
  read := readAs fun (a, b, c, d, e, f) => ⟨a, b, c, d, e, f⟩

/-- The size of a solution with an empty filename. -/
def minEncodedLen : Nat := 40 + prefixedLen 0

/-- The size of a solution. -/
def encodedLen (s : Solution) : Nat :=
  minEncodedLen + s.filename.utf8ByteSize

end Solution

end TrialFarm
