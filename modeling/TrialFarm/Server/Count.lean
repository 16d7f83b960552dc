import TrialFarm.Error
import TrialFarm.Wire.Record

/-!
# Counts of trials

Trials that are out are counted in words, of each task and at each worker. An addition that would
leave the word is not carried out: it is a crash.

## Main definitions

* `Overflow`: an addition that would leave the word.
* `addTrials`: adds trials to a count.
-/

namespace TrialFarm

/-- An addition to a count of trials that would leave the word. -/
structure Overflow where
  task : TaskId
  /-- The count before. -/
  count : UInt32
  /-- The trials to be added. -/
  more : UInt32
  deriving DecidableEq, Repr

/-- The overflow as an error of the library. -/
def Overflow.toError (_ : Overflow) : Error := .crash "attempt to add with overflow"

/-- Adds trials of a task to a count. -/
def addTrials (task : TaskId) (count more : UInt32) : Except Overflow UInt32 :=
  if count.toNat + more.toNat < UInt32.size then .ok (count + more)
  else .error ⟨task, count, more⟩

end TrialFarm
