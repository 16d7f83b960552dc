import TrialFarm.Server.Count

/-!
# The roster

The workers that are connected, and for each the trials it was granted and did not report yet.

## Main definitions

* `Holdings`: trials by task, in the order of the tasks.
* `Worker`: one connected worker.
* `Roster`: all of them, in the order in which they joined.
-/

namespace TrialFarm

/-- The number of a worker. Numbers are given in the order of joining and never used again. -/
abbrev WorkerId := UInt64

/-- Trials that a worker holds, by task and in the order of the tasks. -/
abbrev Holdings := List (TaskId × UInt32)

namespace Holdings

/-- The trials of one task. -/
def count (h : Holdings) (task : TaskId) : UInt32 :=
  (h.lookup task).getD 0

/-- All trials. -/
def total (h : Holdings) : UInt64 :=
  h.foldl (fun sum entry => sum + entry.2.toUInt64) 0

/-- Enters the trials of one task, in place of those that were entered before. -/
def enter (task : TaskId) (n : UInt32) : Holdings → Holdings
  | [] => [(task, n)]
  | (other, held) :: rest =>
    if task < other then (task, n) :: (other, held) :: rest
    else if task = other then (other, n) :: rest
    else (other, held) :: enter task n rest

/-- Adds trials of a task. A task without trials is entered too. -/
def add (task : TaskId) (n : UInt32) (h : Holdings) : Except Overflow Holdings :=
  (addTrials task (h.count task) n).map fun sum => h.enter task sum

/-- Sets the trials of a task that is entered. A task that is left without trials is dropped. -/
def set (task : TaskId) (left : UInt32) : Holdings → Holdings
  | [] => []
  | (other, held) :: rest =>
    if task = other then if left = 0 then rest else (other, left) :: rest
    else (other, held) :: set task left rest

end Holdings

/-- Why trials cannot be settled. -/
inductive SettleFault where
  | neverGranted (task : TaskId)
  | tooMany (count : UInt32) (task : TaskId) (held : UInt32)
  deriving DecidableEq, Repr

/-- The fault as an error of the library. -/
def SettleFault.toError : SettleFault → Error
  | neverGranted task =>
    .inconsistent ("result for task " ++ toString task ++ " that was never granted")
  | tooMany count task held =>
    .inconsistent (toString count ++ " results for task " ++ toString task ++ " with only "
      ++ toString held ++ " granted")

/-- One connected worker. -/
structure Worker where
  /-- Whether it was told that there is work. -/
  activated : Bool
  /-- Trials granted and not yet reported. -/
  outstanding : Holdings
  deriving DecidableEq, Repr, Inhabited

namespace Worker

/-- A worker that has just joined. -/
def fresh : Worker := ⟨false, []⟩

/-- Enters granted trials. -/
def grant (w : Worker) (task : TaskId) (count : UInt32) : Except Overflow Worker :=
  (Holdings.add task count w.outstanding).map fun h => { w with outstanding := h }

/-- Enters all batches of a grant. -/
def grantAll (w : Worker) : List Batch → Except Overflow Worker
  | [] => .ok w
  | b :: batches =>
    match w.grant b.taskId b.instances with
    | .error overflow => .error overflow
    | .ok w => w.grantAll batches

/-- Strikes out reported trials. -/
def settle (w : Worker) (task : TaskId) (count : UInt32) : Except SettleFault Worker :=
  match w.outstanding.lookup task with
  | none => .error (.neverGranted task)
  | some held =>
    if held < count then .error (.tooMany count task held)
    else .ok { w with outstanding := Holdings.set task (held - count) w.outstanding }

end Worker

/-- The connected workers, in the order in which they joined. -/
structure Roster where
  /-- The number of the next worker to join. -/
  nextId : WorkerId
  workers : List (WorkerId × Worker)
  deriving DecidableEq, Repr

namespace Roster

/-- A roster without workers. -/
def empty : Roster := ⟨0, []⟩

/-- Registers a worker under the next number. -/
def join (r : Roster) : WorkerId × Roster :=
  (r.nextId, ⟨r.nextId + 1, r.workers ++ [(r.nextId, Worker.fresh)]⟩)

/-- The worker with a number. -/
def find? (r : Roster) (id : WorkerId) : Option Worker :=
  r.workers.lookup id

/-- Whether a number is on the roster. -/
def contains (r : Roster) (id : WorkerId) : Bool :=
  (r.find? id).isSome

/-- Changes the worker with a number. -/
def modify (r : Roster) (id : WorkerId) (f : Worker → Worker) : Roster :=
  { r with workers := r.workers.map fun entry => if entry.1 = id then (id, f entry.2) else entry }

/-- Strikes a worker off. -/
def remove (r : Roster) (id : WorkerId) : Roster :=
  { r with workers := r.workers.filter fun entry => entry.1 != id }

/-- The numbers of the workers that were not told that there is work. -/
def inactive (r : Roster) : List WorkerId :=
  (r.workers.filter fun entry => !entry.2.activated).map Prod.fst

/-- All numbers, in the order of joining. -/
def ids (r : Roster) : List WorkerId :=
  r.workers.map Prod.fst

end Roster

end TrialFarm
