import TrialFarm.Config
import TrialFarm.Server.Count
import TrialFarm.Wire.Message

/-!
# The scheduler

The scheduler keeps the submitted files, the queue of those that still need trials, and the counts
of trials that are out at workers.

## Main definitions

* `Task`: a submitted file with its results and counts.
* `Scheduler`: all tasks, the queue and the count over all tasks.
* `Scheduler.addFile`: enters a file at the front of the queue.
* `Scheduler.grant`: hands out trials.
* `Scheduler.complete`, `Scheduler.release`: take trials back, with results and without.
-/

namespace TrialFarm

/-- A submitted file with what is known of it. -/
structure Task where
  file : TaskFile
  /-- The results merged so far. -/
  statistics : Statistics
  /-- Trials granted and not yet reported. -/
  inFlight : UInt32
  /-- Whether the task is in the queue. -/
  scheduled : Bool
  /-- Whether a result with flips has fixed the numbers of variables and clauses. -/
  shapeKnown : Bool
  deriving DecidableEq, Repr, Inhabited

namespace Task

/-- The task of a file that was just submitted. -/
def ofFile (file : TaskFile) : Task := ⟨file, Statistics.empty, 0, true, false⟩

/-- Subtraction that stops at zero. -/
def minus (a b : UInt64) : UInt64 := if a < b then 0 else a - b

/-- Trials still to be handed out; nothing for a file without a bound. -/
def quotaLeft (t : Task) : Option UInt64 :=
  if t.file.startConfigs = 0 then none
  else
    some (minus (minus t.file.startConfigs.toUInt64 t.inFlight.toUInt64)
      t.statistics.instancesStarted)

/-- Trials that can be handed out to someone who asks for `remaining`. -/
def available (t : Task) (remaining : UInt32) : UInt32 :=
  match t.quotaLeft with
  | none => remaining
  | some left => (min left 0xffffffff).toUInt32

/-- Whether a task that is not in the queue belongs there. -/
def wantsRequeue (policy : ZeroQuotaPolicy) (t : Task) : Bool :=
  !t.scheduled &&
    match t.quotaLeft with
    | none => policy = .retryForever
    | some left => 0 < left

end Task

/-- Why the scheduler refuses a report. -/
inductive SchedulerFault where
  | unknownResult (task : TaskId)
  | tooManyResults (task : TaskId) (count inFlight : UInt32)
  | globalUnderflow
  | shape (task : TaskId) (vars clauses earlierVars earlierClauses : UInt64)
  | unknownRelease (task : TaskId)
  | tooManyReleased (count : UInt32) (task : TaskId) (inFlight : UInt32)
  deriving DecidableEq, Repr

/-- The fault as an error of the library. -/
def SchedulerFault.toError : SchedulerFault → Error
  | unknownResult task => .inconsistent ("result for unknown task " ++ toString task)
  | tooManyResults task count inFlight =>
    .inconsistent ("task " ++ toString task ++ " reports " ++ toString count
      ++ " instances but only " ++ toString inFlight ++ " are in flight")
  | globalUnderflow => .inconsistent "global in-flight count would underflow"
  | shape task vars clauses earlierVars earlierClauses =>
    .inconsistent ("task " ++ toString task ++ " reported " ++ toString vars ++ " vars / "
      ++ toString clauses ++ " clauses, earlier " ++ toString earlierVars ++ " / "
      ++ toString earlierClauses)
  | unknownRelease task => .inconsistent ("release for unknown task " ++ toString task)
  | tooManyReleased count task inFlight =>
    .inconsistent ("releasing " ++ toString count ++ " instances of task " ++ toString task
      ++ " with " ++ toString inFlight ++ " in flight")

/-- All tasks, the queue and the count of trials that are out. -/
structure Scheduler where
  tasks : Array Task
  /-- The tasks that need trials, the next one first. -/
  queue : List TaskId
  /-- Trials of all tasks that are out at workers. -/
  inFlight : UInt64
  policy : ZeroQuotaPolicy
  deriving DecidableEq, Repr

namespace Scheduler

/-- A scheduler without files. -/
def empty (policy : ZeroQuotaPolicy) : Scheduler := ⟨#[], [], 0, policy⟩

/-- A task by its number. -/
def task? (s : Scheduler) (id : TaskId) : Option Task := s.tasks[id.toNat]?

/-- Replaces a task. -/
def setTask (s : Scheduler) (id : TaskId) (t : Task) : Scheduler :=
  { s with tasks := s.tasks.setIfInBounds id.toNat t }

/-- A file whose name is so long that no grant of it could be sent. -/
def tooLong (file : TaskFile) : Error :=
  .rejected ("filename of " ++ toString file.filename.utf8ByteSize
    ++ " bytes is too long to dispatch")

/-- A file for which there is no number left. -/
def tableFull : Error := .rejected "task table is full"

/-- Enters a file and puts it at the front of the queue. -/
def addFile (s : Scheduler) (file : TaskFile) : Except Error (TaskId × Scheduler) :=
  if Wire.emptyGrantLen + file.encodedLen + 8 > Wire.maxPayload then .error (tooLong file)
  else if s.tasks.size ≥ UInt32.size then .error tableFull
  else
    let id := UInt32.ofNat s.tasks.size
    .ok (id, { s with tasks := s.tasks.push (Task.ofFile file), queue := id :: s.queue })

/-- How far the hand-out of trials has come. -/
structure Dispatch where
  tasks : Array Task
  inFlight : UInt64
  /-- The batches so far, the last one first. -/
  batches : List Batch
  /-- The size of the reply with these batches. -/
  replyLen : Nat
  /-- Trials still asked for. -/
  remaining : UInt32

/-- The dispatch after handing out `take` trials of a task, which leaves the queue if it is
`covered`. -/
def Dispatch.handOut (d : Dispatch) (id : TaskId) (t : Task) (take : UInt32) (covered : Bool) :
    Except Overflow Dispatch :=
  (addTrials id t.inFlight take).map fun inFlight =>
    let batch : Batch := ⟨t.file, take, id⟩
    { tasks := d.tasks.setIfInBounds id.toNat
        { t with inFlight := inFlight, scheduled := t.scheduled && !covered }
      inFlight := d.inFlight + take.toUInt64
      batches := batch :: d.batches
      replyLen := d.replyLen + batch.encodedLen
      remaining := d.remaining - take }

/-- Hands out trials along the queue. The answer includes what is left of the queue. A task whose
quota is covered leaves the queue, and the hand-out ends before the reply would be too large. -/
def dispatch : List TaskId → Dispatch → Except Overflow (Dispatch × List TaskId)
  | [], d => .ok (d, [])
  | id :: queue, d =>
    if d.remaining = 0 then .ok (d, id :: queue)
    else
      match d.tasks[id.toNat]? with
      | none => .ok (d, id :: queue)
      | some t =>
        let available := t.available d.remaining
        let take := min d.remaining available
        if take = 0 then
          dispatch queue
            { d with tasks := d.tasks.setIfInBounds id.toNat { t with scheduled := false } }
        else if d.replyLen + (Batch.mk t.file take id).encodedLen > Wire.maxPayload then
          .ok (d, id :: queue)
        else
          match d.handOut id t take (available ≤ take) with
          | .error overflow => .error overflow
          | .ok d => if available ≤ take then dispatch queue d else .ok (d, id :: queue)

/-- Hands out up to `requested` trials, those of the files at the front of the queue first. -/
def grant (s : Scheduler) (requested : UInt32) : Except Overflow (List Batch × Scheduler) :=
  (dispatch s.queue ⟨s.tasks, s.inFlight, [], Wire.emptyGrantLen, requested⟩).map
    fun (d, queue) =>
      (d.batches.reverse, { s with tasks := d.tasks, inFlight := d.inFlight, queue := queue })

/-- Puts a task at the back of the queue if it belongs there. -/
def requeueIfNeeded (s : Scheduler) (id : TaskId) : Scheduler :=
  match s.task? id with
  | none => s
  | some t =>
    if t.wantsRequeue s.policy then
      { s.setTask id { t with scheduled := true } with queue := s.queue ++ [id] }
    else s

/-- The average of two rates, weighted by numbers of trials. -/
def mergeRate (old : Binary64) (started : UInt64) (new : Binary64) (added : UInt64) : Binary64 :=
  if 0 < started + added then
    .ofFloat ((old.toFloat * started.toFloat + new.toFloat * added.toFloat)
      / (started + added).toFloat)
  else old

/-- Merges a record into the statistics of its task. The sums are taken modulo 2^64. `shapeKnown`
tells whether the numbers of variables and clauses are fixed already. -/
def mergeRecord (s : Statistics) (shapeKnown : Bool) (r : TrialRecord) : Statistics :=
  let added := r.instancesProcessed.toUInt64
  let fixes := 0 < r.flips && !shapeKnown
  { avgFlipsPerSecond := mergeRate s.avgFlipsPerSecond s.instancesStarted r.flipsPerSecond added
    instancesStarted := s.instancesStarted + added
    totalFlips := s.totalFlips + r.flips
    initMicros := s.initMicros + r.initMicros
    solveMicros := s.solveMicros + r.solveMicros
    overallMicros := s.overallMicros + r.overallMicros
    numVars := if fixes then r.numVars else s.numVars
    numClauses := if fixes then r.numClauses else s.numClauses
    timesSolved := if r.solved then s.timesSolved + 1 else s.timesSolved
    minFlipsToSolve := if r.solved then min s.minFlipsToSolve r.flips else s.minFlipsToSolve }

/-- Merges a record of ended trials. A record that is refused changes nothing. -/
def complete (s : Scheduler) (r : TrialRecord) : Except SchedulerFault Scheduler :=
  match s.task? r.taskId with
  | none => .error (.unknownResult r.taskId)
  | some t =>
    let n := r.instancesProcessed
    if t.inFlight < n then .error (.tooManyResults r.taskId n t.inFlight)
    else if s.inFlight < n.toUInt64 then .error .globalUnderflow
    else if 0 < r.flips && t.shapeKnown &&
        (t.statistics.numVars != r.numVars || t.statistics.numClauses != r.numClauses) then
      .error (.shape r.taskId r.numVars r.numClauses t.statistics.numVars t.statistics.numClauses)
    else
      let t :=
        { t with
          statistics := mergeRecord t.statistics t.shapeKnown r
          shapeKnown := t.shapeKnown || 0 < r.flips
          inFlight := t.inFlight - n }
      .ok (({ s with inFlight := s.inFlight - n.toUInt64 }.setTask r.taskId t).requeueIfNeeded
        r.taskId)

/-- Takes back trials that will never be reported. A release that is refused changes nothing. -/
def release (s : Scheduler) (id : TaskId) (count : UInt32) : Except SchedulerFault Scheduler :=
  match s.task? id with
  | none => .error (.unknownRelease id)
  | some t =>
    if t.inFlight < count then .error (.tooManyReleased count id t.inFlight)
    else if s.inFlight < count.toUInt64 then .error .globalUnderflow
    else
      .ok (({ s with inFlight := s.inFlight - count.toUInt64 }.setTask id
        { t with inFlight := t.inFlight - count }).requeueIfNeeded id)

/-- Whether any file was submitted. -/
def hasTasks (s : Scheduler) : Bool := !s.tasks.isEmpty

/-- Whether a file waits for trials. -/
def hasQueued (s : Scheduler) : Bool := !s.queue.isEmpty

/-- The statistics of all files, or of those that ran at all. -/
def report (s : Scheduler) (short : Bool) : List (TaskFile × Statistics) :=
  (s.tasks.toList.filter fun t => !short || 0 < t.statistics.instancesStarted).map
    fun t => (t.file, t.statistics)

end Scheduler

end TrialFarm
