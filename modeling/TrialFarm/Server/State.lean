import TrialFarm.Server.Roster
import TrialFarm.Server.Scheduler

/-!
# The state of a server

Every event from the manager or a worker is applied to the state here. What has to be delivered as
a consequence is put on a list of actions, which others carry out.

A server first runs. Once no trial is out and the run is over (nothing is left to do, a solution
was found, or the manager asked for it) it sends the statistics, tells all workers to stop and
drains; when the last worker has left, it stops.

## Main definitions

* `Action`: something to deliver or to do.
* `Phase`: how far the run is.
* `ServerState`: scheduler, roster and flags.
* `ServerState.workerJoined`, `addFile`, `terminate`, `handleWorker`, `workerLost`: the events.
-/

namespace TrialFarm

/-- Something that a server has to deliver or to do. -/
inductive Action where
  | toWorker (id : WorkerId) (m : ServerMessage)
  | toManager (m : ReportMessage)
  /-- Close the connection of a worker that is off the roster. -/
  | closeWorker (id : WorkerId)
  deriving DecidableEq, Repr

/-- How far the run of a server is. -/
inductive Phase where
  /-- Files are accepted and trials handed out. -/
  | running
  /-- The statistics are sent; workers have yet to leave. -/
  | draining
  /-- Nothing is left to do. -/
  | stopped
  deriving DecidableEq, Repr, Inhabited

/-- The name of a phase. -/
def Phase.name : Phase → String
  | running => "Running"
  | draining => "Draining"
  | stopped => "Stopped"

/-- The state of a server. -/
structure ServerState where
  scheduler : Scheduler
  roster : Roster
  terminateOnSolution : Bool
  waitForMoreFiles : Bool
  shortStatistics : Bool
  phase : Phase
  solutionFound : Bool
  terminateRequested : Bool
  /-- Whether the workers were told to stop. -/
  workersTerminated : Bool
  statisticsSent : Bool
  /-- The actions that nobody carried out yet, in order. -/
  outbound : List Action
  deriving DecidableEq, Repr

namespace ServerState

/-- The state of a server that has just started. -/
def start (c : ServerConfig) : ServerState where
  scheduler := Scheduler.empty c.zeroQuotaPolicy
  roster := Roster.empty
  terminateOnSolution := c.terminateOnSolution
  waitForMoreFiles := c.waitForMoreFiles
  shortStatistics := c.shortStatistics
  phase := .running
  solutionFound := false
  terminateRequested := false
  workersTerminated := false
  statisticsSent := false
  outbound := []

/-- Adds actions behind those that wait. -/
def push (s : ServerState) (actions : List Action) : ServerState :=
  { s with outbound := s.outbound ++ actions }

/-- Takes the actions that wait. -/
def takeOutbound (s : ServerState) : List Action × ServerState :=
  (s.outbound, { s with outbound := [] })

/-- The number of workers that a request announces, which must be positive. -/
def workersToAccept (count : Int32) : Except Error Nat :=
  if 0 < count.toInt then .ok count.toInt.toNat
  else .error (.rejected ("ADD_WORKERS needs a positive count, got " ++ toString count.toInt))

/-- Whether trials are no longer handed out. -/
def dispatchSuspended (s : ServerState) : Bool :=
  s.solutionFound || s.workersTerminated

/-- Tells a worker that there is work. -/
def activate (s : ServerState) (id : WorkerId) : ServerState :=
  if s.roster.contains id then
    { s with
      roster := s.roster.modify id fun w => { w with activated := true } }.push
        [.toWorker id .activate]
  else s

/-- Tells every worker that there is work, if there is and it was not told before. -/
def wakeIdle (s : ServerState) : ServerState :=
  if s.phase ≠ .running || s.dispatchSuspended || !s.scheduler.hasQueued then s
  else s.roster.inactive.foldl activate s

/-- Tells all workers to stop, once. -/
def terminateWorkers (s : ServerState) : ServerState :=
  if s.workersTerminated then s
  else
    { s with workersTerminated := true }.push
      (s.roster.ids.map fun id => .toWorker id .terminate)

/-- Whether the run is over although the server still runs. -/
def drainDue (s : ServerState) : Bool :=
  if 0 < s.scheduler.inFlight then false
  else
    let exhausted := !s.waitForMoreFiles && s.scheduler.hasTasks && !s.scheduler.hasQueued
    s.terminateRequested || s.solutionFound || exhausted

/-- Sends the statistics to the manager, once. -/
def sendStatistics (s : ServerState) : ServerState :=
  if s.statisticsSent then s
  else
    { s with statisticsSent := true }.push
      ((s.scheduler.report s.shortStatistics).map fun (file, statistics) =>
        .toManager (.sendStatistics file statistics))

/-- Goes on to draining if the run is over. -/
def drainIfDue (s : ServerState) : ServerState :=
  if s.phase = .running && s.drainDue then
    { s.sendStatistics.terminateWorkers with phase := .draining }
  else s

/-- Stops if all workers have left. -/
def stopIfEmpty (s : ServerState) : ServerState :=
  if s.phase = .draining && s.roster.workers.isEmpty then { s with phase := .stopped } else s

/-- Moves on as far as the state allows. Work that came back to the queue wakes workers. -/
def advance (s : ServerState) : ServerState :=
  s.wakeIdle.drainIfDue.stopIfEmpty

/-- A worker has connected. It is told at once that there is work, or that it has to stop. -/
def workerJoined (s : ServerState) : WorkerId × ServerState :=
  let (id, roster) := s.roster.join
  let s := { s with roster := roster }
  (id, if s.workersTerminated then s.push [.toWorker id .terminate] else s.wakeIdle)

/-- A file that comes when the run is over. -/
def tooLate (file : TaskFile) : Error :=
  .rejected (file.filename ++ " arrived after the run finished")

/-- The manager submits a file. -/
def addFile (s : ServerState) (file : TaskFile) : Except Error (TaskId × ServerState) :=
  if s.phase ≠ .running then .error (tooLate file)
  else
    match s.scheduler.addFile file with
    | .error e => .error e
    | .ok (id, scheduler) => .ok (id, { s with scheduler := scheduler }.wakeIdle)

/-- The manager asks for the end of the run, or goes away. -/
def terminate (s : ServerState) : ServerState :=
  { s with terminateRequested := true }.terminateWorkers.advance

/-- A worker that is not on the roster although it should be. -/
def vanished (id : WorkerId) : Error :=
  .internal ("worker " ++ toString id ++ " vanished from the roster")

/-- What is handed out to a worker that asks for trials, and the scheduler after that. -/
def allot (s : ServerState) (requested : UInt32) : Except Overflow (List Batch × Scheduler) :=
  if s.dispatchSuspended then .ok ([], s.scheduler) else s.scheduler.grant requested

/-- Enters what is handed out at the worker and sends it. -/
def handOver (s : ServerState) (id : WorkerId) (batches : List Batch) :
    ServerState × Except Error Unit :=
  match s.roster.find? id with
  | none => (s, .error (vanished id))
  | some w =>
    match w.grantAll batches with
    | .error overflow => (s, .error overflow.toError)
    | .ok w =>
      ({ s with roster := s.roster.modify id fun _ => w }.push
        [.toWorker id (.sendInstances batches)], .ok ())

/-- A worker asks for trials. It always gets an answer, unless a count would run over. -/
def grant (s : ServerState) (id : WorkerId) (requested : UInt32) :
    ServerState × Except Error Unit :=
  match s.allot requested with
  | .error overflow => (s, .error overflow.toError)
  | .ok (batches, scheduler) => { s with scheduler := scheduler }.handOver id batches

/-- A worker reports ended trials. They are struck out at the worker before the scheduler looks at
the record. -/
def complete (s : ServerState) (id : WorkerId) (r : TrialRecord) :
    ServerState × Except Error Unit :=
  match s.roster.find? id with
  | none => (s, .error (vanished id))
  | some w =>
    match w.settle r.taskId r.instancesProcessed with
    | .error fault => (s, .error fault.toError)
    | .ok w =>
      let s := { s with roster := s.roster.modify id fun _ => w }
      match s.scheduler.complete r with
      | .error fault => (s, .error fault.toError)
      | .ok scheduler => ({ s with scheduler := scheduler }, .ok ())

/-- A worker reports a solution, which is passed on to the manager. -/
def foundSolution (s : ServerState) (solution : Solution) : ServerState :=
  let s := { s with solutionFound := true }.push [.toManager (.foundSolution solution)]
  if s.terminateOnSolution then s.terminateWorkers else s

/-- Gives back to the scheduler what a worker held, task by task up to the first refusal. -/
def releaseAll (s : Scheduler) : Holdings → Scheduler × Except Error Unit
  | [] => (s, .ok ())
  | (task, count) :: rest =>
    match s.release task count with
    | .error fault => (s, .error fault.toError)
    | .ok s => releaseAll s rest

/-- Strikes a worker off the roster and gives back what it held. -/
def removeWorker (s : ServerState) (id : WorkerId) : ServerState × Except Error Unit :=
  match s.roster.find? id with
  | none => (s, .ok ())
  | some w =>
    let s := { s with roster := s.roster.remove id }
    match releaseAll s.scheduler w.outstanding with
    | (scheduler, .error e) => ({ s with scheduler := scheduler }, .error e)
    | (scheduler, .ok ()) => ({ s with scheduler := scheduler }.push [.closeWorker id], .ok ())

/-- Moves on after an event that succeeded. -/
def thenAdvance : ServerState × Except Error Unit → ServerState × Except Error Unit
  | (s, .ok ()) => (s.advance, .ok ())
  | (s, .error e) => (s, .error e)

/-- A message of a worker. Those of workers that left are passed over. -/
def handleWorker (s : ServerState) (id : WorkerId) (m : WorkerMessage) :
    ServerState × Except Error Unit :=
  if !s.roster.contains id then (s, .ok ())
  else
    match m with
    | .getInstances requested => thenAdvance (s.grant id requested)
    | .doneProcessing record => thenAdvance (s.complete id record)
    | .foundSolution solution => ((s.foundSolution solution).advance, .ok ())
    | .disconnect => thenAdvance (s.removeWorker id)

/-- The connection of a worker ended without a farewell. -/
def workerLost (s : ServerState) (id : WorkerId) : ServerState × Except Error Unit :=
  if s.roster.contains id then thenAdvance (s.removeWorker id) else (s, .ok ())

end ServerState

end TrialFarm
