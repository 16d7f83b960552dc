import TrialFarm.Worker.Job

/-!
# The pool

A fixed number of threads makes trials. Jobs wait in the order of submission until a thread is
free; a running trial is never interrupted.

## Main definitions

* `Pool`: waiting and running jobs.
* `Pool.submit`, `Pool.start`, `Pool.finish`: the way of a job through the pool.
* `Pool.discard`: drops all jobs that nobody started.
* `Pool.settle`: lets free threads start as many jobs as they can.
-/

namespace TrialFarm

/-- The threads of a worker and their jobs. -/
structure Pool where
  /-- The threads the pool was made with. -/
  threads : Nat
  /-- Threads that wait for a job. -/
  free : Nat
  /-- Jobs that no thread has started, the oldest first. -/
  pending : List Job
  /-- Jobs that are being executed, in the order of their start. -/
  running : List Job
  deriving DecidableEq, Repr

namespace Pool

/-- A pool without jobs. -/
def fresh (threads : Nat) : Pool := ⟨threads, threads, [], []⟩

/-- Adds a job behind those that wait. -/
def submit (p : Pool) (job : Job) : Pool :=
  { p with pending := p.pending ++ [job] }

/-- Adds jobs in their order. -/
def submitAll (p : Pool) (jobs : List Job) : Pool :=
  { p with pending := p.pending ++ jobs }

/-- A free thread starts the oldest job, if there are both. -/
def start (p : Pool) : Option Pool :=
  match p.free, p.pending with
  | free + 1, job :: pending =>
    some { p with free := free, pending := pending, running := p.running ++ [job] }
  | _, _ => none

/-- Free threads start jobs, at most `fuel` of them. -/
def startUpTo : Nat → Pool → Pool
  | 0, p => p
  | fuel + 1, p =>
    match p.start with
    | none => p
    | some p => startUpTo fuel p

/-- Free threads start as many jobs as they can. -/
def settle (p : Pool) : Pool :=
  startUpTo p.free p

/-- Ends a running trial. Its thread is free again, unless it dies with the trial. -/
def finish (p : Pool) (job : Job) (dies : Bool) : Pool :=
  { p with
    running := p.running.erase job
    free := if dies then p.free else p.free + 1 }

/-- The first running trial of a file. -/
def runningOn? (p : Pool) (path : String) : Option Job :=
  p.running.find? fun job => job.path == path

/-- Drops the jobs that nobody started. The answer is their number. -/
def discard (p : Pool) : Nat × Pool :=
  (p.pending.length, { p with pending := [] })

/-- Whether no trial is running. -/
def isQuiet (p : Pool) : Bool := p.running.isEmpty

end Pool

end TrialFarm
