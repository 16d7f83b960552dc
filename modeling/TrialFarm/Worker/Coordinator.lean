import TrialFarm.Config
import TrialFarm.Wire.Line
import TrialFarm.Worker.Pool

/-!
# The coordinator

The coordinator of a worker talks with the server. It waits until it is activated and then repeats:
it returns finished trials, looks for a command, asks for trials while threads are short of work,
and otherwise idles until a trial ends, a command arrives or the poll interval passes. When it is
told to stop it drops the jobs that nobody started, waits for the running trials, reports them,
says goodbye and waits for the server to close the connection.

The coordinator is a machine. Each event is one step of it, and the events of the pool and of the
server may come in any order.

## Main definitions

* `Stage`: where the conversation stands.
* `Coordinator`: the state of the machine.
* `CoordinatorEvent`: what can happen.
* `Coordinator.step`: the effect of an event.
-/

namespace TrialFarm

open Wire

/-- The settings of a coordinator. -/
structure CoordinatorSettings where
  /-- Threads, which is also the number of jobs it tries to hold. -/
  threads : Nat
  /-- Flips per trial for files that leave the number to the worker. -/
  defaultMaxFlips : UInt64
  /-- Milliseconds to wait when idle and after a grant of nothing. -/
  pollMillis : UInt64
  deriving DecidableEq, Repr

/-- The settings in a worker section. -/
def CoordinatorSettings.ofConfig (c : WorkerConfig) : CoordinatorSettings :=
  ⟨c.threads.toNat, c.defaultMaxFlips, c.pollInterval⟩

/-- What a worker has done when it ends. -/
structure WorkerSummary where
  /-- Trials that were reported. -/
  trialsCompleted : UInt64
  /-- Solutions that were reported. -/
  solutionsFound : UInt64
  /-- Granted trials that were dropped. -/
  discarded : UInt64
  /-- Requests for trials. -/
  requests : UInt64
  deriving DecidableEq, Repr, Inhabited

/-- Where the conversation with the server stands. -/
inductive Stage where
  /-- Waits to be activated. -/
  | awaitActivation
  /-- Returns finished trials. `moved` tells whether this round did anything so far. -/
  | collect (moved : Bool)
  /-- Looks for a command without waiting for one. -/
  | look (moved : Bool)
  /-- Asks for trials, if some are needed. -/
  | ask (moved : Bool)
  /-- Waits for the answer to a request. -/
  | awaitGrant
  /-- Waits for whatever comes first. -/
  | idle
  /-- Waits for the running trials, at the regular end or because of an error. -/
  | stopping (cause : Option Error)
  /-- Returns the last finished trials. -/
  | flush
  /-- Has said goodbye and waits for the server to close. -/
  | farewell
  | finished (result : Except Error WorkerSummary)
  deriving Repr

/-- The state of a coordinator. -/
structure Coordinator where
  settings : CoordinatorSettings
  stage : Stage
  pool : Pool
  /-- Trials that ended and are not yet returned, the oldest first. -/
  results : List (Except Error Completed)
  /-- Jobs that were accepted and are not yet returned. -/
  assigned : Nat
  /-- Whether the server has told the worker to stop. -/
  terminating : Bool
  /-- Whether the last grant was empty and the poll interval has not passed since. -/
  backingOff : Bool
  summary : WorkerSummary
  deriving Repr

/-- What can happen to a coordinator. -/
inductive CoordinatorEvent where
  /-- A free thread starts the oldest job. -/
  | trialStarted
  /-- A running trial ends. -/
  | trialEnded (job : Job) (outcome : Except Error Outcome) (overall : Span)
  /-- A running trial takes its thread down and leaves no result. -/
  | trialDied (job : Job)
  /-- A look at the connection finds something, or nothing. -/
  | received (arrival : Arrival ServerMessage)
  /-- The poll interval passes. -/
  | tick
  /-- The coordinator does what it can do without an answer from the server. -/
  | proceed
  deriving Repr

namespace Coordinator

/-- A coordinator that has just connected. It needs a thread. -/
def start (settings : CoordinatorSettings) : Except Error Coordinator :=
  if settings.threads = 0 then .error (.config "a worker needs at least one thread")
  else
    .ok
      { settings := settings
        stage := .awaitActivation
        pool := Pool.fresh settings.threads
        results := []
        assigned := 0
        terminating := false
        backingOff := false
        summary := ⟨0, 0, 0, 0⟩ }

/-- The error of a server that closed the connection too early. -/
def serverGone : Error := .disconnected "server closed the connection"

/-- Jobs that are missing to keep every thread busy. -/
def shortfall (c : Coordinator) : Nat :=
  c.settings.threads - c.assigned

/-- The job of a batch. -/
def jobOf (c : Coordinator) (b : Batch) : Job :=
  ⟨b.taskId, b.file.filename,
    if b.file.maxFlips = 0 then c.settings.defaultMaxFlips else b.file.maxFlips.toUInt64⟩

/-- Counts trials that are dropped. -/
def countDiscarded (c : Coordinator) (n : UInt64) : Coordinator :=
  { c with summary := { c.summary with discarded := c.summary.discarded + n } }

/-- Takes the trials of one batch: into the pool, or to be dropped if the worker is to stop. -/
def acceptBatch (c : Coordinator) (b : Batch) : Coordinator :=
  if c.terminating then c.countDiscarded b.instances.toUInt64
  else
    { c with
      pool := c.pool.submitAll (List.replicate b.instances.toNat (c.jobOf b))
      assigned := c.assigned + b.instances.toNat }

/-- Takes the trials of a grant. -/
def accept (c : Coordinator) (batches : List Batch) : Coordinator :=
  batches.foldl acceptBatch c

/-- Starts to stop: drops the jobs that nobody started and waits for the others. -/
def stop (c : Coordinator) (cause : Option Error) : Coordinator :=
  let (n, pool) := c.pool.discard
  { c with pool := pool, assigned := c.assigned - n, stage := .stopping cause }.countDiscarded
    (UInt64.ofNat n)

/-- Applies a command that comes outside its turn. -/
def obey (c : Coordinator) : ServerMessage → Coordinator
  | .activate => c
  | .sendInstances batches => c.accept batches
  | .terminate => { c with terminating := true }

/-- Starts the next round, or stops if the worker was told to. -/
def nextRound (c : Coordinator) (moved : Bool) : Coordinator :=
  if c.terminating then c.stop none else { c with stage := .collect moved }

variable {ν : Type} (sender : Sender WorkerMessage ν)

/-- Sends the solution of a trial, if it has one. -/
def sendSolution (c : Coordinator) (n : ν) (solution : Option Solution) :
    Coordinator × ν × Except Error Unit :=
  match solution with
  | none => (c, n, .ok ())
  | some s =>
    match sender.send n (.foundSolution s) with
    | (n, .error e) => (c, n, .error e)
    | (n, .ok ()) =>
      let solutions := c.summary.solutionsFound + 1
      ({ c with summary := { c.summary with solutionsFound := solutions } }, n, .ok ())

/-- Returns one finished trial. -/
def returnOne (c : Coordinator) (n : ν) (result : Except Error Completed) :
    Coordinator × ν × Except Error Unit :=
  match result with
  | .error e => (c, n, .error e)
  | .ok done =>
    match sendSolution sender { c with assigned := c.assigned - 1 } n done.solution with
    | (c, n, .error e) => (c, n, .error e)
    | (c, n, .ok ()) =>
      match sender.send n (.doneProcessing done.record) with
      | (n, .error e) => (c, n, .error e)
      | (n, .ok ()) =>
        let trials := c.summary.trialsCompleted + 1
        ({ c with summary := { c.summary with trialsCompleted := trials } }, n, .ok ())

/-- Returns the oldest finished trial and goes on to `next`. -/
def returnFirst (c : Coordinator) (n : ν) (result : Except Error Completed)
    (rest : List (Except Error Completed)) (next : Coordinator → Coordinator) :
    Coordinator × ν :=
  match returnOne sender { c with results := rest } n result with
  | (c, n, .ok ()) => (next c, n)
  | (c, n, .error e) => (c.stop (some e), n)

/-- Asks for as many trials as threads are short of. -/
def request (c : Coordinator) (n : ν) : Coordinator × ν :=
  match sender.send n (.getInstances (UInt32.ofNat c.shortfall)) with
  | (n, .error e) => (c.stop (some e), n)
  | (n, .ok ()) =>
    let requests := c.summary.requests + 1
    ({ c with summary := { c.summary with requests := requests }, stage := .awaitGrant }, n)

/-- Takes leave because of an error. -/
def abort (c : Coordinator) (n : ν) (cause : Error) : Coordinator × ν :=
  let n := sender.close (sender.send n .disconnect).1
  ({ c with stage := .finished (.error cause) }, n)

/-- Returns the last trials one by one and then says goodbye. -/
def takeLeave (c : Coordinator) (n : ν) : Coordinator × ν :=
  match c.results with
  | result :: rest =>
    match returnOne sender { c with results := rest } n result with
    | (c, n, .ok ()) => (c, n)
    | (c, n, .error e) => ({ c with stage := .finished (.error e) }, n)
  | [] =>
    match sender.send n .disconnect with
    | (n, .error e) => ({ c with stage := .finished (.error e) }, n)
    | (n, .ok ()) => ({ c with stage := .farewell }, n)

/-- Does what can be done without an answer from the server. -/
def proceed (c : Coordinator) (n : ν) : Coordinator × ν :=
  match c.stage with
  | .collect moved =>
    match c.results with
    | result :: rest =>
      returnFirst sender c n result rest fun c => { c with stage := .collect true }
    | [] => ({ c with stage := .look moved }, n)
  | .ask moved =>
    if 0 < c.shortfall && !c.backingOff then request sender c n
    else if moved then ({ c with stage := .collect false }, n)
    else ({ c with stage := .idle }, n)
  | .idle =>
    match c.results with
    | result :: rest =>
      returnFirst sender c n result rest fun c => { c with stage := .collect false }
    | [] => (c, n)
  | .stopping cause =>
    if c.pool.isQuiet then
      match cause with
      | none => ({ c with stage := .flush }, n)
      | some e => abort sender c n e
    else (c, n)
  | .flush => takeLeave sender c n
  | _ => (c, n)

/-- Applies a message of the server. -/
def onMessage (c : Coordinator) (m : ServerMessage) : Coordinator :=
  match c.stage with
  | .awaitActivation =>
    match m with
    | .activate => { c with stage := .collect false }
    | .terminate => { c with terminating := true }.stop none
    | .sendInstances batches => c.accept batches
  | .look _ =>
    let c := c.obey m
    if c.terminating then c.stop none else { c with stage := .ask true }
  | .awaitGrant =>
    match m with
    | .sendInstances batches =>
      let granted := (c.accept batches).assigned - c.assigned
      let c := c.accept batches
      { c with backingOff := granted = 0 && c.settings.pollMillis ≠ 0 }.nextRound false
    | m => c.obey m
  | .idle => (c.obey m).nextRound false
  | _ => c

/-- Applies the end of the connection, which is an error unless the worker has said goodbye. -/
def onEnd (c : Coordinator) (e : Error) : Coordinator :=
  match c.stage with
  | .awaitActivation | .look _ | .awaitGrant | .idle => c.stop (some e)
  | .farewell => { c with stage := .finished (.ok c.summary) }
  | _ => c

/-- Applies what a look at the connection found. -/
def onArrival (c : Coordinator) : Arrival ServerMessage → Coordinator
  | .nothing =>
    match c.stage with
    | .look moved => { c with stage := .ask moved }
    | _ => c
  | .message m => c.onMessage m
  | .closed => c.onEnd serverGone
  | .failed e => c.onEnd e

/-- Whether the coordinator looks at the connection next. -/
def listens (c : Coordinator) : Bool :=
  match c.stage with
  | .awaitActivation | .look _ | .awaitGrant | .idle | .farewell => true
  | _ => false

/-- The poll interval passes. -/
def onTick (c : Coordinator) : Coordinator :=
  let c := { c with backingOff := false }
  match c.stage with
  | .idle => { c with stage := .collect false }
  | _ => c

/-- A running trial ends. -/
def onTrialEnded (c : Coordinator) (job : Job) (outcome : Except Error Outcome) (overall : Span) :
    Coordinator :=
  if c.pool.running.contains job then
    { c with
      pool := c.pool.finish job false
      results := c.results ++ [job.complete overall outcome] }
  else c

/-- A running trial takes its thread down. Nobody learns of it, so the job still counts as
assigned. -/
def onTrialDied (c : Coordinator) (job : Job) : Coordinator :=
  if c.pool.running.contains job then { c with pool := c.pool.finish job true } else c

/-- The effect of an event. An event that cannot happen now has none. -/
def step (c : Coordinator) (n : ν) : CoordinatorEvent → Coordinator × ν
  | .trialStarted =>
    match c.pool.start with
    | some pool => ({ c with pool := pool }, n)
    | none => (c, n)
  | .trialEnded job outcome overall => (c.onTrialEnded job outcome overall, n)
  | .trialDied job => (c.onTrialDied job, n)
  | .received arrival => (c.onArrival arrival, n)
  | .tick => (c.onTick, n)
  | .proceed => proceed sender c n

end Coordinator

end TrialFarm
