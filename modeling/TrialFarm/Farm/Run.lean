import TrialFarm.Farm.Connect
import TrialFarm.Farm.Executable
import TrialFarm.Manager.Desk
import TrialFarm.Server.Host
import TrialFarm.Worker.Engine
import TrialFarm.Worker.Station

/-!
# A run in one place

A farm is a manager, a server and workers in one place, with their lines joined end to end. It goes
on in rounds: everyone does what can be done, then everything that was handed over is passed on,
and trials that were started are made. When nothing moves any more, time passes until somebody has
waited long enough.

## Main definitions

* `Hand`: a worker with its engine.
* `Recruiter`: how workers are started.
* `Farm`: manager, server and workers.
* `Maker`: how trials are made.
* `Farm.round`: one round.
* `Farm.run`: rounds until the manager's session has ended.
-/

namespace TrialFarm

open Wire

/-- A worker with its engine. -/
structure Hand where
  station : Station
  engine : Engine

/-- How trials are made: by an engine, of the files there are, for a job and from a seed. The answer
also holds the time that the whole trial took. Making a trial may need more than the engine, such as
a clock. -/
abbrev Maker (m : Type → Type) :=
  Engine → Files → Job → UInt64 → m (Except Error Outcome × Span × Engine)

/-- Makes trials while the clock stands still. -/
def Maker.still : Maker Id := fun engine files job seed =>
  let (outcome, engine) := engine.execute files job.path seed job.flipBudget
  (outcome, Span.zero, engine)

/-- How workers are started. -/
structure Recruiter where
  /-- What is started for workers with arguments of their own, unless it cannot be. -/
  executable : List String → Option Executable
  inherited : Inherited
  /-- The configuration file of programs that are told of none. -/
  config : Option String

/-- What is printed when a worker is started. -/
def Recruiter.printed (r : Recruiter) (own : List String) : String :=
  match r.executable own with
  | none => ""
  | some e => e.printed (r.inherited.workerArguments own)

/-- Starts a worker. There is none if the program ends before it has found the server at
`address`. -/
def Recruiter.recruit (r : Recruiter) (d : Disk) (address : String) (own : List String) :
    Option Hand := do
  let e ← r.executable own
  let (.worker, arguments) ← e.becomes (r.inherited.workerArguments own) | none
  let .given g := WorkerOptions.usage.read arguments | none
  let o := WorkerOptions.of g
  let c ← (workerConfig d.view o r.config).toOption
  let found ← (findServer d o c).toOption
  if socketOf found != socketOf address || !isHere (hostOf found) then none
  let coordinator ← (Coordinator.start (.ofConfig c.worker)).toOption
  return ⟨Station.fresh coordinator, Engine.ofConfig c.worker⟩

/-- Manager, server and workers in one place. -/
structure Farm where
  desk : Desk
  host : Host
  /-- The address of the server. -/
  address : String
  /-- Milliseconds that the server waits for a worker to connect. -/
  acceptMillis : Nat
  /-- The workers, in the order in which they found the server. -/
  hands : List Hand
  recruiter : Recruiter
  disk : Disk
  /-- Where the seeds of trials come from. -/
  random : Random
  /-- Whether anything happened in the current round. -/
  moved : Bool

namespace Farm

variable {m : Type → Type} [Monad m]

/-- Takes note that something happened, if so. -/
def note (f : Farm) (happened : Bool) : Farm :=
  { f with moved := f.moved || happened }

/-- Lets a worker that the manager has started come to work. -/
def recruit (f : Farm) (own : List String) : Farm :=
  let said := .notice (f.recruiter.printed own)
  let f := { f with desk := { f.desk with session := f.desk.session.write [said] } }
  match f.recruiter.recruit f.disk f.address own with
  | none => f
  | some hand => { f with hands := f.hands ++ [hand], host := f.host.call true }

/-- Lets the workers that the manager has started come to work. -/
def recruitAll (f : Farm) : Farm :=
  let started := f.desk.surroundings.started
  let desk := { f.desk with surroundings := { f.desk.surroundings with started := [] } }
  started.foldl recruit ({ f with desk := desk }.note !started.isEmpty)

/-- Passes on what the two ends of a line have for each other. -/
def pass {ι ο : Type} (a : Line ι ο) (b : Line ο ι) : Line ι ο × Line ο ι :=
  let (fromA, a) := a.takeOutgoing
  let (fromB, b) := b.takeOutgoing
  (a.deliver fromB, b.deliver fromA)

/-- Passes on what manager and server have for each other. -/
def passDesk (f : Farm) : Farm :=
  let near := f.desk.surroundings.line
  let far := f.host.board.manager
  let (ours, theirs) := pass near far
  { f with
    desk := { f.desk with surroundings := { f.desk.surroundings with line := ours } }
    host := { f.host with board := { f.host.board with manager := theirs } } }.note
      (!near.outgoing.isEmpty || !far.outgoing.isEmpty)

/-- Passes on what a worker and the server have for each other. A worker that has ended is gone. -/
def passHand (h : Hand) (l : Line WorkerMessage ServerMessage) :
    Hand × Line WorkerMessage ServerMessage :=
  let (ours, theirs) := pass h.station.line l
  ({ h with station := { h.station with line := ours } },
    if h.station.result?.isSome then theirs.vanish else theirs)

/-- Passes on what workers and the server have for each other. -/
def zipHands : List Hand → List (Line WorkerMessage ServerMessage) →
    List Hand × List (Line WorkerMessage ServerMessage)
  | h :: hs, l :: ls =>
    let (h, l) := passHand h l
    let (hs, ls) := zipHands hs ls
    (h :: hs, l :: ls)
  | hs, ls => (hs, ls)

/-- Passes on what all workers and the server have for each other. -/
def passHands (f : Farm) : Farm :=
  let lines := f.host.board.workers
  let happened := lines.any (fun l => !l.outgoing.isEmpty)
    || f.hands.any fun h => !h.station.line.outgoing.isEmpty
  let (hands, lines) := zipHands f.hands lines
  { f with
    hands := hands
    host := { f.host with board := { f.host.board with workers := lines } } }.note happened

/-- Makes a trial. The answer also holds what is left of the randomness. A trial that crashes
takes its thread with it. -/
def trial (make : Maker m) (files : Files) (h : Hand) (random : Random) (job : Job) :
    m (Hand × Random) := do
  let (seed, random) := random.word
  let (outcome, overall, engine) ← make h.engine files job seed
  let ended : CoordinatorEvent := match outcome with
    | .error (.crash _) => .trialDied job
    | outcome => .trialEnded job outcome overall
  return (⟨h.station.apply ended, engine⟩, random)

/-- Makes all trials that a worker has started. -/
def trials (make : Maker m) (files : Files) (h : Hand) (random : Random) : m (Hand × Random) :=
  h.station.coordinator.pool.running.foldlM
    (fun (h, random) job => trial make files h random job) (h, random)

/-- Makes the trials of all workers, one after the other, and lets each return its own. -/
def workAll (make : Maker m) (files : Files) : List Hand → Random → m (List Hand × Random)
  | [], random => return ([], random)
  | h :: hs, random => do
    let (h, random) ← trials make files h random
    let (hs, random) ← workAll make files hs random
    return ({ h with station := h.station.settle } :: hs, random)

/-- Lets the workers act: they look at what they received, make the trials that they have started
and return them. -/
def work (make : Maker m) (f : Farm) : m Farm := do
  let hands := f.hands.map fun h => { h with station := h.station.settle }
  let happened := hands.any fun h => !h.station.coordinator.pool.isQuiet
  let (hands, random) ← workAll make f.disk.view hands f.random
  return { f with hands := hands, random := random }.note happened

/-- Lets the manager act. The server has to leave at once if it is given no time. -/
def manage (f : Farm) : Farm :=
  let desk := f.desk.settle
  { f with
    desk :=
      if desk.isLeaving && desk.session.settings.shutdownMillis = 0 then desk.apply .timeout
      else desk }

/-- One round: the manager, the server and the workers act in this order. -/
def round (make : Maker m) (f : Farm) : m Farm := do
  let f := { f with moved := false }.manage.recruitAll.passDesk
  let f := { f with host := f.host.settle }
  let f ← f.passDesk.passHands.work make
  return f.passHands

/-- Lets time pass until somebody has waited long enough. There may be nobody who waits. -/
def wait (f : Farm) : Option Farm :=
  let patience := f.desk.session.settings.shutdownMillis.toNat
  match f.host.server.stage, f.desk.isLeaving with
  | .accepting _, true =>
    if patience < f.acceptMillis then some { f with desk := f.desk.apply .timeout }
    else some { f with host := f.host.apply .acceptTimeout }
  | .accepting _, false => some { f with host := f.host.apply .acceptTimeout }
  | _, true => some { f with desk := f.desk.apply .timeout }
  | _, false => none

/-- Rounds until the session has ended, at most `fuel` of them. After a round without any movement
time passes. -/
def runFor (make : Maker m) : Nat → Farm → m Farm
  | 0, f => return f
  | fuel + 1, f => do
    if f.desk.result?.isSome then return f
    let f ← f.round make
    if f.moved then runFor make fuel f
    else
      match f.wait with
      | none => return f
      | some f => runFor make fuel f

/-- The most rounds of a run. -/
def mostRounds : Nat := 1000000

/-- Rounds until the session has ended. -/
def run (make : Maker m) (f : Farm) : m Farm :=
  runFor make mostRounds f

end Farm

end TrialFarm
