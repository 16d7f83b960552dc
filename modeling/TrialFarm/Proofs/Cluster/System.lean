import TrialFarm.Proofs.Cluster.Pipe
import TrialFarm.Proofs.Server.Events
import TrialFarm.Worker.Coordinator

/-!
# A server and its workers

A cluster is a server together with all coordinators that ever joined it, each with a pipe in either
direction. Everything may happen in any order: the manager sends commands, workers join, messages
arrive, trials start, end and fail, connections break.

## Main definitions

* `Site`: a coordinator and its connection.
* `SiteEvent`, `Site.step`: what can happen at a site.
* `Cluster`: a server and all sites.
* `ClusterEvent`, `Cluster.step`, `Cluster.run`: what can happen in a cluster.
* `Cluster.Still`: nothing can move any more.
-/

namespace TrialFarm

/-- A coordinator and its connection with the server. -/
structure Site where
  coordinator : Coordinator
  toServer : Pipe WorkerMessage
  toWorker : Pipe ServerMessage

/-- What can happen at a site. -/
inductive SiteEvent where
  /-- A free thread starts the oldest job. -/
  | started
  | ended (job : Job) (outcome : Except Error Outcome) (overall : Span)
  | died (job : Job)
  | ticked
  /-- The coordinator goes on by itself. Some of what it sends may fail. -/
  | proceeds (failures : List (Option Error))
  /-- The coordinator looks at the connection too early to find anything. -/
  | looks
  /-- The coordinator takes what comes next. The end of a connection may show as an error. -/
  | receives (failure : Option Error)

/-- Whether the coordinator is done. -/
def Stage.isFinished : Stage → Bool
  | .finished _ => true
  | _ => false

namespace Site

/-- The site of a coordinator that has just connected. -/
def fresh (c : Coordinator) : Site := ⟨c, Pipe.fresh, Pipe.fresh⟩

/-- A coordinator that is done closes its connection. -/
def settle (s : Site) : Site :=
  if s.coordinator.stage.isFinished then
    { s with toServer := s.toServer.finish, toWorker := s.toWorker.abandon }
  else s

/-- An event of the coordinator itself. -/
def act (s : Site) (failures : List (Option Error)) (e : CoordinatorEvent) : Site :=
  let (c, outlet) := s.coordinator.step Outlet.sender ⟨s.toServer, failures⟩ e
  settle ⟨c, outlet.pipe, s.toWorker⟩

/-- What the coordinator finds when something comes out of the pipe. -/
def arrival (failure : Option Error) : Parting ServerMessage → Wire.Arrival ServerMessage
  | .message m => .message m
  | .close => failure.elim .closed .failed

/-- The coordinator takes what comes out of the pipe, if it listens. -/
def receive (s : Site) (failure : Option Error) : Site :=
  if s.coordinator.listens then
    match s.toWorker.next with
    | some (came, rest) => { s with toWorker := rest }.act [] (.received (arrival failure came))
    | none => s
  else s

/-- The effect of an event. Nothing happens at the site of a coordinator that is done. -/
def step (s : Site) (e : SiteEvent) : Site :=
  if s.coordinator.stage.isFinished then s
  else
    match e with
    | .started => s.act [] .trialStarted
    | .ended job outcome overall => s.act [] (.trialEnded job outcome overall)
    | .died job => s.act [] (.trialDied job)
    | .ticked => s.act [] .tick
    | .proceeds failures => s.act failures .proceed
    | .looks => s.act [] (.received .nothing)
    | .receives failure => s.receive failure

/-- Carries out an action of the server as far as it concerns the worker with this number. -/
def carry (id : WorkerId) (s : Site) : Action → Site
  | .toWorker other m => if other = id then { s with toWorker := s.toWorker.put m } else s
  | .closeWorker other => if other = id then { s with toWorker := s.toWorker.finish } else s
  | .toManager _ => s

/-- Carries out actions at all sites. The number of a worker is its place among the sites. -/
def carryAll (actions : List Action) (sites : List Site) : List Site :=
  sites.mapIdx fun i s => actions.foldl (carry (UInt64.ofNat i)) s

/-- The connection breaks. The first messages of either side still arrive. -/
def cut (s : Site) (fromWorker fromServer : Nat) : Site :=
  { s with toServer := s.toServer.cut fromWorker, toWorker := s.toWorker.cut fromServer }

/-- The worker is killed. The first messages that it sent still arrive. -/
def kill (s : Site) (fromWorker : Nat) : Site where
  coordinator :=
    { s.coordinator with
      stage := .finished (.error Coordinator.serverGone)
      pool := { s.coordinator.pool with free := 0, pending := [], running := [] }
      results := [] }
  toServer := s.toServer.cut fromWorker
  toWorker := s.toWorker.abandon

/-- Nothing is on its way, no trial runs, no result waits, and the coordinator has nothing to do. -/
structure Still (s : Site) : Prop where
  toServer : s.toServer.Still
  toWorker : s.toWorker.Still
  running : s.coordinator.pool.running = []
  results : s.coordinator.results = []
  waits : s.step (.proceeds []) = s

end Site

/-- A server and the sites of all workers that ever joined it, in the order of joining. -/
structure Cluster where
  server : ServerState
  sites : List Site
  /-- The errors that events of the server led to. -/
  faults : List Error

/-- What can happen in a cluster. -/
inductive ClusterEvent where
  /-- The manager submits a file. -/
  | submits (file : TaskFile)
  /-- The manager asks for the end of the run, or goes away. -/
  | terminates
  /-- A worker connects. -/
  | joins (settings : CoordinatorSettings)
  /-- The server takes what comes next from a worker. -/
  | hears (i : Nat)
  /-- Something happens at a site. -/
  | site (i : Nat) (e : SiteEvent)
  /-- A connection breaks, and both ends live on. -/
  | breaks (i : Nat) (fromWorker fromServer : Nat)
  /-- A worker is killed. -/
  | dies (i : Nat) (fromWorker : Nat)

/-- All trials of one file find the same numbers of variables and clauses in it. -/
def SiteEvent.Conforms (shape : String → UInt64 × UInt64) : SiteEvent → Prop
  | .ended job (.ok o) _ => (o.numVars, o.numClauses) = shape job.path
  | _ => True

/-- All trials of one file find the same numbers of variables and clauses in it. -/
def ClusterEvent.Conforms (shape : String → UInt64 × UInt64) : ClusterEvent → Prop
  | .site _ e => e.Conforms shape
  | _ => True

/-- The threads that the event adds to the cluster. -/
def ClusterEvent.threads : ClusterEvent → Nat
  | .joins settings => settings.threads
  | _ => 0

namespace Cluster

/-- A server that has just started. -/
def start (c : ServerConfig) : Cluster := ⟨ServerState.start c, [], []⟩

/-- An event of the server, and the actions that it leads to. -/
def serve (k : Cluster) (e : StateEvent) : Cluster :=
  match k.server.apply e with
  | (server, .error fault) => { k with server := server, faults := k.faults ++ [fault] }
  | (server, .ok ()) =>
    let (actions, server) := server.takeOutbound
    { k with server := server, sites := Site.carryAll actions k.sites }

/-- What it means to the server when something comes out of the pipe of a worker. -/
def heard (id : WorkerId) : Parting WorkerMessage → StateEvent
  | .message m => .said id m
  | .close => .lost id

/-- Changes one site. -/
def modify (k : Cluster) (i : Nat) (f : Site → Site) : Cluster :=
  { k with sites := k.sites.modify i f }

/-- The effect of an event. -/
def step (k : Cluster) : ClusterEvent → Cluster
  | .submits file => k.serve (.submitted file)
  | .terminates => k.serve .terminated
  | .joins settings =>
    match Coordinator.start settings with
    | .ok c => serve { k with sites := k.sites ++ [Site.fresh c] } .joined
    | .error _ => k
  | .hears i =>
    match (k.sites[i]?).bind fun s => s.toServer.next.map fun came => (s, came) with
    | none => k
    | some (s, came, rest) =>
      serve { k with sites := k.sites.set i { s with toServer := rest } }
        (heard (UInt64.ofNat i) came)
  | .site i e => k.modify i fun s => s.step e
  | .breaks i fromWorker fromServer => k.modify i fun s => s.cut fromWorker fromServer
  | .dies i fromWorker => k.modify i fun s => s.kill fromWorker

/-- The effect of events. -/
def run (k : Cluster) (events : List ClusterEvent) : Cluster := events.foldl step k

/-- Nothing can move any more. -/
def Still (k : Cluster) : Prop := ∀ s ∈ k.sites, s.Still

end Cluster

end TrialFarm
