import TrialFarm.Server.State
import TrialFarm.Wire.Link

/-!
# The server

A server applies what arrives from the manager and the workers to its state and carries out the
actions that the state asks for. When the manager announces workers it does nothing but accept
them, until all have come or one takes too long.

The server is a machine. Each arrival is one step of it, and arrivals from different sides may come
in any order.

## Main definitions

* `Network`: how a server acts on its connections.
* `ServerStage`: what the server is doing.
* `Server`: the state of the machine.
* `ServerEvent`: what can happen.
* `Server.step`: the effect of an event.
-/

namespace TrialFarm

open Wire

/-- How a server acts on connections of some type. -/
structure Network (ν : Type) where
  sendManager : ν → ReportMessage → ν × Except Error Unit
  closeManager : ν → ν
  sendWorker : ν → WorkerId → ServerMessage → ν × Except Error Unit
  closeWorker : ν → WorkerId → ν

/-- What a server is doing. -/
inductive ServerStage where
  /-- Waits for whatever arrives. -/
  | serving
  /-- Waits for so many workers to connect. -/
  | accepting (left : Nat)
  | ended (result : Except Error Unit)
  deriving Repr

/-- The state of a server. -/
structure Server where
  state : ServerState
  stage : ServerStage
  /-- Whether the manager is still there. -/
  managerOpen : Bool
  /-- The workers whose connections are open, in the order they came. -/
  connections : List WorkerId
  deriving Repr

/-- What can happen to a server. -/
inductive ServerEvent where
  /-- A look at the connection to the manager finds something. -/
  | manager (arrival : Arrival ManagerMessage)
  /-- A look at the connection of a worker finds something. -/
  | worker (id : WorkerId) (arrival : Arrival WorkerMessage)
  /-- A worker connects. -/
  | connected
  /-- Someone connects who turns out to be no worker. -/
  | misconnected
  /-- Nobody connects in time. -/
  | acceptTimeout
  deriving Repr

namespace Server

/-- A server whose manager is connected. -/
def start (c : ServerConfig) : Server where
  state := ServerState.start c
  stage := .serving
  managerOpen := true
  connections := []

variable {ν : Type} (network : Network ν)

/-- Sends a message to the manager. Once this fails the manager counts as gone, and nothing more is
sent to it. -/
def tellManager (s : Server) (n : ν) (m : ReportMessage) : Server × ν :=
  if s.managerOpen then
    match network.sendManager n m with
    | (n, .ok ()) => (s, n)
    | (n, .error _) => ({ s with managerOpen := false }, n)
  else (s, n)

/-- Carries out an action. That a worker cannot be sent to is left for its connection to report. -/
def carryOut (s : Server) (n : ν) : Action → Server × ν
  | .toWorker id m => (s, if s.connections.contains id then (network.sendWorker n id m).1 else n)
  | .toManager m => tellManager network s n m
  | .closeWorker id =>
    if s.connections.contains id then
      ({ s with connections := s.connections.erase id }, network.closeWorker n id)
    else (s, n)

/-- Carries out actions in order. -/
def carryOutAll (s : Server) (n : ν) : List Action → Server × ν
  | [] => (s, n)
  | action :: rest =>
    let (s, n) := carryOut network s n action
    carryOutAll s n rest

/-- Carries out the actions that the state asks for. -/
def flush (s : Server) (n : ν) : Server × ν :=
  let (actions, state) := s.state.takeOutbound
  carryOutAll network { s with state := state } n actions

/-- Ends with a result: says goodbye to the manager and closes every connection. -/
def shutdown (s : Server) (n : ν) (result : Except Error Unit) : Server × ν :=
  let (s, n) := tellManager network s n .disconnect
  let n := s.connections.foldl network.closeWorker (network.closeManager n)
  ({ s with stage := .ended result, connections := [] }, n)

/-- Goes on after an event: carries out what it led to, and ends if the run is over. -/
def proceed (s : Server) (n : ν) : Server × ν :=
  let (s, n) := flush network s n
  if s.state.phase = .stopped then shutdown network s n (.ok ()) else (s, n)

/-- Ends on the spot: nothing is said to anybody, and all connections break. -/
def crash (s : Server) (detail : String) : Server :=
  { s with stage := .ended (.error (.crash detail)), connections := [] }

/-- Goes on after an event that may have failed. A failure ends the server; what led to it is not
carried out. -/
def conclude (s : Server) (n : ν) : Except Error Unit → Server × ν
  | .ok () => proceed network s n
  | .error (.crash detail) => (s.crash detail, n)
  | .error e => shutdown network s n (.error e)

/-- What a request that cannot be granted means to the server: nothing if it was refused. -/
def tolerate : Error → Except Error Unit
  | .rejected _ => .ok ()
  | e => .error e

/-- Applies a message of the manager. -/
def onManagerMessage (s : Server) (n : ν) : ManagerMessage → Server × ν
  | .addWorkers count =>
    match ServerState.workersToAccept count with
    | .ok workers => ({ s with stage := .accepting workers }, n)
    | .error e => conclude network s n (tolerate e)
  | .addFile file =>
    match s.state.addFile file with
    | .ok (_, state) => proceed network { s with state := state } n
    | .error e => conclude network s n (tolerate e)
  | .terminate => proceed network { s with state := s.state.terminate } n

/-- Applies what arrived from the manager. A manager that closes its connection ends the run. -/
def onManager (s : Server) (n : ν) : Arrival ManagerMessage → Server × ν
  | .nothing => (s, n)
  | .message m => onManagerMessage network s n m
  | .closed => proceed network { s with managerOpen := false, state := s.state.terminate } n
  | .failed e => conclude network s n (.error e)

/-- Applies what arrived from a worker. -/
def onWorker (s : Server) (n : ν) (id : WorkerId) : Arrival WorkerMessage → Server × ν
  | .nothing => (s, n)
  | .message m =>
    let (state, r) := s.state.handleWorker id m
    conclude network { s with state := state } n r
  | .closed | .failed _ =>
    let (state, r) := s.state.workerLost id
    conclude network { s with state := state } n r

/-- Waits for the next worker, or goes on if all have come. -/
def acceptNext (s : Server) (n : ν) (left : Nat) : Server × ν :=
  if left = 0 then proceed network { s with stage := .serving } n
  else ({ s with stage := .accepting left }, n)

/-- A worker connects. -/
def onConnected (s : Server) (n : ν) (left : Nat) : Server × ν :=
  let (id, state) := s.state.workerJoined
  let (s, n) := flush network { s with state := state, connections := s.connections ++ [id] } n
  acceptNext network s n (left - 1)

/-- The effect of an event. An event that cannot happen now has none. -/
def step (s : Server) (n : ν) (event : ServerEvent) : Server × ν :=
  match s.stage, event with
  | .serving, .manager arrival => if s.managerOpen then onManager network s n arrival else (s, n)
  | .serving, .worker id arrival => onWorker network s n id arrival
  | .accepting left, .connected => onConnected network s n left
  | .accepting left, .misconnected => acceptNext network s n (left - 1)
  | .accepting _, .acceptTimeout => proceed network { s with stage := .serving } n
  | _, _ => (s, n)

end Server

end TrialFarm
