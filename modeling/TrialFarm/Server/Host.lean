import TrialFarm.Server.Loop
import TrialFarm.Wire.Peer

/-!
# Hosts

A host is a server with its lines to the manager and to the workers. Left alone it moves as long as
it can: it accepts those who wait to be connected, and it receives what waits on its lines. The
lines of workers are read as soon as something waits on them, also while the server does nothing
but accept; what they bring waits in the order in which it came.

## Main definitions

* `Switchboard`: the lines of a server.
* `Host`: a server and its lines.
* `Host.readAll`: reads the lines of all workers.
* `Host.settle`: all events that need nobody else.
* `Hall`: a host with peers that answer.
-/

namespace TrialFarm

open Wire

/-- The lines of a server. -/
structure Switchboard where
  manager : Line ManagerMessage ReportMessage
  /-- The lines of all workers that ever connected, by number. -/
  workers : List (Line WorkerMessage ServerMessage)
  deriving Repr

namespace Switchboard

/-- The lines of a server that only its manager is connected to. -/
def fresh : Switchboard := ⟨Line.fresh false, []⟩

/-- Changes the line of a worker. -/
def modify (b : Switchboard) (id : WorkerId)
    (f : Line WorkerMessage ServerMessage → Line WorkerMessage ServerMessage) : Switchboard :=
  { b with workers := b.workers.modify id.toNat f }

/-- Sends a message to a worker. -/
def sendWorker (b : Switchboard) (id : WorkerId) (m : ServerMessage) :
    Switchboard × Except Error Unit :=
  match b.workers[id.toNat]? with
  | none => (b, .error (ServerState.vanished id))
  | some line =>
    let (line, r) := line.send m
    (b.modify id fun _ => line, r)

/-- The network that consists of lines. -/
def network : Network Switchboard where
  sendManager b m :=
    let (line, r) := b.manager.send m
    ({ b with manager := line }, r)
  closeManager b := { b with manager := b.manager.close.1 }
  sendWorker := sendWorker
  closeWorker b id := b.modify id fun line => line.close.1

end Switchboard

/-- A server and its lines. -/
structure Host where
  server : Server
  board : Switchboard
  /-- What the lines of workers brought and the server has not looked at yet, in order. -/
  brought : List (WorkerId × Arrival WorkerMessage)
  /-- The workers whose lines have brought their last. -/
  silent : List WorkerId
  /-- Those who wait to be connected; some of them turn out to be no workers. -/
  callers : List Bool
  /-- Whether those who do not wait already come too late. -/
  impatient : Bool
  deriving Repr

namespace Host

/-- A host that only its manager is connected to. -/
def fresh (c : ServerConfig) : Host :=
  ⟨Server.start c, Switchboard.fresh, [], [], [], c.acceptTimeoutSecs = 0⟩

/-- Applies an event. -/
def apply (h : Host) (event : ServerEvent) : Host :=
  let (server, board) := h.server.step Switchboard.network h.board event
  { h with server := server, board := board }

/-- Takes the next of those who wait to be connected, or gives up waiting for one. -/
def accept (h : Host) : Option Host :=
  match h.callers with
  | true :: rest =>
    let board := { h.board with workers := h.board.workers ++ [Line.fresh true] }
    some ({ h with board := board, callers := rest }.apply .connected)
  | false :: rest => some ({ h with callers := rest }.apply .misconnected)
  | [] => if h.impatient then some (h.apply .acceptTimeout) else none

/-- Looks at the line of the manager. The answer also tells whether anything was there. -/
def listenManager (h : Host) : Host × Bool :=
  if h.server.managerOpen then
    let (line, arrival) := h.board.manager.receive
    let h := { h with board := { h.board with manager := line } }
    match arrival with
    | .nothing => (h, false)
    | arrival => (h.apply (.manager arrival), true)
  else (h, false)

/-- Reads the line of a worker, at most `fuel` times. After a fault or the end nothing more is
read. -/
def readWorker (id : WorkerId) : Nat → Host → Host
  | 0, h => h
  | fuel + 1, h =>
    match h.board.workers[id.toNat]? with
    | none => h
    | some line =>
      let (line, arrival) := line.receive
      let h := { h with board := h.board.modify id fun _ => line }
      match arrival with
      | .nothing => h
      | .message m => readWorker id fuel { h with brought := h.brought ++ [(id, .message m)] }
      | last => { h with brought := h.brought ++ [(id, last)], silent := id :: h.silent }

/-- What waits on a line, and the two things that its end can bring. -/
def load {ι ο : Type} (l : Line ι ο) : Nat := l.link.waiting.length + 2

/-- Reads the lines of all workers whose connections are open. -/
def readAll (h : Host) : Host :=
  let reading := h.server.connections.filter fun id => !h.silent.contains id
  reading.foldl (fun h id => readWorker id (((h.board.workers[id.toNat]?).map load).getD 0) h) h

/-- The host after the next event that needs nobody else, and whether there was one. -/
def nextEvent (h : Host) : Host × Bool :=
  match h.server.stage, h.brought with
  | .serving, (id, arrival) :: rest => ({ h with brought := rest }.apply (.worker id arrival), true)
  | .serving, [] => h.listenManager
  | .accepting _, _ =>
    match h.accept with
    | none => (h, false)
    | some h => (h, true)
  | .ended _, _ => (h, false)

/-- At most `fuel` such events. -/
def settleFor : Nat → Host → Host
  | 0, h => h
  | fuel + 1, h =>
    match h.readAll.nextEvent with
    | (h, false) => h
    | (h, true) => settleFor fuel h

/-- All such events. Each of them takes up something that waits, or ends a time of waiting. -/
def settle (h : Host) : Host :=
  let items := h.board.workers.foldl (fun n line => n + load line) (load h.board.manager)
    + h.brought.length + 2 * h.callers.length
  settleFor (2 * items) h

/-- The result of the server, once it has ended. -/
def result? (h : Host) : Option (Except Error Unit) :=
  match h.server.stage with
  | .ended result => some result
  | _ => none

/-- Someone wants to be connected. -/
def call (h : Host) (isWorker : Bool) : Host :=
  { h with callers := h.callers ++ [isWorker] }

/-- Lets each worker's peer hear and answer what its line has for it. -/
def relayWorkers :
    List Peer → List (Line WorkerMessage ServerMessage) →
      List Peer × List (Line WorkerMessage ServerMessage)
  | p :: ps, l :: ls =>
    let (p, l) := p.relay l
    let (ps, ls) := relayWorkers ps ls
    (p :: ps, l :: ls)
  | ps, ls => (ps, ls)

end Host

/-- A host and bare peers at the other ends of its lines. -/
structure Hall where
  host : Host
  manager : Peer
  /-- The workers in the order in which they called. -/
  workers : List Peer
  deriving Repr

namespace Hall

/-- A hall in which only the manager is connected. -/
def fresh (c : ServerConfig) : Hall := ⟨Host.fresh c, Peer.fresh, []⟩

/-- The manager hands something over. -/
def managerSays (s : Hall) (parcel : Parcel) : Hall :=
  let (p, parcels) := s.manager.say parcel
  let board := { s.host.board with manager := s.host.board.manager.deliver parcels }
  { s with manager := p, host := { s.host with board := board } }

/-- The manager vanishes. -/
def managerLeaves (s : Hall) : Hall :=
  let board := { s.host.board with manager := s.host.board.manager.vanish }
  { s with manager := s.manager.leave, host := { s.host with board := board } }

/-- A worker hands something over. One that is not connected yet cannot. -/
def workerSays (s : Hall) (id : Nat) (parcel : Parcel) : Hall :=
  match s.workers[id]? with
  | none => s
  | some p =>
    if id < s.host.board.workers.length then
      let (p, parcels) := p.say parcel
      let board := s.host.board.modify (UInt64.ofNat id) fun line => line.deliver parcels
      { s with workers := s.workers.set id p, host := { s.host with board := board } }
    else s

/-- A worker vanishes. -/
def workerLeaves (s : Hall) (id : Nat) : Hall :=
  let board := s.host.board.modify (UInt64.ofNat id) Line.vanish
  { s with workers := s.workers.modify id Peer.leave, host := { s.host with board := board } }

/-- Lets the host act, and then its peers. A server that has ended drops its connections. -/
def exchange (s : Hall) : Hall :=
  let h := s.host.settle
  let (manager, line) := s.manager.relay h.board.manager
  let (workers, lines) := Host.relayWorkers s.workers h.board.workers
  let h := { h with board := ⟨line, lines⟩ }
  if h.result?.isSome then ⟨h, manager.hearClosed, workers.map Peer.hearClosed⟩
  else ⟨h, manager, workers⟩

/-- Someone wants to be connected. A worker that calls after the end is gone at once. -/
def call (s : Hall) (isWorker : Bool) : Hall :=
  let caller :=
    if s.host.result?.isSome then Peer.fresh.leave else Peer.fresh
  { s with
    host := s.host.call isWorker
    workers := if isWorker then s.workers ++ [caller] else s.workers }.exchange

end Hall

end TrialFarm
