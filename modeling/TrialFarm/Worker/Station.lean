import TrialFarm.Wire.Peer
import TrialFarm.Worker.Coordinator

/-!
# Stations

A station is a coordinator on a line. Left alone it moves as long as it can: free threads start
jobs, the coordinator proceeds, and it receives what waits on its line.

## Main definitions

* `Station`: a coordinator and its line.
* `Station.nextEvent`: the next event that needs nobody else.
* `Station.settle`: all such events in order.
* `Station.exchange`: the same with a peer that answers.
-/

namespace TrialFarm

open Wire

/-- A coordinator on a line. -/
structure Station where
  coordinator : Coordinator
  line : Line ServerMessage WorkerMessage
  /-- Trials that were started so far. -/
  started : Nat
  deriving Repr

namespace Station

/-- A station that has just connected. -/
def fresh (c : Coordinator) : Station := ⟨c, Line.fresh false, 0⟩

/-- Poll intervals of up to so many milliseconds pass while nothing else happens. -/
def patience : UInt64 := 600000

/-- Applies an event. -/
def apply (s : Station) (event : CoordinatorEvent) : Station :=
  let (coordinator, line) := s.coordinator.step Sender.line s.line event
  { s with coordinator := coordinator, line := line }

/-- Looks at the line. The answer also tells whether the coordinator does anything but go on
waiting. -/
def listen (s : Station) : Station × Bool :=
  let (line, arrival) := s.line.receive
  let s := { s with line := line }
  match arrival, s.coordinator.stage with
  | .nothing, .look _ => (s.apply (.received .nothing), true)
  | .nothing, .idle =>
    if s.coordinator.backingOff && s.coordinator.settings.pollMillis ≤ patience then
      (s.apply .tick, true)
    else (s, false)
  | .nothing, _ => (s, false)
  | arrival, _ => (s.apply (.received arrival), true)

/-- The station after the next event that needs nobody else, and whether there was one. -/
def nextEvent (s : Station) : Station × Bool :=
  let c := s.coordinator
  match c.pool.start, c.stage with
  | some _, _ => ({ s.apply .trialStarted with started := s.started + 1 }, true)
  | none, .collect _ | none, .ask _ | none, .flush => (s.apply .proceed, true)
  | none, .idle => if c.results.isEmpty then s.listen else (s.apply .proceed, true)
  | none, .stopping _ => if c.pool.isQuiet then (s.apply .proceed, true) else (s, false)
  | none, .finished _ => (s, false)
  | none, _ => s.listen

/-- At most `fuel` such events. -/
def settleFor : Nat → Station → Station
  | 0, s => s
  | fuel + 1, s =>
    match s.nextEvent with
    | (s, false) => s
    | (s, true) => settleFor fuel s

/-- All such events. What waits and what ended bounds their number, up to a few per item. -/
def settle (s : Station) : Station :=
  let items := s.line.link.waiting.length + s.coordinator.results.length
    + s.coordinator.pool.free + 2
  settleFor (16 * items) s

/-- Ends the first running trial of a file, if there is one. Without an outcome the trial takes its
thread down. -/
def finish (s : Station) (path : String) (outcome : Job → Option (Except Error Outcome)) :
    Station :=
  match s.coordinator.pool.runningOn? path with
  | none => s
  | some job =>
    match outcome job with
    | some outcome => s.apply (.trialEnded job outcome Span.zero)
    | none => s.apply (.trialDied job)

/-- The result of the coordinator, once it has ended. -/
def result? (s : Station) : Option (Except Error WorkerSummary) :=
  match s.coordinator.stage with
  | .finished result => some result
  | _ => none

/-- Lets the station and the peer at the other end of its line act, at most `fuel` times each. A
coordinator that has ended drops its connection. -/
def exchangeFor : Nat → Station → Peer → Station × Peer
  | 0, s, p => (s, p)
  | fuel + 1, s, p =>
    let s := s.settle
    let (p, line) := p.relay s.line
    let s := { s with line := line }
    if s.result?.isSome then (s, p.hearClosed) else exchangeFor fuel s p

/-- Lets the station and its peer act until nothing moves. A peer answers only to a close, and only
once. -/
def exchange (s : Station) (p : Peer) : Station × Peer :=
  exchangeFor 3 s p

end Station

end TrialFarm
