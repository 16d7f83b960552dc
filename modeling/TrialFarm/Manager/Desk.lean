import TrialFarm.Files
import TrialFarm.Manager.Launch
import TrialFarm.Manager.Session
import TrialFarm.Wire.Peer

/-!
# Desks

A desk is a session with its input and its line to the server. Left alone it moves as long as it
can: it reads the lines of its input, and it receives what waits on its line.

## Main definitions

* `Surroundings`: what the session of a desk acts on.
* `Desk`: a session, its input and its surroundings.
* `Desk.settle`: all events that need nobody else.
-/

namespace TrialFarm

open Wire

/-- What the session of a desk acts on. -/
structure Surroundings where
  line : Line ReportMessage ManagerMessage
  /-- The arguments of the workers that were started and that nobody has looked at yet, in order. -/
  started : List (List String)
  /-- Why no worker can be started with arguments, if so. -/
  launchFault : List String → Option Error
  files : Files

namespace Surroundings

/-- Sends a message on the line. -/
def send (n : Surroundings) (m : ManagerMessage) : Surroundings × Except Error Unit :=
  let (line, r) := n.line.send m
  ({ n with line := line }, r)

/-- Starts a worker, or tells why it cannot. -/
def start (arguments : List String) (n : Surroundings) : Surroundings × Except Error Unit :=
  match n.launchFault arguments with
  | some e => (n, .error e)
  | none => ({ n with started := n.started ++ [arguments] }, .ok ())

/-- Starts workers. -/
def launch (n : Surroundings) (count : UInt32) (arguments : List String) :
    Surroundings × Except Error Unit :=
  startEach (start arguments) count.toNat n

/-- The office of a desk. -/
def office : Office Surroundings where
  send := send
  close n := { n with line := n.line.close.1 }
  launch := launch
  resolve n path := n.files.resolve path

end Surroundings

/-- A session, its input and its surroundings. -/
structure Desk where
  /-- How the session acts on its surroundings. -/
  office : Office Surroundings
  session : Session
  surroundings : Surroundings
  /-- Input that was not read yet. -/
  input : List UInt8
  /-- Whether more input may come. -/
  inputOpen : Bool

namespace Desk

/-- A desk that has just connected. -/
def fresh (office : Office Surroundings) (settings : SessionSettings)
    (launchFault : List String → Option Error) (files : Files) : Desk :=
  ⟨office, Session.start settings, ⟨Line.fresh true, [], launchFault, files⟩, [], true⟩

/-- Applies an event. -/
def apply (d : Desk) (event : SessionEvent) : Desk :=
  let (session, surroundings) := d.session.step d.office d.surroundings event
  { d with session := session, surroundings := surroundings }

/-- Adds to the input. -/
def type (d : Desk) (bytes : List UInt8) : Desk :=
  if d.inputOpen then { d with input := d.input ++ bytes } else d

/-- Ends the input. -/
def endInput (d : Desk) : Desk :=
  { d with inputOpen := false }

/-- The event of a whole line, which ends at its line feed. A line that is no text ends the
input. -/
def lineEvent (bytes : List UInt8) : SessionEvent :=
  match Utf8.decode bytes with
  | .ok text => .line text
  | .error _ => .inputEnded

/-- Reads the next line of the input. The last line need not end with a line feed. -/
def readLine (d : Desk) : Option Desk :=
  match d.input.span (· != 10) with
  | (bytes, _ :: rest) => some ({ d with input := rest }.apply (lineEvent bytes))
  | (bytes, []) =>
    if d.inputOpen then none
    else if bytes.isEmpty then some (d.apply .inputEnded)
    else some ({ d with input := [] }.apply (lineEvent bytes))

/-- Looks at the line to the server. The answer also tells whether anything was there. -/
def listen (d : Desk) : Desk × Bool :=
  let (line, arrival) := d.surroundings.line.receive
  let d := { d with surroundings := { d.surroundings with line := line } }
  match arrival with
  | .nothing => (d, false)
  | arrival => (d.apply (.received arrival), true)

/-- The desk after the next event that needs nobody else, and whether there was one. -/
def nextEvent (d : Desk) : Desk × Bool :=
  match d.session.stage with
  | .commanding =>
    match d.readLine with
    | some d => (d, true)
    | none => d.listen
  | .waiting | .leaving => d.listen
  | .ended _ => (d, false)

/-- At most `fuel` such events. -/
def settleFor : Nat → Desk → Desk
  | 0, d => d
  | fuel + 1, d =>
    match d.nextEvent with
    | (d, false) => d
    | (d, true) => settleFor fuel d

/-- All such events. Each of them takes up some input or something that waits on the line. -/
def settle (d : Desk) : Desk :=
  settleFor (d.input.length + d.surroundings.line.link.waiting.length + 3) d

/-- Whether the desk waits for the server to leave within a limited time. -/
def isLeaving (d : Desk) : Bool :=
  match d.session.stage with
  | .leaving => true
  | _ => false

/-- The result of the session, once it has ended. -/
def result? (d : Desk) : Option (Except Error Unit) :=
  match d.session.stage with
  | .ended result => some result
  | _ => none

/-- Lets the desk and the peer at the other end of its line act until nothing moves. A server that
need not leave at once is given all the time it wants. -/
def exchange (d : Desk) (p : Peer) : Desk × Peer :=
  let d := d.settle
  let d := if d.isLeaving && d.session.settings.shutdownMillis = 0 then d.apply .timeout else d
  let (p, line) := p.relay d.surroundings.line
  ({ d with surroundings := { d.surroundings with line := line } }, p)

end Desk

end TrialFarm
