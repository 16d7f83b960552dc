import TrialFarm.Manager.Command
import TrialFarm.Manager.Report
import TrialFarm.Manager.Summary
import TrialFarm.Wire.Line

/-!
# Sessions of the manager

A session carries out the commands of its input and reports what the server sends. A solution makes
it wait for the end of the run, and it stops once the server has left, at the end of its input, or
when it is told to.

A session is a machine: each line of input and each arrival from the server is one step of it, and
the two may come in any order.

## Main definitions

* `SessionStage`: what the session is doing.
* `Session`: the state of the machine.
* `Office`: how a session sends, launches and looks up paths.
* `Session.step`: the effect of an event.
-/

namespace TrialFarm

open Wire

/-- The settings of a session. -/
structure SessionSettings where
  /-- Most workers announced at once. -/
  maxConnections : UInt32
  /-- Milliseconds that the server has to leave after it was told to. -/
  shutdownMillis : UInt64
  deriving DecidableEq, Repr

/-- What a session is doing. -/
inductive SessionStage where
  /-- Takes commands, and whatever the server sends in between. -/
  | commanding
  /-- Waits for the server to leave. -/
  | waiting
  /-- Has told the server to end the run and waits for it to leave. -/
  | leaving
  | ended (result : Except Error Unit)
  deriving Repr

/-- The state of a session. -/
structure Session where
  settings : SessionSettings
  stage : SessionStage
  summary : RunSummary
  solutionFound : Bool
  /-- Whether the server has left. -/
  serverGone : Bool
  /-- What was written and nobody has printed yet, in order. -/
  written : List Entry
  deriving Repr

/-- What can happen to a session. -/
inductive SessionEvent where
  /-- The next line of input. -/
  | line (text : String)
  /-- There is no more input, or it cannot be read. -/
  | inputEnded
  /-- A look at the connection to the server finds something, or nothing. -/
  | received (arrival : Arrival ReportMessage)
  /-- The time that the server has to leave is over. -/
  | timeout
  deriving Repr

/-- How a session acts on surroundings of some type. -/
structure Office (ν : Type) extends Sender ManagerMessage ν where
  /-- Starts workers with arguments. -/
  launch : ν → UInt32 → List String → ν × Except Error Unit
  /-- The full path of a file, or the path as it is if it leads nowhere. -/
  resolve : ν → String → String

namespace Session

/-- A session that has just connected. -/
def start (settings : SessionSettings) : Session where
  settings := settings
  stage := .commanding
  summary := RunSummary.empty
  solutionFound := false
  serverGone := false
  written := []

/-- Writes something. -/
def write (s : Session) (entries : List Entry) : Session :=
  { s with written := s.written ++ entries }

/-- Takes what was written. -/
def takeWritten (s : Session) : List Entry × Session :=
  (s.written, { s with written := [] })

/-- Stops with a result. -/
def finish (s : Session) (result : Except Error Unit) : Session :=
  { s with stage := .ended result }

/-- Records a message of the server in the summary and in the report. -/
def record (s : Session) : ReportMessage → Session
  | .foundSolution solution =>
    { s with
      solutionFound := true
      summary := s.summary.addSolution solution }.write (Entry.block (solutionLines solution))
  | .sendStatistics file statistics =>
    { s with summary := s.summary.addStatistics statistics }.write
      (Entry.block (fileLines file statistics))
  | .disconnect => { s with serverGone := true }

/-- The numbers of workers that are announced one after the other: as many as allowed each time
until all are announced. If none are allowed, announcing would never end; a valid configuration
rules that out (`Config.maxConnections_pos`), and there are no numbers here. -/
def chunks (most left : Nat) : List Nat :=
  if _h : left = 0 ∨ most = 0 then []
  else min left most :: chunks most (left - min left most)
termination_by left
decreasing_by omega

variable {ν : Type} (office : Office ν)

/-- Sends a message, unless the server has left. -/
def send (s : Session) (n : ν) (m : ManagerMessage) : ν × Except Error Unit :=
  if s.serverGone then (n, .error (.disconnected "the server has already left"))
  else office.send n m

/-- Announces some workers and starts them. -/
def addChunk (s : Session) (n : ν) (arguments : List String) (count : Nat) :
    ν × Except Error Unit :=
  if 0x80000000 ≤ count then
    (n, .error (.rejected ("cannot announce " ++ toString count ++ " workers at once")))
  else
    match send office s n (.addWorkers (Int32.ofNat count)) with
    | (n, .error e) => (n, .error e)
    | (n, .ok ()) => office.launch n (UInt32.ofNat count) arguments

/-- Announces and starts workers, some at a time, up to the first failure. -/
def addChunks (s : Session) (n : ν) (arguments : List String) :
    List Nat → ν × Except Error Unit
  | [] => (n, .ok ())
  | count :: rest =>
    match addChunk office s n arguments count with
    | (n, .error e) => (n, .error e)
    | (n, .ok ()) => addChunks s n arguments rest

/-- Announces and starts workers, unless a solution was found. -/
def addWorkers (s : Session) (n : ν) (count : UInt32) (arguments : List String) :
    ν × Except Error Unit :=
  if s.solutionFound then (n, .ok ())
  else addChunks office s n arguments (chunks s.settings.maxConnections.toNat count.toNat)

/-- Submits a file under its full path, unless a solution was found. -/
def addFile (s : Session) (n : ν) (startConfigs maxFlips : UInt32) (path : String) :
    ν × Except Error Unit :=
  if s.solutionFound then (n, .ok ())
  else send office s n (.addFile ⟨startConfigs, maxFlips, office.resolve n path⟩)

/-- Goes on after a command that failed. Only a broken connection ends the session; other failures
concern the command alone. -/
def afterFailure (s : Session) (e : Error) : Session :=
  match e with
  | .protocol .. | .transport _ => s.finish (.error e)
  | _ => s

/-- Goes on after a command that sends. -/
def afterSending (s : Session) (outcome : ν × Except Error Unit) : Session × ν :=
  match outcome with
  | (n, .ok ()) => (s, n)
  | (n, .error e) => (s.afterFailure e, n)

/-- Starts to wait for the server, unless it has left. -/
def wait (s : Session) : Session :=
  if s.serverGone then s.finish (.ok ()) else { s with stage := .waiting }

/-- Tells the server to end the run, unless it has left. -/
def leave (s : Session) (n : ν) : Session × ν :=
  if s.serverGone then (s.finish (.ok ()), n)
  else ({ s with stage := .leaving }, (office.send n .terminate).1)

/-- Carries out a command. -/
def execute (s : Session) (n : ν) : Command → Session × ν
  | .help => (s.write [.notice (Command.overview ++ "\n")], n)
  | .addWorkers count arguments => afterSending s (addWorkers office s n count arguments)
  | .addFile startConfigs maxFlips path =>
    afterSending s (addFile office s n startConfigs maxFlips path)
  | .waitForServer => (s.wait, n)
  | .exit => leave office s n

/-- Carries out the command on a line. Lines without a command are passed over. -/
def onLine (s : Session) (n : ν) (text : String) : Session × ν :=
  match Command.parse text with
  | .ok (some command) => execute office s n command
  | _ => (s, n)

/-- Closes the connection at the end of the session. -/
def close (s : Session) (n : ν) : Session × ν :=
  (s.finish (.ok ()), office.close n)

/-- Applies what arrived while the session takes commands. -/
def onArrivalCommanding (s : Session) : Arrival ReportMessage → Session
  | .nothing => s
  | .message .disconnect | .closed => { s with serverGone := true }.finish (.ok ())
  | .message (.foundSolution solution) => (s.record (.foundSolution solution)).wait
  | .message m => s.record m
  | .failed e => s.finish (.error e)

/-- Applies what arrived while the session waits for the server. A failure is one of the command to
wait: where it does not end the session, commands are taken again. -/
def onArrivalWaiting (s : Session) : Arrival ReportMessage → Session
  | .nothing => s
  | .message .disconnect | .closed => { s with serverGone := true }.finish (.ok ())
  | .message m => s.record m
  | .failed e => { s with stage := .commanding }.afterFailure e

/-- Applies what arrived after the server was told to end the run. A connection that fails now is
as good as closed. -/
def onArrivalLeaving (s : Session) (n : ν) : Arrival ReportMessage → Session × ν
  | .nothing => (s, n)
  | .message .disconnect | .closed => close office { s with serverGone := true } n
  | .message m => (s.record m, n)
  | .failed _ => close office s n

/-- The effect of an event. An event that cannot happen now has none. -/
def step (s : Session) (n : ν) (event : SessionEvent) : Session × ν :=
  match s.stage, event with
  | .commanding, .line text => onLine office s n text
  | .commanding, .inputEnded => leave office s n
  | .commanding, .received arrival => (s.onArrivalCommanding arrival, n)
  | .waiting, .received arrival => (s.onArrivalWaiting arrival, n)
  | .leaving, .received arrival => onArrivalLeaving office s n arrival
  | .leaving, .timeout => close office s n
  | _, _ => (s, n)

end Session

end TrialFarm
