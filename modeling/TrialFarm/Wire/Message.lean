import TrialFarm.Wire.Record
import TrialFarm.Wire.Window

/-!
# Messages

Each of the four directed channels has its own set of messages, told apart by tags. Tag 0 is never
valid and tag 1 is the announcement of a larger payload, which belongs to the channel and is no
message.

## Main definitions

* `ManagerMessage`, `ReportMessage`, `ServerMessage`, `WorkerMessage`: the four sets.
* `MessageSet`: what all sets have in common: a channel, tags, bounds and payloads.
* `Wire.toPayload`, `Wire.fromPayload`: messages as payloads.
-/

namespace TrialFarm

open Wire

/-- Commands of the manager to the server. -/
inductive ManagerMessage where
  /-- Announces that workers will connect. -/
  | addWorkers (count : Int32)
  /-- Submits a file. -/
  | addFile (file : TaskFile)
  /-- Stops the whole run. -/
  | terminate
  deriving DecidableEq, Repr, Inhabited

/-- Reports of the server to the manager. -/
inductive ReportMessage where
  /-- A worker found a solution. -/
  | foundSolution (solution : Solution)
  /-- The final statistics of one file. -/
  | sendStatistics (file : TaskFile) (statistics : Statistics)
  /-- The server has shut down. -/
  | disconnect
  deriving DecidableEq, Repr, Inhabited

/-- Commands of the server to a worker. -/
inductive ServerMessage where
  /-- There is work; start to ask for it. -/
  | activate
  /-- The answer to a request, possibly without a batch. -/
  | sendInstances (batches : List Batch)
  /-- Finish the running trials, report them and leave. -/
  | terminate
  deriving DecidableEq, Repr, Inhabited

/-- Reports and requests of a worker. -/
inductive WorkerMessage where
  /-- A trial found a solution. -/
  | foundSolution (solution : Solution)
  /-- Trials of a task ended. -/
  | doneProcessing (record : TrialRecord)
  /-- Asks for up to so many trials. -/
  | getInstances (requested : UInt32)
  /-- The worker leaves. -/
  | disconnect
  deriving DecidableEq, Repr, Inhabited

namespace Wire

/-- The name of a kind of message and the sizes its payload may have. -/
structure Kind where
  name : String
  bounds : Bounds
  deriving DecidableEq, Repr

/-- A set of messages for one channel. -/
class MessageSet (μ : Type) where
  /-- The channel of the set. -/
  channel : Direction
  /-- The tag of a message. -/
  tag : μ → Int32
  /-- What is known of a tag, unless it belongs to no message. -/
  describe : Int32 → Option Kind
  /-- The layout of the fields of a message. -/
  body : μ → Bytes
  /-- Reads the fields of the message with a known tag; `none` for any other tag. -/
  parse : Int32 → Bytes → Option (Except Malformed μ)

/-- The payload of a message. -/
def toPayload {μ : Type} [MessageSet μ] (m : μ) : Except Error Bytes :=
  limited (MessageSet.channel μ) (MessageSet.body m)

/-- The protocol violation of a tag that no message has. -/
def unknownTag (channel : Direction) (tag : Int32) : Error :=
  .protocol channel ("unknown tag " ++ toString tag.toInt)

/-- Reads the message with a given tag and payload. A message without fields ignores its payload
here; only the receive window checks it. -/
def decodePayload {μ : Type} [MessageSet μ] (tag : Int32) (payload : Bytes) : Except Error μ :=
  match MessageSet.parse tag payload with
  | none => .error (unknownTag (MessageSet.channel μ) tag)
  | some outcome => outcome.mapError (malformed (MessageSet.channel μ))

/-- Reads a message whose tag must be described by its set. -/
def fromPayload {μ : Type} [MessageSet μ] (tag : Int32) (payload : Bytes) : Except Error μ :=
  if (MessageSet.describe μ tag).isNone then .error (unknownTag (MessageSet.channel μ) tag)
  else decodePayload tag payload

/-- The name of the kind of a message. -/
def kindName {μ : Type} [MessageSet μ] (m : μ) : String :=
  match MessageSet.describe μ (MessageSet.tag m) with
  | some kind => kind.name
  | none => "UNKNOWN"

/-- Reads all the bytes as a value and makes a message of it. -/
def parseAs {α μ : Type} [Layout α] (make : α → μ) (payload : Bytes) : Except Malformed μ :=
  (readAll payload).map make

instance : MessageSet ManagerMessage where
  channel := .managerToServer
  tag
    | .addWorkers _ => 2
    | .addFile _ => 3
    | .terminate => 4
  describe tag :=
    if tag = 2 then some ⟨"ADD_WORKERS", .exact 4⟩
    else if tag = 3 then some ⟨"ADD_FILE", .atLeast TaskFile.minEncodedLen⟩
    else if tag = 4 then some ⟨"TERMINATE", .exact 0⟩
    else none
  body
    | .addWorkers count => write count
    | .addFile file => write file
    | .terminate => []
  parse tag payload :=
    if tag = 2 then some (parseAs .addWorkers payload)
    else if tag = 3 then some (parseAs .addFile payload)
    else if tag = 4 then some (.ok .terminate)
    else none

instance : MessageSet ReportMessage where
  channel := .serverToManager
  tag
    | .foundSolution _ => 2
    | .sendStatistics _ _ => 3
    | .disconnect => 4
  describe tag :=
    if tag = 2 then some ⟨"FOUND_SOLUTION", .atLeast Solution.minEncodedLen⟩
    else if tag = 3 then
      some ⟨"SEND_STATISTICS", .atLeast (TaskFile.minEncodedLen + Statistics.encodedLen)⟩
    else if tag = 4 then some ⟨"DISCONNECT", .exact 0⟩
    else none
  body
    | .foundSolution solution => write solution
    | .sendStatistics file statistics => write (file, statistics)
    | .disconnect => []
  parse tag payload :=
    if tag = 2 then some (parseAs .foundSolution payload)
    else if tag = 3 then some (parseAs (fun (f, s) => .sendStatistics f s) payload)
    else if tag = 4 then some (.ok .disconnect)
    else none

/-- The size of a grant without batches. -/
def emptyGrantLen : Nat := prefixedLen 0

instance : MessageSet ServerMessage where
  channel := .serverToWorker
  tag
    | .activate => 2
    | .sendInstances _ => 3
    | .terminate => 4
  describe tag :=
    if tag = 2 then some ⟨"ACTIVATE", .exact 0⟩
    else if tag = 3 then some ⟨"SEND_INSTANCES", .atLeast emptyGrantLen⟩
    else if tag = 4 then some ⟨"TERMINATE", .exact 0⟩
    else none
  body
    | .activate => []
    | .sendInstances batches => write batches
    | .terminate => []
  parse tag payload :=
    if tag = 2 then some (.ok .activate)
    else if tag = 3 then some (parseAs .sendInstances payload)
    else if tag = 4 then some (.ok .terminate)
    else none

instance : MessageSet WorkerMessage where
  channel := .workerToServer
  tag
    | .foundSolution _ => 2
    | .doneProcessing _ => 3
    | .getInstances _ => 4
    | .disconnect => 5
  describe tag :=
    if tag = 2 then some ⟨"FOUND_SOLUTION", .atLeast Solution.minEncodedLen⟩
    else if tag = 3 then some ⟨"DONE_PROCESSING", .exact TrialRecord.encodedLen⟩
    else if tag = 4 then some ⟨"GET_INSTANCES", .exact 4⟩
    else if tag = 5 then some ⟨"DISCONNECT", .exact 0⟩
    else none
  body
    | .foundSolution solution => write solution
    | .doneProcessing record => write record
    | .getInstances requested => write requested
    | .disconnect => []
  parse tag payload :=
    if tag = 2 then some (parseAs .foundSolution payload)
    else if tag = 3 then some (parseAs .doneProcessing payload)
    else if tag = 4 then some (parseAs .getInstances payload)
    else if tag = 5 then some (.ok .disconnect)
    else none

end Wire

end TrialFarm
