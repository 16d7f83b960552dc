/-!
# Errors of a farm

Every failure that leaves the library is an `Error`: one of nine kinds with a detail text. A
module that can say more precisely what went wrong has an inductive type of its own causes and
turns them into an `Error` at its border. A step may also crash, which is not handed on but ends
the thread that the step runs on.

## Main definitions

* `Direction`: the four directed channels, which protocol violations name.
* `Error`: the nine kinds of failure, and crashes.
* `Error.message`: the text shown for an error.
-/

namespace TrialFarm

/-- The directed channels between manager, server and worker. -/
inductive Direction where
  | managerToServer
  | serverToManager
  | serverToWorker
  | workerToServer
  deriving DecidableEq, Repr, Inhabited

/-- The short name of a channel, as errors show it. -/
def Direction.code : Direction → String
  | .managerToServer => "M2S"
  | .serverToManager => "S2M"
  | .serverToWorker => "S2W"
  | .workerToServer => "W2S"

/-- A failure, by kind. -/
inductive Error where
  /-- A peer sent something the protocol does not allow. -/
  | protocol (channel : Direction) (detail : String)
  /-- The scheduling counts no longer add up. -/
  | inconsistent (detail : String)
  /-- A request was refused and changed nothing. -/
  | rejected (detail : String)
  /-- The transport below the messages failed. -/
  | transport (detail : String)
  /-- The peer went away before the exchange was over. -/
  | disconnected (detail : String)
  /-- The operating system refused an operation. -/
  | io (detail : String)
  /-- Text could not be understood. -/
  | parse (detail : String)
  /-- The configuration is unusable. -/
  | config (detail : String)
  /-- A step failed that should not fail. -/
  | internal (detail : String)
  /-- A step ended its thread instead of giving an answer. -/
  | crash (detail : String)
  deriving DecidableEq, Repr, Inhabited

namespace Error

/-- The text shown for an error: a heading for its kind, then the detail. -/
def message : Error → String
  | protocol channel detail => "Protocol violation on " ++ channel.code ++ ": " ++ detail
  | inconsistent detail => "Inconsistent scheduling state: " ++ detail
  | rejected detail => "Request rejected: " ++ detail
  | transport detail => "Transport error: " ++ detail
  | disconnected detail => "Peer disconnected: " ++ detail
  | io detail => "I/O error: " ++ detail
  | parse detail => "Parse error: " ++ detail
  | config detail => "Configuration error: " ++ detail
  | internal detail => "Internal error: " ++ detail
  | crash detail => "Panic: " ++ detail

/-- The text of an error followed by that of its cause, where it has one. -/
def chain (e : Error) : String :=
  match e with
  | io detail => e.message ++ ": " ++ detail
  | e => e.message

/-- The name of an error's kind. -/
def kindName : Error → String
  | protocol .. => "Protocol"
  | inconsistent _ => "Inconsistent"
  | rejected _ => "Rejected"
  | transport _ => "Transport"
  | disconnected _ => "Disconnected"
  | io _ => "Io"
  | parse _ => "Parse"
  | config _ => "Config"
  | internal _ => "Internal"
  | crash _ => "Panic"

/-- Whether the error is the fault of a misbehaving peer. -/
def isProtocol : Error → Bool
  | protocol .. => true
  | _ => false

end Error

end TrialFarm
