import TrialFarm.Config
import TrialFarm.Farm.Disk
import TrialFarm.Farm.Programs

/-!
# Connecting

How the programs of a farm find their configuration and each other, and why they may fail to.

## Main definitions

* `configFor`, `workerConfig`: the configuration of a program.
* `findServer`: the address of the server that a worker looks for.
* `hostOf`, `socketOf`: the parts of an address.
* `connectFault`: why nobody can be connected to.
-/

namespace TrialFarm

/-- The directory in which servers meet their workers unless the configuration names one. -/
def temporaryRendezvous : String := "/tmp/satfarm"

/-- The configuration of a program: that of the file it is told, or else that of the file its
surroundings tell. -/
def configFor (files : Files) (own common : Option String) : Except Error Config :=
  match own.or common with
  | none => .ok Config.standard
  | some path => Config.load files path

/-- The configuration of a worker. Threads that it is told of count more than the file. -/
def workerConfig (files : Files) (o : WorkerOptions) (common : Option String) :
    Except Error Config :=
  match configFor files o.config common with
  | .error e => .error e
  | .ok c =>
    let c := { c with worker := { c.worker with threads := o.threads.getD c.worker.threads } }
    match c.validate with
    | .error e => .error e
    | .ok () => .ok c

/-- The address of the server that a worker is told of or looks up, or why there is none. -/
def findServer (d : Disk) (o : WorkerOptions) (c : Config) : Except String String :=
  match o.server with
  | some address => .ok address
  | none =>
    match Rendezvous.of (c.rendezvousDir temporaryRendezvous) o.name with
    | .error e => .error e.chain
    | .ok r =>
      let found := ((d.folder r.dir).mapError Rendezvous.refused).bind
        (r.lookup (Span.ofSecs c.worker.lookupTimeoutSecs))
      found.mapError fun e => "locating server " ++ o.name ++ ": " ++ e.chain

/-- The host of an address. -/
def hostOf (address : String) : String :=
  String.ofList (((address.toList.reverse.dropWhile (· != ':')).drop 1).reverse)

/-- The socket number of an address. -/
def socketOf (address : String) : String :=
  String.ofList ((address.toList.reverse.takeWhile (· != ':')).reverse)

/-- Whether a host is this one. -/
def isHere (host : String) : Bool :=
  ["127.0.0.1", "localhost", "0.0.0.0"].contains host

/-- Why nobody can be connected to at an address, while nobody is there. -/
def connectFault (address : String) : String :=
  if !address.toList.contains ':' then "invalid socket address"
  else if !(Integer.readNatural 65535 (socketOf address).toList).isOk then "invalid port value"
  else if (hostOf address).toList.contains '\x00' then Refusal.zeroByte.message
  else "Connection refused (os error 111)"

/-- The failure to connect. -/
def notConnected (whom address : String) : String :=
  "connecting to " ++ whom ++ ": " ++ (Error.io (connectFault address)).chain

end TrialFarm
