import TrialFarm.Farm.Run

/-!
# Conducting a run

What the manager does from its configuration to the end of its session: it creates the file for its
report, starts a server, waits for it to connect, and leads a session.

## Main definitions

* `Scene`: what a program finds when it is started.
* `serve`: what becomes of a server that has connected.
* `Failure`: why a program did not come to work.
* `Conducted`: a session that has ended.
* `conduct`: the manager up to the end of its session.
-/

namespace TrialFarm

open Wire

/-- What a program finds when it is started. -/
structure Scene where
  disk : Disk
  /-- The standard input. -/
  input : List UInt8
  /-- The configuration file of programs that are told of none. -/
  config : Option String
  /-- Where the randomness starts. -/
  seed : UInt64
  deriving Repr

variable {m : Type → Type} [Monad m]

/-- A server that the manager has started and that has connected. -/
structure Outset where
  host : Host
  address : String
  /-- Where the server is published. -/
  meeting : Rendezvous
  /-- The place of the directory in which it is published. -/
  place : Place
  disk : Disk

/-- The address of the manager, which only its server is told. -/
def managerAddress : String := "127.0.0.1:40000"

/-- The socket of a server that may choose one. -/
def serverSocket : String := "40001"

/-- The number of the server's process. -/
def serverProcess : Nat := 1000

/-- The socket that a server is bound to, if it can be. -/
def boundSocket? (o : ServerOptions) : Option String :=
  let socket := socketOf o.bind
  if o.bind.toList.contains ':' && isHere (hostOf o.bind)
      && (Integer.readNatural 65535 socket.toList).isOk then
    some (if socket = "0" then serverSocket else socket)
  else none

/-- What becomes of a server that has connected to its manager. It may fail at once. -/
def serve (d : Disk) (o : ServerOptions) (c : Config) : Option Outset := do
  let socket ← boundSocket? o
  let address := (o.advertise.getD (hostOf o.bind)) ++ ":" ++ socket
  let r ← (Rendezvous.of (c.rendezvousDir temporaryRendezvous) o.name).toOption
  let d ← (d.makeFolders r.dir).toOption
  let here ← (d.locateFolder r.dir).toOption
  let (folder, published) := r.publish serverProcess address (d.folderAt here)
  let _ ← published.toOption
  return ⟨Host.fresh c.server, "127.0.0.1:" ++ socket, r, here, d.setFolder here folder⟩

/-- The configuration and the options of a server that comes so far as to connect. -/
def serverComes (d : Disk) (e : Executable) (arguments : List String) (common : Option String) :
    Option (ServerOptions × Config) := do
  let (.server, arguments) ← e.becomes arguments | none
  let .given g := ServerOptions.usage.read arguments | none
  let o := ServerOptions.of g
  if o.manager != managerAddress then none
  let c ← (configFor d.view o.config common).toOption
  return (o, c)

/-- What the manager starts with arguments: a program that was configured, or one of the farm's
own. -/
def executableOf (d : Disk) (configured : Option String) (role : Role) (arguments : List String) :
    Except Error Executable :=
  match configured with
  | none => Executable.start (.ok (.program role)) role.name arguments
  | some path => Executable.start (Executable.find d.view path) path arguments

/-- The farm at the beginning of the session. A server that failed at once leaves a line that leads
nowhere. -/
def farmOf (s : Scene) (c : Config) (i : Inherited) (d : Disk) (o : Option Outset) : Farm :=
  let worker (own : List String) : Except Error Executable :=
    executableOf d c.manager.workerBinary .worker (i.workerArguments own)
  let fault (own : List String) : Option Error :=
    match worker own with
    | .error e => some e
    | .ok _ => none
  let settings : SessionSettings :=
    ⟨c.manager.maxConnections, UInt64.ofNat (1000 * c.manager.shutdownTimeoutSecs.toNat)⟩
  let disk := (o.map Outset.disk).getD d
  let desk := Desk.fresh Surroundings.office settings fault disk.view
  let desk := (desk.type s.input).endInput
  { desk :=
      if o.isSome then desk
      else
        let line := desk.surroundings.line.vanish
        { desk with surroundings := { desk.surroundings with line := line } }
    host := (o.map Outset.host).getD (Host.fresh c.server)
    address := (o.map Outset.address).getD ""
    acceptMillis := 1000 * c.server.acceptTimeoutSecs.toNat
    hands := []
    recruiter := ⟨fun own => (worker own).toOption, i, s.config⟩
    disk := disk
    random := Random.ofSeed s.seed
    moved := false }

/-- A program that failed before its work had begun. -/
structure Failure where
  /-- What was printed up to then. -/
  printed : String
  reason : String

/-- A failure of a program that has printed nothing. -/
def Failure.quiet (reason : String) : Failure := ⟨"", reason⟩

/-- A session that has ended, and what is needed to report it. -/
structure Conducted where
  result : Except Error Unit
  /-- What was printed before the session. -/
  before : List Entry
  session : Session
  disk : Disk

/-- Withdraws the publication of a server that has ended. -/
def withdraw (d : Disk) : Option Outset → Disk
  | none => d
  | some o => d.setFolder o.place (o.meeting.unpublish (d.folderAt o.place)).1

/-- The session of a manager whose server has connected. -/
def leadSession (make : Maker m) (s : Scene) (c : Config) (i : Inherited) (d : Disk)
    (before : List Entry) (o : ServerOptions) (serverConfig : Config) : m Conducted := do
  let outset := serve d o serverConfig
  let f ← (farmOf s c i d outset).run make
  return ⟨f.desk.result?.getD (.ok ()), before, f.desk.session, withdraw f.disk outset⟩

/-- The manager starts its server and leads a session with it. A manager that does not wait for its
server sees nothing of what that prints. -/
def lead (make : Maker m) (s : Scene) (d : Disk) (o : ManagerOptions) (c : Config) :
    m (Except Failure Conducted) := do
  let i : Inherited := ⟨o.name, o.config, UInt8.ofNat o.verbosity⟩
  let arguments := i.serverArguments managerAddress
  match executableOf d c.manager.serverBinary .server arguments with
  | .error e => return .error (.quiet e.chain)
  | .ok e =>
    let tooLate := "server did not connect in time: deadline has elapsed"
    if c.manager.connectTimeoutSecs == 0 then return .error (.quiet tooLate)
    let printed := e.printed arguments
    match serverComes d e arguments s.config with
    | none => return .error ⟨printed, tooLate⟩
    | some (serverOptions, serverConfig) =>
      return .ok (← leadSession make s c i d [.notice printed] serverOptions serverConfig)

/-- The manager up to the end of its session. The answer to a failure also holds the disk. -/
def conduct (make : Maker m) (s : Scene) (o : ManagerOptions) :
    m (Disk × Except Failure Conducted) := do
  match configFor s.disk.view o.config s.config with
  | .error e => return (s.disk, .error (.quiet e.chain))
  | .ok c =>
    match o.output with
    | none => return (s.disk, ← lead make s s.disk o c)
    | some path =>
      match s.disk.write path [] with
      | .error refusal =>
        let reason := "creating output file " ++ path ++ ": " ++ refusal.message
        return (s.disk, .error (.quiet reason))
      | .ok d => return (d, ← lead make s d o c)

end TrialFarm
