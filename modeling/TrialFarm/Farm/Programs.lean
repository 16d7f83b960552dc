import TrialFarm.Farm.Usage

/-!
# The programs of a farm

A farm consists of three programs: the manager, which a person starts, the server, which the
manager starts, and the workers. What each can be told on its command line is fixed here.

## Main definitions

* `ManagerOptions`, `ServerOptions`, `WorkerOptions`: what the programs are told.
* `ManagerOptions.usage`, `ServerOptions.usage`, `WorkerOptions.usage`: how they are told.
-/

namespace TrialFarm

/-- The option that names a configuration file. -/
def configOption (summary : String) : Opt := ⟨none, "config", .path, false, none, summary⟩

/-- What the manager is told. -/
structure ManagerOptions where
  /-- The name of the run. -/
  name : String
  /-- The file that the report also goes to. -/
  output : Option String
  config : Option String
  verbosity : Nat
  deriving DecidableEq, Repr

namespace ManagerOptions

/-- The command line of the manager. -/
def usage : Usage where
  name := "satfarm"
  summary := "Distributed probSAT manager"
  operand := some ("NAME", "Name of this run; workers find the server under it")
  options :=
    [⟨some 'o', "output", .path, false, none,
        "Also write reports (without the \x60c \x60 prefix) to this file"⟩,
      configOption "Configuration file, passed on to server and workers", .verbose]

/-- What a command line tells the manager. -/
def of (g : Given) : ManagerOptions :=
  ⟨g.operands.headD "", g.value? "output", g.value? "config", g.verbosity⟩

end ManagerOptions

/-- What a server is told. -/
structure ServerOptions where
  /-- The address of the manager. -/
  manager : String
  name : String
  /-- The address to accept workers on. -/
  bind : String
  /-- The host that workers are told instead of that of the address. -/
  advertise : Option String
  config : Option String
  deriving DecidableEq, Repr

namespace ServerOptions

/-- The address that a server accepts workers on unless it is told another. -/
def standardBind : String := "127.0.0.1:0"

/-- The command line of a server. -/
def usage : Usage where
  name := "satfarm-daemon"
  summary := "Server process of a satfarm run"
  operand := none
  options :=
    [⟨none, "manager", .text, true, none, "Address of the manager that started this server"⟩,
      ⟨none, "name", .text, true, none, "Name to publish the worker address under"⟩,
      ⟨none, "bind", .text, false, some standardBind, "Address to accept workers on"⟩,
      ⟨none, "advertise", .text, false, none,
        "Host workers should use instead of the bound address"⟩,
      configOption "Configuration file", .verbose]

/-- What a command line tells a server. -/
def of (g : Given) : ServerOptions :=
  ⟨g.value "manager" "", g.value "name" "", g.value "bind" standardBind, g.value? "advertise",
    g.value? "config"⟩

end ServerOptions

/-- What a worker is told. -/
structure WorkerOptions where
  /-- The name of the server. -/
  name : String
  /-- The address of the server, if it need not be looked up. -/
  server : Option String
  config : Option String
  /-- The number of threads, if it is not that of the configuration. -/
  threads : Option UInt64
  deriving DecidableEq, Repr

namespace WorkerOptions

/-- The command line of a worker. -/
def usage : Usage where
  name := "satfarm-worker"
  summary := "Worker process of a satfarm run"
  operand := none
  options :=
    [⟨none, "name", .text, true, none, "Name the server published its address under"⟩,
      ⟨none, "server", .text, false, none,
        "Connect to this address instead of looking the name up"⟩,
      configOption "Configuration file",
      ⟨none, "threads", .number, false, none, "Solver threads (overrides the configuration)"⟩,
      .verbose]

/-- What a command line tells a worker. -/
def of (g : Given) : WorkerOptions where
  name := g.value "name" ""
  server := g.value? "server"
  config := g.value? "config"
  threads := (g.value? "threads").bind fun text =>
    match Integer.readNatural (UInt64.size - 1) text.toList with
    | .ok n => some (UInt64.ofNat n)
    | .error _ => none

end WorkerOptions

end TrialFarm
