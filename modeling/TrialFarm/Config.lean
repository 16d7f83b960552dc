import TrialFarm.Error
import TrialFarm.Files
import TrialFarm.Search.Weight
import TrialFarm.Span
import TrialFarm.Toml.Document

/-!
# Configuration

One document configures manager, server and workers. Every field has a default, so that an empty
document is a configuration.

## Main definitions

* `ServerConfig`, `WorkerConfig`, `ManagerConfig`: the three sections.
* `Config`: a whole configuration.
* `Config.ofText`: the configuration of a document.
* `Config.validate`: the conditions that fields must meet.
-/

namespace TrialFarm

/-- What becomes of a file without a bound on its trials once a first batch was handed out. -/
inductive ZeroQuotaPolicy where
  /-- It leaves the queue for good. -/
  | tryOnce
  /-- It is queued again after each completion. -/
  | retryForever
  deriving DecidableEq, Repr, Inhabited

/-- The name of a policy. -/
def ZeroQuotaPolicy.name : ZeroQuotaPolicy → String
  | tryOnce => "TryOnce"
  | retryForever => "RetryForever"

/-- The families of weights that a configuration can name. -/
inductive WeightKind where
  | polynomial
  | exponential
  deriving DecidableEq, Repr, Inhabited

/-- The name of a family. -/
def WeightKind.name : WeightKind → String
  | polynomial => "Polynomial"
  | exponential => "Exponential"

/-- How the threads of a worker share remembered weights. -/
inductive CachePolicy where
  /-- Nothing is remembered. -/
  | off
  /-- A thread waits for the table. -/
  | blocking
  /-- A thread computes the weight when another one holds the table. -/
  | tryLock
  deriving DecidableEq, Repr, Inhabited

/-- The name of a policy. -/
def CachePolicy.name : CachePolicy → String
  | off => "Off"
  | blocking => "Blocking"
  | tryLock => "TryLock"

/-- Scheduling and shutdown of the server. -/
structure ServerConfig where
  zeroQuotaPolicy : ZeroQuotaPolicy
  /-- Whether the first solution stops all workers. -/
  terminateOnSolution : Bool
  /-- Whether the run goes on when the queue is empty. -/
  waitForMoreFiles : Bool
  /-- Whether the report leaves out files of which no trial started. -/
  shortStatistics : Bool
  acceptTimeoutSecs : UInt64
  rendezvousDir : Option String
  deriving DecidableEq, Repr

/-- The defaults of the server section. -/
def ServerConfig.standard : ServerConfig := ⟨.tryOnce, true, false, true, 30, none⟩

/-- Settings of a worker. -/
structure WorkerConfig where
  threads : UInt64
  /-- Flips per trial where a file leaves the number to the worker. -/
  defaultMaxFlips : UInt64
  pollIntervalMs : UInt64
  lookupTimeoutSecs : UInt64
  probability : WeightKind
  cb : Float
  eps : Float
  cache : CachePolicy
  deriving Repr

/-- The defaults of the worker section. -/
def WorkerConfig.standard : WorkerConfig :=
  ⟨2, 20000000, 10, 30, .polynomial, 2.06, 0.9, .tryLock⟩

/-- The poll interval in milliseconds, which is never 0. -/
def WorkerConfig.pollInterval (c : WorkerConfig) : UInt64 := max c.pollIntervalMs 1

/-- The weights that a worker uses. -/
def WorkerConfig.weights (c : WorkerConfig) : WeightFunction :=
  match c.probability with
  | .polynomial => .polynomial c.eps c.cb
  | .exponential => .exponential c.cb

/-- Settings of the manager. -/
structure ManagerConfig where
  /-- Workers announced at once. -/
  maxConnections : UInt32
  serverBinary : Option String
  workerBinary : Option String
  connectTimeoutSecs : UInt64
  shutdownTimeoutSecs : UInt64
  deriving DecidableEq, Repr

/-- The defaults of the manager section. -/
def ManagerConfig.standard : ManagerConfig := ⟨1, none, none, 30, 30⟩

/-- A whole configuration. -/
structure Config where
  server : ServerConfig
  worker : WorkerConfig
  manager : ManagerConfig
  deriving Repr

namespace Config

/-- The configuration of an empty document. -/
def standard : Config := ⟨.standard, .standard, .standard⟩

/-- Reads a field from its value. -/
abbrev FieldReader (α : Type) := Toml.Value → Option α

/-- Reads a truth value. -/
def boolean : FieldReader Bool
  | .scalar (.boolean b) => some b
  | _ => none

/-- Reads an integer from 0 to `bound`. -/
def natural (bound : Nat) : FieldReader Nat
  | .scalar (.integer n) => if 0 ≤ n ∧ n ≤ bound then some n.toNat else none
  | _ => none

/-- Reads an integer of 64 bits that is not negative. -/
def word : FieldReader UInt64 := fun v => (natural (UInt64.size - 1) v).map UInt64.ofNat

/-- Reads an integer of 32 bits that is not negative. -/
def halfWord : FieldReader UInt32 := fun v => (natural (UInt32.size - 1) v).map UInt32.ofNat

/-- Reads a floating-point number, which may be written as an integer. -/
def float : FieldReader Float
  | .scalar (.float x) => some x
  | .scalar (.integer n) => some (Float.ofInt n)
  | _ => none

/-- Reads a path. -/
def path : FieldReader (Option String)
  | .scalar (.text s) => some (some s)
  | _ => none

/-- Reads the name of a choice. A name may also be the only key of a table, over an empty value. -/
def choice {α : Type} (choices : List (String × α)) : FieldReader α
  | .scalar (.text s) => choices.lookup s
  | .table [(s, .table [])] => choices.lookup s
  | .table [(s, .array [])] => choices.lookup s
  | _ => none

/-- Reads the zero-quota policy. -/
def zeroQuotaPolicy : FieldReader ZeroQuotaPolicy :=
  choice [("try_once", .tryOnce), ("retry_forever", .retryForever)]

/-- Reads the family of weights. -/
def weightKind : FieldReader WeightKind :=
  choice [("polynomial", .polynomial), ("exponential", .exponential)]

/-- Reads the cache policy. -/
def cachePolicy : FieldReader CachePolicy :=
  choice [("off", .off), ("blocking", .blocking), ("try_lock", .tryLock)]

/-- A section that is being read. It is a table of fields or, without names, an array of the fields
in their order. -/
inductive Section where
  | named (entries : List (String × Toml.Value))
  | listed (elements : List Toml.Value)

/-- The section of a value. A moment is a table of its own parts, none of which names a field. -/
def Section.of : Toml.Value → Option Section
  | .table entries => some (.named entries)
  | .array elements => some (.listed elements)
  | .scalar .moment => some (.named [])
  | .scalar _ => none

/-- Reads a field by its name or its place. A missing field has its default. -/
def Section.get {α : Type} (s : Section) (place : Nat) (name : String) (reader : FieldReader α)
    (default : α) : Option α :=
  let held :=
    match s with
    | .named entries => entries.lookup name
    | .listed elements => elements[place]?
  match held with
  | none => some default
  | some v => reader v

/-- Reads the server section. -/
def serverSection (v : Toml.Value) : Option ServerConfig := do
  let s ← Section.of v
  let d := ServerConfig.standard
  return {
    zeroQuotaPolicy := ← s.get 0 "zero_quota_policy" zeroQuotaPolicy d.zeroQuotaPolicy
    terminateOnSolution := ← s.get 1 "terminate_on_solution" boolean d.terminateOnSolution
    waitForMoreFiles := ← s.get 2 "wait_for_more_files" boolean d.waitForMoreFiles
    shortStatistics := ← s.get 3 "short_statistics" boolean d.shortStatistics
    acceptTimeoutSecs := ← s.get 4 "accept_timeout_secs" word d.acceptTimeoutSecs
    rendezvousDir := ← s.get 5 "rendezvous_dir" path d.rendezvousDir }

/-- Reads the worker section. -/
def workerSection (v : Toml.Value) : Option WorkerConfig := do
  let s ← Section.of v
  let d := WorkerConfig.standard
  return {
    threads := ← s.get 0 "threads" word d.threads
    defaultMaxFlips := ← s.get 1 "default_max_flips" word d.defaultMaxFlips
    pollIntervalMs := ← s.get 2 "poll_interval_ms" word d.pollIntervalMs
    lookupTimeoutSecs := ← s.get 3 "lookup_timeout_secs" word d.lookupTimeoutSecs
    probability := ← s.get 4 "probability" weightKind d.probability
    cb := ← s.get 5 "cb" float d.cb
    eps := ← s.get 6 "eps" float d.eps
    cache := ← s.get 7 "cache" cachePolicy d.cache }

/-- Reads the manager section. -/
def managerSection (v : Toml.Value) : Option ManagerConfig := do
  let s ← Section.of v
  let d := ManagerConfig.standard
  return {
    maxConnections := ← s.get 0 "max_simultaneous_connections" halfWord d.maxConnections
    serverBinary := ← s.get 1 "server_binary" path d.serverBinary
    workerBinary := ← s.get 2 "worker_binary" path d.workerBinary
    connectTimeoutSecs := ← s.get 3 "connect_timeout_secs" word d.connectTimeoutSecs
    shutdownTimeoutSecs := ← s.get 4 "shutdown_timeout_secs" word d.shutdownTimeoutSecs }

/-- Reads all sections of a document. Keys that name nothing are passed over. -/
def ofTable (entries : List (String × Toml.Value)) : Option Config := do
  let s := Section.named entries
  return {
    server := ← s.get 0 "server" serverSection .standard
    worker := ← s.get 1 "worker" workerSection .standard
    manager := ← s.get 2 "manager" managerSection .standard }

/-- Checks the conditions that a single field cannot express. -/
def validate (c : Config) : Except Error Unit :=
  if c.worker.threads = 0 then .error (.config "worker.threads must be at least 1")
  else if c.manager.maxConnections = 0 then
    .error (.config "manager.max_simultaneous_connections must be at least 1")
  else if !(c.worker.cb > 0.0) || !(c.worker.eps ≥ 0.0) then
    .error (.config "worker.cb must be positive and worker.eps non-negative")
  else .ok ()

/-- A document that is not well-formed or has a field of the wrong type. -/
def unreadable : Error := .config ""

/-- The configuration of a document. -/
def ofText (text : String) : Except Error Config :=
  match (Toml.parse text).bind ofTable with
  | none => .error unreadable
  | some c =>
    match c.validate with
    | .error e => .error e
    | .ok () => .ok c

/-- A configuration file that cannot be read. -/
def cannotRead (path : String) (refusal : Refusal) : Error :=
  .config ("cannot read " ++ path ++ ": " ++ refusal.message)

/-- The configuration of a file. -/
def load (files : Files) (path : String) : Except Error Config :=
  match files.readText path with
  | .error refusal => .error (cannotRead path refusal)
  | .ok text => ofText text

/-- The directory in which servers meet their workers. -/
def rendezvousDir (c : Config) (temporary : String) : String :=
  c.server.rendezvousDir.getD temporary

end Config

end TrialFarm
