import TrialFarm.Error
import TrialFarm.Files

/-!
# Launching

The manager starts one server and many workers. All of them inherit its name, configuration file
and verbosity.

## Main definitions

* `Inherited`: what every started program is told.
* `Inherited.serverArguments`, `Inherited.workerArguments`: the arguments of the programs.
* `fileNameOf`: the name of the file that a path names.
* `cannotStart`: the error of a program that cannot be started.
* `startEach`: starts several programs.
-/

namespace TrialFarm

/-- What every started program inherits from the manager. -/
structure Inherited where
  /-- The name of the server. -/
  name : String
  /-- The path of the configuration file, if the manager was given one. -/
  config : Option String
  verbosity : UInt8
  deriving DecidableEq, Repr

namespace Inherited

/-- The inherited options as arguments. -/
def arguments (i : Inherited) : List String :=
  ["--name", i.name]
  ++ (match i.config with
    | none => []
    | some path => ["--config", path])
  ++ if i.verbosity = 0 then [] else [String.ofList ('-' :: List.replicate i.verbosity.toNat 'v')]

/-- The arguments of a server that shall connect to its manager at `address`. -/
def serverArguments (i : Inherited) (address : String) : List String :=
  "--manager" :: address :: i.arguments

/-- The arguments of a worker, which may be given some of its own. -/
def workerArguments (i : Inherited) (own : List String) : List String :=
  i.arguments ++ own

end Inherited

/-- The name of the file that a path names, which is empty if the path leads up or nowhere. -/
def fileNameOf (path : String) : String :=
  match ((pathSteps path).filter (· != ".")).getLast? with
  | none | some ".." => ""
  | some name => name

/-- The error of a program that cannot be started. -/
def cannotStart (binary reason : String) : Error :=
  .config ("cannot start " ++ binary ++ ": " ++ reason)

/-- Starts some programs one after the other, up to the first one that cannot be started. -/
def startEach {ν : Type} (start : ν → ν × Except Error Unit) : Nat → ν → ν × Except Error Unit
  | 0, n => (n, .ok ())
  | count + 1, n =>
    match start n with
    | (n, .error e) => (n, .error e)
    | (n, .ok ()) => startEach start count n

end TrialFarm
