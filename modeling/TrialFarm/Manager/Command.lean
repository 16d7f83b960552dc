import TrialFarm.Error
import TrialFarm.Number.Integer
import TrialFarm.Text.Blank

/-!
# Commands of the manager

The manager is told what to do line by line. The first field of a line names the command, the
others are its arguments.

## Main definitions

* `Command`: what the manager can be told.
* `Command.parse`: the command on a line.
* `Command.overview`: the text that explains the commands.
-/

namespace TrialFarm

/-- What the manager can be told. -/
inductive Command where
  /-- Show the overview of the commands. -/
  | help
  /-- Start workers and hand the arguments on to each of them. -/
  | addWorkers (count : UInt32) (arguments : List String)
  /-- Submit a file. -/
  | addFile (startConfigs maxFlips : UInt32) (path : String)
  /-- Wait until the server leaves, then stop. -/
  | waitForServer
  /-- End the run, then stop. -/
  | exit
  deriving DecidableEq, Repr

namespace Command

/-- The name of a command. -/
def name : Command → String
  | help => "help"
  | addWorkers .. => "add_workers"
  | addFile .. => "add_file"
  | waitForServer => "wait_for_server"
  | exit => "exit"

/-- The text that explains the commands. -/
def overview : String :=
  "\n".intercalate
    ["commands available:",
      "\thelp (shows this message)",
      "\tadd_workers <num_workers> [worker arguments ...]",
      "\tadd_file <start_configs> <max_flips> <formula.cnf>",
      "\twait_for_server",
      "\texit"]

/-- Why a line holds no command that can be carried out. -/
inductive Fault where
  | arguments (command expected : String)
  | notNumber (command argument found : String)
  | noWorkers
  | unknown (name : String)
  deriving DecidableEq, Repr

/-- The fault as an error of the library. -/
def Fault.toError : Fault → Error
  | arguments command expected =>
    .parse ("invalid number of arguments for " ++ command ++ ", expected " ++ expected)
  | notNumber command argument found =>
    .parse (command ++ ": " ++ argument ++ " must be a number, got '" ++ found ++ "'")
  | noWorkers => .rejected "add_workers needs at least one worker"
  | unknown name => .parse ("invalid command '" ++ name ++ "'")

/-- Reads a number among the arguments of a command. -/
def number (command argument found : String) : Except Fault UInt32 :=
  match Integer.readNatural (UInt32.size - 1) found.toList with
  | .ok n => .ok (UInt32.ofNat n)
  | .error _ => .error (.notNumber command argument found)

/-- The command to start workers. -/
def readAddWorkers : List String → Except Fault Command
  | [] => .error (.arguments "add_workers" "<num_workers> ...")
  | count :: arguments =>
    match number "add_workers" "num_workers" count with
    | .error fault => .error fault
    | .ok count => if count = 0 then .error .noWorkers else .ok (addWorkers count arguments)

/-- The command to submit a file. -/
def readAddFile : List String → Except Fault Command
  | [startConfigs, maxFlips, path] => do
    let startConfigs ← number "add_file" "start_configs" startConfigs
    let maxFlips ← number "add_file" "max_flips" maxFlips
    return addFile startConfigs maxFlips path
  | _ => .error (.arguments "add_file" "<start_configs> <max_flips> <path>")

/-- The command with a name and arguments. -/
def ofFields (name : String) (arguments : List String) : Except Fault Command :=
  match name with
  | "help" => .ok help
  | "add_workers" => readAddWorkers arguments
  | "add_file" => readAddFile arguments
  | "wait_for_server" =>
    if arguments.isEmpty then .ok waitForServer
    else .error (.arguments "wait_for_server" "no arguments")
  | "exit" => .ok exit
  | name => .error (.unknown name)

/-- The command on a line. Blank lines and those whose first field starts with `#` hold none. -/
def parse (line : String) : Except Fault (Option Command) :=
  match (Text.fields line.toList).map String.ofList with
  | [] => .ok none
  | name :: arguments =>
    if name.toList.head? = some '#' then .ok none else (ofFields name arguments).map some

end Command

end TrialFarm
