import TrialFarm.Farm.Disk
import TrialFarm.Farm.Programs
import TrialFarm.Farm.Script
import TrialFarm.Manager.Launch

/-!
# Executables

What a path stands for when it is started: one of the programs of the farm, a script, or one of a
few programs that every system has.

## Main definitions

* `Executable`: what can be started.
* `Executable.find`: what a path stands for.
* `Executable.start`: what is started with arguments.
* `Executable.printed`, `Executable.becomes`: what is printed and what becomes of it.
-/

namespace TrialFarm

/-- A program that the manager starts. -/
inductive Role where
  | server
  | worker
  deriving DecidableEq, Repr

/-- The command line of a program. -/
def Role.usage : Role → Usage
  | .server => ServerOptions.usage
  | .worker => WorkerOptions.usage

/-- The name of a program. -/
def Role.name (role : Role) : String := role.usage.name

/-- The role of a program with a name. -/
def Role.ofName (name : String) : Option Role :=
  [Role.server, Role.worker].find? fun role => role.name = name

/-- What can be started. Arguments named here come before all others. -/
inductive Executable where
  | program (role : Role)
  | script (source path : String) (leading : List String)
  /-- Prints its arguments. -/
  | echo (leading : List String)
  /-- Does nothing of interest. -/
  | silent
  deriving DecidableEq, Repr

namespace Executable

/-- A program that every system has. -/
def ofSystem (name : String) (leading : List String) : Executable :=
  if name = "echo" then echo leading else silent

/-- Whether a program reads scripts, by its place and its first argument. -/
def readsScripts (here : Place) (word : Option String) : Bool :=
  Disk.isProgram here
    && (Script.interpreters.contains (here.headD "")
      || here.head? = some "env" && word.any Script.interpreters.contains)

/-- What a path stands for when it is started. A script names the program that reads it, which may
be a script in turn, but there are at most `depth` files in such a chain. -/
def load (f : Files) : Nat → String → List String → Except Refusal Executable
  | 0, _, _ => .error .tooManyLinks
  | depth + 1, path, leading => do
    let here ← f.locate path
    match f.node? here with
    | some (.file content) =>
      if Disk.isProgram here then .ok (ofSystem (here.headD "") leading)
      else if !(here.headD "").endsWith ".sh" then .error .notPermitted
      else
        let source ← (Files.textOf content).mapError fun _ => .badFormat
        match Script.interpreter? source with
        | none => .error .badFormat
        | some (name, word) =>
          if readsScripts (← f.locate name) word then .ok (script source path leading)
          else load f depth name (word.toList ++ path :: leading)
    | _ => .error .notPermitted

/-- The most files in a chain of scripts. -/
def mostLinks : Nat := 6

/-- What a path stands for. A name without a slash is that of a program of the system. -/
def find (f : Files) (path : String) : Except Refusal Executable :=
  if path.toList.contains '/' then load f mostLinks path []
  else if Files.isDots path then .error .notPermitted
  else if mostNameBytes < path.utf8ByteSize then .error .nameTooLong
  else if Disk.programNames.contains path then .ok (ofSystem path [])
  else .error .noSuchFile

/-- Whether texts can be handed over to a program. -/
def canHandOver (words : List String) : Bool :=
  words.all fun w => !w.toList.contains '\x00'

/-- Starts what was found at a path with arguments. -/
def start (found : Except Refusal Executable) (path : String) (arguments : List String) :
    Except Error Executable :=
  let started := if canHandOver (path :: arguments) then found else .error .zeroByteArgument
  started.mapError fun refusal => cannotStart path refusal.message

/-- The program of the farm that a command starts. -/
def ofCommand? : List String → Option (Role × List String)
  | [] => none
  | name :: arguments => (Role.ofName (fileNameOf name)).map fun role => (role, arguments)

/-- What a program prints about itself when it is started with arguments. -/
def introduction (role : Role) (arguments : List String) : String :=
  role.usage.printed (role.usage.read arguments)

/-- What a command of a script prints. -/
def printedBy (command : List String) : String :=
  match ofCommand? command with
  | some (role, arguments) => introduction role arguments
  | none => Script.printed command

/-- Whether a program goes to work when it is started with arguments. -/
def works (role : Role) (arguments : List String) : Bool :=
  match role.usage.read arguments with
  | .given _ => true
  | _ => false

/-- What is printed when it is started with arguments. -/
def printed (e : Executable) (arguments : List String) : String :=
  match e with
  | program role => introduction role arguments
  | script source path leading =>
    String.join ((Script.run source ⟨path, leading ++ arguments⟩).map printedBy)
  | echo leading => " ".intercalate (leading ++ arguments) ++ "\n"
  | silent => ""

/-- The program of the farm that it becomes when it is started with arguments. A script becomes the
first one that goes to work. -/
def becomes (e : Executable) (arguments : List String) : Option (Role × List String) :=
  match e with
  | program role => some (role, arguments)
  | script source path leading =>
    ((Script.run source ⟨path, leading ++ arguments⟩).filterMap ofCommand?).find?
      fun (role, arguments) => works role arguments
  | _ => none

end Executable

end TrialFarm
