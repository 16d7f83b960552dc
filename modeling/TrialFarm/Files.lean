import TrialFarm.Text.Utf8

/-!
# Files

The part of a file system that the farm looks at. A path is walked component by component from the
root or from the working directory, and every step needs a directory to start from.

## Main definitions

* `Refusal`: the reasons for which the operating system refuses an operation.
* `Place`: the components of a full path.
* `Files`: what places stand for, seen from a working directory.
* `Files.find`: what a path stands for.
* `Files.target`: the place where a path lets a file be written.
* `Files.readText`: the content of a file as text.
* `Files.resolve`: the full path of a file.
-/

namespace TrialFarm

/-- Why an operation on a path is refused. -/
inductive Refusal where
  | noSuchFile
  | badFormat
  | notPermitted
  | alreadyThere
  | notDirectory
  | isDirectory
  | nameTooLong
  | tooManyLinks
  /-- A path with a zero byte. -/
  | zeroByte
  /-- An argument with a zero byte. -/
  | zeroByteArgument
  /-- A content that is no text. -/
  | notText
  deriving DecidableEq, Repr, Inhabited

/-- The text of a refusal. -/
def Refusal.message : Refusal → String
  | noSuchFile => "No such file or directory (os error 2)"
  | badFormat => "Exec format error (os error 8)"
  | notPermitted => "Permission denied (os error 13)"
  | alreadyThere => "File exists (os error 17)"
  | notDirectory => "Not a directory (os error 20)"
  | isDirectory => "Is a directory (os error 21)"
  | nameTooLong => "File name too long (os error 36)"
  | tooManyLinks => "Too many levels of symbolic links (os error 40)"
  | zeroByte => "file name contained an unexpected NUL byte"
  | zeroByteArgument => "nul byte found in provided data"
  | notText => "stream did not contain valid UTF-8"

/-- What a place stands for. -/
inductive Node where
  | file (content : List UInt8)
  | folder
  deriving DecidableEq, Repr

/-- The components of a full path, the last one first. -/
abbrev Place := List String

/-- The full path of a place. -/
def Place.path (p : Place) : String :=
  "/" ++ "/".intercalate p.reverse

/-- A path, taken apart. -/
structure Route where
  /-- Whether it starts at the root. -/
  absolute : Bool
  /-- Its components, none of which is empty. -/
  steps : List String
  /-- Whether it ends in a slash, so that it can only name a directory. -/
  closed : Bool
  deriving DecidableEq, Repr

/-- The most bytes of a name. -/
def mostNameBytes : Nat := 255

/-- The most bytes of a path. -/
def mostPathBytes : Nat := 4095

/-- The components of a path. -/
def pathSteps (path : String) : List String :=
  ((path.toList.splitOn '/').filter (fun step => !step.isEmpty)).map String.ofList

/-- Takes a path apart, if it may be a path at all. -/
def Route.of (path : String) : Except Refusal Route :=
  if path.toList.contains '\x00' then .error .zeroByte
  else if path.isEmpty then .error .noSuchFile
  else if mostPathBytes < path.utf8ByteSize then .error .nameTooLong
  else .ok ⟨path.startsWith '/', pathSteps path, path.endsWith '/'⟩

/-- What places stand for, seen from a working directory. -/
structure Files where
  home : Place
  node? : Place → Option Node

namespace Files

/-- The place from which a route starts. -/
def start (f : Files) (r : Route) : Place :=
  if r.absolute then [] else f.home

/-- Passes if a place is a directory. -/
def enter (f : Files) (here : Place) : Except Refusal Unit :=
  match f.node? here with
  | some .folder => .ok ()
  | some (.file _) => .error .notDirectory
  | none => .error .noSuchFile

/-- Goes one step from a directory. -/
def step (f : Files) (here : Place) (c : String) : Except Refusal Place := do
  f.enter here
  if c = "." then .ok here
  else if c = ".." then .ok (here.drop 1)
  else if mostNameBytes < c.utf8ByteSize then .error .nameTooLong
  else if (f.node? (c :: here)).isNone then .error .noSuchFile
  else .ok (c :: here)

/-- Goes several steps. -/
def walk (f : Files) (here : Place) (steps : List String) : Except Refusal Place :=
  steps.foldlM f.step here

/-- The place that a path leads to. -/
def locate (f : Files) (path : String) : Except Refusal Place := do
  let r ← Route.of path
  let here ← f.walk (f.start r) r.steps
  if r.closed then f.enter here
  return here

/-- What a path stands for. -/
def find (f : Files) (path : String) : Except Refusal Node := do
  let here ← f.locate path
  match f.node? here with
  | some node => .ok node
  | none => .error .noSuchFile

/-- The directory that a route leads to before its last component, and that component. There is
none if the route ends at the root. -/
def parent (f : Files) (r : Route) : Except Refusal (Option (Place × String)) :=
  match r.steps.getLast? with
  | none => .ok none
  | some name => do
    let here ← f.walk (f.start r) r.steps.dropLast
    f.enter here
    return some (here, name)

/-- Whether a component stands for a directory that is always there. -/
def isDots (name : String) : Bool := name = "." || name = ".."

/-- The place where a path lets a file be written, be there one already or not. -/
def target (f : Files) (path : String) : Except Refusal Place := do
  let r ← Route.of path
  match ← f.parent r with
  | none => .error .isDirectory
  | some (here, name) =>
    if r.closed || isDots name then .error .isDirectory
    else if mostNameBytes < name.utf8ByteSize then .error .nameTooLong
    else if f.node? (name :: here) = some .folder then .error .isDirectory
    else .ok (name :: here)

/-- The content of a file as text. -/
def textOf (content : List UInt8) : Except Refusal String :=
  (Utf8.decode content).mapError fun _ => .notText

/-- The text of the file at a path. -/
def readText (f : Files) (path : String) : Except Refusal String := do
  match ← f.find path with
  | .folder => .error .isDirectory
  | .file content => textOf content

/-- The full path of a file. A path that leads nowhere is left as it is. -/
def resolve (f : Files) (path : String) : String :=
  match f.locate path with
  | .ok here => here.path
  | .error _ => path

end Files

end TrialFarm
