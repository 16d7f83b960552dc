import TrialFarm.Rendezvous

/-!
# Disks

A disk holds the files that the programs of a farm read and write. All programs work in the same
directory.

## Main definitions

* `Disk`: a working directory, directories and files.
* `Disk.view`: what paths stand for.
* `Disk.create`, `Disk.write`, `Disk.makeFolders`: changes of files and directories.
* `Disk.folder`, `Disk.setFolder`: one directory of a disk.
-/

namespace TrialFarm

/-- The files of a farm. -/
structure Disk where
  /-- The working directory. -/
  home : Place
  /-- Directories that need not hold a file. -/
  folders : List Place
  files : List (Place × List UInt8)
  deriving DecidableEq, Repr

namespace Disk

/-- A disk without files. -/
def empty (home : Place) : Disk := ⟨home, [], []⟩

/-- The names of programs that every system has. -/
def programNames : List String :=
  ["sh", "bash", "dash", "env", "echo", "printf", "true", "false", "sleep", "cat", "ls", "pwd"]

/-- The directories of programs that every system has. -/
def programFolders : List Place := [["bin"], ["bin", "usr"]]

/-- Whether a place is that of a program that every system has. -/
def isProgram : Place → Bool
  | [] => false
  | name :: here => programFolders.contains here && programNames.contains name

/-- The file that takes everything and gives nothing. -/
def sink : Place := ["null", "dev"]

/-- Directories that every system has. -/
def systemFolders : List Place :=
  programFolders ++ ["boot", "dev", "etc", "home", "lib", "media", "mnt", "opt", "proc", "root",
    "run", "sbin", "srv", "sys", "tmp", "var"].map fun name => [name]

/-- Whether a place is a directory: one on the way to a file or to another directory, or one that
every system has. -/
def isFolder (d : Disk) (here : Place) : Bool :=
  (systemFolders ++ d.home :: d.folders).any here.isSuffixOf
    || d.files.any fun (there, _) => here.isSuffixOf (there.drop 1)

/-- What a place stands for. A program of the system is no text. -/
def node? (d : Disk) (here : Place) : Option Node :=
  match d.files.lookup here with
  | some content => some (.file content)
  | none =>
    if d.isFolder here then some .folder
    else if here = sink then some (.file [])
    else if isProgram here then some (.file [0x7F, 0x45, 0x4C, 0x46, 0xFF])
    else none

/-- What paths stand for. -/
def view (d : Disk) : Files := ⟨d.home, d.node?⟩

/-- The disk without the file at a place. -/
def erase (d : Disk) (here : Place) : Disk :=
  { d with files := d.files.filter fun entry => entry.1 != here }

/-- The disk with a file at a place. -/
def put (d : Disk) (here : Place) (content : List UInt8) : Disk :=
  if here = sink then d
  else { d.erase here with files := (d.erase here).files ++ [(here, content)] }

/-- Writes a file, if the path lets one be written. -/
def write (d : Disk) (path : String) (content : List UInt8) : Except Refusal Disk :=
  (d.view.target path).map fun here => d.put here content

/-- Makes the directory at the end of a route, if it is not there. -/
def makeFolder (d : Disk) (r : Route) : Except Refusal Disk := do
  match ← d.view.parent r with
  | none => .ok d
  | some (here, name) =>
    if Files.isDots name then .ok d
    else if mostNameBytes < name.utf8ByteSize then .error .nameTooLong
    else
      match d.node? (name :: here) with
      | some .folder => .ok d
      | some (.file _) => .error .alreadyThere
      | none => .ok { d with folders := (name :: here) :: d.folders }

/-- Makes the directory that a path names and all on the way to it. An empty path names the
working directory. -/
def makeFolders (d : Disk) (path : String) : Except Refusal Disk := do
  if path.isEmpty then return d
  let r ← Route.of path
  (List.range r.steps.length).foldlM
    (fun d n => d.makeFolder { r with steps := r.steps.take (n + 1) }) d

/-- The directory that a path names. An empty path names the working directory. -/
def locateFolder (d : Disk) (path : String) : Except Refusal Place := do
  let here ← if path.isEmpty then .ok d.home else d.view.locate path
  d.view.enter here
  return here

/-- The name that a place has in a directory above it. -/
def nameIn (here there : Place) : Option String :=
  if here.isSuffixOf there then (there.reverse.drop here.length).head? else none

/-- What the directory at a place holds. -/
def folderAt (d : Disk) (here : Place) : Folder :=
  let names := (d.files.map Prod.fst ++ d.folders).filterMap (nameIn here)
  names.foldl (fun f name =>
    match d.node? (name :: here) with
    | some node => f.put name node
    | none => f) ⟨true, mostNameBytes, []⟩

/-- What the directory that a path names holds. -/
def folder (d : Disk) (path : String) : Except Refusal Folder :=
  match d.locateFolder path with
  | .error .noSuchFile => .ok Folder.missing
  | .error refusal => .error refusal
  | .ok here => .ok (d.folderAt here)

/-- Replaces the files in the directory at a place. -/
def setFolder (d : Disk) (here : Place) (f : Folder) : Disk :=
  let others := d.files.filter fun (there, _) => there.drop 1 != here || there.isEmpty
  { d with
    files := others ++ f.entries.filterMap fun
      | (name, .file content) => some (name :: here, content)
      | _ => none }

end Disk

end TrialFarm
