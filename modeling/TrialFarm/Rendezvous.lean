import TrialFarm.Error
import TrialFarm.Files
import TrialFarm.Span
import TrialFarm.Text.Blank
import TrialFarm.Text.Quoted

/-!
# Rendezvous

A server publishes the address for its workers as a small file in a directory they all know. The
file of the server `name` is `name.addr`; it is written under another name and then renamed, so
that nobody reads half an address.

## Main definitions

* `Folder`: the files of one directory, in the order of their names.
* `Rendezvous`: a valid server name in a directory.
* `Rendezvous.publish`, `Rendezvous.unpublish`, `Rendezvous.lookup`: the operations on the files.
* `Rendezvous.watch`: a lookup while the directory changes.
-/

namespace TrialFarm

/-- One directory. -/
structure Folder where
  /-- Whether it is there at all. -/
  made : Bool
  /-- The most bytes of a name in it. -/
  longest : Nat
  /-- Its entries, in the order of their names. -/
  entries : List (String × Node)
  deriving DecidableEq, Repr

namespace Folder

/-- A directory that is not there. -/
def missing : Folder := ⟨false, mostNameBytes, []⟩

/-- What a name stands for. -/
def find? (f : Folder) (name : String) : Option Node :=
  f.entries.lookup name

/-- Puts an entry in its place, replacing one of the same name. -/
def insertEntry (name : String) (node : Node) : List (String × Node) → List (String × Node)
  | [] => [(name, node)]
  | (other, held) :: rest =>
    if name < other then (name, node) :: (other, held) :: rest
    else if name = other then (name, node) :: rest
    else (other, held) :: insertEntry name node rest

/-- The directory in which a name stands for a node. -/
def put (f : Folder) (name : String) (node : Node) : Folder :=
  { f with made := true, entries := insertEntry name node f.entries }

/-- The directory without a name. -/
def erase (f : Folder) (name : String) : Folder :=
  { f with entries := f.entries.filter (fun entry => entry.1 != name) }

/-- The names, in order. -/
def names (f : Folder) : List String :=
  f.entries.map Prod.fst

/-- The directory, made if it was missing. -/
def make (f : Folder) : Folder := { f with made := true }

/-- Passes if a name can be looked for in the directory. -/
def check (f : Folder) (name : String) : Except Refusal Unit :=
  if !f.made then .error .noSuchFile
  else if f.longest < name.utf8ByteSize then .error .nameTooLong
  else .ok ()

/-- The text of a file. -/
def read (f : Folder) (name : String) : Except Refusal String :=
  match f.check name, f.find? name with
  | .error refusal, _ => .error refusal
  | .ok (), none => .error .noSuchFile
  | .ok (), some .folder => .error .isDirectory
  | .ok (), some (.file content) => Files.textOf content

/-- Writes a file, replacing one of the same name. -/
def write (f : Folder) (name : String) (content : List UInt8) : Folder × Except Refusal Unit :=
  match f.check name, f.find? name with
  | .error refusal, _ => (f, .error refusal)
  | .ok (), some .folder => (f, .error .isDirectory)
  | .ok (), _ => (f.put name (.file content), .ok ())

/-- Makes a directory, unless the name stands for something. -/
def makeFolder (f : Folder) (name : String) : Folder × Except Refusal Unit :=
  match f.check name, f.find? name with
  | .error refusal, _ => (f, .error refusal)
  | .ok (), some _ => (f, .error .alreadyThere)
  | .ok (), none => (f.put name .folder, .ok ())

/-- Removes a file. -/
def remove (f : Folder) (name : String) : Folder × Except Refusal Unit :=
  match f.check name, f.find? name with
  | .error refusal, _ => (f, .error refusal)
  | .ok (), none => (f, .error .noSuchFile)
  | .ok (), some .folder => (f, .error .isDirectory)
  | .ok (), some (.file _) => (f.erase name, .ok ())

/-- Gives a file another name. It replaces a file of that name, but not a directory. -/
def rename (f : Folder) (old new : String) : Folder × Except Refusal Unit :=
  match f.check old, f.check new, f.find? old with
  | .error refusal, _, _ => (f, .error refusal)
  | .ok (), .error refusal, _ => (f, .error refusal)
  | .ok (), .ok (), none => (f, .error .noSuchFile)
  | .ok (), .ok (), some node =>
    if f.find? new = some .folder then (f, .error .isDirectory)
    else ((f.erase old).put new node, .ok ())

end Folder

/-- The path of a file in a directory. -/
def joinPath (dir file : String) : String :=
  if dir.isEmpty || dir.endsWith '/' then dir ++ file else dir ++ "/" ++ file

/-- The characters of server names. -/
def isNameChar (c : Char) : Bool :=
  c.isAlphanum || c = '-' || c = '_' || c = '.'

/-- Whether a text is a server name: not empty, no leading dot, and nothing but letters, digits,
`-`, `_` and `.`. -/
def isServerName (name : String) : Bool :=
  !name.isEmpty && name.toList.head? != some '.' && name.toList.all isNameChar

/-- The meeting point of one server in a directory. -/
structure Rendezvous where
  dir : String
  name : String
  valid : isServerName name = true

namespace Rendezvous

/-- The meeting point of a name, unless the name is not valid. -/
def of (dir name : String) : Except Error Rendezvous :=
  if h : isServerName name = true then .ok ⟨dir, name, h⟩
  else .error (.config ("invalid server name " ++ Text.quoted name))

/-- The name of the file with the address. -/
def fileName (r : Rendezvous) : String := r.name ++ ".addr"

/-- The name under which a process writes the file first. -/
def draftName (r : Rendezvous) (process : Nat) : String :=
  "." ++ r.name ++ "." ++ toString process ++ ".tmp"

/-- The path of the file with the address. -/
def path (r : Rendezvous) : String := joinPath r.dir r.fileName

/-- The path under which a process writes the file first. -/
def draftPath (r : Rendezvous) (process : Nat) : String := joinPath r.dir (r.draftName process)

/-- A refusal as an error of the library. -/
def refused (refusal : Refusal) : Error := .io refusal.message

/-- Publishes an address, replacing an earlier one. A missing directory is made. -/
def publish (r : Rendezvous) (process : Nat) (addr : String) (f : Folder) :
    Folder × Except Error Unit :=
  match f.make.write (r.draftName process) (Utf8.encode addr) with
  | (f, .error refusal) => (f, .error (refused refusal))
  | (f, .ok ()) =>
    let (f, renamed) := f.rename (r.draftName process) r.fileName
    (f, renamed.mapError refused)

/-- Withdraws the publication. There need not be one. -/
def unpublish (r : Rendezvous) (f : Folder) : Folder × Except Error Unit :=
  match f.remove r.fileName with
  | (f, .error .noSuchFile) => (f, .ok ())
  | (f, removed) => (f, removed.mapError refused)

/-- Reads the published address. A missing or blank file publishes nothing. -/
def readAddr (r : Rendezvous) (f : Folder) : Except Error (Option String) :=
  match f.read r.fileName with
  | .error .noSuchFile => .ok none
  | .error refusal => .error (refused refusal)
  | .ok text =>
    let addr := Text.trim text.toList
    .ok (if addr.isEmpty then none else some (String.ofList addr))

/-- Looks for an address for as long as `timeout`, while nobody else changes the directory. -/
def lookup (r : Rendezvous) (timeout : Span) (f : Folder) : Except Error String :=
  match r.readAddr f with
  | .error e => .error e
  | .ok (some addr) => .ok addr
  | .ok none =>
    .error (.disconnected ("no server published as " ++ r.name ++ " within " ++ timeout.shown))

/-- Looks for an address again and again in a directory that may change. The looks show it as it
is while there is time left; the last one comes after `timeout`. -/
def watch (r : Rendezvous) (timeout : Span) : (looks : List Folder) → (last : Folder) →
    Except Error String
  | [], last => r.lookup timeout last
  | f :: later, last =>
    match r.readAddr f with
    | .error e => .error e
    | .ok (some addr) => .ok addr
    | .ok none => r.watch timeout later last

end Rendezvous

end TrialFarm
