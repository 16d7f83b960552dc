import TrialFarm.Farm.Ending

/-!
# The manager's executable

A run in one process: the manager with its server and its workers. Everything that the run looks at
is read before it starts, and everything that it has to say is written when it has ended.

## Main definitions

* `Terminal.timed`: trials with a clock.
* `Terminal.scene`: what the manager finds.
* `main`: the command line.
-/

namespace TrialFarm.Terminal

/-- The time since a reading of the clock. -/
def since (start : Nat) : IO Span := do
  return Span.ofNanos ((← IO.monoNanosNow) - start)

/-- Makes trials with a clock. -/
def timed : Maker IO := fun engine files job seed => do
  let start ← IO.monoNanosNow
  match Formula.load files job.path with
  | .error e => return (.error e, ← since start, engine)
  | .ok f =>
    let init ← since start
    let middle ← IO.monoNanosNow
    match engine.search f seed job.flipBudget with
    | (t, engine) =>
      let solve ← since middle
      return (.ok (Engine.outcome f t init solve), ← since start, engine)

/-- All that is left of a stream, behind what was read so far. -/
partial def readAll (input : IO.FS.Stream) (read : ByteArray) : IO (List UInt8) := do
  let chunk ← input.read 65536
  if chunk.isEmpty then return read.toList else readAll input (read ++ chunk)

/-- The place that components lead to from another place, whatever is there. -/
def placeFrom (here : Place) (steps : List String) : Place :=
  steps.foldl (fun here c => if c = "." then here else if c = ".." then here.drop 1 else c :: here)
    here

/-- The disk with the directories that a path leads through, as far as they are there. -/
def fetchFolders (d : Disk) (r : Route) : IO Disk :=
  (List.range r.steps.length).foldlM (fun d n => do
    let above := placeFrom (d.view.start r) (r.steps.take n)
    try
      let _ ← IO.FS.realPath (above.path ++ "/.")
      return { d with folders := above :: d.folders }
    catch _ => return d) d

/-- The disk with the file at a path, if there is one that can be read. -/
def fetch (d : Disk) (path : String) : IO Disk := do
  match Route.of path with
  | .error _ => return d
  | .ok r =>
    let d ← fetchFolders d r
    try return d.put (placeFrom (d.view.start r) r.steps) (← IO.FS.readBinFile path).toList
    catch _ => return d

/-- The paths of the files that commands submit. -/
def submitted (input : List UInt8) : List String :=
  (Text.splitFrom (· == 10) [] input).filterMap fun line =>
    match Utf8.decode line with
    | .error _ => none
    | .ok text =>
      match Command.parse text with
      | .ok (some (.addFile _ _ path)) => some path
      | _ => none

/-- What the manager finds: its input, and the files it is told of. -/
def scene (o : ManagerOptions) : IO Scene := do
  let home := (pathSteps (← IO.currentDir).toString).reverse
  let config ← IO.getEnv "SATFARM_CONFIG"
  let input ← readAll (← IO.getStdin) ByteArray.empty
  let disk ← (o.config.or config).toList.foldlM fetch (.empty home)
  let binaries := match configFor disk.view o.config config with
    | .ok c => c.manager.serverBinary.toList ++ c.manager.workerBinary.toList
    | .error _ => []
  let disk ← (binaries ++ o.output.toList ++ submitted input).foldlM fetch disk
  let seed := (← IO.getRandomBytes 8).toList.foldl (fun n b => n * 256 + b.toUInt64) 0
  return ⟨disk, input, config, seed⟩

/-- A run from the command line's options to its end. -/
def run (o : ManagerOptions) : IO Ending := do
  let start ← IO.monoNanosNow
  let s ← scene o
  let begun ← IO.monoNanosNow
  match ← conduct timed s o with
  | (d, .error failure) => return .ofFailure d failure
  | (_, .ok c) =>
    let running ← since begun
    let overhead := Span.ofNanos (begun - start)
    return .ofConducted o c running overhead (← since start)

/-- Writes what a run left behind. -/
def leave (o : ManagerOptions) (e : Ending) : IO Unit := do
  match o.output with
  | none => pure ()
  | some path =>
    match e.disk.view.find path with
    | .ok (.file content) =>
      try IO.FS.writeBinFile path (ByteArray.mk content.toArray)
      catch _ => pure ()
    | _ => pure ()

/-- Does what the command line says. -/
def obey (words : List String) : IO UInt32 := do
  match ManagerOptions.usage.read words with
  | .given g =>
    let o := ManagerOptions.of g
    let e ← run o
    leave o e
    IO.print e.console
    match e.failed with
    | some reason => IO.eprintln ("Manager failed: " ++ reason)
    | none => pure ()
    return e.code.toUInt32
  | .refused =>
    IO.eprintln ManagerOptions.usage.synopsis
    return 2
  | reading =>
    IO.print (ManagerOptions.usage.printed reading)
    return 0

end TrialFarm.Terminal

/-- Leads a run as the command line says. -/
def main (words : List String) : IO UInt32 :=
  TrialFarm.Terminal.obey words
