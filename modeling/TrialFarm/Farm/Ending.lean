import TrialFarm.Farm.Conduct

/-!
# From command line to exit code

What each program of a farm does from its command line to its exit code, in one place with the
others. A server or a worker that is started by itself finds nobody to connect to.

## Main definitions

* `Ending`: how a program ended.
* `Ending.ofManager`, `Ending.ofServer`, `Ending.ofWorker`: the three programs.
-/

namespace TrialFarm

/-- How a program ended. -/
structure Ending where
  code : Nat
  /-- What it printed. -/
  console : String
  /-- Why it failed, if it did. -/
  failed : Option String
  disk : Disk
  deriving Repr

namespace Ending

/-- A program that failed. -/
def ofFailure (d : Disk) (f : Failure) : Ending := ⟨1, f.printed, some f.reason, d⟩

/-- What a program does about its command line before it does anything else. -/
def ofReading (u : Usage) (d : Disk) (words : List String) (go : Given → Ending) : Ending :=
  match u.read words with
  | .given g => go g
  | .refused => ⟨2, "", none, d⟩
  | reading => ⟨0, u.printed reading, none, d⟩

/-- A server without a manager. -/
def ofServer (s : Scene) (words : List String) : Ending :=
  ofReading ServerOptions.usage s.disk words fun g =>
    let o := ServerOptions.of g
    ofFailure s.disk <| .quiet <|
      match configFor s.disk.view o.config s.config with
      | .error e => e.chain
      | .ok _ => notConnected ("manager at " ++ o.manager) o.manager

/-- A worker without a server. -/
def ofWorker (s : Scene) (words : List String) : Ending :=
  ofReading WorkerOptions.usage s.disk words fun g =>
    let o := WorkerOptions.of g
    ofFailure s.disk <| .quiet <|
      match workerConfig s.disk.view o s.config with
      | .error e => e.chain
      | .ok c =>
        match findServer s.disk o c with
        | .error reason => reason
        | .ok address => notConnected address address

/-- The report of a run. `running` is the time of the session and `overall` that of everything. -/
def reportOf (name : String) (c : Conducted) (running overhead overall : Span) : List Entry :=
  c.before ++ c.session.written ++ Entry.block (c.session.summary.lines name)
  ++ [.line (durationLine "running duration" running),
    .line (durationLine "manager overhead" overhead),
    .line (durationLine "overall duration" overall)]

/-- How a manager ends that has led a session. -/
def ofConducted (o : ManagerOptions) (c : Conducted) (running overhead overall : Span) : Ending :=
  let report := reportOf o.name c running overhead overall
  let disk := match o.output with
    | none => c.disk
    | some path => (c.disk.write path (Utf8.encode (fileText report))).toOption.getD c.disk
  match c.result with
  | .ok () => ⟨0, consoleText (report ++ [.notice "manager finished\n"]), none, disk⟩
  | .error e => ⟨1, consoleText report, some e.chain, disk⟩

/-- A manager. The clock stands still. -/
def ofManager (s : Scene) (words : List String) : Ending :=
  ofReading ManagerOptions.usage s.disk words fun g =>
    let o := ManagerOptions.of g
    match Id.run (conduct Maker.still s o) with
    | (d, .error failure) => ofFailure d failure
    | (_, .ok c) => ofConducted o c Span.zero Span.zero Span.zero

end Ending

end TrialFarm
