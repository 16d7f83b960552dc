import TrialFarm.Proofs.Server.Completion
import TrialFarm.Proofs.Wire.Payload

/-!
# What a server can send

A file is entered only if a grant of it fits into a payload, and a grant ends before it would not
fit any more. A solution that is passed on is no larger than the payload it came in. So all that a
server wants to send can be sent, but for statistics: they follow the file in the same payload and
take more than what a grant adds to it, and nobody has looked whether they fit.

## Main definitions

* `TaskFile.Dispatchable`: a file of which a grant can be sent.
* `Action.Measured`: what is known of the size of an action.

## Main statements

* `Scheduler.Measured.grant`: no grant is too large for a payload.
* `ServerState.Measured.apply`, `ServerState.Measured.play`: one event, and a whole run.
* `sendable_but_statistics`: what can be sent, and which statistics cannot.
-/

namespace TrialFarm

open Wire

/-- A grant of the file alone fits into a payload. -/
def TaskFile.Dispatchable (f : TaskFile) : Prop := emptyGrantLen + f.encodedLen + 8 ≤ maxPayload

/-- Statistics of the file fit into a payload. -/
def TaskFile.Reportable (f : TaskFile) : Prop := f.encodedLen + Statistics.encodedLen ≤ maxPayload

/-- What is known of the size of an action: it fits into a payload, or it sends statistics of a file
that was entered. -/
def Action.Measured : Action → Prop
  | .toWorker _ m => encodedLen m ≤ maxPayload
  | .toManager (.sendStatistics file _) => file.Dispatchable
  | .toManager m => encodedLen m ≤ maxPayload
  | .closeWorker _ => True

namespace Scheduler

/-- All files are such that a grant of them can be sent. -/
def Measured (tasks : Array Task) : Prop := ∀ t ∈ tasks, t.file.Dispatchable

variable {s s' : Scheduler} {tasks : Array Task} {t u : Task}

/-- A task may change in all but its file. -/
theorem Measured.replace {i : Nat} (measured : Measured tasks) (found : tasks[i]? = some t)
    (file : u.file = t.file) : Measured (tasks.setIfInBounds i u) := by
  intro v member
  rcases Array.mem_or_eq_of_mem_setIfInBounds member with before | rfl
  · exact measured v before
  · exact file ▸ measured t (Array.mem_of_getElem? found)

/-- A file that is accepted can be granted. -/
theorem Measured.addFile {file : TaskFile} {id : TaskId} (measured : Measured s.tasks)
    (added : s.addFile file = .ok (id, s')) : Measured s'.tasks := by
  obtain ⟨-, -, short, rfl⟩ := addFile_eq_ok added
  intro t member
  rcases Array.mem_push.mp member with before | rfl
  · exact measured t before
  · exact short

theorem Measured.putBack {id : TaskId} {k : UInt64} (measured : Measured s.tasks)
    (found : s.task? id = some t) (file : u.file = t.file) : Measured (s.putBack id u k).tasks := by
  rw [putBack_eq found]
  exact measured.replace found file

/-- A report is answered by nothing, -/
theorem Measured.complete {r : TrialRecord} (measured : Measured s.tasks)
    (done : s.complete r = .ok s') : Measured s'.tasks := by
  obtain ⟨t, found, -, -, -, rfl⟩ := complete_eq_ok_iff.mp done
  exact measured.putBack found rfl

theorem Measured.release {id : TaskId} {count : UInt32} (measured : Measured s.tasks)
    (done : s.release id count = .ok s') : Measured s'.tasks := by
  obtain ⟨t, found, -, -, rfl⟩ := release_eq_ok_iff.mp done
  exact measured.putBack found rfl

/-- A hand-out that has kept count of its reply, which fits into a payload. -/
structure Dispatch.Fitting (d : Dispatch) : Prop where
  measured : Measured d.tasks
  replyLen : d.replyLen = emptyGrantLen + (d.batches.map Batch.encodedLen).sum
  fits : d.replyLen ≤ maxPayload

/-- One more batch that has room in the reply is counted in it. -/
theorem Dispatch.Fitting.serve {d : Dispatch} {id : TaskId} {take : UInt32}
    (fitting : d.Fitting) (found : d.tasks[id.toNat]? = some t) (room : d.Fits id t take)
    (covered : Bool) : (d.serve id t take covered).Fitting where
  measured := fitting.measured.replace found rfl
  replyLen := by
    have before := fitting.replyLen
    simp only [Dispatch.serve, List.map_cons, List.sum_cons]
    omega
  fits := room

/-- A hand-out keeps count of its reply. -/
theorem Measured.dispatch {d : Dispatch} {queue : List TaskId} {requested : UInt32}
    (measured : Measured s.tasks)
    (walked : Scheduler.dispatch s.queue (s.dispatchOf requested) = .ok (d, queue)) :
    d.Fitting := by
  refine dispatch_induction (motive := fun d _ => d.Fitting) ?_ ?_ ?_ walked
    ⟨measured, rfl, (by decide : emptyGrantLen ≤ maxPayload)⟩
  · intro d id queue t fitting _ found _
    exact ⟨fitting.measured.replace found rfl, fitting.replyLen, fitting.fits⟩
  · intro d id queue t fitting _ found _ _ room _
    exact fitting.serve found room true
  · intro d id queue t fitting _ found _ room _
    exact fitting.serve found room false

/-- The size of the reply that a hand-out has kept is that of the message. -/
theorem Dispatch.Fitting.encodedLen_reverse {d : Dispatch} (fitting : d.Fitting) :
    encodedLen (ServerMessage.sendInstances d.batches.reverse) = d.replyLen := by
  change emptyGrantLen + (d.batches.reverse.map Batch.encodedLen).sum = _
  rw [List.map_reverse, List.sum_reverse, fitting.replyLen]

/-- No grant is too large for a payload. -/
theorem Measured.grant {requested : UInt32} {bs : List Batch} (measured : Measured s.tasks)
    (done : s.grant requested = .ok (bs, s')) :
    Measured s'.tasks ∧ encodedLen (ServerMessage.sendInstances bs) ≤ maxPayload := by
  obtain ⟨d, queue, walked, rfl, rfl⟩ := grant_eq_ok done
  have fitting := measured.dispatch walked
  exact ⟨fitting.measured, fitting.encodedLen_reverse.trans_le fitting.fits⟩

/-- No call brings in a file that cannot be granted. -/
theorem Measured.call (measured : Measured s.tasks) (c : SchedulerCall) :
    Measured (s.call c).tasks := by
  have called := s.called c
  generalize s.call c = s' at called ⊢
  cases called with
  | refused => exact measured
  | addFile added => exact measured.addFile added
  | grant done => exact (measured.grant done).1
  | complete done => exact measured.complete done
  | release done => exact measured.release done

theorem Measured.calls (measured : Measured s.tasks) (calls : List SchedulerCall) :
    Measured (calls.foldl Scheduler.call s).tasks := by
  induction calls generalizing s with
  | nil => exact measured
  | cons c calls ih => exact ih (measured.call c)

end Scheduler

namespace ServerState

/-- All files were entered, and all actions have known sizes. -/
structure Measured (s : ServerState) : Prop where
  files : Scheduler.Measured s.scheduler.tasks
  actions : ∀ action ∈ s.outbound, action.Measured

variable {s s' : ServerState} {e : StateEvent} {id : WorkerId}

theorem Measured.start (c : ServerConfig) : (start c).Measured :=
  ⟨nofun, nofun⟩

/-- More actions of known sizes. -/
theorem Measured.append {actions : List Action} (measured : s.Measured)
    (files : Scheduler.Measured s'.scheduler.tasks) (out : s'.outbound = s.outbound ++ actions)
    (small : ∀ action ∈ actions, action.Measured) : s'.Measured :=
  ⟨files, out ▸ List.forall_mem_append.mpr ⟨measured.actions, small⟩⟩

/-- That there is work takes no room, -/
theorem Measured.wakeIdle (measured : s.Measured) : s.wakeIdle.Measured := by
  obtain ⟨roster, ids, woken⟩ := wakeIdle_eq s
  rw [woken]
  exact measured.append measured.files rfl (List.forall_mem_map.mpr fun id _ => Nat.zero_le _)

/-- nor does the order to stop. -/
theorem Measured.terminateWorkers (measured : s.Measured) : s.terminateWorkers.Measured := by
  obtain ⟨ids, told⟩ := terminateWorkers_eq s
  rw [told]
  exact measured.append measured.files rfl (List.forall_mem_map.mpr fun id _ => Nat.zero_le _)

/-- Final statistics have the size of their files. -/
theorem Measured.sendStatistics (measured : s.Measured) : s.sendStatistics.Measured := by
  unfold ServerState.sendStatistics
  split
  · exact measured
  refine measured.append measured.files rfl (List.forall_mem_map.mpr fun result reported => ?_)
  obtain ⟨t, member, rfl⟩ := List.mem_map.mp reported
  exact measured.files t (Array.mem_def.mpr (List.mem_filter.mp member).1)

theorem Measured.advance (measured : s.Measured) : s.advance.Measured := by
  have drained : s.wakeIdle.drainIfDue.Measured := by
    unfold drainIfDue
    split
    · have sent := measured.wakeIdle.sendStatistics.terminateWorkers
      exact ⟨sent.files, sent.actions⟩
    · exact measured.wakeIdle
  unfold ServerState.advance stopIfEmpty
  split
  · exact ⟨drained.files, drained.actions⟩
  · exact drained

theorem Measured.thenAdvance {r : ServerState × Except Error Unit} (measured : r.1.Measured) :
    (thenAdvance r).1.Measured := by
  obtain ⟨s, outcome⟩ := r
  cases outcome with
  | ok u => exact measured.advance
  | error e => exact measured

/-- A grant has kept count of its size. -/
theorem Measured.grant (measured : s.Measured) (requested : UInt32) :
    (s.grant id requested).1.Measured := by
  have granted : Scheduler.Measured (s.handOut requested).2.tasks ∧
      encodedLen (ServerMessage.sendInstances (s.handOut requested).1) ≤ maxPayload := by
    unfold handOut
    split
    · exact ⟨measured.files, (by decide : emptyGrantLen ≤ maxPayload)⟩
    · exact Scheduler.handed_cases (motive := fun r => Scheduler.Measured r.2.tasks ∧
          encodedLen (ServerMessage.sendInstances r.1) ≤ maxPayload) s.scheduler requested
        ⟨measured.files, (by decide : emptyGrantLen ≤ maxPayload)⟩
        fun _ _ done => measured.files.grant done
  obtain ⟨roster, sent, same, answers⟩ := grant_frame s id requested
  rw [same]
  refine measured.append granted.1 rfl fun action member => ?_
  rw [answers action member]
  exact granted.2

theorem Measured.complete (measured : s.Measured) (r : TrialRecord) :
    (s.complete id r).1.Measured := by
  unfold ServerState.complete
  split
  · exact measured
  split
  · exact measured
  dsimp only
  split
  · exact ⟨measured.files, measured.actions⟩
  · next done => exact ⟨measured.files.complete done, measured.actions⟩

/-- and a worker that leaves by a closed connection. -/
theorem Measured.removeWorker (measured : s.Measured) (id : WorkerId) :
    (s.removeWorker id).1.Measured := by
  have left (h : Holdings) : Scheduler.Measured (releaseAll s.scheduler h).1.tasks :=
    releaseAll_induction (motive := fun s => Scheduler.Measured s.tasks)
      (fun _ _ _ _ measured done => measured.release done) h _ measured.files
  unfold ServerState.removeWorker
  split
  · exact measured
  next w found =>
  have left := left w.outstanding
  dsimp only
  split
  · next released =>
    rw [released] at left
    exact ⟨left, measured.actions⟩
  · next released =>
    rw [released] at left
    refine measured.append left rfl fun action member => ?_
    obtain rfl := List.mem_singleton.mp member
    trivial

/-- A solution that is no larger than a payload can be passed on. -/
theorem Measured.foundSolution (measured : s.Measured) {solution : Solution}
    (small : solution.encodedLen ≤ maxPayload) : (s.foundSolution solution).Measured := by
  have passed : ({ s with solutionFound := true }.push
      [.toManager (.foundSolution solution)]).Measured := by
    refine measured.append measured.files rfl fun action member => ?_
    obtain rfl := List.mem_singleton.mp member
    exact small
  unfold ServerState.foundSolution
  dsimp only
  split
  · exact passed.terminateWorkers
  · exact passed

/-- Every event keeps to the sizes, also one that fails. -/
theorem Measured.apply (measured : s.Measured)
    (small : ∀ id m, e = .said id m → encodedLen m ≤ maxPayload) : (s.apply e).1.Measured := by
  cases e with
  | joined =>
    rw [apply, workerJoined_eq]
    refine Measured.wakeIdle (measured.append measured.files rfl fun action member => ?_)
    split at member
    · obtain rfl := List.mem_singleton.mp member
      exact Nat.zero_le _
    · cases member
  | submitted file =>
    unfold ServerState.apply
    dsimp only
    split
    · next done =>
      obtain ⟨-, scheduler, added, rfl⟩ := addFile_eq_ok done
      exact Measured.wakeIdle ⟨measured.files.addFile added, measured.actions⟩
    · exact measured
  | terminated =>
    exact (Measured.terminateWorkers (s := { s with terminateRequested := true })
      ⟨measured.files, measured.actions⟩).advance
  | said id m =>
    unfold ServerState.apply handleWorker
    dsimp only
    split
    · exact measured
    cases m with
    | getInstances requested => exact (measured.grant requested).thenAdvance
    | doneProcessing r => exact (measured.complete r).thenAdvance
    | foundSolution solution => exact (measured.foundSolution (small id _ rfl)).advance
    | disconnect => exact (measured.removeWorker id).thenAdvance
  | lost id =>
    unfold ServerState.apply workerLost
    dsimp only
    split
    · exact (measured.removeWorker id).thenAdvance
    · exact measured

/-- After events with messages that fit into payloads, all actions have known sizes. -/
theorem Measured.play {events : List StateEvent} (measured : s.Measured)
    (small : ∀ id m, .said id m ∈ events → encodedLen m ≤ maxPayload) :
    (s.play events).Measured := by
  induction events generalizing s with
  | nil => exact measured
  | cons e events ih =>
    have first : (s.apply e).1.Measured :=
      measured.apply fun id m here => small id m (here ▸ List.mem_cons_self)
    exact ih first fun id m later => small id m (List.mem_cons_of_mem _ later)

/-- Whatever is for a worker can be sent. -/
theorem Measured.toWorker {m : ServerMessage} (measured : s.Measured)
    (said : .toWorker id m ∈ s.outbound) : ∃ payload, toPayload m = .ok payload :=
  ⟨_, toPayload_eq_ok_iff.mpr ⟨measured.actions _ said, rfl⟩⟩

/-- Whatever is for the manager can be sent, unless it is the statistics of a file with too long a
name. -/
theorem Measured.toManager {m : ReportMessage} (measured : s.Measured)
    (said : .toManager m ∈ s.outbound) : (∃ payload, toPayload m = .ok payload) ↔
      ∀ file statistics, m = .sendStatistics file statistics → file.Reportable := by
  have small := measured.actions _ said
  constructor
  · rintro ⟨payload, made⟩ file statistics rfl
    exact (toPayload_eq_ok_iff.mp made).1
  · intro reportable
    refine ⟨_, toPayload_eq_ok_iff.mpr ⟨?_, rfl⟩⟩
    cases m with
    | foundSolution | disconnect => exact small
    | sendStatistics file statistics => exact reportable file statistics rfl

end ServerState

/-- In every run in which workers say what came in payloads of at most the maximum, all that the
server wants to send to workers can be sent, and so can a grant of every file that was entered. All
that it wants to send to the manager can be sent, but for the statistics of files that do not leave
room for them. Failures are passed over. -/
theorem sendable_but_statistics (c : ServerConfig) (events : List StateEvent)
    (heard : ∀ id m, .said id m ∈ events → ∃ payload : Bytes, payload.length ≤ maxPayload ∧
      fromPayload (MessageSet.tag m) payload = .ok m) :
    let s := (ServerState.start c).play events
    (∀ id m, .toWorker id m ∈ s.outbound → ∃ payload, toPayload m = .ok payload) ∧
    (∀ id t take, s.scheduler.task? id = some t →
      ∃ payload, toPayload (ServerMessage.sendInstances [⟨t.file, take, id⟩]) = .ok payload) ∧
    ∀ m, .toManager m ∈ s.outbound → ((∃ payload, toPayload m = .ok payload) ↔
      ∀ file statistics, m = .sendStatistics file statistics → file.Reportable) := by
  have measured : ((ServerState.start c).play events).Measured := by
    refine (ServerState.Measured.start c).play fun id m said => ?_
    obtain ⟨payload, short, done⟩ := heard id m said
    exact Nat.le_trans (encodedLen_le_of_fromPayload done) short
  refine ⟨fun id m => measured.toWorker, fun id t take found => ?_, fun m => measured.toManager⟩
  have dispatchable := measured.files t (Array.mem_of_getElem? found)
  exact ⟨_, toPayload_eq_ok_iff.mpr ⟨dispatchable, rfl⟩⟩

/-- A worker finds a solution while it holds a trial. -/
def solvedTrial : List StateEvent :=
  [.joined, .submitted ⟨1, 10, "a.cnf"⟩, .said 0 (.getInstances 1),
    .said 0 (.foundSolution ⟨1, 2, 3, 4, 5, "a.cnf"⟩), .terminated]

/-- The trial can be granted, and the solution can be passed on. -/
theorem sendable_but_statistics_solvedTrial :
    (∃ payload, toPayload (ServerMessage.sendInstances [⟨⟨1, 10, "a.cnf"⟩, 1, 0⟩]) = .ok payload) ∧
    ∃ payload, toPayload (ReportMessage.foundSolution ⟨1, 2, 3, 4, 5, "a.cnf"⟩) = .ok payload := by
  obtain ⟨toWorker, -, toManager⟩ :=
    sendable_but_statistics ServerConfig.standard solvedTrial fun id m said => by
      have small : encodedLen m ≤ maxPayload := by
        simp only [solvedTrial, List.mem_cons, reduceCtorEq, StateEvent.said.injEq,
          List.not_mem_nil, or_false, false_or] at said
        rcases said with ⟨-, rfl⟩ | ⟨-, rfl⟩
        · decide
        · decide
      exact ⟨_, Nat.le_trans (Nat.le_of_eq (CanonicalSet.length_body m)) small,
        fromPayload_body small⟩
  exact ⟨toWorker 0 _ (by decide), (toManager _ (by decide)).mpr nofun⟩

/-! ### Statistics that cannot be sent -/

/-- The report on a file that was entered and never run, if the report leaves out no file. -/
theorem outbound_of_unstarted {c : ServerConfig} {f : TaskFile} (whole : c.shortStatistics = false)
    (dispatchable : f.Dispatchable) :
    ((ServerState.start c).play [.submitted f, .terminated]).outbound =
      [.toManager (.sendStatistics f Statistics.empty)] := by
  have added : (Scheduler.empty c.zeroQuotaPolicy).addFile f =
      .ok (0, ⟨#[Task.ofFile f], [0], 0, c.zeroQuotaPolicy⟩) := by
    rw [Scheduler.addFile, if_neg (Nat.not_lt.mpr dispatchable)]
    rfl
  have entered : (ServerState.start c).addFile f = .ok (0, { ServerState.start c with
      scheduler := ⟨#[Task.ofFile f], [0], 0, c.zeroQuotaPolicy⟩ }) := by
    have running : ¬(ServerState.start c).phase ≠ .running := not_not.mpr rfl
    rw [ServerState.addFile, if_neg running]
    dsimp only [ServerState.start]
    rw [added]
    rfl
  rw [ServerState.play, List.foldl_cons, ServerState.apply, entered]
  obtain ⟨policy, terminates, waits, short, seconds, directory⟩ := c
  obtain rfl : short = false := whole
  rfl

/-- A file of which a grant can be sent, but no statistics, comes in a payload that can be read, and
is entered. Its statistics are to be sent all the same. -/
theorem unsendable_of_unreportable {c : ServerConfig} {f : TaskFile}
    (whole : c.shortStatistics = false) (dispatchable : f.Dispatchable)
    (unreportable : ¬f.Reportable) :
    (∃ payload : Bytes, payload.length ≤ maxPayload ∧
      fromPayload (MessageSet.tag (ManagerMessage.addFile f)) payload =
        .ok (ManagerMessage.addFile f)) ∧
    .toManager (.sendStatistics f Statistics.empty) ∈
      ((ServerState.start c).play [.submitted f, .terminated]).outbound ∧
    ∃ e, toPayload (ReportMessage.sendStatistics f Statistics.empty) = .error e := by
  have small : encodedLen (ManagerMessage.addFile f) ≤ maxPayload := by
    change f.encodedLen ≤ _
    unfold TaskFile.Dispatchable at dispatchable
    omega
  refine ⟨⟨_, ?_, fromPayload_body small⟩, ?_, _, toPayload_of_large unreportable⟩
  · rw [CanonicalSet.length_body]
    exact small
  · rw [outbound_of_unstarted whole dispatchable]
    exact List.mem_singleton.mpr rfl

theorem utf8ByteSize_replicate (n : Nat) :
    (String.ofList (List.replicate n 'f')).utf8ByteSize = n := by
  induction n with
  | zero => rfl
  | succ n ih =>
    rw [List.replicate_succ, String.ofList_cons, String.utf8ByteSize_append, ih]
    exact Nat.add_comm 1 n

/-- A file whose name leaves room for a grant, but not for statistics. -/
def longName : TaskFile := ⟨1, 9, String.ofList (List.replicate 65450 'f')⟩

theorem encodedLen_longName : longName.encodedLen = 65466 := by
  have fixed : TaskFile.minEncodedLen = 16 := rfl
  have name : longName.filename.utf8ByteSize = 65450 := utf8ByteSize_replicate 65450
  rw [TaskFile.encodedLen, name, fixed]

theorem statistics_of_longName_unsendable :
    (∃ payload : Bytes, payload.length ≤ maxPayload ∧
      fromPayload (MessageSet.tag (ManagerMessage.addFile longName)) payload =
        .ok (ManagerMessage.addFile longName)) ∧
    .toManager (.sendStatistics longName Statistics.empty) ∈
      ((ServerState.start { ServerConfig.standard with shortStatistics := false }).play
        [.submitted longName, .terminated]).outbound ∧
    ∃ e, toPayload (ReportMessage.sendStatistics longName Statistics.empty) = .error e := by
  have dispatchable : longName.Dispatchable := by
    rw [TaskFile.Dispatchable, encodedLen_longName]
    decide
  have unreportable : ¬longName.Reportable := by
    rw [TaskFile.Reportable, encodedLen_longName]
    decide
  exact unsendable_of_unreportable rfl dispatchable unreportable

end TrialFarm
