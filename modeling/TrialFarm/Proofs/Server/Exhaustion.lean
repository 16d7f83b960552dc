import TrialFarm.Proofs.Server.Completion
import TrialFarm.Proofs.Server.Unbounded

/-!
# Policies for files without a bound

The scheduler of a server does what is asked of it in the events. So a file without a bound that is
tried forever is queued or out whenever the server looks whether the run is over, and the run cannot
end by itself.

## Main definitions

* `ServerState.callsIn`, `ServerState.trace`: what the scheduler is asked for.

## Main statements

* `ServerState.scheduler_play`: the scheduler of a run comes from calls.
* `unbounded_follow_policy`: files without a bound follow the policy over whole runs.
-/

namespace TrialFarm

namespace ServerState

variable {s s' : ServerState} {e : StateEvent}

/-! ### Calls of the scheduler -/

/-- The calls that give holdings back, up to the first that is refused. -/
def returns (s : Scheduler) : Holdings → List SchedulerCall
  | [] => []
  | (task, count) :: rest =>
    .release task count ::
      match s.release task count with
      | .ok s => returns s rest
      | .error _ => []

/-- A report is passed on if the worker has as many trials. -/
def callsOfReport (s : ServerState) (id : WorkerId) (r : TrialRecord) : List SchedulerCall :=
  match s.roster.find? id with
  | none => []
  | some w =>
    match w.settle r.taskId r.instancesProcessed with
    | .ok _ => [.complete r]
    | .error _ => []

/-- A worker that leaves gives back what it held. -/
def callsOfLeave (s : ServerState) (id : WorkerId) : List SchedulerCall :=
  match s.roster.find? id with
  | none => []
  | some w => returns s.scheduler w.outstanding

/-- What an event asks of the scheduler. -/
def callsIn (s : ServerState) : StateEvent → List SchedulerCall
  | .joined | .terminated | .said _ (.foundSolution _) => []
  | .submitted file => if s.phase = .running then [.addFile file] else []
  | .said id (.getInstances requested) =>
    if s.roster.contains id && !s.dispatchSuspended then [.grant requested] else []
  | .said id (.doneProcessing r) => s.callsOfReport id r
  | .said id .disconnect | .lost id => s.callsOfLeave id

/-- What events ask of the scheduler. -/
def trace : ServerState → List StateEvent → List SchedulerCall
  | _, [] => []
  | s, e :: events => s.callsIn e ++ trace (s.apply e).1 events

/-- Giving holdings back is a number of calls. -/
theorem releaseAll_eq (s : Scheduler) (h : Holdings) :
    (releaseAll s h).1 = (returns s h).foldl Scheduler.call s := by
  induction h generalizing s with
  | nil => rfl
  | cons entry rest ih =>
    obtain ⟨task, count⟩ := entry
    unfold releaseAll returns
    cases done : s.release task count with
    | error fault =>
      simp only [List.foldl_cons, List.foldl_nil, Scheduler.call, done]
      rfl
    | ok s' =>
      simp only [List.foldl_cons, Scheduler.call, done]
      exact ih s'

/-- To the scheduler it makes no difference whether the server moves on. -/
theorem scheduler_thenAdvance (r : ServerState × Except Error Unit) :
    (thenAdvance r).1.scheduler = r.1.scheduler := by
  obtain ⟨s, outcome⟩ := r
  cases outcome with
  | ok u => exact (announces_advance s).scheduler
  | error e => rfl

/-- A report is at most one call. -/
theorem scheduler_complete (s : ServerState) (id : WorkerId) (r : TrialRecord) :
    (s.complete id r).1.scheduler =
      (s.callsOfReport id r).foldl Scheduler.call s.scheduler := by
  unfold complete callsOfReport
  cases s.roster.find? id with
  | none => rfl
  | some w =>
    dsimp only
    cases w.settle r.taskId r.instancesProcessed with
    | error fault => rfl
    | ok w' =>
      dsimp only
      cases done : s.scheduler.complete r with
      | error fault =>
        simp only [List.foldl_cons, List.foldl_nil, Scheduler.call, done]
        rfl
      | ok scheduler =>
        simp only [List.foldl_cons, List.foldl_nil, Scheduler.call, done]
        rfl

/-- A worker that leaves is some calls. -/
theorem scheduler_removeWorker (s : ServerState) (id : WorkerId) :
    (s.removeWorker id).1.scheduler = (s.callsOfLeave id).foldl Scheduler.call s.scheduler := by
  unfold removeWorker callsOfLeave
  cases s.roster.find? id with
  | none => rfl
  | some w =>
    dsimp only
    rw [← releaseAll_eq]
    split
    · next given => rw [given]
    · next given =>
      rw [given]
      rfl

/-- Of a worker that is off the roster the scheduler hears nothing. -/
theorem callsIn_of_gone {id : WorkerId} (gone : s.roster.contains id = false) (m : WorkerMessage) :
    s.callsIn (.said id m) = [] ∧ s.callsIn (.lost id) = [] := by
  have none : s.roster.find? id = none := by
    simpa [Roster.contains] using gone
  have leave : s.callsOfLeave id = [] := by simp [callsOfLeave, none]
  refine ⟨?_, leave⟩
  cases m with
  | getInstances => simp [callsIn, gone]
  | doneProcessing r => simp [callsIn, callsOfReport, none]
  | foundSolution => rfl
  | disconnect => exact leave

/-- An event changes the scheduler by calls only. -/
theorem scheduler_apply (s : ServerState) (e : StateEvent) :
    (s.apply e).1.scheduler = (s.callsIn e).foldl Scheduler.call s.scheduler := by
  cases e with
  | joined => exact (announces_workerJoined s).scheduler
  | submitted file =>
    unfold apply addFile
    dsimp only
    by_cases running : s.phase = .running
    · simp only [callsIn, running, ne_eq, not_true_eq_false, if_false, if_true, List.foldl_cons,
        List.foldl_nil, Scheduler.call]
      cases added : s.scheduler.addFile file with
      | error fault => rfl
      | ok r => exact (announces_wakeIdle _).scheduler
    · simp only [callsIn, running, ne_eq, not_false_eq_true, if_true, if_false]
      rfl
  | terminated =>
    exact (announces_advance _).scheduler.trans (announces_terminateWorkers _).scheduler
  | said id m =>
    unfold apply handleWorker
    dsimp only
    split
    · next away =>
      rw [(callsIn_of_gone (by simpa using away) m).1]
      rfl
    next there =>
    cases m with
    | getInstances requested =>
      obtain ⟨roster, sent, same, -⟩ := grant_frame s id requested
      refine (scheduler_thenAdvance _).trans ?_
      rw [same]
      have on : s.roster.contains id = true := by simpa using there
      unfold handOut
      -- A server that hands out nothing any more does not ask the scheduler.
      cases suspended : s.dispatchSuspended with
      | true => simp [callsIn, suspended]
      | false => simp [callsIn, suspended, on, Scheduler.call]
    | doneProcessing r => exact (scheduler_thenAdvance _).trans (s.scheduler_complete id r)
    | foundSolution solution =>
      exact (announces_advance _).scheduler.trans (announces_foundSolution s solution).scheduler
    | disconnect => exact (scheduler_thenAdvance _).trans (s.scheduler_removeWorker id)
  | lost id =>
    unfold apply workerLost
    dsimp only
    split
    · exact (scheduler_thenAdvance _).trans (s.scheduler_removeWorker id)
    · next away =>
      rw [(callsIn_of_gone (by simpa using away) .disconnect).2]
      rfl

/-- Any events are calls to the scheduler, one after the other. -/
theorem scheduler_play (s : ServerState) (events : List StateEvent) :
    (s.play events).scheduler = (s.trace events).foldl Scheduler.call s.scheduler := by
  induction events generalizing s with
  | nil => rfl
  | cons e events ih =>
    rw [trace, List.foldl_append, ← scheduler_apply]
    exact ih (s.apply e).1

/-! ### Reasons to end -/

/-- What an event does to a server before it may move on. -/
structure Drives (s : ServerState) (e : StateEvent) (s₁ : ServerState) : Prop where
  phase : s₁.phase = s.phase
  requested : s₁.terminateRequested = true → s.terminateRequested = true ∨ e = .terminated
  solved : s₁.solutionFound = true →
    s.solutionFound = true ∨ ∃ id solution, e = .said id (.foundSolution solution)

/-- What leaves phase and flags alone drives nothing. -/
theorem Drives.of_same (phase : s'.phase = s.phase)
    (requested : s'.terminateRequested = s.terminateRequested)
    (solved : s'.solutionFound = s.solutionFound) : s.Drives e s' :=
  ⟨phase, fun flag => .inl (requested ▸ flag), fun flag => .inl (solved ▸ flag)⟩

/-- A server moves on, or it does not. -/
theorem thenAdvance_cases (r : ServerState × Except Error Unit) :
    (thenAdvance r).1 = r.1 ∨ (thenAdvance r).1 = r.1.advance := by
  obtain ⟨s, outcome⟩ := r
  cases outcome with
  | ok u => exact Or.inr rfl
  | error e => exact Or.inl rfl

/-- A request drives a server nowhere, -/
theorem drives_grant (s : ServerState) (id : WorkerId) (requested : UInt32) :
    s.Drives e (s.grant id requested).1 := by
  obtain ⟨roster, sent, same, -⟩ := grant_frame s id requested
  rw [same]
  exact .of_same rfl rfl rfl

/-- nor does a report, -/
theorem drives_complete (s : ServerState) (id : WorkerId) (r : TrialRecord) :
    s.Drives e (s.complete id r).1 := by
  unfold complete
  split
  · exact .of_same rfl rfl rfl
  split
  · exact .of_same rfl rfl rfl
  dsimp only
  split
  · exact .of_same rfl rfl rfl
  · exact .of_same rfl rfl rfl

/-- nor a worker that leaves. -/
theorem drives_removeWorker (s : ServerState) (id : WorkerId) :
    s.Drives e (s.removeWorker id).1 := by
  unfold removeWorker
  split
  · exact .of_same rfl rfl rfl
  dsimp only
  split
  · exact .of_same rfl rfl rfl
  · exact .of_same rfl rfl rfl

/-- Every event is followed by moving on, or ends where it is. -/
theorem apply_drives (s : ServerState) (e : StateEvent) :
    ∃ s₁, s.Drives e s₁ ∧ ((s.apply e).1 = s₁ ∨ (s.apply e).1 = s₁.advance) := by
  cases e with
  | joined =>
    have said := announces_workerJoined s
    refine ⟨_, .of_same ?_ said.terminateRequested said.solutionFound, Or.inl rfl⟩
    rw [workerJoined_eq, phase_wakeIdle]
    rfl
  | submitted file =>
    unfold apply
    dsimp only
    split
    · next added =>
      obtain ⟨-, scheduler, -, rfl⟩ := addFile_eq_ok added
      have said := announces_wakeIdle { s with scheduler := scheduler }
      refine ⟨_, .of_same ?_ said.terminateRequested said.solutionFound, Or.inl rfl⟩
      exact phase_wakeIdle _
    · exact ⟨s, .of_same rfl rfl rfl, Or.inl rfl⟩
  | terminated =>
    have said := announces_terminateWorkers { s with terminateRequested := true }
    refine ⟨({ s with terminateRequested := true } : ServerState).terminateWorkers,
      ⟨phase_terminateWorkers _, fun _ => Or.inr rfl, fun flag => ?_⟩, Or.inr rfl⟩
    rw [said.solutionFound] at flag
    exact Or.inl flag
  | said id m =>
    unfold apply handleWorker
    dsimp only
    split
    · exact ⟨s, .of_same rfl rfl rfl, Or.inl rfl⟩
    cases m with
    | getInstances requested => exact ⟨_, s.drives_grant id requested, thenAdvance_cases _⟩
    | doneProcessing r => exact ⟨_, s.drives_complete id r, thenAdvance_cases _⟩
    | foundSolution solution =>
      have said := announces_foundSolution s solution
      refine ⟨_, ⟨phase_foundSolution s solution, fun flag => ?_, fun _ => ?_⟩, Or.inr rfl⟩
      · exact Or.inl (said.terminateRequested ▸ flag)
      · exact Or.inr ⟨id, solution, rfl⟩
    | disconnect => exact ⟨_, s.drives_removeWorker id, thenAdvance_cases _⟩
  | lost id =>
    unfold apply workerLost
    dsimp only
    split
    · exact ⟨_, s.drives_removeWorker id, thenAdvance_cases _⟩
    · exact ⟨s, .of_same rfl rfl rfl, Or.inl rfl⟩

/-- The flags tell what has happened. -/
theorem flags_apply (s : ServerState) (e : StateEvent) :
    ((s.apply e).1.terminateRequested = true → s.terminateRequested = true ∨ e = .terminated) ∧
    ((s.apply e).1.solutionFound = true →
      s.solutionFound = true ∨ ∃ id solution, e = .said id (.foundSolution solution)) := by
  obtain ⟨s₁, drives, same | same⟩ := s.apply_drives e
  · rw [same]
    exact ⟨drives.requested, drives.solved⟩
  · have said := announces_advance s₁
    rw [same, said.terminateRequested, said.solutionFound]
    exact ⟨drives.requested, drives.solved⟩

/-- The flags of a server are set by commands of the manager and by solutions. -/
theorem flags_play (s : ServerState) (events : List StateEvent) :
    ((s.play events).terminateRequested = true →
      s.terminateRequested = true ∨ .terminated ∈ events) ∧
    ((s.play events).solutionFound = true →
      s.solutionFound = true ∨ ∃ id solution, .said id (.foundSolution solution) ∈ events) := by
  induction events generalizing s with
  | nil => exact ⟨Or.inl, Or.inl⟩
  | cons e events ih =>
    have step := s.flags_apply e
    obtain ⟨asked, solved⟩ := ih (s.apply e).1
    refine ⟨fun flag => ?_, fun flag => ?_⟩
    · rcases asked flag with before | member
      · exact (step.1 before).imp_right fun (same : e = .terminated) => by simp [same]
      · exact Or.inr (List.mem_cons_of_mem _ member)
    · rcases solved flag with before | ⟨id, solution, member⟩
      · refine (step.2 before).imp_right ?_
        rintro ⟨id, solution, rfl⟩
        exact ⟨id, solution, List.mem_cons_self ..⟩
      · exact Or.inr ⟨id, solution, List.mem_cons_of_mem _ member⟩

/-- A server with a file that is tried forever has a reason to stop running. -/
theorem leaves_for_reason (running : s.phase = .running)
    (leaves : (s.apply e).1.phase ≠ .running) (summed : (s.apply e).1.scheduler.Summed)
    (restless : (s.apply e).1.scheduler.Restless) {id : TaskId} {file : TaskFile}
    (known : (s.apply e).1.scheduler.file? id = some file) (unbounded : file.startConfigs = 0) :
    (s.apply e).1.terminateRequested = true ∨ (s.apply e).1.solutionFound = true := by
  obtain ⟨s₁, drives, same | same⟩ := s.apply_drives e
  · rw [same, drives.phase] at leaves
    exact absurd running leaves
  · have said := announces_advance s₁
    rw [same] at leaves summed restless known ⊢
    rw [said.scheduler] at summed restless known
    rw [said.terminateRequested, said.solutionFound]
    have due : s₁.drainDue = true := by
      rw [advance_phase] at leaves
      by_contra still
      exact leaves (if_pos ⟨drives.phase.trans running, by simpa using still⟩)
    obtain ⟨none, reason⟩ := drainDue_iff.mp due
    rcases reason with asked | solved | ⟨-, -, idle⟩
    · exact Or.inl asked
    · exact Or.inr solved
    · -- The file is neither queued nor out, which cannot be.
      rcases restless id file known unbounded with queued | out
      · rw [idle] at queued
        cases queued
      · rw [summed.outOf_eq_zero none] at out
        cases out

end ServerState

/-! ### Whole runs -/

open Scheduler

section Calls

variable {calls : List SchedulerCall} {s : Scheduler} {id : TaskId} {t : Task}

/-- Tried once, a file without a bound is in at most one batch, and it never returns to the queue.
-/
theorem tried_once (ran : s = calls.foldl Scheduler.call (Scheduler.empty .tryOnce))
    (found : s.task? id = some t) (unbounded : t.file.startConfigs = 0) :
    batchesFor ((Scheduler.empty .tryOnce).batchesOf calls) id ≤ 1 ∧
      (id ∉ s.queue →
        ∀ later : List SchedulerCall, id ∉ (later.foldl Scheduler.call s).queue) := by
  have known := file?_of_task? found
  have policy : s.policy = .tryOnce := ran ▸ calls_policy _ calls
  constructor
  · exact batches_of_tried Quota.empty rfl (ran ▸ known) unbounded
  · intro left later back
    have all := calls_tried known unbounded policy later
    have := List.count_eq_zero.mpr left
    have := List.count_pos_iff.mpr back
    omega

/-- Tried forever, a file without a bound is queued or has trials out, and reports and releases
queue it again. -/
theorem tried_forever (ran : s = calls.foldl Scheduler.call (Scheduler.empty .retryForever))
    (found : s.task? id = some t) (unbounded : t.file.startConfigs = 0) :
    (id ∈ s.queue ∨ 0 < t.inFlight) ∧
      (∀ r s', r.taskId = id → s.complete r = .ok s' → id ∈ s'.queue) ∧
      ∀ count s', s.release id count = .ok s' → id ∈ s'.queue := by
  have known := file?_of_task? found
  have policy : s.policy = .retryForever := ran ▸ calls_policy _ calls
  have quota : Quota s.tasks s.queue := ran ▸ Quota.empty.calls calls
  refine ⟨?_, fun r s' same done => ?_, fun count s' done => ?_⟩
  · have restless : s.Restless := ran ▸ (Restless.empty _).calls Quota.empty rfl calls
    have busy := restless id t.file known unbounded
    rwa [outOf_of_some found, ← UInt32.toNat_zero, ← UInt32.lt_iff_toNat_lt] at busy
  · subst same
    exact queued_of_complete quota known unbounded policy done
  · exact queued_of_release quota known unbounded policy done

end Calls

/-- With a file without a bound that is tried forever, a server ends its work only if it is told to,
or for a solution. -/
theorem runs_on {c : ServerConfig} {events : List StateEvent} {e : StateEvent}
    {s s' : ServerState} {id : TaskId} {t : Task} (forever : c.zeroQuotaPolicy = .retryForever)
    (before : s = (ServerState.start c).play events)
    (after : s' = (ServerState.start c).play (events ++ [e])) (running : s.phase = .running)
    (leaves : s'.phase ≠ .running) (found : s'.scheduler.task? id = some t)
    (unbounded : t.file.startConfigs = 0) :
    s'.terminateRequested = true ∧ .terminated ∈ events ++ [e] ∨
      s'.solutionFound = true ∧
        ∃ id solution, .said id (.foundSolution solution) ∈ events ++ [e] := by
  have step : s' = (s.apply e).1 := by
    rw [after, before]
    exact List.foldl_concat ..
  have scheduler : s'.scheduler = ((ServerState.start c).trace (events ++ [e])).foldl
      Scheduler.call (Scheduler.empty c.zeroQuotaPolicy) := by
    rw [after]
    exact ServerState.scheduler_play ..
  have reason : s'.terminateRequested = true ∨ s'.solutionFound = true := by
    have restless : s'.scheduler.Restless :=
      scheduler ▸ (Restless.empty _).calls Quota.empty forever _
    have summed : s'.scheduler.Summed := scheduler ▸ ((Orderly.empty _).calls _).summed
    have known := file?_of_task? found
    rw [step] at leaves restless summed known ⊢
    exact ServerState.leaves_for_reason running leaves summed restless known unbounded
  obtain ⟨asked, solved⟩ := ServerState.flags_play (ServerState.start c) (events ++ [e])
  rw [← after] at asked solved
  refine reason.imp (fun flag => ⟨flag, ?_⟩) (fun flag => ⟨flag, ?_⟩)
  · exact (asked flag).resolve_left nofun
  · exact (solved flag).resolve_left nofun

/-- Files without a bound follow the policy over all calls of a scheduler. If they are tried once,
each of them is handed out in one batch at most and never returns to the queue. If they are tried
forever, each of them is queued or out, and is queued whenever trials of it came back. So a server
that has such a file runs until it is asked to end or a solution is found. -/
theorem unbounded_follow_policy :
    (∀ (calls : List SchedulerCall),
      let s := calls.foldl Scheduler.call (Scheduler.empty .tryOnce)
      ∀ id t, s.task? id = some t → t.file.startConfigs = 0 →
        batchesFor ((Scheduler.empty .tryOnce).batchesOf calls) id ≤ 1 ∧
        (id ∉ s.queue → ∀ later : List SchedulerCall, id ∉ (later.foldl Scheduler.call s).queue)) ∧
    (∀ (calls : List SchedulerCall),
      let s := calls.foldl Scheduler.call (Scheduler.empty .retryForever)
      ∀ id t, s.task? id = some t → t.file.startConfigs = 0 →
        (id ∈ s.queue ∨ 0 < t.inFlight) ∧
        (∀ r s', r.taskId = id → s.complete r = .ok s' → id ∈ s'.queue) ∧
        (∀ count s', s.release id count = .ok s' → id ∈ s'.queue)) ∧
    (∀ (c : ServerConfig) (events : List StateEvent) (e : StateEvent),
      c.zeroQuotaPolicy = .retryForever →
      let s := (ServerState.start c).play events
      let s' := (ServerState.start c).play (events ++ [e])
      s.phase = .running → s'.phase ≠ .running →
      (∃ id t, s'.scheduler.task? id = some t ∧ t.file.startConfigs = 0) →
      s'.terminateRequested = true ∧ .terminated ∈ events ++ [e] ∨
      s'.solutionFound = true ∧
        ∃ id solution, .said id (.foundSolution solution) ∈ events ++ [e]) := by
  refine ⟨?_, ?_, ?_⟩
  · intro calls s id t found unbounded
    exact tried_once rfl found unbounded
  · intro calls s id t found unbounded
    exact tried_forever rfl found unbounded
  · rintro c events e forever s s' running leaves ⟨id, t, found, unbounded⟩
    exact runs_on forever rfl rfl running leaves found unbounded

/-- A file without a bound is submitted and handed out to a worker, which is lost. -/
def endlessFile : List StateEvent :=
  [.joined, .submitted ⟨0, 10, "a.cnf"⟩, .said 0 (.getInstances 2), .lost 0]

/-- A trial that comes back brings the file back if it is tried forever, but not if it is tried
once. A server with such a file ends because it is asked to. -/
theorem unbounded_follow_policy_endless :
    let calls := [.addFile ⟨0, 10, "a.cnf"⟩, .grant 2, .release 0 1]
    let c := { ServerConfig.standard with zeroQuotaPolicy := .retryForever }
    let s' := (ServerState.start c).play (endlessFile ++ [.terminated])
    batchesFor ((Scheduler.empty .tryOnce).batchesOf calls) 0 ≤ 1 ∧
    0 ∈ (calls.foldl Scheduler.call (Scheduler.empty .retryForever)).queue ∧
    s'.phase ≠ .running ∧ s'.terminateRequested = true := by
  obtain ⟨once, forever, server⟩ := unbounded_follow_policy
  intro calls c s'
  refine ⟨(once calls 0 _ rfl rfl).1, ?_, by decide, ?_⟩
  · exact (forever [.addFile ⟨0, 10, "a.cnf"⟩, .grant 2] 0 _ rfl rfl).2.2 1 _ rfl
  · have quota : (s'.scheduler.task? 0).map (·.file.startConfigs) = some 0 := by decide
    have reason := server c endlessFile .terminated rfl (by decide) (by decide)
      ⟨0, Option.map_eq_some_iff.1 quota⟩
    rcases reason with ⟨asked, -⟩ | ⟨-, id, solution, member⟩
    · exact asked
    · simp [endlessFile] at member

end TrialFarm
