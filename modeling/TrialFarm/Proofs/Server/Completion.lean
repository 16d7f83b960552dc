import TrialFarm.Proofs.Server.Events
import TrialFarm.Proofs.Server.Lifecycle
import TrialFarm.Proofs.Server.Quota

/-!
# The end of a run

A server that nobody stops, and that finds no solution, goes on until every file with a bound was
run as often as it asks for.

## Main definitions

* `ServerState.play`: a run in which failures are passed over.
* `ServerState.Orderly`: the invariant of such runs.

## Main statements

* `quota_kept`: quotas hold after all calls, and a run that ends by itself has used up every quota.
-/

namespace TrialFarm

namespace ServerState

/-- The state after events. A failure is passed over. -/
def play (s : ServerState) (events : List StateEvent) : ServerState :=
  events.foldl (fun s e => (s.apply e).1) s

/-- The scheduler is orderly, and once the run has ended by itself every quota is used up. -/
structure Orderly (s : ServerState) : Prop where
  scheduler : s.scheduler.Orderly
  finished : s.phase ≠ .running → s.terminateRequested = false → s.solutionFound = false →
    s.scheduler.Finished

variable {s s' : ServerState} {e : StateEvent} {id : WorkerId}

theorem Orderly.start (c : ServerConfig) : (start c).Orderly :=
  ⟨Scheduler.Orderly.empty _, fun ended => absurd rfl ended⟩

/-- Announcements that do not change the phase keep the order. -/
theorem Announces.orderly (said : s.Announces s') (orderly : s.Orderly)
    (phase : s'.phase = s.phase) : s'.Orderly := by
  refine ⟨said.scheduler ▸ orderly.scheduler, ?_⟩
  rw [phase, said.terminateRequested, said.solutionFound, said.scheduler]
  exact orderly.finished

/-- The server only moves on by itself when the queue is empty and nothing is out. -/
theorem Orderly.advance (orderly : s.Orderly) : s.advance.Orderly := by
  have said := announces_advance s
  refine ⟨said.scheduler ▸ orderly.scheduler, ?_⟩
  rw [said.terminateRequested, said.solutionFound, said.scheduler]
  intro ended unasked unsolved
  by_cases running : s.phase = .running
  · cases due : s.drainDue with
    | false =>
      rw [advance_phase, if_pos ⟨running, due⟩] at ended
      exact absurd rfl ended
    | true =>
      -- Nobody asked for the end, so it is due because nothing waits and nothing is out.
      unfold drainDue at due
      rw [unasked, unsolved] at due
      split at due
      · simp at due
      next none =>
      simp only [Bool.false_or, Bool.and_eq_true, Bool.not_eq_true', Scheduler.hasQueued,
        Bool.not_eq_false', List.isEmpty_iff] at due
      refine orderly.scheduler.finished due.2 ?_
      rw [UInt64.lt_iff_toNat_lt] at none
      rw [← UInt64.toNat_inj]
      simp only [UInt64.toNat_zero] at none ⊢
      omega
  · exact orderly.finished running unasked unsolved

theorem Orderly.thenAdvance {r : ServerState × Except Error Unit} (orderly : r.1.Orderly) :
    (thenAdvance r).1.Orderly := by
  obtain ⟨s, outcome⟩ := r
  cases outcome with
  | ok u => exact orderly.advance
  | error e => exact orderly

/-- A report keeps the order, also one that is refused. -/
theorem Orderly.complete (orderly : s.Orderly) (r : TrialRecord) :
    (s.complete id r).1.Orderly := by
  unfold ServerState.complete
  split
  · exact orderly
  split
  · exact orderly
  dsimp only
  split
  · exact ⟨orderly.scheduler, orderly.finished⟩
  · next done =>
    exact ⟨orderly.scheduler.complete done, fun ended unasked unsolved =>
      (orderly.finished ended unasked unsolved).complete orderly.scheduler done⟩

/-- A worker that leaves keeps it. -/
theorem Orderly.removeWorker (orderly : s.Orderly) (id : WorkerId) :
    (s.removeWorker id).1.Orderly := by
  have ordered (h : Holdings) : (releaseAll s.scheduler h).1.Orderly :=
    releaseAll_induction (motive := Scheduler.Orderly)
      (fun _ _ _ _ orderly done => orderly.release done) h _ orderly.scheduler
  have finished (h : Holdings) (before : s.scheduler.Finished) :
      (releaseAll s.scheduler h).1.Finished :=
    releaseAll_induction (motive := Scheduler.Finished)
      (fun _ _ _ _ finished done => finished.release done) h _ before
  unfold ServerState.removeWorker
  split
  · exact orderly
  next w found =>
  have ordered := ordered w.outstanding
  have finished := finished w.outstanding
  dsimp only
  split
  · next released =>
    rw [released] at ordered finished
    exact ⟨ordered, fun ended unasked unsolved =>
      finished (orderly.finished ended unasked unsolved)⟩
  · next released =>
    rw [released] at ordered finished
    exact ⟨ordered, fun ended unasked unsolved =>
      finished (orderly.finished ended unasked unsolved)⟩

/-- A request keeps it, also one that runs over. -/
theorem Orderly.grant (orderly : s.Orderly) (requested : UInt32) :
    (s.grant id requested).1.Orderly := by
  have ordered : (s.handOut requested).2.Orderly ∧
      (s.scheduler.Finished → (s.handOut requested).2.Finished) := by
    unfold handOut
    split
    · exact ⟨orderly.scheduler, fun finished => finished⟩
    · exact Scheduler.handed_cases (motive := fun r =>
          r.2.Orderly ∧ (s.scheduler.Finished → r.2.Finished)) s.scheduler requested
        ⟨orderly.scheduler, fun finished => finished⟩
        fun _ _ done => ⟨orderly.scheduler.grant done, fun finished => finished.grant done⟩
  obtain ⟨roster, sent, same, -⟩ := grant_frame s id requested
  rw [same]
  exact ⟨ordered.1, fun ended unasked unsolved =>
    ordered.2 (orderly.finished ended unasked unsolved)⟩

/-- Every event keeps the server orderly, also one that fails. -/
theorem Orderly.apply (orderly : s.Orderly) (e : StateEvent) : (s.apply e).1.Orderly := by
  cases e with
  | joined =>
    refine (announces_workerJoined s).orderly ⟨orderly.scheduler, orderly.finished⟩ ?_
    show (ite _ _ _ : ServerState).phase = s.phase
    split
    · rfl
    · exact phase_wakeIdle _
  | submitted file =>
    unfold ServerState.apply
    dsimp only
    split
    · next done =>
      obtain ⟨running, scheduler, added, rfl⟩ := addFile_eq_ok done
      refine (announces_wakeIdle _).orderly ⟨orderly.scheduler.addFile added, ?_⟩ (phase_wakeIdle _)
      exact fun ended => absurd running ended
    · exact orderly
  | terminated =>
    refine Orderly.advance ((announces_terminateWorkers _).orderly ⟨orderly.scheduler, ?_⟩
      (phase_terminateWorkers _))
    exact fun _ unasked => absurd unasked (by simp)
  | said id m =>
    unfold ServerState.apply handleWorker
    dsimp only
    split
    · exact orderly
    cases m with
    | getInstances requested => exact (orderly.grant requested).thenAdvance
    | doneProcessing r => exact (orderly.complete r).thenAdvance
    | foundSolution solution =>
      refine Orderly.advance ((announces_foundSolution s solution).orderly
        ⟨orderly.scheduler, ?_⟩ (phase_foundSolution s solution))
      exact fun _ _ unsolved => absurd unsolved (by simp)
    | disconnect => exact (orderly.removeWorker id).thenAdvance
  | lost id =>
    unfold ServerState.apply workerLost
    dsimp only
    split
    · exact (orderly.removeWorker id).thenAdvance
    · exact orderly

/-- Any events keep it, those that fail included. -/
theorem Orderly.play (orderly : s.Orderly) (events : List StateEvent) :
    (s.play events).Orderly := by
  induction events generalizing s with
  | nil => exact orderly
  | cons e events ih => exact ih (orderly.apply e)

end ServerState

/-- For every policy and all calls of a scheduler, refused ones included: no task is queued twice, a
task is marked exactly while it is queued, and one with a bound stays within its quota and is queued
exactly while some of the quota is left. So whenever a server has left its first phase although
nobody asked for the end and no solution was found, all files with a bound were run exactly as often
as they ask for. Failures do not matter. -/
theorem quota_kept :
    (∀ (policy : ZeroQuotaPolicy) (calls : List SchedulerCall),
      let s := calls.foldl Scheduler.call (Scheduler.empty policy)
      s.queue.Nodup ∧
      ∀ id t, s.task? id = some t →
        (t.scheduled = true ↔ id ∈ s.queue) ∧
        (t.file.startConfigs ≠ 0 →
          t.inFlight.toNat + t.statistics.instancesStarted.toNat ≤ t.file.startConfigs.toNat ∧
          (id ∈ s.queue ↔ t.inFlight.toNat + t.statistics.instancesStarted.toNat <
            t.file.startConfigs.toNat))) ∧
    (∀ (c : ServerConfig) (events : List StateEvent),
      let s := (ServerState.start c).play events
      s.phase ≠ .running → s.terminateRequested = false → s.solutionFound = false →
      ∀ id t, s.scheduler.task? id = some t → t.file.startConfigs ≠ 0 →
        t.statistics.instancesStarted.toNat = t.file.startConfigs.toNat) := by
  constructor
  · intro policy calls s
    have quota : Scheduler.Quota s.tasks s.queue := Scheduler.Quota.empty.calls calls
    refine ⟨quota.distinct, fun id t found => ⟨quota.marked id t found, fun bounded => ?_⟩⟩
    exact ⟨quota.within id t found bounded, quota.waiting id t found bounded⟩
  · intro c events s
    exact ((ServerState.Orderly.start c).play events).finished

/-- A worker joins, a file is submitted that asks for one trial, and the trial is run. -/
def oneTrial : List StateEvent :=
  [.joined, .submitted ⟨1, 10, "a.cnf"⟩, .said 0 (.getInstances 2),
    .said 0 (.doneProcessing { (default : TrialRecord) with instancesProcessed := 1 })]

/-- After two of three trials were handed out the file is still queued; after the only trial was
reported the run ends. -/
theorem quota_kept_oneTrial :
    0 ∈ ([.addFile ⟨3, 10, "a.cnf"⟩, .grant 2].foldl Scheduler.call
      (Scheduler.empty .tryOnce)).queue ∧
    ∃ t, ((ServerState.start ServerConfig.standard).play oneTrial).scheduler.task? 0 = some t ∧
      t.statistics.instancesStarted.toNat = 1 := by
  obtain ⟨calls, runs⟩ := quota_kept
  constructor
  · have queued := ((calls .tryOnce [.addFile ⟨3, 10, "a.cnf"⟩, .grant 2]).2 0 _ rfl).2 (by decide)
    exact queued.2.mpr (by decide)
  · exact ⟨_, rfl, runs ServerConfig.standard oneTrial (by decide) rfl rfl 0 _ rfl (by decide)⟩

end TrialFarm
