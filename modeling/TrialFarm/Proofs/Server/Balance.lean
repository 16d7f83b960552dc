import TrialFarm.Proofs.Server.Grants
import TrialFarm.Proofs.Server.Reports
import TrialFarm.Proofs.Server.Waking

/-!
# Balance

The roster says who holds how many trials of a task; the scheduler says how many are out, of each
task and in all. A server is in balance if the two agree. Every operation keeps the balance, and
in balance trials can always be given back.

## Main definitions

* `ServerState.Balanced`: roster and scheduler agree.
* `ServerState.greet`: a worker joins.
* `ServerState.handOut`: what a worker that asks is granted.

## Main statements

* `Balanced.greet`, `Balanced.addFile`, `Balanced.grant`, `Balanced.complete`,
  `Balanced.removeWorker`: the operations keep the balance.
* `Balanced.complete_of_held`, `Balanced.removeWorker`: in balance nothing that is held is refused.
-/

namespace TrialFarm

namespace ServerState

/-- Roster and scheduler agree on what is out. -/
structure Balanced (s : ServerState) : Prop where
  roster : s.roster.Kept
  scheduler : s.scheduler.Summed
  agree : ∀ task, s.roster.held task = outOf s.scheduler.tasks task

variable {s s' : ServerState} {id : WorkerId} {w : Worker}

theorem Balanced.start (c : ServerConfig) : (start c).Balanced where
  roster := Roster.Kept.empty
  scheduler := Scheduler.Summed.empty _
  agree task := by simp [ServerState.start, Roster.held, Roster.empty, outOf, Scheduler.empty]

/-- What a worker holds of a task is out. -/
theorem Balanced.held_le (balanced : s.Balanced) (found : s.roster.find? id = some w)
    (task : TaskId) : w.outstanding.held task ≤ outOf s.scheduler.tasks task := by
  rw [← balanced.agree]
  exact Roster.held_le_held found task

/-- Announcements keep the balance. -/
theorem Announces.balanced (said : s.Announces s') (balanced : s.Balanced) : s'.Balanced where
  roster := said.roster.kept balanced.roster
  scheduler := said.scheduler ▸ balanced.scheduler
  agree task := by
    rw [said.roster.held, said.scheduler]
    exact balanced.agree task

/-! ### Joining and submitting -/

/-- The next worker is on the roster. If all workers were told to stop, so is this one. -/
def greet (s : ServerState) : ServerState :=
  { s with
    roster := s.roster.join.2
    outbound := s.outbound ++
      if s.workersTerminated then [.toWorker s.roster.nextId .terminate] else [] }

/-- A worker that was not told to stop is told that there is work, like all others. -/
theorem workerJoined_eq (s : ServerState) : s.workerJoined.2 = s.greet.wakeIdle := by
  unfold workerJoined greet
  dsimp only
  split
  · next told =>
    rw [wakeIdle_of_not_awake]
    · rfl
    · intro awake
      have suspended := awake.open'
      simp [dispatchSuspended, told] at suspended
  · rw [List.append_nil]

/-- What is left of joining after the worker was greeted is announced. -/
theorem announces_workerJoined (s : ServerState) : s.greet.Announces s.workerJoined.2 := by
  rw [workerJoined_eq]
  exact announces_wakeIdle _

/-- A worker that has just joined holds nothing. -/
theorem Balanced.greet (balanced : s.Balanced) (left : s.roster.nextId.toNat + 1 < 2 ^ 64) :
    s.greet.Balanced := by
  refine ⟨balanced.roster.join left, balanced.scheduler, fun task => ?_⟩
  show s.roster.join.2.held task = outOf s.scheduler.tasks task
  rw [← balanced.agree]
  exact Roster.held_join task

/-- A file is accepted while the server runs, if the scheduler takes it. Then idle workers are
woken. -/
theorem addFile_eq_ok {file : TaskFile} {task : TaskId} (done : s.addFile file = .ok (task, s')) :
    s.phase = .running ∧ ∃ scheduler, s.scheduler.addFile file = .ok (task, scheduler) ∧
      s' = { s with scheduler := scheduler }.wakeIdle := by
  unfold addFile at done
  split at done
  · simp at done
  next running =>
  split at done
  · simp at done
  next added =>
  simp only [Except.ok.injEq, Prod.mk.injEq] at done
  obtain ⟨rfl, rfl⟩ := done
  exact ⟨not_not.mp running, _, added, rfl⟩

/-- Of a task that was just submitted nothing is out. -/
theorem Balanced.addFile {file : TaskFile} {task : TaskId} {scheduler : Scheduler}
    (balanced : s.Balanced) (added : s.scheduler.addFile file = .ok (task, scheduler)) :
    ServerState.Balanced { s with scheduler := scheduler } := by
  refine ⟨balanced.roster, balanced.scheduler.addFile added, fun other => ?_⟩
  obtain ⟨-, -, -, rfl⟩ := Scheduler.addFile_eq_ok added
  dsimp only
  rw [outOf_push]
  exact balanced.agree other

/-! ### Granting -/

/-- What a worker that asks is granted, and the scheduler after that. Nothing is granted by a server
that hands out nothing any more, or that would run over a count. -/
def handOut (s : ServerState) (requested : UInt32) : List Batch × Scheduler :=
  if s.dispatchSuspended then ([], s.scheduler) else s.scheduler.handed requested

/-- Whatever is handed out is a grant, if perhaps of nothing. -/
theorem handOut_spec (s : ServerState) (requested : UInt32) :
    s.scheduler.Granted (s.handOut requested).2 requested (s.handOut requested).1 := by
  unfold handOut
  split
  · exact Scheduler.Granted.nothing _ _
  · exact Scheduler.handed_spec _ _

/-- What is allotted is handed out. -/
theorem handOut_of_allot {requested : UInt32} {r : List Batch × Scheduler}
    (allotted : s.allot requested = .ok r) : s.handOut requested = r := by
  unfold allot at allotted
  unfold handOut
  split at allotted
  · next suspended =>
    rw [if_pos suspended]
    exact Except.ok.inj allotted
  · next open' =>
    rw [if_neg open']
    exact Scheduler.handed_of_ok allotted

/-- What is handed over is entered at the worker and sent. -/
theorem handOver_eq_ok {batches : List Batch} (done : s.handOver id batches = (s', .ok ())) :
    ∃ w w', s.roster.find? id = some w ∧ w.grantAll batches = .ok w' ∧
      s' = { s with roster := s.roster.modify id fun _ => w' }.push
        [.toWorker id (.sendInstances batches)] := by
  unfold handOver at done
  split at done
  · cases (Prod.mk.inj done).2
  next w found =>
  split at done
  · cases (Prod.mk.inj done).2
  next w' entered =>
  exact ⟨w, w', found, entered, (Prod.mk.inj done).1.symm⟩

/-- A grant that succeeds is entered at the worker and answered. -/
theorem grant_eq_ok {requested : UInt32} (done : s.grant id requested = (s', .ok ())) :
    ∃ w w', s.roster.find? id = some w ∧ w.grantAll (s.handOut requested).1 = .ok w' ∧
      s' = { s with
        scheduler := (s.handOut requested).2
        roster := s.roster.modify id fun _ => w' }.push
          [.toWorker id (.sendInstances (s.handOut requested).1)] := by
  unfold grant at done
  split at done
  · cases (Prod.mk.inj done).2
  next batches scheduler allotted =>
  rw [handOut_of_allot allotted]
  exact handOver_eq_ok done

/-- Nothing is handed out if a count would run over. -/
theorem handOut_of_overflow {requested : UInt32} {overflow : Overflow}
    (failed : s.allot requested = .error overflow) : s.handOut requested = ([], s.scheduler) := by
  unfold allot at failed
  unfold handOut
  split at failed
  · cases failed
  · next open' =>
    rw [if_neg open']
    exact Scheduler.handed_of_error failed

/-- A grant that would run over a count changes nothing. -/
theorem grant_of_overflow {requested : UInt32} {overflow : Overflow}
    (failed : s.allot requested = .error overflow) :
    s.grant id requested = (s, .error overflow.toError) := by
  unfold grant
  rw [failed]

/-- A grant, also one that fails, takes from the scheduler what is handed out. Besides it can only
enter that at the worker and send it. -/
theorem grant_frame (s : ServerState) (id : WorkerId) (requested : UInt32) :
    ∃ roster sent, (s.grant id requested).1 = { s with
        scheduler := (s.handOut requested).2
        roster := roster
        outbound := s.outbound ++ sent } ∧
      ∀ action ∈ sent, action = .toWorker id (.sendInstances (s.handOut requested).1) := by
  unfold grant
  split
  · next failed =>
    rw [handOut_of_overflow failed]
    exact ⟨s.roster, [], by rw [List.append_nil], nofun⟩
  next batches scheduler allotted =>
  rw [handOut_of_allot allotted]
  unfold handOver
  split
  · exact ⟨s.roster, [], by rw [List.append_nil], nofun⟩
  split
  · exact ⟨s.roster, [], by rw [List.append_nil], nofun⟩
  · exact ⟨_, _, rfl, fun action member => List.mem_singleton.mp member⟩

/-- To the scheduler a grant that succeeds is what was handed out. -/
theorem granted_of_grant {requested : UInt32} (done : s.grant id requested = (s', .ok ())) :
    s.scheduler.Granted s'.scheduler requested (s.handOut requested).1 := by
  obtain ⟨w, w', -, -, rfl⟩ := grant_eq_ok done
  exact handOut_spec s requested

/-- What a worker holds after what it was handed out was entered. -/
theorem Balanced.granted {requested : UInt32} {w' : Worker} (balanced : s.Balanced)
    (found : s.roster.find? id = some w)
    (entered : w.grantAll (s.handOut requested).1 = .ok w') :
    w'.outstanding.Kept ∧
      (∀ t, w'.outstanding.held t = w.outstanding.held t + trialsOf (s.handOut requested).1 t) ∧
      w'.outstanding.load = w.outstanding.load + trials (s.handOut requested).1 :=
  Worker.grantAll_spec (balanced.roster.holdings _ (Roster.mem_of_find? found))
    (handOut_spec s requested).positive entered

/-- In balance what can be handed out can be entered: a worker holds no more than is out. -/
theorem Balanced.grant_of_allot {requested : UInt32} {r : List Batch × Scheduler}
    (balanced : s.Balanced) (found : s.roster.find? id = some w)
    (allotted : s.allot requested = .ok r) : ∃ s', s.grant id requested = (s', .ok ()) := by
  have fits := (handOut_spec s requested).fits
  rw [handOut_of_allot allotted] at fits
  obtain ⟨w', entered⟩ := Worker.grantAll_of_fits (w := w) fun t =>
    (Nat.add_le_add_right (balanced.held_le found t) _).trans_lt (fits t)
  unfold ServerState.grant handOver
  rw [allotted]
  dsimp only
  rw [found]
  dsimp only
  rw [entered]
  exact ⟨_, rfl⟩

/-- In balance a worker is granted what it asks for if no count can run over. -/
theorem Balanced.grant_of_room {requested : UInt32} (balanced : s.Balanced)
    (found : s.roster.find? id = some w)
    (room : ∀ task, s.roster.held task + requested.toNat < 2 ^ 32) :
    ∃ s', s.grant id requested = (s', .ok ()) := by
  obtain ⟨r, allotted⟩ : ∃ r, s.allot requested = .ok r := by
    unfold allot
    split
    · exact ⟨_, rfl⟩
    · exact Scheduler.grant_of_room fun task => balanced.agree task ▸ room task
  exact balanced.grant_of_allot found allotted

/-- What is handed out is entered at the worker and at the scheduler. -/
theorem Balanced.grant {requested : UInt32} (balanced : s.Balanced)
    (done : s.grant id requested = (s', .ok ())) : s'.Balanced := by
  obtain ⟨w, w', found, entered, rfl⟩ := grant_eq_ok done
  have granted := handOut_spec s requested
  obtain ⟨kept, held, -⟩ := balanced.granted found entered
  refine ⟨balanced.roster.modify fun _ _ => kept, granted.summed balanced.scheduler,
    fun task => ?_⟩
  have changed := Roster.held_modify_add (f := fun _ => w') balanced.roster found task
  have := granted.outOf_eq task
  have := balanced.agree task
  have := held task
  dsimp only [push] at changed ⊢
  omega

/-! ### Reports -/

/-- A report is accepted by the worker's entry and by the scheduler, or by neither. -/
theorem complete_eq_ok {r : TrialRecord} (done : s.complete id r = (s', .ok ())) :
    ∃ w w' scheduler, s.roster.find? id = some w ∧
      w.settle r.taskId r.instancesProcessed = .ok w' ∧
      s.scheduler.complete r = .ok scheduler ∧
      s' = { s with roster := s.roster.modify id fun _ => w', scheduler := scheduler } := by
  unfold complete at done
  split at done
  · simp at done
  next w found =>
  split at done
  · simp at done
  next w' settled =>
  dsimp only at done
  split at done
  · simp at done
  next scheduler completed =>
  simp only [Prod.mk.injEq, and_true] at done
  exact ⟨w, w', scheduler, found, settled, completed, done.symm⟩

/-- A report is struck out at the worker and at the scheduler. -/
theorem Balanced.complete {r : TrialRecord} (balanced : s.Balanced)
    (done : s.complete id r = (s', .ok ())) : s'.Balanced := by
  obtain ⟨w, w', scheduler, found, settled, completed, rfl⟩ := complete_eq_ok done
  obtain ⟨-, kept, -, enough, held, -⟩ :=
    Worker.settle_spec (balanced.roster.holdings _ (Roster.mem_of_find? found)) settled
  refine ⟨balanced.roster.modify fun _ _ => kept, balanced.scheduler.complete completed,
    fun task => ?_⟩
  have changed := Roster.held_modify_add (f := fun _ => w') balanced.roster found task
  have taken := Scheduler.outOf_complete completed task
  have := balanced.agree task
  have := held task
  dsimp only at changed ⊢
  by_cases same : task = r.taskId
  · subst same
    simp only [if_true] at *
    omega
  · simp only [if_neg same] at *
    omega

/-- In balance, a report of at most what the worker holds is accepted if it fits the task's
shape. -/
theorem Balanced.complete_of_held {r : TrialRecord} (balanced : s.Balanced)
    (found : s.roster.find? id = some w) (pos : 0 < r.instancesProcessed)
    (enough : r.instancesProcessed.toNat ≤ w.outstanding.held r.taskId)
    (fitting : ∀ t, s.scheduler.task? r.taskId = some t → t.clashes r = false) :
    ∃ s', s.complete id r = (s', .ok ()) := by
  obtain ⟨w', settled⟩ := Worker.settle_of_held pos enough
  -- The scheduler sees at least what this worker holds, in the task and in all.
  have out := Nat.le_trans enough (balanced.held_le found r.taskId)
  obtain ⟨t, task, here⟩ : ∃ t, s.scheduler.task? r.taskId = some t ∧
      r.instancesProcessed ≤ t.inFlight := by
    cases task : s.scheduler.task? r.taskId with
    | none =>
      rw [outOf_of_none task] at out
      rw [UInt32.lt_iff_toNat_lt] at pos
      exact absurd (Nat.lt_of_lt_of_le pos out) (Nat.lt_irrefl 0)
    | some t =>
      rw [outOf_of_some task] at out
      exact ⟨t, rfl, UInt32.le_iff_toNat_le.mpr out⟩
  have completed := Scheduler.complete_eq_ok_iff.mpr
    ⟨t, task, here, balanced.scheduler.enough task here, fitting t task, rfl⟩
  unfold ServerState.complete
  rw [found]
  dsimp only
  rw [settled]
  dsimp only
  rw [completed]
  exact ⟨_, rfl⟩

/-! ### Solutions -/

/-- Passes a solution on to the manager. It may end the run, and then workers are told to stop. -/
def passOn (s : ServerState) (solution : Solution) : ServerState :=
  let s := s.push [.toManager (.foundSolution solution)]
  if s.terminateOnSolution then s.terminateWorkers else s

/-- Passing on a solution is an announcement. -/
theorem announces_passOn (s : ServerState) (solution : Solution) :
    s.Announces (s.passOn solution) := by
  have passed : s.Announces (s.push [.toManager (.foundSolution solution)]) :=
    ⟨rfl, Roster.SameHoldings.refl _, rfl, rfl, rfl, id, [_], rfl,
      by simp [Action.IsAnnouncement], Or.inl⟩
  unfold passOn
  dsimp only
  split
  · exact passed.trans (announces_terminateWorkers _)
  · exact passed

/-- What is left of a solution after it is noted is announced. -/
theorem announces_foundSolution (s : ServerState) (solution : Solution) :
    Announces { s with solutionFound := true } (s.foundSolution solution) :=
  announces_passOn _ solution

/-! ### Leaving -/

/-- A worker leaves the roster, and its connection is to be closed. -/
theorem removeWorker_eq_ok (found : s.roster.find? id = some w)
    (removed : s.removeWorker id = (s', .ok ())) :
    ∃ scheduler, releaseAll s.scheduler w.outstanding = (scheduler, .ok ()) ∧
      s' = { s with roster := s.roster.remove id, scheduler := scheduler }.push
        [.closeWorker id] := by
  unfold removeWorker at removed
  rw [found] at removed
  dsimp only at removed
  split at removed
  · simp at removed
  · next scheduler released =>
    simp only [Prod.mk.injEq, and_true] at removed
    exact ⟨scheduler, released, removed.symm⟩

/-- In balance a worker can always leave: all it held is given back. -/
theorem Balanced.removeWorker (balanced : s.Balanced) (found : s.roster.find? id = some w) :
    ∃ scheduler, s.removeWorker id =
        ({ s with roster := s.roster.remove id, scheduler := scheduler }.push [.closeWorker id],
          .ok ()) ∧
      ServerState.Balanced { s with roster := s.roster.remove id, scheduler := scheduler } ∧
      ∀ task, outOf scheduler.tasks task + w.outstanding.held task =
        outOf s.scheduler.tasks task := by
  obtain ⟨scheduler, released, summed, given⟩ := releaseAll_spec
    (balanced.roster.holdings (id, w) (Roster.mem_of_find? found)) balanced.scheduler
    (balanced.held_le found)
  dsimp only at released given
  refine ⟨scheduler, ?_, ⟨balanced.roster.remove, summed, fun task => ?_⟩, given⟩
  · unfold ServerState.removeWorker
    rw [found]
    dsimp only
    rw [released]
  · have := Roster.held_remove_add balanced.roster found task
    have := balanced.agree task
    have := given task
    dsimp only
    omega

end ServerState

end TrialFarm
