import TrialFarm.Proofs.Server.Unbounded

/-!
# Grants that stay within a word

A grant ends in a crash if it would run over the count of a task, which is a word. Of a file with a
bound never more is out than the bound, and of a file without one that is tried once nothing is out
while it is queued. So only a file without a bound that is tried forever can be granted too often.

## Main definitions

* `Scheduler.Untried`: if files are tried once, nothing is out of those that are queued.
* `Scheduler.trulyOut`: trials that are out, as numbers of any size.
* `Scheduler.WithinWord`: the true numbers stay within a word all along some calls.

## Main statements

* `Scheduler.Untried.calls`: calls keep what is queued untried.
* `Scheduler.Untried.retried`: which files a grant can run over at.
* `Scheduler.grant_of_fits`: a grant succeeds if the true numbers fit into words.
* `Scheduler.WithinWord.after`: until then the counts are the true numbers.
-/

namespace TrialFarm

namespace Scheduler

variable {s s' : Scheduler} {id : TaskId} {file : TaskFile} {t : Task} {requested : UInt32}
  {bs : List Batch}

/-! ### Files that are tried once -/

/-- If files are tried once, nothing is out of those without a bound that are queued. -/
def Untried (s : Scheduler) : Prop :=
  s.policy = .tryOnce → ∀ id file, s.file? id = some file → file.startConfigs = 0 →
    id ∈ s.queue → outOf s.tasks id = 0

/-- Where there is no batch of a file, there are no trials of it. -/
theorem trialsOf_of_no_batches (none : batchesFor bs id = 0) : trialsOf bs id = 0 := by
  refine List.sum_eq_zero fun n member => ?_
  obtain ⟨b, inside, rfl⟩ := List.mem_map.mp member
  have other := List.countP_eq_zero.mp none b inside
  exact if_neg fun same => other (decide_eq_true same.symm)

/-- No call adds more to a count than what it hands out. -/
theorem outOf_call_le (s : Scheduler) (c : SchedulerCall) (id : TaskId) :
    outOf (s.call c).tasks id ≤ outOf s.tasks id + trialsOf (s.batchesOfCall c) id := by
  have called := s.called c
  generalize s.call c = s' at called ⊢
  cases called with
  | refused => exact Nat.le_add_right _ _
  | addFile added =>
    obtain ⟨-, -, -, rfl⟩ := addFile_eq_ok added
    exact (outOf_push _ _ _).trans_le (Nat.le_add_right _ _)
  | grant done =>
    rw [(grant_spec done).outOf_eq, batchesOfCall, handed_of_ok done]
  | complete done =>
    have taken := outOf_complete done id
    omega
  | release done =>
    have taken := outOf_release done id
    omega

/-- Every call keeps queued files untried, if files are tried once. -/
theorem Untried.call (untried : s.Untried) (quota : Quota s.tasks s.queue) (c : SchedulerCall) :
    (s.call c).Untried := by
  intro once id file known unbounded queued
  rw [call_policy] at once
  have grown := outOf_call_le s c id
  cases early : s.file? id with
  | none =>
    -- The file was entered just now, so the batches of this call are not of it.
    have missing : s.task? id = none := Option.map_eq_none_iff.mp early
    rw [outOf_of_none missing, trialsOf_of_no_batches (batchesFor_of_unknown early c)] at grown
    exact Nat.le_zero.mp grown
  | some old =>
    obtain rfl := Option.some.inj ((file?_call early c).symm.trans known)
    -- Its only place in the queue is still there and was not made a batch.
    have moved := call_tried early unbounded once c
    have single := List.nodup_iff_count_le_one.mp quota.distinct id
    have still := List.count_pos_iff.mpr queued
    have before := List.count_pos_iff.mp (show 0 < s.queue.count id by omega)
    have none : batchesFor (s.batchesOfCall c) id = 0 := by omega
    rw [untried once id old early unbounded before,
      trialsOf_of_no_batches none] at grown
    exact Nat.le_zero.mp grown

theorem Untried.empty (policy : ZeroQuotaPolicy) : (empty policy).Untried := by
  intro _ id file known
  simp [Scheduler.file?, task?, Scheduler.empty] at known

/-- Calls keep the quota, and what is queued untried. -/
theorem Untried.calls (untried : s.Untried) (quota : Quota s.tasks s.queue)
    (calls : List SchedulerCall) :
    (calls.foldl Scheduler.call s).Untried ∧
      Quota (calls.foldl Scheduler.call s).tasks (calls.foldl Scheduler.call s).queue := by
  induction calls generalizing s with
  | nil => exact ⟨untried, quota⟩
  | cons c calls ih => exact ih (untried.call quota c) (quota.call c)

/-- A grant that runs over does so at a queued file without a bound that is tried forever: of one
that is tried once nothing is out, and a request is itself a word. -/
theorem Untried.retried {overflow : Overflow} (untried : s.Untried) (distinct : s.queue.Nodup)
    (failed : s.grant requested = .error overflow) :
    s.policy = .retryForever ∧ overflow.task ∈ s.queue ∧ overflow.more ≤ requested ∧
      ∃ t, s.task? overflow.task = some t ∧ t.file.startConfigs = 0 ∧
        2 ^ 32 ≤ t.inFlight.toNat + overflow.more.toNat := by
  obtain ⟨queued, most, t, found, unbounded, -, exceeds⟩ := grant_overflow distinct failed
  refine ⟨?_, queued, most, t, found, unbounded, exceeds⟩
  cases policy : s.policy with
  | retryForever => rfl
  | tryOnce =>
    have none := untried policy _ _ (file?_of_task? found) unbounded queued
    rw [outOf_of_some found] at none
    have word := overflow.more.toNat_lt
    omega

/-! ### True numbers -/

/-- The trials of each task that are out after a call, as numbers of any size. A grant that runs
over is counted with the trials that made it do so. -/
def tally (s : Scheduler) (out : TaskId → Nat) (c : SchedulerCall) : TaskId → Nat := fun id =>
  match c with
  | .addFile _ => out id
  | .grant requested =>
    match s.grant requested with
    | .ok (bs, _) => out id + trialsOf bs id
    | .error overflow => if id = overflow.task then out id + overflow.more.toNat else out id
  | .complete r =>
    match s.complete r with
    | .ok _ => if id = r.taskId then out id - r.instancesProcessed.toNat else out id
    | .error _ => out id
  | .release task count =>
    match s.release task count with
    | .ok _ => if id = task then out id - count.toNat else out id
    | .error _ => out id

/-- The trials of each task that are truly out after calls. -/
def trulyOut : Scheduler → (TaskId → Nat) → List SchedulerCall → TaskId → Nat
  | _, out, [] => out
  | s, out, c :: calls => trulyOut (s.call c) (s.tally out c) calls

/-- No task ever has more trials out than a word holds. -/
def WithinWord (s : Scheduler) (out : TaskId → Nat) (calls : List SchedulerCall) : Prop :=
  ∀ before, before <+: calls → ∀ id, s.trulyOut out before id < UInt32.size

/-- The numbers after the first call, and after all that follow. -/
theorem WithinWord.cons {out : TaskId → Nat} {c : SchedulerCall} {calls : List SchedulerCall}
    (within : s.WithinWord out (c :: calls)) :
    (∀ id, s.tally out c id < UInt32.size) ∧ (s.call c).WithinWord (s.tally out c) calls := by
  constructor
  · exact within [c] (List.cons_prefix_cons.mpr ⟨rfl, List.nil_prefix⟩)
  · intro before early
    exact within (c :: before) (List.cons_prefix_cons.mpr ⟨rfl, early⟩)

/-- The trials that calls ask for. -/
def requestedBy : SchedulerCall → Nat
  | .grant requested => requested.toNat
  | _ => 0

/-- A call takes out no more than it asks for. -/
theorem tally_le (distinct : s.queue.Nodup) (out : TaskId → Nat) (c : SchedulerCall)
    (id : TaskId) : s.tally out c id ≤ out id + requestedBy c := by
  cases c with
  | addFile file => exact Nat.le_add_right ..
  | grant requested =>
    simp only [tally, requestedBy]
    cases done : s.grant requested with
    | ok r =>
      have granted : s.Granted r.2 requested r.1 := grant_spec done
      have few := granted.trials_le
      have part := trialsOf_le_trials r.1 id
      exact Nat.add_le_add_left (part.trans few) _
    | error overflow =>
      have most := UInt32.le_iff_toNat_le.mp (grant_overflow distinct done).2.1
      dsimp only
      split
      · omega
      · omega
  | complete r =>
    simp only [tally, requestedBy]
    split
    · split
      · omega
      · omega
    · exact Nat.le_add_right ..
  | release task count =>
    simp only [tally, requestedBy]
    split
    · split
      · omega
      · omega
    · exact Nat.le_add_right ..

/-- No more is out than was asked for. -/
theorem trulyOut_le (quota : Quota s.tasks s.queue) (out : TaskId → Nat)
    (calls : List SchedulerCall) (id : TaskId) :
    s.trulyOut out calls id ≤ out id + (calls.map requestedBy).sum := by
  induction calls generalizing s out with
  | nil => exact Nat.le_add_right ..
  | cons c calls ih =>
    have first := tally_le quota.distinct out c id
    have rest := ih (quota.call c) (s.tally out c)
    rw [trulyOut, List.map_cons, List.sum_cons]
    omega

/-- No count runs over before as many trials were asked for. -/
theorem withinWord_of_requested (quota : Quota s.tasks s.queue) {calls : List SchedulerCall}
    (few : (calls.map requestedBy).sum < UInt32.size) : s.WithinWord (fun _ => 0) calls := by
  rintro before ⟨rest, rfl⟩ id
  have most := trulyOut_le quota (fun _ => 0) before id
  rw [List.map_append, List.sum_append] at few
  omega

/-- A grant succeeds if the true numbers after it fit into words. -/
theorem grant_of_fits (distinct : s.queue.Nodup)
    (fits : ∀ id, s.tally (outOf s.tasks) (.grant requested) id < UInt32.size) :
    ∃ bs s', s.grant requested = .ok (bs, s') := by
  cases done : s.grant requested with
  | ok r => exact ⟨r.1, r.2, rfl⟩
  | error overflow =>
    obtain ⟨-, -, t, found, -, -, exceeds⟩ := grant_overflow distinct done
    have here := fits overflow.task
    simp only [tally, done, if_true, outOf_of_some found] at here
    exact absurd here (Nat.not_lt_of_le exceeds)

/-- As long as the true numbers fit into words, the counts of the scheduler are the true ones. -/
theorem outOf_call (distinct : s.queue.Nodup) {c : SchedulerCall}
    (fits : ∀ id, s.tally (outOf s.tasks) c id < UInt32.size) :
    outOf (s.call c).tasks = s.tally (outOf s.tasks) c := by
  funext id
  cases c with
  | addFile file =>
    simp only [Scheduler.call]
    cases added : s.addFile file with
    | error e => rfl
    | ok r =>
      obtain ⟨task, s'⟩ := r
      obtain ⟨-, -, -, rfl⟩ := addFile_eq_ok added
      exact outOf_push s.tasks file id
  | grant requested =>
    obtain ⟨bs, s', done⟩ := grant_of_fits distinct fits
    simp only [Scheduler.call, tally, handed_of_ok done, done]
    exact (grant_spec done).outOf_eq id
  | complete r =>
    simp only [Scheduler.call, tally]
    cases done : s.complete r with
    | error fault => rfl
    | ok s' => exact outOf_of_back (outOf_complete done) id
  | release task count =>
    simp only [Scheduler.call, tally]
    cases done : s.release task count with
    | error fault => rfl
    | ok s' => exact outOf_of_back (outOf_release done) id

/-- As long as the true numbers fit into words, calls that follow start with the counts of the
scheduler. -/
theorem WithinWord.after {calls later : List SchedulerCall} (quota : Quota s.tasks s.queue)
    (within : s.WithinWord (outOf s.tasks) (calls ++ later)) :
    (calls.foldl Scheduler.call s).WithinWord (outOf (calls.foldl Scheduler.call s).tasks)
      later := by
  induction calls generalizing s with
  | nil => exact within
  | cons c calls ih =>
    obtain ⟨fits, rest⟩ := within.cons
    rw [← outOf_call quota.distinct fits] at rest
    exact ih (quota.call c) rest

end Scheduler

end TrialFarm
