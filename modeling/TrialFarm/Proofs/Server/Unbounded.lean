import Mathlib.Data.List.Nodup
import TrialFarm.Proofs.Server.Quota
import TrialFarm.Proofs.Server.Shapes

/-!
# Files without a bound

A file without a bound is handed out as a whole to whoever asks next, and leaves the queue then.
Whether it ever returns is a matter of policy: it is tried once, or it returns as soon as trials of
it come back.

## Main definitions

* `Scheduler.batchesOf`: all batches that calls hand out.
* `Scheduler.Restless`: every file without a bound is queued or out.

## Main statements

* `Scheduler.Quota.grant_unbounded`: a grant takes such a file off the queue, once per batch.
* `Scheduler.batches_of_tried`: a file that is tried once.
* `Scheduler.Restless.calls`: files that are tried forever.
-/

namespace TrialFarm

namespace Scheduler

variable {s s' : Scheduler} {id : TaskId} {file : TaskFile} {t u : Task} {k : UInt64}

/-! ### Handing out -/

/-- Batches of one task. -/
def batchesFor (bs : List Batch) (id : TaskId) : Nat := bs.countP fun b => b.taskId = id

theorem batchesFor_append (bs cs : List Batch) (id : TaskId) :
    batchesFor (bs ++ cs) id = batchesFor bs id + batchesFor cs id := List.countP_append

/-- A task that is replaced keeps its file. -/
theorem unbounded_replace {tasks : Array Task} {first : TaskId}
    (unbounded : ∀ t, tasks[id.toNat]? = some t → t.file.startConfigs = 0)
    (found : tasks[first.toNat]? = some t) (file : u.file = t.file) :
    ∀ t', (tasks.setIfInBounds first.toNat u)[id.toNat]? = some t' → t'.file.startConfigs = 0 := by
  intro t' later
  rw [getElem?_replace found] at later
  split at later
  · next same =>
    obtain rfl := Option.some.inj later
    rw [file]
    exact unbounded t (same ▸ found)
  · exact unbounded t' later

/-- On the way along the queue a file without a bound is met whole: its place in the queue becomes a
batch. -/
theorem dispatch_unbounded {queue queue' : List TaskId} {d d' : Dispatch}
    (unbounded : ∀ t, d.tasks[id.toNat]? = some t → t.file.startConfigs = 0)
    (walked : dispatch queue d = .ok (d', queue')) :
    batchesFor d'.batches id + queue'.count id = batchesFor d.batches id + queue.count id := by
  refine (dispatch_induction (motive := fun d' queue' =>
    (∀ t, d'.tasks[id.toNat]? = some t → t.file.startConfigs = 0) ∧
      batchesFor d'.batches id + queue'.count id = batchesFor d.batches id + queue.count id)
    ?_ ?_ ?_ walked ⟨unbounded, rfl⟩).2
  · rintro d' first rest t ⟨free, same⟩ asked found nothing
    -- A file without a bound is never short of trials.
    have other : first ≠ id := by
      rintro rfl
      rw [Task.available_of_unbounded (free t found)] at nothing
      exact asked nothing
    rw [List.count_cons_of_ne other] at same
    exact ⟨unbounded_replace free found rfl, same⟩
  · rintro d' first rest t ⟨free, same⟩ asked found - - - -
    refine ⟨unbounded_replace free found rfl, ?_⟩
    unfold batchesFor at same ⊢
    rw [List.count_cons] at same
    simp only [Dispatch.serve, List.countP_cons, decide_eq_true_eq]
    simp only [beq_iff_eq] at same
    omega
  · rintro d' first rest t ⟨free, same⟩ asked found short - -
    -- Whatever is asked for is available, so nothing of the file stays behind.
    have other : first ≠ id := by
      rintro rfl
      rw [Task.available_of_unbounded (free t found)] at short
      exact absurd short (UInt32.lt_irrefl _)
    refine ⟨unbounded_replace free found rfl, ?_⟩
    unfold batchesFor at same ⊢
    simp only [Dispatch.serve, List.countP_cons, decide_eq_true_eq, if_neg other]
    exact same

/-- A grant takes a file without a bound off the queue, once for each of its batches. -/
theorem grant_unbounded {requested : UInt32} {bs : List Batch} (known : s.file? id = some file)
    (unbounded : file.startConfigs = 0) (done : s.grant requested = .ok (bs, s')) :
    batchesFor bs id + s'.queue.count id = s.queue.count id := by
  obtain ⟨d, queue, walked, rfl, rfl⟩ := grant_eq_ok done
  have free : ∀ t, (s.dispatchOf requested).tasks[id.toNat]? = some t →
      t.file.startConfigs = 0 := by
    intro t found
    obtain rfl := Option.some.inj ((file?_of_task? found).symm.trans known)
    exact unbounded
  have moved := dispatch_unbounded free walked
  unfold batchesFor at moved ⊢
  rw [List.countP_reverse]
  exact moved.trans (Nat.zero_add _)

/-! ### Calls -/

/-- The batches that a call hands out. -/
def batchesOfCall (s : Scheduler) : SchedulerCall → List Batch
  | .grant requested => (s.handed requested).1
  | _ => []

/-- All batches that calls hand out. -/
def batchesOf : Scheduler → List SchedulerCall → List Batch
  | _, [] => []
  | s, c :: calls => s.batchesOfCall c ++ batchesOf (s.call c) calls

/-- A call keeps the files of all tasks. -/
theorem file?_call (known : s.file? id = some file) (c : SchedulerCall) :
    (s.call c).file? id = some file := by
  have called := s.called c
  generalize s.call c = s' at called ⊢
  cases called with
  | refused => exact known
  | addFile added => exact file?_addFile added known
  | grant done => exact (congrFun (grant_spec done).file? id).trans known
  | complete done => exact (congrFun (file?_complete done) id).trans known
  | release done => exact (congrFun (file?_release done) id).trans known

/-- No call changes the file of a task. -/
theorem file?_calls (known : s.file? id = some file) (calls : List SchedulerCall) :
    (calls.foldl Scheduler.call s).file? id = some file := by
  induction calls generalizing s with
  | nil => exact known
  | cons c calls ih => exact ih (file?_call known c)

/-- No call changes the policy. -/
theorem call_policy (s : Scheduler) (c : SchedulerCall) : (s.call c).policy = s.policy := by
  have called := s.called c
  generalize s.call c = s' at called ⊢
  cases called with
  | refused => rfl
  | addFile added =>
    obtain ⟨-, -, -, rfl⟩ := addFile_eq_ok added
    rfl
  | grant done => exact (grant_spec done).policy
  | complete done =>
    obtain ⟨t, found, -, -, -, rfl⟩ := complete_eq_ok_iff.mp done
    rw [putBack_eq found]
  | release done =>
    obtain ⟨t, found, -, -, rfl⟩ := release_eq_ok_iff.mp done
    rw [putBack_eq found]

theorem calls_policy (s : Scheduler) (calls : List SchedulerCall) :
    (calls.foldl Scheduler.call s).policy = s.policy := by
  induction calls generalizing s with
  | nil => rfl
  | cons c calls ih => exact (ih (s.call c)).trans (s.call_policy c)

/-! ### Tried once -/

/-- Under this policy nothing without a bound returns to the queue. -/
theorem count_putBack_tried (found : s.task? id = some t) {other : TaskId}
    (unbounded : other = id → u.file.startConfigs = 0) (once : s.policy = .tryOnce) :
    (s.putBack id u k).queue.count other = s.queue.count other := by
  rw [putBack_eq found]
  dsimp only
  split
  · next wants =>
    have apart : id ≠ other := by
      rintro rfl
      unfold Task.wantsRequeue at wants
      rw [Task.quotaLeft_of_unbounded (unbounded rfl), once] at wants
      simp at wants
    simp [apart]
  · rfl

/-- Each batch of the file takes it off the queue, and nothing puts it back. -/
theorem call_tried (known : s.file? id = some file) (unbounded : file.startConfigs = 0)
    (once : s.policy = .tryOnce) (c : SchedulerCall) :
    batchesFor (s.batchesOfCall c) id + (s.call c).queue.count id = s.queue.count id := by
  obtain ⟨t, found, rfl⟩ := task?_of_file? known
  have own {other : TaskId} {u : Task} (there : s.task? other = some u) (same : id = other) :
      u.file.startConfigs = 0 := by
    rw [← same] at there
    rw [Option.some.inj (there.symm.trans found)]
    exact unbounded
  have called := s.called c
  generalize s.call c = s' at called ⊢
  cases called with
  | refused silent =>
    cases c with
    | grant requested =>
      rw [batchesOfCall, silent requested rfl]
      exact Nat.zero_add _
    | addFile | complete | release => exact Nat.zero_add _
  | addFile added =>
    obtain ⟨few, rfl, -, rfl⟩ := addFile_eq_ok added
    have inside := (Array.getElem?_eq_some_iff.mp found).1
    have new : UInt32.ofNat s.tasks.size ≠ id := by
      rintro rfl
      rw [UInt32.toNat_ofNat_of_lt' few] at inside
      exact Nat.lt_irrefl _ inside
    rw [List.count_cons_of_ne new]
    exact Nat.zero_add _
  | grant done =>
    rw [batchesOfCall, handed_of_ok done]
    exact grant_unbounded known unbounded done
  | @complete r s' done =>
    obtain ⟨v, there, -, -, -, rfl⟩ := complete_eq_ok_iff.mp done
    have free : id = r.taskId → v.file.startConfigs = 0 := own there
    exact (Nat.zero_add _).trans (count_putBack_tried (u := v.reported r) there free once)
  | @release task count s' done =>
    obtain ⟨v, there, -, -, rfl⟩ := release_eq_ok_iff.mp done
    have free : id = task → v.file.startConfigs = 0 := own there
    exact (Nat.zero_add _).trans (count_putBack_tried (u := v.released count) there free once)

/-- Tried once, a file without a bound is in as many batches as it leaves the queue. -/
theorem calls_tried (known : s.file? id = some file) (unbounded : file.startConfigs = 0)
    (once : s.policy = .tryOnce) (calls : List SchedulerCall) :
    batchesFor (s.batchesOf calls) id + (calls.foldl Scheduler.call s).queue.count id =
      s.queue.count id := by
  induction calls generalizing s with
  | nil => exact Nat.zero_add _
  | cons c calls ih =>
    have first := call_tried known unbounded once c
    have rest := ih (file?_call known c) ((s.call_policy c).trans once)
    rw [batchesOf, batchesFor_append, List.foldl_cons]
    omega

/-- Nothing is handed out of a file that was not entered yet. -/
theorem batchesFor_of_unknown (unknown : s.file? id = none) (c : SchedulerCall) :
    batchesFor (s.batchesOfCall c) id = 0 := by
  cases c with
  | addFile | complete | release => rfl
  | grant requested =>
    refine List.countP_eq_zero.mpr fun b member same => ?_
    obtain ⟨t, found, -⟩ := (handed_spec s requested).files b member
    rw [of_decide_eq_true same] at found
    rw [file?_of_task? found] at unknown
    cases unknown

/-- A file without a bound that is tried once is handed out in one batch at most. -/
theorem batches_of_tried {calls : List SchedulerCall} (quota : Quota s.tasks s.queue)
    (once : s.policy = .tryOnce) (known : (calls.foldl Scheduler.call s).file? id = some file)
    (unbounded : file.startConfigs = 0) : batchesFor (s.batchesOf calls) id ≤ 1 := by
  induction calls generalizing s with
  | nil => exact Nat.zero_le _
  | cons c calls ih =>
    cases early : s.file? id with
    | some old =>
      -- The file is there, so all batches of it come out of its place in the queue.
      have same := (file?_calls early (c :: calls)).symm.trans known
      obtain rfl := Option.some.inj same
      have all := calls_tried early unbounded once (c :: calls)
      have := List.nodup_iff_count_le_one.mp quota.distinct id
      omega
    | none =>
      rw [batchesOf, batchesFor_append, batchesFor_of_unknown early c, Nat.zero_add]
      exact ih (quota.call c) ((s.call_policy c).trans once) known

/-! ### Tried forever -/

/-- What is still out when some trials of a task came back. -/
theorem outOf_of_back {task : TaskId} {n : Nat}
    (back : ∀ id, outOf s'.tasks id + (if id = task then n else 0) = outOf s.tasks id)
    (id : TaskId) :
    outOf s'.tasks id = if id = task then outOf s.tasks id - n else outOf s.tasks id := by
  have taken := back id
  split
  · next same =>
    rw [if_pos same] at taken
    omega
  · next apart => rwa [if_neg apart] at taken

/-- Every file without a bound is queued, or trials of it are out. -/
def Restless (s : Scheduler) : Prop :=
  ∀ id file, s.file? id = some file → file.startConfigs = 0 →
    id ∈ s.queue ∨ 0 < outOf s.tasks id

/-- Under this policy a file without a bound is queued whenever trials of it came back. -/
theorem mem_queue_putBack (quota : Quota s.tasks s.queue) (found : s.task? id = some t)
    (scheduled : u.scheduled = t.scheduled) (unbounded : u.file.startConfigs = 0)
    (forever : s.policy = .retryForever) : id ∈ (s.putBack id u k).queue := by
  have wants : u.wantsRequeue s.policy = !t.scheduled := by
    unfold Task.wantsRequeue
    rw [Task.quotaLeft_of_unbounded unbounded, forever, scheduled]
    simp
  rw [putBack_eq found]
  dsimp only
  rw [wants]
  cases marked : t.scheduled with
  | true => simpa using (quota.marked id t found).mp marked
  | false => simp

/-- Tried forever, a file without a bound is queued again when a trial of it is reported, -/
theorem queued_of_complete {r : TrialRecord} (quota : Quota s.tasks s.queue)
    (known : s.file? r.taskId = some file) (unbounded : file.startConfigs = 0)
    (forever : s.policy = .retryForever) (done : s.complete r = .ok s') : r.taskId ∈ s'.queue := by
  obtain ⟨t, found, -, -, -, rfl⟩ := complete_eq_ok_iff.mp done
  obtain rfl := Option.some.inj ((file?_of_task? found).symm.trans known)
  exact mem_queue_putBack quota found rfl unbounded forever

/-- and when trials of it are taken back. -/
theorem queued_of_release {count : UInt32} (quota : Quota s.tasks s.queue)
    (known : s.file? id = some file) (unbounded : file.startConfigs = 0)
    (forever : s.policy = .retryForever) (done : s.release id count = .ok s') : id ∈ s'.queue := by
  obtain ⟨t, found, -, -, rfl⟩ := release_eq_ok_iff.mp done
  obtain rfl := Option.some.inj ((file?_of_task? found).symm.trans known)
  exact mem_queue_putBack quota found rfl unbounded forever

/-- What is put back leaves the others where they are. -/
theorem mem_putBack_of_mem (found : s.task? id = some t) {other : TaskId}
    (queued : other ∈ s.queue) : other ∈ (s.putBack id u k).queue := by
  rw [putBack_eq found]
  dsimp only
  split
  · exact List.mem_append_left _ queued
  · exact queued

/-- A batch of a file takes trials of it out. -/
theorem trialsOf_pos {bs : List Batch} (positive : ∀ b ∈ bs, 0 < b.instances)
    (some : 0 < batchesFor bs id) : 0 < trialsOf bs id := by
  obtain ⟨b, member, same⟩ := List.countP_pos_iff.mp some
  obtain ⟨before, after, rfl⟩ := List.append_of_mem member
  have here := UInt32.lt_iff_toNat_lt.mp (positive b member)
  rw [trialsOf_append, trialsOf_cons, if_pos (of_decide_eq_true same).symm]
  rw [UInt32.toNat_zero] at here
  omega

/-- Trials of one task come back: it is queued, and nothing else leaves the queue. -/
theorem Restless.back (restless : s.Restless) {task : TaskId} {n : Nat}
    (files : s'.file? = s.file?)
    (back : ∀ id, outOf s'.tasks id + (if id = task then n else 0) = outOf s.tasks id)
    (stays : ∀ other ∈ s.queue, other ∈ s'.queue)
    (queued : ∀ file, s.file? task = some file → file.startConfigs = 0 → task ∈ s'.queue) :
    s'.Restless := by
  intro id file known unbounded
  rw [files] at known
  by_cases same : id = task
  · subst same
    exact Or.inl (queued file known unbounded)
  · rw [outOf_of_back back, if_neg same]
    exact (restless id file known unbounded).imp_left (stays id)

/-- A file that is new is queued. One that is handed out is out then, and one of which trials come
back is queued then. -/
theorem Restless.call (restless : s.Restless) (quota : Quota s.tasks s.queue)
    (forever : s.policy = .retryForever) (c : SchedulerCall) : (s.call c).Restless := by
  intro id file known unbounded
  have called := s.called c
  generalize s.call c = s' at called known ⊢
  cases called with
  | refused => exact restless id file known unbounded
  | @addFile new number s' added =>
    obtain ⟨few, rfl, -, rfl⟩ := addFile_eq_ok added
    dsimp only
    rw [outOf_push]
    by_cases fresh : id = UInt32.ofNat s.tasks.size
    · exact Or.inl (fresh ▸ List.mem_cons_self ..)
    · obtain ⟨t, found, rfl⟩ := task?_of_file? known
      change (s.tasks.push (Task.ofFile new))[id.toNat]? = some t at found
      rw [Array.getElem?_push, if_neg fun last => fresh ?_] at found
      · have early := restless id t.file (file?_of_task? found) unbounded
        exact early.imp_left (List.mem_cons_of_mem _)
      · rw [← UInt32.toNat_inj, last, UInt32.toNat_ofNat_of_lt' few]
  | @grant requested bs s' done =>
    have granted := grant_spec done
    rw [granted.file?] at known
    have moved := grant_unbounded known unbounded done
    rw [granted.outOf_eq]
    rcases restless id file known unbounded with queued | out
    · by_cases stays : id ∈ s'.queue
      · exact Or.inl stays
      · -- Its place in the queue became a batch.
        have before := List.count_pos_iff.mpr queued
        have after := List.count_eq_zero.mpr stays
        have batch : 0 < batchesFor bs id := by omega
        have handed := trialsOf_pos granted.positive batch
        omega
    · omega
  | @complete r s' done =>
    refine restless.back (file?_complete done) (outOf_complete done) ?_ ?_ id file known unbounded
    · intro other queued
      obtain ⟨t, found, -, -, -, rfl⟩ := complete_eq_ok_iff.mp done
      exact mem_putBack_of_mem found queued
    · intro file known unbounded
      exact queued_of_complete quota known unbounded forever done
  | @release task count s' done =>
    refine restless.back (file?_release done) (outOf_release done) ?_ ?_ id file known unbounded
    · intro other queued
      obtain ⟨t, found, -, -, rfl⟩ := release_eq_ok_iff.mp done
      exact mem_putBack_of_mem found queued
    · intro file known unbounded
      exact queued_of_release quota known unbounded forever done

theorem Restless.empty (policy : ZeroQuotaPolicy) : (empty policy).Restless := by
  intro id file known
  simp [Scheduler.file?, task?, Scheduler.empty] at known

/-- Whatever the calls are, files without a bound are queued or out if they are tried forever. -/
theorem Restless.calls (restless : s.Restless) (quota : Quota s.tasks s.queue)
    (forever : s.policy = .retryForever) (calls : List SchedulerCall) :
    (calls.foldl Scheduler.call s).Restless := by
  induction calls generalizing s with
  | nil => exact restless
  | cons c calls ih =>
    exact ih (restless.call quota forever c) (quota.call c) ((s.call_policy c).trans forever)

end Scheduler

end TrialFarm
