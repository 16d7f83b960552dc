import TrialFarm.Proofs.Server.Grants
import TrialFarm.Proofs.Server.Reports

/-!
# Quota and queue

A file with a bound is never run more often than it asks for: trials that are out and trials that
were reported stay within its quota. It waits in the queue exactly as long as some of the quota is
left, so when the queue is empty and nothing is out, the quota was used up exactly.

## Main definitions

* `Scheduler.Quota`: the invariant on tasks and queue.
* `SchedulerCall`, `Scheduler.call`: what can be asked of a scheduler, refusals included.
* `Scheduler.Called`: what a call can do.
* `Scheduler.Orderly`: the invariant, and a count over all tasks that is right.
* `Scheduler.Finished`: every file with a bound was run as often as it asks for.

## Main statements

* `Scheduler.Quota.calls`, `Scheduler.Orderly.calls`: all calls keep the invariants.
* `Scheduler.Orderly.finished`: an idle scheduler has used up every quota.
-/

namespace TrialFarm

/-- Trials of a task that are out or were reported. -/
def Task.covered (t : Task) : Nat :=
  t.inFlight.toNat + t.statistics.instancesStarted.toNat

namespace Scheduler

/-- A task is queued at most once and is marked while it is. One with a bound stays within its
quota, and it is queued while there is quota left. -/
structure Quota (tasks : Array Task) (queue : List TaskId) : Prop where
  distinct : queue.Nodup
  known : ∀ id ∈ queue, ∃ t, tasks[id.toNat]? = some t
  marked : ∀ id t, tasks[id.toNat]? = some t → (t.scheduled = true ↔ id ∈ queue)
  within : ∀ (id : TaskId) (t : Task), tasks[id.toNat]? = some t →
    t.file.startConfigs ≠ 0 → t.covered ≤ t.file.startConfigs.toNat
  waiting : ∀ (id : TaskId) (t : Task), tasks[id.toNat]? = some t →
    t.file.startConfigs ≠ 0 → (id ∈ queue ↔ t.covered < t.file.startConfigs.toNat)

namespace Quota

variable {tasks : Array Task} {queue queue' : List TaskId} {id : TaskId} {t u : Task}

theorem empty : Quota #[] [] :=
  ⟨List.nodup_nil, by simp, by simp, by simp, by simp⟩

/-- A task may be replaced, and enter or leave the queue, if it meets the invariant. -/
theorem replace (quota : Quota tasks queue) (found : tasks[id.toNat]? = some t)
    (distinct : queue'.Nodup) (others : ∀ other, other ≠ id → (other ∈ queue' ↔ other ∈ queue))
    (marked : u.scheduled = true ↔ id ∈ queue')
    (bounded : u.file.startConfigs ≠ 0 → u.covered ≤ u.file.startConfigs.toNat ∧
      (id ∈ queue' ↔ u.covered < u.file.startConfigs.toNat)) :
    Quota (tasks.setIfInBounds id.toNat u) queue' := by
  have cases_of : ∀ other v, (tasks.setIfInBounds id.toNat u)[other.toNat]? = some v →
      (other = id ∧ v = u) ∨ (other ≠ id ∧ tasks[other.toNat]? = some v) := by
    intro other v here
    rw [getElem?_replace found] at here
    split at here
    · next same => exact Or.inl ⟨same, (Option.some.inj here).symm⟩
    · next apart => exact Or.inr ⟨apart, here⟩
  refine ⟨distinct, fun other member => ?_, fun other v here => ?_, fun other v here => ?_,
    fun other v here => ?_⟩
  · rw [getElem?_replace found]
    split
    · exact ⟨u, rfl⟩
    · next apart => exact quota.known other ((others other apart).mp member)
  · rcases cases_of other v here with ⟨rfl, rfl⟩ | ⟨apart, here⟩
    · exact marked
    · rw [others other apart]
      exact quota.marked other v here
  · rcases cases_of other v here with ⟨rfl, rfl⟩ | ⟨apart, here⟩
    · exact fun some => (bounded some).1
    · exact quota.within other v here
  · rcases cases_of other v here with ⟨rfl, rfl⟩ | ⟨apart, here⟩
    · exact fun some => (bounded some).2
    · rw [others other apart]
      exact quota.waiting other v here

/-- A new file with a bound has all its quota left. -/
theorem push (quota : Quota tasks queue) (few : tasks.size < 2 ^ 32) (file : TaskFile) :
    Quota (tasks.push (Task.ofFile file)) (UInt32.ofNat tasks.size :: queue) := by
  have number : (UInt32.ofNat tasks.size).toNat = tasks.size := UInt32.toNat_ofNat_of_lt' few
  have old : ∀ id ∈ queue, id.toNat < tasks.size := by
    intro id member
    obtain ⟨t, found⟩ := quota.known id member
    exact (Array.getElem?_eq_some_iff.mp found).1
  have cases_of : ∀ (id : TaskId) t, (tasks.push (Task.ofFile file))[id.toNat]? = some t →
      (id = UInt32.ofNat tasks.size ∧ t = Task.ofFile file) ∨
      (id ≠ UInt32.ofNat tasks.size ∧ tasks[id.toNat]? = some t) := by
    intro id t here
    rw [Array.getElem?_push] at here
    split at here
    · next last =>
      exact Or.inl ⟨UInt32.toNat_inj.mp (last.trans number.symm), (Option.some.inj here).symm⟩
    · next apart => exact Or.inr ⟨fun same => apart (same ▸ number), here⟩
  have others : ∀ id, id ≠ UInt32.ofNat tasks.size →
      (id ∈ UInt32.ofNat tasks.size :: queue ↔ id ∈ queue) := by
    intro id apart
    simp [apart]
  refine ⟨?_, fun id member => ?_, fun id t here => ?_, fun id t here => ?_, fun id t here => ?_⟩
  · refine List.nodup_cons.mpr ⟨fun member => ?_, quota.distinct⟩
    have := old _ member
    omega
  · rw [Array.getElem?_push]
    split
    · exact ⟨_, rfl⟩
    · next apart =>
      rcases List.mem_cons.mp member with rfl | inside
      · exact absurd number apart
      · exact quota.known id inside
  · rcases cases_of id t here with ⟨rfl, rfl⟩ | ⟨apart, here⟩
    · simp [Task.ofFile]
    · rw [others id apart]
      exact quota.marked id t here
  · rcases cases_of id t here with ⟨rfl, rfl⟩ | ⟨apart, here⟩
    · exact fun _ => Nat.zero_le _
    · exact quota.within id t here
  · rcases cases_of id t here with ⟨rfl, rfl⟩ | ⟨apart, here⟩
    · intro bounded
      have pos : 0 < file.startConfigs.toNat := by
        rw [Nat.pos_iff_ne_zero]
        exact fun zero => bounded (UInt32.toNat_inj.mp zero)
      exact iff_of_true (List.mem_cons_self ..) pos
    · rw [others id apart]
      exact quota.waiting id t here

/-! ### Handing out -/

/-- A queued file always has quota left, so the walk along the queue never skips one. -/
theorem available_ne_zero (quota : Quota tasks queue) (queued : id ∈ queue)
    (found : tasks[id.toNat]? = some t) {remaining : UInt32} (asked : remaining ≠ 0) :
    t.available remaining ≠ 0 := by
  by_cases bounded : t.file.startConfigs = 0
  · rw [Task.available_of_unbounded bounded]
    exact asked
  · intro nothing
    have left := Task.available_of_bounded bounded remaining
    have some := (quota.waiting id t found bounded).mp queued
    rw [nothing, UInt32.toNat_zero] at left
    unfold Task.covered at some
    omega

/-- Trials handed out of a quota stay within it. -/
theorem covered_serve (bounded : t.file.startConfigs ≠ 0) {take remaining : UInt32}
    (enough : take ≤ t.available remaining) (within : t.covered ≤ t.file.startConfigs.toNat)
    (scheduled : Bool) :
    Task.covered { t with inFlight := t.inFlight + take, scheduled := scheduled } =
      t.covered + take.toNat := by
  have left := Task.available_of_bounded bounded remaining
  have := UInt32.le_iff_toNat_le.mp enough
  have := t.file.startConfigs.toNat_lt
  unfold Task.covered at within ⊢
  dsimp only
  rw [UInt32.toNat_add, Nat.mod_eq_of_lt (by omega)]
  omega

/-- A file that hands out all that is left of its quota leaves the queue. -/
theorem cover {d : Dispatch} (quota : Quota d.tasks (id :: queue))
    (found : d.tasks[id.toNat]? = some t) :
    Quota (d.serve id t (t.available d.remaining) true).tasks queue := by
  obtain ⟨fresh, distinct⟩ := List.nodup_cons.mp quota.distinct
  refine quota.replace found distinct ?_ (by simpa using fresh) ?_
  · intro other apart
    simp [apart]
  · intro (bounded : t.file.startConfigs ≠ 0)
    have within := quota.within id t found bounded
    have left := Task.available_of_bounded bounded d.remaining
    rw [covered_serve bounded UInt32.le_rfl within]
    unfold Task.covered at within ⊢
    dsimp only
    exact ⟨by omega, iff_of_false fresh (by omega)⟩

/-- A file that hands out a part of what is left of its quota keeps its place in the queue. -/
theorem share {d : Dispatch} (quota : Quota d.tasks (id :: queue))
    (found : d.tasks[id.toNat]? = some t) (short : d.remaining < t.available d.remaining) :
    Quota (d.serve id t d.remaining false).tasks (id :: queue) := by
  have queued : id ∈ id :: queue := List.mem_cons_self ..
  have scheduled := (quota.marked id t found).mpr queued
  refine quota.replace found quota.distinct (fun _ _ => Iff.rfl) (by simp [scheduled]) ?_
  intro (bounded : t.file.startConfigs ≠ 0)
  have within := quota.within id t found bounded
  have left := Task.available_of_bounded bounded d.remaining
  have less := UInt32.lt_iff_toNat_lt.mp short
  rw [covered_serve bounded (UInt32.le_of_lt short) within]
  unfold Task.covered at within ⊢
  dsimp only
  exact ⟨by omega, iff_of_true queued (by omega)⟩

/-- A walk along the queue keeps the quotas. -/
theorem dispatch {d d' : Dispatch} (quota : Quota d.tasks queue)
    (walked : dispatch queue d = .ok (d', queue')) : Quota d'.tasks queue' := by
  refine dispatch_induction (motive := fun d queue => Quota d.tasks queue) ?_ ?_ ?_ walked quota
  · -- A file without quota left would have left the queue before.
    intro d id queue t quota asked found nothing
    exact absurd nothing (quota.available_ne_zero (List.mem_cons_self ..) found asked)
  · intro d id queue t quota _ found _ _ _ _
    exact quota.cover found
  · intro d id queue t quota _ found short _ _
    exact quota.share found short

/-- A grant keeps the quotas, -/
theorem grant {s s' : Scheduler} {requested : UInt32} {bs : List Batch}
    (quota : Quota s.tasks s.queue) (done : s.grant requested = .ok (bs, s')) :
    Quota s'.tasks s'.queue := by
  obtain ⟨d, queue, walked, -, rfl⟩ := grant_eq_ok done
  exact dispatch (d := s.dispatchOf requested) quota walked

/-! ### Taking back -/

/-- A file with a bound wants back into the queue if there is quota left. -/
theorem wantsRequeue_iff (bounded : t.file.startConfigs ≠ 0) (policy : ZeroQuotaPolicy) :
    t.wantsRequeue policy = true ↔
      t.scheduled = false ∧ t.covered < t.file.startConfigs.toNat := by
  obtain ⟨left, quota, value⟩ := Task.quotaLeft_of_bounded bounded
  unfold Task.wantsRequeue Task.covered
  rw [quota]
  simp only [Bool.and_eq_true, Bool.not_eq_eq_eq_not, Bool.not_true, decide_eq_true_eq,
    UInt64.lt_iff_toNat_lt, UInt64.toNat_zero, value]
  refine and_congr_right fun _ => ?_
  omega

/-- A task may be put back with no more of its quota covered than before. -/
theorem putBack {s : Scheduler} {k : UInt64} (quota : Quota s.tasks s.queue)
    (found : s.task? id = some t) (file : u.file = t.file) (scheduled : u.scheduled = t.scheduled)
    (less : t.file.startConfigs ≠ 0 → u.covered ≤ t.covered) :
    Quota (s.putBack id u k).tasks (s.putBack id u k).queue := by
  have marked := quota.marked id t found
  rw [putBack_eq found]
  dsimp only
  cases wants : u.wantsRequeue s.policy with
  | false =>
    -- The task is in the queue already, or nothing of its quota is left.
    simp only [Bool.or_false, Bool.false_eq_true, if_false]
    refine quota.replace found quota.distinct (fun _ _ => Iff.rfl) (by rw [scheduled, marked]) ?_
    intro bounded
    rw [file] at bounded
    have within := quota.within id t found bounded
    have waiting := quota.waiting id t found bounded
    have less := less bounded
    have stays := (wantsRequeue_iff (t := u) (by rwa [file]) s.policy).not.mp (by simp [wants])
    rw [scheduled, file] at stays
    change u.covered ≤ u.file.startConfigs.toNat ∧ (_ ↔ u.covered < u.file.startConfigs.toNat)
    rw [file]
    refine ⟨by omega, fun queued => ?_, fun left => ?_⟩
    · have := waiting.mp queued
      omega
    · rw [← marked]
      by_contra unmarked
      exact stays ⟨by simpa using unmarked, left⟩
  | true =>
    -- Only a task that is off the queue wants back, so its number does not come up twice.
    simp only [Bool.or_true, if_true]
    have out : id ∉ s.queue := by
      rw [← marked, ← scheduled]
      unfold Task.wantsRequeue at wants
      simp only [Bool.and_eq_true, Bool.not_eq_true'] at wants
      simp [wants.1]
    refine quota.replace found ?_ ?_ (by simp) ?_
    · refine List.nodup_append.mpr ⟨quota.distinct, by simp, ?_⟩
      intro other member last final same
      rw [same, List.mem_singleton.mp final] at member
      exact out member
    · intro other apart
      simp [apart]
    · intro (bounded : u.file.startConfigs ≠ 0)
      change u.covered ≤ u.file.startConfigs.toNat ∧ (_ ↔ u.covered < u.file.startConfigs.toNat)
      have left := ((wantsRequeue_iff bounded s.policy).mp wants).2
      exact ⟨Nat.le_of_lt left, iff_of_true (by simp) left⟩

/-- and so does a report, -/
theorem complete {s s' : Scheduler} {r : TrialRecord} (quota : Quota s.tasks s.queue)
    (done : s.complete r = .ok s') : Quota s'.tasks s'.queue := by
  obtain ⟨t, found, enough, -, -, rfl⟩ := complete_eq_ok_iff.mp done
  refine quota.putBack found rfl rfl fun bounded => ?_
  have within := quota.within _ t found bounded
  have := t.file.startConfigs.toNat_lt
  have := UInt32.le_iff_toNat_le.mp enough
  -- What was in flight has been started now: the quota covered stays the same.
  unfold Task.covered at within ⊢
  change (t.inFlight - r.instancesProcessed).toNat +
    (t.statistics.instancesStarted + r.instancesProcessed.toUInt64).toNat ≤ _
  rw [UInt32.toNat_sub_of_le _ _ enough, UInt64.toNat_add, UInt32.toNat_toUInt64]
  omega

/-- and the return of trials. -/
theorem release {s s' : Scheduler} {count : UInt32} (quota : Quota s.tasks s.queue)
    (done : s.release id count = .ok s') : Quota s'.tasks s'.queue := by
  obtain ⟨t, found, enough, -, rfl⟩ := release_eq_ok_iff.mp done
  refine quota.putBack found rfl rfl fun _ => ?_
  unfold Task.covered
  change (t.inFlight - count).toNat + _ ≤ _
  rw [UInt32.toNat_sub_of_le _ _ enough]
  exact Nat.add_le_add_right (Nat.sub_le _ _) _

end Quota

/-! ### Calls of a scheduler -/

end Scheduler

/-- What can be asked of a scheduler. -/
inductive SchedulerCall where
  | addFile (file : TaskFile)
  | grant (requested : UInt32)
  | complete (r : TrialRecord)
  | release (id : TaskId) (count : UInt32)
  deriving Repr

namespace Scheduler

/-- The scheduler after a call. One that is refused or fails changes nothing. -/
def call (s : Scheduler) : SchedulerCall → Scheduler
  | .addFile file => ((s.addFile file).map Prod.snd).toOption.getD s
  | .grant requested => (s.handed requested).2
  | .complete r => (s.complete r).toOption.getD s
  | .release id count => (s.release id count).toOption.getD s

/-- A new file has all of its quota left and is queued. -/
theorem Quota.addFile {s s' : Scheduler} {file : TaskFile} {id : TaskId}
    (quota : Quota s.tasks s.queue) (added : s.addFile file = .ok (id, s')) :
    Quota s'.tasks s'.queue := by
  obtain ⟨few, rfl, -, rfl⟩ := addFile_eq_ok added
  exact quota.push few file

/-- What a call can do. -/
inductive Called (s : Scheduler) : SchedulerCall → Scheduler → Prop
  | refused {c : SchedulerCall} (silent : ∀ requested, c = .grant requested →
      s.handed requested = ([], s)) : s.Called c s
  | addFile {file : TaskFile} {id : TaskId} {s' : Scheduler}
      (added : s.addFile file = .ok (id, s')) : s.Called (.addFile file) s'
  | grant {requested : UInt32} {bs : List Batch} {s' : Scheduler}
      (done : s.grant requested = .ok (bs, s')) : s.Called (.grant requested) s'
  | complete {r : TrialRecord} {s' : Scheduler} (done : s.complete r = .ok s') :
      s.Called (.complete r) s'
  | release {id : TaskId} {count : UInt32} {s' : Scheduler} (done : s.release id count = .ok s') :
      s.Called (.release id count) s'

/-- Every call does one of these things. -/
theorem called (s : Scheduler) (c : SchedulerCall) : s.Called c (s.call c) := by
  unfold Scheduler.call
  cases c with
  | addFile file =>
    dsimp only
    cases added : s.addFile file with
    | error e => exact .refused nofun
    | ok r => exact .addFile added
  | grant requested =>
    dsimp only
    cases done : s.grant requested with
    | error overflow =>
      have nothing := handed_of_error done
      rw [nothing]
      refine .refused fun other same => ?_
      obtain rfl := SchedulerCall.grant.inj same
      exact nothing
    | ok r =>
      rw [handed_of_ok done]
      exact .grant done
  | complete r =>
    dsimp only
    cases done : s.complete r with
    | error fault => exact .refused nofun
    | ok s' => exact .complete done
  | release id count =>
    dsimp only
    cases done : s.release id count with
    | error fault => exact .refused nofun
    | ok s' => exact .release done

/-- Every call keeps the quotas, also one that is refused. -/
theorem Quota.call {s : Scheduler} (quota : Quota s.tasks s.queue) (c : SchedulerCall) :
    Quota (s.call c).tasks (s.call c).queue := by
  have called := s.called c
  generalize s.call c = s' at called ⊢
  cases called with
  | refused => exact quota
  | addFile added => exact quota.addFile added
  | grant done => exact quota.grant done
  | complete done => exact quota.complete done
  | release done => exact quota.release done

/-- Any calls do. -/
theorem Quota.calls {s : Scheduler} (quota : Quota s.tasks s.queue) (calls : List SchedulerCall) :
    Quota (calls.foldl Scheduler.call s).tasks (calls.foldl Scheduler.call s).queue := by
  induction calls generalizing s with
  | nil => exact quota
  | cons c calls ih => exact ih (quota.call c)

/-! ### The end of the work -/

/-- Every file with a bound was run as often as it asks for. -/
def Finished (s : Scheduler) : Prop :=
  ∀ id t, s.task? id = some t → t.file.startConfigs ≠ 0 →
    t.statistics.instancesStarted.toNat = t.file.startConfigs.toNat

/-- The quota invariant holds, and the count over all tasks is right. -/
structure Orderly (s : Scheduler) : Prop where
  quota : Quota s.tasks s.queue
  summed : s.Summed

variable {s s' : Scheduler} {id : TaskId} {t u : Task} {k : UInt64}

theorem Orderly.empty (policy : ZeroQuotaPolicy) : (empty policy).Orderly :=
  ⟨Quota.empty, Summed.empty policy⟩

/-- A new file keeps the order, -/
theorem Orderly.addFile {file : TaskFile} (orderly : s.Orderly)
    (added : s.addFile file = .ok (id, s')) : s'.Orderly :=
  ⟨orderly.quota.addFile added, orderly.summed.addFile added⟩

/-- and so does a grant, -/
theorem Orderly.grant {requested : UInt32} {bs : List Batch} (orderly : s.Orderly)
    (done : s.grant requested = .ok (bs, s')) : s'.Orderly :=
  ⟨orderly.quota.grant done, (grant_spec done).summed orderly.summed⟩

/-- a report, -/
theorem Orderly.complete {r : TrialRecord} (orderly : s.Orderly) (done : s.complete r = .ok s') :
    s'.Orderly :=
  ⟨orderly.quota.complete done, orderly.summed.complete done⟩

/-- and the return of trials. -/
theorem Orderly.release {count : UInt32} (orderly : s.Orderly)
    (done : s.release id count = .ok s') : s'.Orderly :=
  ⟨orderly.quota.release done, orderly.summed.release done⟩

/-- Every call keeps the order, also one that is refused. -/
theorem Orderly.call (orderly : s.Orderly) (c : SchedulerCall) : (s.call c).Orderly := by
  have called := s.called c
  generalize s.call c = s' at called ⊢
  cases called with
  | refused => exact orderly
  | addFile added => exact orderly.addFile added
  | grant done => exact orderly.grant done
  | complete done => exact orderly.complete done
  | release done => exact orderly.release done

/-- All calls keep quotas and counts, those that are refused or fail included. -/
theorem Orderly.calls (orderly : s.Orderly) (calls : List SchedulerCall) :
    (calls.foldl Scheduler.call s).Orderly := by
  induction calls generalizing s with
  | nil => exact orderly
  | cons c calls ih => exact ih (orderly.call c)

/-- When nothing waits and nothing is out, every quota is used up. -/
theorem Orderly.finished (orderly : s.Orderly) (idle : s.queue = []) (none : s.inFlight = 0) :
    s.Finished := by
  intro id t found bounded
  have within := orderly.quota.within id t found bounded
  have waiting := orderly.quota.waiting id t found bounded
  have out := orderly.summed.outOf_eq_zero none id
  rw [outOf_of_some found] at out
  rw [idle] at waiting
  -- Off the queue a file has no quota left, and no part of it is out.
  have used := mt waiting.mpr List.not_mem_nil
  unfold Task.covered at within used
  omega

/-- Once all files with bounds have run, a grant does not change that, -/
theorem Finished.grant {requested : UInt32} {bs : List Batch} (finished : s.Finished)
    (done : s.grant requested = .ok (bs, s')) : s'.Finished := by
  intro id t found bounded
  obtain ⟨t₀, before, file, -, statistics, -⟩ := (grant_spec done).origin found
  rw [file] at bounded ⊢
  rw [statistics]
  exact finished id t₀ before bounded

/-- nor does an update that leaves their numbers of trials alone. -/
private theorem Finished.putBack (finished : s.Finished) (found : s.task? id = some t)
    (file : u.file = t.file) (same : t.file.startConfigs ≠ 0 →
      u.statistics.instancesStarted = t.statistics.instancesStarted) :
    (s.putBack id u k).Finished := by
  intro other v here
  rw [putBack_task? found] at here
  split at here
  · obtain rfl := Option.some.inj here
    intro bounded
    dsimp only at bounded ⊢
    rw [file] at bounded ⊢
    rw [same bounded]
    exact finished id t found bounded
  · exact finished other v here

/-- So the return of trials does not. -/
theorem Finished.release {count : UInt32} (finished : s.Finished)
    (done : s.release id count = .ok s') : s'.Finished := by
  obtain ⟨t, found, -, -, rfl⟩ := release_eq_ok_iff.mp done
  exact finished.putBack found rfl fun _ => rfl

/-- When every quota is used up, all that can still be reported is nothing. -/
theorem Finished.complete {r : TrialRecord} (finished : s.Finished) (orderly : s.Orderly)
    (done : s.complete r = .ok s') : s'.Finished := by
  obtain ⟨t, found, here, -, -, rfl⟩ := complete_eq_ok_iff.mp done
  refine finished.putBack found rfl fun bounded => ?_
  have within := orderly.quota.within _ t found bounded
  have all := finished _ t found bounded
  have enough := UInt32.le_iff_toNat_le.mp here
  unfold Task.covered at within
  have nothing : r.instancesProcessed = 0 := by
    rw [← UInt32.toNat_inj, UInt32.toNat_zero]
    omega
  change t.statistics.instancesStarted + r.instancesProcessed.toUInt64 = _
  rw [nothing]
  exact UInt64.add_zero _

end Scheduler

end TrialFarm
