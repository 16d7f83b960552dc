import TrialFarm.Proofs.Server.Roster
import TrialFarm.Server.State

/-!
# Tasks and their counts

The counts of the scheduler, read as natural numbers: the trials of one task that are out, and of
all. Replacing a task changes the sum by the difference of the two counts.

## Main definitions

* `outOf`, `outAll`: trials that are out, of one task and of all.
* `Scheduler.Summed`: the count over all tasks is the sum of their counts.
-/

namespace TrialFarm

/-- Trials of one task that are out; nothing for a task that does not exist. -/
def outOf (tasks : Array Task) (id : TaskId) : Nat :=
  ((tasks[id.toNat]?).map fun t => t.inFlight.toNat).getD 0

/-- Trials of all tasks that are out. -/
def outAll (tasks : Array Task) : Nat :=
  (tasks.toList.map fun t => t.inFlight.toNat).sum

section Tasks

variable {tasks : Array Task} {id : TaskId} {t u : Task}

theorem outOf_of_some (found : tasks[id.toNat]? = some t) : outOf tasks id = t.inFlight.toNat := by
  simp [outOf, found]

/-- Of a task that does not exist nothing is out. -/
theorem outOf_of_none (missing : tasks[id.toNat]? = none) : outOf tasks id = 0 := by
  simp [outOf, missing]

/-- What is out of a task fits into a word. -/
theorem outOf_lt (tasks : Array Task) (id : TaskId) : outOf tasks id < 2 ^ 32 := by
  cases found : tasks[id.toNat]? with
  | none =>
    rw [outOf_of_none found]
    exact Nat.two_pow_pos 32
  | some t =>
    rw [outOf_of_some found]
    exact t.inFlight.toNat_lt

/-- What is found after one task was replaced. -/
theorem getElem?_replace (found : tasks[id.toNat]? = some t) (other : TaskId) :
    (tasks.setIfInBounds id.toNat u)[other.toNat]? =
      if other = id then some u else tasks[other.toNat]? := by
  obtain ⟨inside, -⟩ := Array.getElem?_eq_some_iff.mp found
  rw [Array.getElem?_setIfInBounds, if_pos inside]
  by_cases same : other = id
  · rw [if_pos same, same, if_pos rfl]
  · rw [if_neg same, if_neg fun h => same (UInt32.toNat_inj.mp h.symm)]

/-- What is out of each task after one was replaced. -/
theorem outOf_replace (found : tasks[id.toNat]? = some t) (other : TaskId) :
    outOf (tasks.setIfInBounds id.toNat u) other =
      if other = id then u.inFlight.toNat else outOf tasks other := by
  unfold outOf
  rw [getElem?_replace found]
  split <;> rfl

private theorem sum_set (counts : List Nat) (i a b : Nat) (here : counts[i]? = some a) :
    (counts.set i b).sum + a = counts.sum + b := by
  induction counts generalizing i with
  | nil => simp at here
  | cons first rest ih =>
    cases i with
    | zero =>
      simp only [List.getElem?_cons_zero, Option.some.injEq] at here
      subst here
      simp only [List.set_cons_zero, List.sum_cons]
      omega
    | succ i =>
      rw [List.getElem?_cons_succ] at here
      have := ih i here
      simp only [List.set_cons_succ, List.sum_cons]
      omega

/-- What is out in all after one task was replaced. -/
theorem outAll_replace (found : tasks[id.toNat]? = some t) :
    outAll (tasks.setIfInBounds id.toNat u) + t.inFlight.toNat =
      outAll tasks + u.inFlight.toNat := by
  unfold outAll
  rw [Array.toList_setIfInBounds, List.map_set]
  apply sum_set
  rw [List.getElem?_map, Array.getElem?_toList, found]
  rfl

theorem outAll_push : outAll (tasks.push t) = outAll tasks + t.inFlight.toNat := by
  simp [outAll]

/-- What is out of one task is part of all. -/
theorem outOf_le_outAll (tasks : Array Task) (id : TaskId) : outOf tasks id ≤ outAll tasks := by
  cases found : tasks[id.toNat]? with
  | none => simp [outOf_of_none found]
  | some t =>
    rw [outOf_of_some found]
    refine List.single_le_sum (by simp) _ (List.mem_map.mpr ⟨t, ?_, rfl⟩)
    rw [Array.mem_toList_iff]
    exact Array.mem_of_getElem? found

/-- So few tasks with counts of a word each cannot exceed the count over all tasks. -/
theorem outAll_lt (few : tasks.size ≤ 2 ^ 32) : outAll tasks < 2 ^ 64 := by
  have bound : outAll tasks ≤ tasks.size * (2 ^ 32 - 1) := by
    unfold outAll
    have := List.sum_le_card_nsmul (tasks.toList.map fun t => t.inFlight.toNat) (2 ^ 32 - 1) (by
      intro n member
      obtain ⟨t, -, rfl⟩ := List.mem_map.mp member
      have := t.inFlight.toNat_lt
      omega)
    simpa using this
  have : tasks.size * (2 ^ 32 - 1) ≤ 2 ^ 32 * (2 ^ 32 - 1) := Nat.mul_le_mul_right _ few
  omega

/-- If nothing is out of any task, nothing is out. -/
theorem outAll_eq_zero (few : tasks.size ≤ 2 ^ 32) (none : ∀ id, outOf tasks id = 0) :
    outAll tasks = 0 := by
  refine List.sum_eq_zero fun count member => ?_
  obtain ⟨t, inside, rfl⟩ := List.mem_map.mp member
  obtain ⟨i, bound, here⟩ := Array.getElem_of_mem (Array.mem_toList_iff.mp inside)
  have number : (UInt32.ofNat i).toNat = i :=
    UInt32.toNat_ofNat_of_lt' (Nat.lt_of_lt_of_le bound few)
  rw [← none (UInt32.ofNat i), outOf_of_some (t := t)]
  rw [number, Array.getElem?_eq_getElem bound, here]

/-- Of a new task nothing is out. -/
theorem outOf_push (tasks : Array Task) (file : TaskFile) (id : TaskId) :
    outOf (tasks.push (Task.ofFile file)) id = outOf tasks id := by
  unfold outOf
  rw [Array.getElem?_push]
  split
  · next last =>
    rw [Array.getElem?_eq_none (Nat.le_of_eq last.symm)]
    rfl
  · rfl

end Tasks

namespace Scheduler

/-- There are no more tasks than numbers, and the count over all tasks is their sum. -/
structure Summed (s : Scheduler) : Prop where
  few : s.tasks.size ≤ 2 ^ 32
  sum : outAll s.tasks = s.inFlight.toNat

theorem Summed.empty (policy : ZeroQuotaPolicy) : (empty policy).Summed :=
  ⟨by simp [Scheduler.empty], by simp [Scheduler.empty, outAll]⟩

/-- With a sum of nothing, nothing of any task is out. -/
theorem Summed.outOf_eq_zero {s : Scheduler} (summed : s.Summed) (none : s.inFlight = 0)
    (id : TaskId) : outOf s.tasks id = 0 := by
  have := outOf_le_outAll s.tasks id
  rw [summed.sum, none] at this
  exact Nat.le_zero.mp this

/-- An accepted file becomes the last task and the first in the queue. -/
theorem addFile_eq_ok {s s' : Scheduler} {file : TaskFile} {id : TaskId}
    (done : s.addFile file = .ok (id, s')) :
    s.tasks.size < 2 ^ 32 ∧ id = UInt32.ofNat s.tasks.size ∧
      Wire.emptyGrantLen + file.encodedLen + 8 ≤ Wire.maxPayload ∧
      s' = { s with tasks := s.tasks.push (Task.ofFile file), queue := id :: s.queue } := by
  unfold addFile at done
  split at done
  · simp at done
  next short =>
  split at done
  · simp at done
  next few =>
  simp only [Except.ok.injEq, Prod.mk.injEq] at done
  obtain ⟨rfl, rfl⟩ := done
  exact ⟨Nat.lt_of_not_ge few, rfl, Nat.le_of_not_lt short, rfl⟩

/-- Of a task that was just submitted nothing is out. -/
theorem Summed.addFile {s s' : Scheduler} {file : TaskFile} {id : TaskId} (summed : s.Summed)
    (added : s.addFile file = .ok (id, s')) : s'.Summed := by
  obtain ⟨few, -, -, rfl⟩ := addFile_eq_ok added
  exact ⟨(Array.size_push ..).trans_le few, outAll_push.trans summed.sum⟩

/-! ### Putting a task in another's place and back in the queue -/

/-- What takes trials back does in the end: a count, a task and perhaps the queue are changed. -/
def putBack (s : Scheduler) (id : TaskId) (t : Task) (inFlight : UInt64) : Scheduler :=
  ({ s with inFlight := inFlight }.setTask id t).requeueIfNeeded id

variable {s : Scheduler} {id : TaskId} {t u : Task} {k : UInt64}

/-- The task that is put back is marked if it returns to the queue. -/
theorem putBack_eq (found : s.task? id = some t) :
    s.putBack id u k =
      { s with
        tasks := s.tasks.setIfInBounds id.toNat
          { u with scheduled := u.scheduled || u.wantsRequeue s.policy }
        queue := if u.wantsRequeue s.policy then s.queue ++ [id] else s.queue
        inFlight := k } := by
  -- Whether the task wants back is asked of the one that was just put in.
  have here : ({ s with inFlight := k }.setTask id u).task? id = some u := by
    have := getElem?_replace (u := u) found id
    rwa [if_pos rfl] at this
  unfold putBack requeueIfNeeded
  rw [here]
  dsimp only
  split
  · next wants =>
    simp only [setTask] at wants
    simp [setTask, wants]
  · next keeps =>
    simp only [setTask, Bool.not_eq_true] at keeps
    simp [setTask, keeps]

/-- What is found after a task was updated. It may be queued again. -/
theorem putBack_task? (found : s.task? id = some t) (other : TaskId) :
    (s.putBack id u k).task? other =
      if other = id then some { u with scheduled := u.scheduled || u.wantsRequeue s.policy }
      else s.task? other := by
  rw [putBack_eq found]
  exact getElem?_replace found other

/-- What is out of each task after one was updated. -/
theorem putBack_outOf (found : s.task? id = some t) (other : TaskId) :
    outOf (s.putBack id u k).tasks other =
      if other = id then u.inFlight.toNat else outOf s.tasks other := by
  rw [putBack_eq found]
  exact outOf_replace found other

/-- An update keeps the sum right if it changes both counts alike. -/
theorem Summed.putBack (summed : s.Summed) (found : s.task? id = some t)
    (same : k.toNat + t.inFlight.toNat = s.inFlight.toNat + u.inFlight.toNat) :
    (s.putBack id u k).Summed := by
  rw [putBack_eq found]
  refine ⟨by simpa using summed.few, ?_⟩
  have replaced := outAll_replace
    (u := { u with scheduled := u.scheduled || u.wantsRequeue s.policy }) found
  have := summed.sum
  dsimp only at replaced ⊢
  omega

end Scheduler

end TrialFarm
