import TrialFarm.Proofs.Server.Tasks

/-!
# Taking trials back

A report and a release take trials from one task and from the count over all, and may put the task
back in the queue. Neither is refused if the counts agree, the task has enough trials out, and the
reported shape is the known one.

## Main statements

* `Scheduler.complete_eq_ok_iff`, `Scheduler.release_eq_ok_iff`: when trials are taken back, and
  what becomes of the scheduler.
* `ServerState.releaseAll_spec`: all that a worker holds can be given back.
-/

namespace TrialFarm

/-- A task after a report. -/
def Task.reported (t : Task) (r : TrialRecord) : Task :=
  { t with
    statistics := Scheduler.mergeRecord t.statistics t.shapeKnown r
    shapeKnown := t.shapeKnown || 0 < r.flips
    inFlight := t.inFlight - r.instancesProcessed }

/-- A task after some of its trials were given back. -/
def Task.released (t : Task) (count : UInt32) : Task :=
  { t with inFlight := t.inFlight - count }

/-- The report has another shape than the task, which is known. -/
def Task.clashes (t : Task) (r : TrialRecord) : Bool :=
  0 < r.flips && t.shapeKnown &&
    (t.statistics.numVars != r.numVars || t.statistics.numClauses != r.numClauses)

namespace Scheduler

variable {s s' : Scheduler} {r : TrialRecord} {id : TaskId} {count : UInt32} {t : Task}

/-- Which reports are accepted, and what becomes of the scheduler. -/
theorem complete_eq_ok_iff :
    s.complete r = .ok s' ↔
      ∃ t, s.task? r.taskId = some t ∧ r.instancesProcessed ≤ t.inFlight ∧
        r.instancesProcessed.toUInt64 ≤ s.inFlight ∧ t.clashes r = false ∧
        s' = s.putBack r.taskId (t.reported r) (s.inFlight - r.instancesProcessed.toUInt64) := by
  unfold complete
  cases found : s.task? r.taskId with
  | none => simp
  | some t =>
    dsimp only
    by_cases many : t.inFlight < r.instancesProcessed
    · simp [many, UInt32.not_le.mpr many]
    by_cases all : s.inFlight < r.instancesProcessed.toUInt64
    · simp [many, all, UInt64.not_le.mpr all]
    rw [if_neg many, if_neg all]
    have enough := UInt32.not_lt.mp many
    have enough' := UInt64.not_lt.mp all
    by_cases clash : t.clashes r = true
    · have condition := clash
      unfold Task.clashes at condition
      simp [condition, clash]
    · have condition := clash
      unfold Task.clashes at condition
      rw [if_neg condition, Except.ok.injEq]
      simp only [Bool.not_eq_true] at clash
      constructor
      · rintro rfl
        exact ⟨t, rfl, enough, enough', clash, rfl⟩
      · rintro ⟨t', same, -, -, -, rfl⟩
        obtain rfl := Option.some.inj same
        rfl

/-- Which trials are taken back, and what becomes of the scheduler. -/
theorem release_eq_ok_iff :
    s.release id count = .ok s' ↔
      ∃ t, s.task? id = some t ∧ count ≤ t.inFlight ∧ count.toUInt64 ≤ s.inFlight ∧
        s' = s.putBack id (t.released count) (s.inFlight - count.toUInt64) := by
  unfold release
  cases found : s.task? id with
  | none => simp
  | some t =>
    dsimp only
    by_cases many : t.inFlight < count
    · simp [many, UInt32.not_le.mpr many]
    by_cases all : s.inFlight < count.toUInt64
    · simp [many, all, UInt64.not_le.mpr all]
    rw [if_neg many, if_neg all, Except.ok.injEq]
    have enough := UInt32.not_lt.mp many
    have enough' := UInt64.not_lt.mp all
    constructor
    · rintro rfl
      exact ⟨t, rfl, enough, enough', rfl⟩
    · rintro ⟨t', same, -, -, rfl⟩
      obtain rfl := Option.some.inj same
      rfl

/-- If the counts agree, a task's trials are among all that are out. -/
theorem Summed.enough (summed : s.Summed) (found : s.task? id = some t)
    (enough : count ≤ t.inFlight) : count.toUInt64 ≤ s.inFlight := by
  have part := outOf_le_outAll s.tasks id
  rw [outOf_of_some found, summed.sum] at part
  rw [UInt64.le_iff_toNat_le, UInt32.toNat_toUInt64]
  exact Nat.le_trans (UInt32.le_iff_toNat_le.mp enough) part

private theorem taken (here : count ≤ t.inFlight) (there : count.toUInt64 ≤ s.inFlight) :
    (t.inFlight - count).toNat + count.toNat = t.inFlight.toNat ∧
      (s.inFlight - count.toUInt64).toNat + count.toNat = s.inFlight.toNat := by
  rw [UInt32.toNat_sub_of_le _ _ here, UInt64.toNat_sub_of_le _ _ there, UInt32.toNat_toUInt64]
  rw [UInt32.le_iff_toNat_le] at here
  rw [UInt64.le_iff_toNat_le, UInt32.toNat_toUInt64] at there
  omega

/-- A report keeps the count over all tasks right, -/
theorem Summed.complete (summed : s.Summed) (done : s.complete r = .ok s') : s'.Summed := by
  obtain ⟨t, found, here, there, -, rfl⟩ := complete_eq_ok_iff.mp done
  obtain ⟨one, all⟩ := taken here there
  refine summed.putBack found ?_
  change _ = _ + (t.inFlight - r.instancesProcessed).toNat
  omega

/-- and so does the return of trials. -/
theorem Summed.release (summed : s.Summed) (done : s.release id count = .ok s') : s'.Summed := by
  obtain ⟨t, found, here, there, rfl⟩ := release_eq_ok_iff.mp done
  obtain ⟨one, all⟩ := taken here there
  refine summed.putBack found ?_
  change _ = _ + (t.inFlight - count).toNat
  omega

/-- A report takes its trials from its task, which had as many out. -/
theorem outOf_complete (done : s.complete r = .ok s') (other : TaskId) :
    outOf s'.tasks other + (if other = r.taskId then r.instancesProcessed.toNat else 0) =
      outOf s.tasks other := by
  obtain ⟨t, found, here, there, -, rfl⟩ := complete_eq_ok_iff.mp done
  obtain ⟨one, -⟩ := taken here there
  rw [putBack_outOf found]
  split
  · next same =>
    rw [same, outOf_of_some found]
    exact one
  · rfl

/-- Trials that are taken back are no longer out. -/
theorem outOf_release (done : s.release id count = .ok s') (other : TaskId) :
    outOf s'.tasks other + (if other = id then count.toNat else 0) = outOf s.tasks other := by
  obtain ⟨t, found, here, there, rfl⟩ := release_eq_ok_iff.mp done
  obtain ⟨one, -⟩ := taken here there
  rw [putBack_outOf found]
  split
  · next same =>
    rw [same, outOf_of_some found]
    exact one
  · rfl

/-- A release changes no task but for its count and its mark. -/
theorem release_task? (done : s.release id count = .ok s') {other : TaskId}
    (found : s.task? other = some t) :
    ∃ t', s'.task? other = some t' ∧ t'.file = t.file ∧ t'.statistics = t.statistics ∧
      t'.shapeKnown = t.shapeKnown := by
  obtain ⟨u, there, -, -, rfl⟩ := release_eq_ok_iff.mp done
  rw [putBack_task? there]
  split
  · next same =>
    subst same
    obtain rfl := Option.some.inj (there.symm.trans found)
    exact ⟨_, rfl, rfl, rfl, rfl⟩
  · exact ⟨t, found, rfl, rfl, rfl⟩

/-- A release changes neither the number of tasks nor the policy. -/
theorem release_frame (done : s.release id count = .ok s') :
    s'.policy = s.policy ∧ s'.tasks.size = s.tasks.size := by
  obtain ⟨t, found, -, -, rfl⟩ := release_eq_ok_iff.mp done
  rw [putBack_eq found]
  exact ⟨rfl, Array.size_setIfInBounds⟩

/-- A release is not refused if the task has as many trials out. -/
theorem release_of_enough (summed : s.Summed) (pos : 0 < count)
    (enough : count.toNat ≤ outOf s.tasks id) : ∃ s', s.release id count = .ok s' := by
  rw [UInt32.lt_iff_toNat_lt] at pos
  cases found : s.task? id with
  | none =>
    rw [outOf_of_none found] at enough
    exact absurd (Nat.lt_of_lt_of_le pos enough) (Nat.lt_irrefl 0)
  | some t =>
    rw [outOf_of_some found, ← UInt32.le_iff_toNat_le] at enough
    exact ⟨_, release_eq_ok_iff.mpr ⟨t, found, enough, summed.enough found enough, rfl⟩⟩

end Scheduler

namespace ServerState

open Scheduler

/-- What holdings say can be given back if as much of every task is out. -/
theorem releaseAll_spec {s : Scheduler} {h : Holdings} (kept : h.Kept) (summed : s.Summed)
    (enough : ∀ id, h.held id ≤ outOf s.tasks id) :
    ∃ s', releaseAll s h = (s', .ok ()) ∧ s'.Summed ∧
      ∀ id, outOf s'.tasks id + h.held id = outOf s.tasks id := by
  induction h generalizing s with
  | nil => exact ⟨s, rfl, summed, fun _ => rfl⟩
  | cons entry rest ih =>
    obtain ⟨id, count⟩ := entry
    have here := enough id
    rw [Holdings.held_cons, if_pos rfl] at here
    obtain ⟨s₁, done⟩ := release_of_enough summed kept.head_pos here
    have taken := outOf_release done
    -- A task is entered once, so the rest of the holdings has nothing of this one.
    have last : Holdings.held rest id = 0 := Holdings.held_eq_zero_of_before kept.head_lt
    obtain ⟨s₂, rest_done, summed₂, given⟩ := ih kept.tail (summed.release done) (by
      intro other
      have before := enough other
      have := taken other
      rw [Holdings.held_cons] at before
      split at before
      · next same =>
        rw [same, last]
        exact Nat.zero_le _
      · next apart =>
        rw [if_neg apart] at this
        omega)
    refine ⟨s₂, ?_, summed₂, ?_⟩
    · unfold releaseAll
      rw [done]
      exact rest_done
    · intro other
      have := taken other
      have := given other
      rw [Holdings.held_cons]
      split
      · next same =>
        subst same
        simp only [if_true] at *
        omega
      · next apart =>
        simp only [if_neg apart] at *
        omega

/-- What holds before trials are given back and is kept by every release holds after it, also if one
is refused. -/
theorem releaseAll_induction {motive : Scheduler → Prop}
    (release : ∀ s s' id count, motive s → Scheduler.release s id count = .ok s' → motive s')
    (h : Holdings) (s : Scheduler) (start : motive s) : motive (releaseAll s h).1 := by
  induction h generalizing s with
  | nil => exact start
  | cons entry rest ih =>
    unfold releaseAll
    split
    · exact start
    · next done => exact ih _ (release s _ _ _ start done)

end ServerState

end TrialFarm
