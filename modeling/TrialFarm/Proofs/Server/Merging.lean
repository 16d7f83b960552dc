import TrialFarm.Proofs.Server.Balance
import TrialFarm.Proofs.Server.Gains
import TrialFarm.Proofs.Server.Quota

/-!
# Reports in any order

Workers report independently of each other. Whether all reports are accepted does not depend on
their order, and neither does what becomes of the scheduler, apart from the average rates.

## Main definitions

* `Scheduler.Takes`: reports that together fit the tasks.
* `Scheduler.Alike`: two schedulers differ in average rates only.
* `Scheduler.Reachable`: the schedulers that calls lead to.

## Main statements

* `Scheduler.takes_cons_iff`: one report is accepted, and the others fit what it leaves.
* `Scheduler.gains_of_completeAll`: what tasks gain when all reports are accepted.
* `Scheduler.reports_in_any_order`: reports are accepted in any order or in none.
-/

namespace TrialFarm

namespace Scheduler

variable {policy : ZeroQuotaPolicy} {s s' s'' : Scheduler} {r : TrialRecord}
  {rs rs' : List TrialRecord} {id : TaskId} {t : Task}

/-! ### One report -/

/-- A task is queued if it is marked. -/
theorem Quota.mem_queue_iff {tasks : Array Task} {queue : List TaskId} (quota : Quota tasks queue)
    (id : TaskId) : id ∈ queue ↔ ∃ t, tasks[id.toNat]? = some t ∧ t.scheduled = true := by
  constructor
  · intro queued
    obtain ⟨t, found⟩ := quota.known id queued
    exact ⟨t, found, (quota.marked id t found).mpr queued⟩
  · rintro ⟨t, found, scheduled⟩
    exact (quota.marked id t found).mp scheduled

/-- Of a file with a bound nothing returns to the queue: what is covered of its quota stays so. -/
theorem Quota.wantsRequeue_reported (quota : Quota s.tasks s.queue)
    (found : s.task? r.taskId = some t) (enough : r.instancesProcessed ≤ t.inFlight) :
    (t.reported r).wantsRequeue s.policy = (!t.scheduled && t.isRetried s.policy) := by
  by_cases bounded : t.file.startConfigs = 0
  · unfold Task.wantsRequeue Task.isRetried
    rw [Task.quotaLeft_of_unbounded (t := t.reported r) bounded, bounded]
    simp [Task.reported]
  · have within := quota.within _ t found bounded
    have waiting := quota.waiting _ t found bounded
    have marked := quota.marked _ t found
    have covered : (t.reported r).covered = t.covered := by
      have := t.file.startConfigs.toNat_lt
      have := UInt32.le_iff_toNat_le.mp enough
      unfold Task.covered at within ⊢
      change (t.inFlight - r.instancesProcessed).toNat +
        (t.statistics.instancesStarted + r.instancesProcessed.toUInt64).toNat = _
      rw [UInt32.toNat_sub_of_le _ _ enough, UInt64.toNat_add, UInt32.toNat_toUInt64]
      omega
    have never : (t.reported r).wantsRequeue s.policy = false := by
      rw [Bool.eq_false_iff]
      intro wants
      obtain ⟨off, left⟩ := (wantsRequeue_iff (t := t.reported r) bounded s.policy).mp wants
      rw [covered] at left
      have queued := marked.mpr (waiting.mpr left)
      exact absurd (queued.symm.trans off) (by simp)
    rw [never]
    simp [Task.isRetried, bounded]

/-- All that a report does to tasks. -/
theorem Quota.complete_spec (quota : Quota s.tasks s.queue) (done : s.complete r = .ok s') :
    ∃ t, s.task? r.taskId = some t ∧ r.instancesProcessed ≤ t.inFlight ∧ t.clashes r = false ∧
      ∀ other, s'.task? other =
        if other = r.taskId then some (t.merged s.policy r) else s.task? other := by
  obtain ⟨t, found, enough, -, fits, rfl⟩ := complete_eq_ok_iff.mp done
  refine ⟨t, found, enough, fits, fun other => ?_⟩
  rw [putBack_task? found, quota.wantsRequeue_reported found enough]
  have marked : ((t.reported r).scheduled || !t.scheduled && t.isRetried s.policy) =
      (t.scheduled || t.isRetried s.policy) := by
    change (t.scheduled || !t.scheduled && t.isRetried s.policy) = _
    cases t.scheduled <;> rfl
  rw [marked]
  rfl

theorem complete_policy (done : s.complete r = .ok s') : s'.policy = s.policy := by
  obtain ⟨t, found, -, -, -, rfl⟩ := complete_eq_ok_iff.mp done
  rw [putBack_eq found]

/-- A report adds no task. -/
theorem complete_size (done : s.complete r = .ok s') : s'.tasks.size = s.tasks.size := by
  obtain ⟨t, found, -, -, -, rfl⟩ := complete_eq_ok_iff.mp done
  rw [putBack_eq found]
  exact Array.size_setIfInBounds

/-- A report takes its trials off the count over all tasks. -/
theorem complete_inFlight (done : s.complete r = .ok s') :
    s'.inFlight.toNat + r.instancesProcessed.toNat = s.inFlight.toNat := by
  obtain ⟨t, found, -, there, -, rfl⟩ := complete_eq_ok_iff.mp done
  rw [putBack_eq found]
  have left : (s.inFlight - r.instancesProcessed.toUInt64).toNat = _ :=
    UInt64.toNat_sub_of_le _ _ there
  rw [UInt64.le_iff_toNat_le, UInt32.toNat_toUInt64] at there
  rw [UInt32.toNat_toUInt64] at left
  dsimp only
  omega

/-! ### Many reports -/

/-- The scheduler after reports, if it accepts all of them one after the other. -/
def completeAll (s : Scheduler) (rs : List TrialRecord) : Except SchedulerFault Scheduler :=
  rs.foldlM complete s

/-- Reports are taken one by one. -/
theorem completeAll_cons_eq_ok : s.completeAll (r :: rs) = .ok s' ↔
    ∃ s₁, s.complete r = .ok s₁ ∧ s₁.completeAll rs = .ok s' := by
  unfold completeAll
  rw [List.foldlM_cons]
  cases s.complete r with
  | error fault => simp [bind, Except.bind]
  | ok s₁ => simp [bind, Except.bind]

/-- Reports that together fit the tasks: they are about tasks that exist, no task gets more trials
back than are out, and all shapes agree. -/
structure Takes (s : Scheduler) (rs : List TrialRecord) : Prop where
  known : ∀ r ∈ rs, ∃ t, s.task? r.taskId = some t
  enough : ∀ id t, s.task? id = some t → processed (recordsOn rs id) ≤ t.inFlight.toNat
  agree : ∀ r ∈ rs, ∀ r' ∈ rs, r'.taskId = r.taskId → 0 < r.flips → 0 < r'.flips →
    r'.shape = r.shape
  fixed : ∀ r ∈ rs, 0 < r.flips → ∀ t shape, s.task? r.taskId = some t → t.shape? = some shape →
    r.shape = shape

/-- Whether reports fit does not depend on their order. -/
theorem Takes.perm (takes : s.Takes rs) (perm : rs.Perm rs') : s.Takes rs' where
  known r member := takes.known r (perm.mem_iff.mpr member)
  enough id t found := by
    have same : processed (recordsOn rs id) = processed (recordsOn rs' id) :=
      ((perm.filter _).map _).sum_eq
    rw [← same]
    exact takes.enough id t found
  agree r member r' member' :=
    takes.agree r (perm.mem_iff.mpr member) r' (perm.mem_iff.mpr member')
  fixed r member := takes.fixed r (perm.mem_iff.mpr member)

/-- The first of reports that fit is taken, -/
theorem Takes.complete (orderly : s.Orderly) (takes : s.Takes (r :: rs)) :
    ∃ s₁, s.complete r = .ok s₁ := by
  obtain ⟨t, found⟩ := takes.known r (List.mem_cons_self ..)
  have here : r.instancesProcessed ≤ t.inFlight := by
    have all := takes.enough r.taskId t found
    rw [recordsOn_cons, if_pos rfl, processed_cons] at all
    rw [UInt32.le_iff_toNat_le]
    omega
  have there : r.instancesProcessed.toUInt64 ≤ s.inFlight := by
    have out := outOf_le_outAll s.tasks r.taskId
    have := orderly.summed.sum
    rw [outOf_of_some found] at out
    rw [UInt32.le_iff_toNat_le] at here
    rw [UInt64.le_iff_toNat_le, UInt32.toNat_toUInt64]
    omega
  have fits : t.clashes r = false := Task.clashes_eq_false_iff.mpr fun flips shape known =>
    takes.fixed r (List.mem_cons_self ..) flips t shape found known
  exact ⟨_, complete_eq_ok_iff.mpr ⟨t, found, here, there, fits, rfl⟩⟩

/-- What was taken before, the task that is left takes the rest of. -/
theorem Takes.tail (takes : s.Takes (r :: rs)) (quota : Quota s.tasks s.queue)
    (done : s.complete r = .ok s') : s'.Takes rs := by
  obtain ⟨t, found, here, fits, after⟩ := quota.complete_spec done
  have first : r ∈ r :: rs := List.mem_cons_self ..
  have later {r' : TrialRecord} (member : r' ∈ rs) : r' ∈ r :: rs := List.mem_cons_of_mem _ member
  refine ⟨fun r' member => ?_, fun id u found' => ?_, fun r₁ member₁ r₂ member₂ =>
    takes.agree r₁ (later member₁) r₂ (later member₂),
    fun r' member flips' u shape found' known => ?_⟩
  · rw [after]
    split
    · exact ⟨_, rfl⟩
    · exact takes.known r' (later member)
  · rw [after] at found'
    split at found'
    · next same =>
      obtain rfl := Option.some.inj found'
      have all := takes.enough r.taskId t found
      have left := Task.inFlight_merged s.policy here
      rw [recordsOn_cons, if_pos rfl, processed_cons] at all
      rw [same]
      omega
    · next apart =>
      have all := takes.enough id u found'
      rwa [recordsOn_cons, if_neg (Ne.symm apart)] at all
  · rw [after] at found'
    split at found'
    · next same =>
      obtain rfl := Option.some.inj found'
      rw [Task.shape?_merged s.policy fits] at known
      split at known
      · next flips =>
        -- The shape was fixed by the first report.
        rw [← Option.some.inj known]
        exact takes.agree r first r' (later member) same flips flips'
      · exact takes.fixed r' (later member) flips' t shape (same ▸ found) known
    · exact takes.fixed r' (later member) flips' u shape found' known

/-- and reports that fit behind one that was taken fit together with it. -/
theorem Takes.cons (takes : s'.Takes rs) (quota : Quota s.tasks s.queue)
    (done : s.complete r = .ok s') : s.Takes (r :: rs) := by
  obtain ⟨t, found, here, fits, after⟩ := quota.complete_spec done
  have merged : s'.task? r.taskId = some (t.merged s.policy r) := (after _).trans (if_pos rfl)
  -- A report with flips fixes the shape for the others.
  have fixes {r' : TrialRecord} (member : r' ∈ rs) (same : r'.taskId = r.taskId)
      (flips : 0 < r.flips) (flips' : 0 < r'.flips) : r'.shape = r.shape := by
    refine takes.fixed r' member flips' _ r.shape (same ▸ merged) ?_
    rw [Task.shape?_merged s.policy fits, if_pos flips]
  refine ⟨fun r' member => ?_, fun id u found' => ?_,
    fun r₁ member₁ r₂ member₂ same flips₁ flips₂ => ?_,
    fun r' member flips' u shape found' known => ?_⟩
  · rcases List.mem_cons.mp member with rfl | later
    · exact ⟨t, found⟩
    · obtain ⟨u, there⟩ := takes.known r' later
      rw [after] at there
      split at there
      · next same => exact ⟨t, same ▸ found⟩
      · exact ⟨u, there⟩
  · rw [recordsOn_cons]
    split
    · next same =>
      subst same
      obtain rfl := Option.some.inj (found.symm.trans found')
      have rest := takes.enough _ _ merged
      have left := Task.inFlight_merged s.policy here
      rw [processed_cons]
      omega
    · next apart =>
      exact takes.enough id u (((after id).trans (if_neg (Ne.symm apart))).trans found')
  · rcases List.mem_cons.mp member₁ with rfl | later₁
    · rcases List.mem_cons.mp member₂ with rfl | later₂
      · rfl
      · exact fixes later₂ same flips₁ flips₂
    · rcases List.mem_cons.mp member₂ with rfl | later₂
      · exact (fixes later₁ same.symm flips₂ flips₁).symm
      · exact takes.agree r₁ later₁ r₂ later₂ same flips₁ flips₂
  · rcases List.mem_cons.mp member with rfl | later
    · obtain rfl := Option.some.inj (found.symm.trans found')
      exact Task.clashes_eq_false_iff.mp fits flips' shape known
    · by_cases same : r'.taskId = r.taskId
      · rw [same] at found'
        obtain rfl := Option.some.inj (found.symm.trans found')
        exact takes.fixed r' later flips' _ shape (same ▸ merged)
          (Task.shape?_merged_of_known s.policy fits known)
      · exact takes.fixed r' later flips' u shape
          (((after _).trans (if_neg same)).trans found') known

/-- One report is accepted, and the others fit what it leaves. -/
theorem takes_cons_iff (orderly : s.Orderly) :
    s.Takes (r :: rs) ↔ ∃ s₁, s.complete r = .ok s₁ ∧ s₁.Takes rs := by
  constructor
  · intro takes
    obtain ⟨s₁, done⟩ := takes.complete orderly
    exact ⟨s₁, done, takes.tail orderly.quota done⟩
  · rintro ⟨s₁, done, takes⟩
    exact takes.cons orderly.quota done

theorem takes_nil (s : Scheduler) : s.Takes [] :=
  ⟨nofun, fun _ _ _ => Nat.zero_le _, nofun, nofun⟩

/-- Reports are accepted one after the other if and only if they fit together. -/
theorem completeAll_iff_takes (orderly : s.Orderly) :
    (∃ s', s.completeAll rs = .ok s') ↔ s.Takes rs := by
  induction rs generalizing s with
  | nil => exact iff_of_true ⟨s, rfl⟩ (takes_nil s)
  | cons r rs ih =>
    rw [takes_cons_iff orderly]
    constructor
    · rintro ⟨s', done⟩
      obtain ⟨s₁, first, rest⟩ := completeAll_cons_eq_ok.mp done
      exact ⟨s₁, first, (ih (orderly.complete first)).mp ⟨s', rest⟩⟩
    · rintro ⟨s₁, first, takes⟩
      obtain ⟨s', rest⟩ := (ih (orderly.complete first)).mpr takes
      exact ⟨s', completeAll_cons_eq_ok.mpr ⟨s₁, first, rest⟩⟩

/-! ### What becomes of the scheduler -/

/-- What all reports leave alone, and what they take from the count over all tasks. -/
theorem completeAll_frame (orderly : s.Orderly) (done : s.completeAll rs = .ok s') :
    s'.Orderly ∧ s'.policy = s.policy ∧ s'.tasks.size = s.tasks.size ∧
      s'.inFlight.toNat + processed rs = s.inFlight.toNat := by
  induction rs generalizing s with
  | nil =>
    cases done
    exact ⟨orderly, rfl, rfl, rfl⟩
  | cons r rs ih =>
    obtain ⟨s₁, first, rest⟩ := completeAll_cons_eq_ok.mp done
    obtain ⟨ordered, policy, size, count⟩ := ih (orderly.complete first) rest
    have := complete_inFlight first
    refine ⟨ordered, policy.trans (complete_policy first), size.trans (complete_size first), ?_⟩
    rw [processed_cons]
    omega

/-- Every task gains from the reports on it. -/
theorem gains_of_completeAll (orderly : s.Orderly) (done : s.completeAll rs = .ok s')
    (found : s.task? id = some t) :
    ∃ t', s'.task? id = some t' ∧ t.Gains s.policy (recordsOn rs id) t' := by
  induction rs generalizing s t with
  | nil =>
    cases done
    exact ⟨t, found, .refl _ t⟩
  | cons r rs ih =>
    obtain ⟨s₁, first, rest⟩ := completeAll_cons_eq_ok.mp done
    obtain ⟨u, there, here, fits, after⟩ := orderly.quota.complete_spec first
    have ordered := orderly.complete first
    rw [recordsOn_cons, ← complete_policy first]
    split
    · next same =>
      subst same
      obtain rfl := Option.some.inj (there.symm.trans found)
      obtain ⟨t', found', gains⟩ := ih ordered rest ((after _).trans (if_pos rfl))
      rw [← complete_policy first] at gains
      exact ⟨t', found', gains.cons fits here⟩
    · next apart =>
      exact ih ordered rest (((after _).trans (if_neg (Ne.symm apart))).trans found)

/-- Two schedulers differ in the average rates of tasks and in the order of their queues only. -/
structure Alike (s s' : Scheduler) : Prop where
  policy : s'.policy = s.policy
  size : s'.tasks.size = s.tasks.size
  inFlight : s'.inFlight = s.inFlight
  tasks : ∀ id t, s.task? id = some t → ∃ rate, s'.task? id = some (t.withRate rate)
  queue : ∀ id, id ∈ s'.queue ↔ id ∈ s.queue

/-- Reports that are taken in two orders lead to schedulers that are alike. -/
theorem alike_of_perm (orderly : s.Orderly) (done : s.completeAll rs = .ok s')
    (done' : s.completeAll rs' = .ok s'') (perm : rs.Perm rs') : s'.Alike s'' := by
  obtain ⟨ordered, policy, size, count⟩ := completeAll_frame orderly done
  obtain ⟨ordered', policy', size', count'⟩ := completeAll_frame orderly done'
  have same_task (id : TaskId) (t' : Task) (found' : s'.task? id = some t') :
      ∃ rate, s''.task? id = some (t'.withRate rate) := by
    obtain ⟨t, found⟩ : ∃ t, s.task? id = some t := by
      have inside := (Array.getElem?_eq_some_iff.mp found').1
      rw [size] at inside
      exact ⟨_, Array.getElem?_eq_getElem inside⟩
    obtain ⟨u', there', gains⟩ := gains_of_completeAll orderly done found
    obtain ⟨u'', there'', gains'⟩ := gains_of_completeAll orderly done' found
    obtain rfl := Option.some.inj (there'.symm.trans found')
    obtain ⟨rate, rfl⟩ := gains.perm gains' (perm.filter _)
    exact ⟨rate, there''⟩
  refine ⟨policy'.trans policy.symm, size'.trans size.symm, ?_, same_task, fun id => ?_⟩
  · have same : processed rs = processed rs' := (perm.map _).sum_eq
    rw [← UInt64.toNat_inj]
    omega
  · -- A queue is told by the marks of the tasks, and those are the same.
    cases found' : s'.task? id with
    | none =>
      have outside := Array.getElem?_eq_none_iff.mp found'
      have beyond : s''.task? id = none := by
        rw [task?, Array.getElem?_eq_none_iff]
        omega
      have unknown : ¬ ∃ t, s''.task? id = some t ∧ t.scheduled = true := by simp [beyond]
      have unknown' : ¬ ∃ t, s'.task? id = some t ∧ t.scheduled = true := by simp [found']
      exact iff_of_false (mt (ordered'.quota.mem_queue_iff id).mp unknown)
        (mt (ordered.quota.mem_queue_iff id).mp unknown')
    | some t' =>
      obtain ⟨rate, found''⟩ := same_task id t' found'
      rw [← ordered.quota.marked id t' found', ← ordered'.quota.marked id _ found'']
      rfl

/-! ### Schedulers that calls lead to -/

/-- The schedulers that calls lead to, those that are refused or fail included. -/
inductive Reachable (policy : ZeroQuotaPolicy) : Scheduler → Prop
  | empty : Reachable policy (empty policy)
  | call {s : Scheduler} (reached : Reachable policy s) (c : SchedulerCall) :
      Reachable policy (s.call c)

/-- Whatever calls lead to is in order. -/
theorem Reachable.orderly (reached : Reachable policy s) : s.Orderly := by
  induction reached with
  | empty => exact .empty policy
  | call _ c ih => exact ih.call c

/-- Reports are accepted in any order, or in none: exactly if they fit the tasks together. Every
task gains the same then, and the same tasks are queued. A report that is refused changes nothing,
neither for a scheduler on its own nor for that of a server. -/
theorem reports_in_any_order (reached : Reachable policy s) (rs : List TrialRecord) :
    ((∃ s', s.completeAll rs = .ok s') ↔ s.Takes rs) ∧
    (∀ s', s.completeAll rs = .ok s' →
      s'.inFlight.toNat + processed rs = s.inFlight.toNat ∧
      (∀ id t, s.task? id = some t →
        ∃ t', s'.task? id = some t' ∧ t.Gains s.policy (recordsOn rs id) t') ∧
      ∀ rs', rs.Perm rs' → ∃ s'', s.completeAll rs' = .ok s'' ∧ s'.Alike s'') ∧
    ∀ r fault, s.complete r = .error fault → s.call (.complete r) = s ∧
      ∀ (server : ServerState) (id : WorkerId), server.scheduler = s →
        (server.complete id r).1.scheduler = s := by
  have orderly := reached.orderly
  refine ⟨completeAll_iff_takes orderly, fun s' done => ?_, fun r fault refused => ?_⟩
  · obtain ⟨-, -, -, count⟩ := completeAll_frame orderly done
    refine ⟨count, fun id t found => gains_of_completeAll orderly done found, fun rs' perm => ?_⟩
    have takes := (completeAll_iff_takes orderly).mp ⟨s', done⟩
    obtain ⟨s'', done'⟩ := (completeAll_iff_takes orderly).mpr (takes.perm perm)
    exact ⟨s'', done', alike_of_perm orderly done done' perm⟩
  · constructor
    · simp [Scheduler.call, refused, Except.toOption]
    · rintro server id rfl
      unfold ServerState.complete
      split
      · rfl
      split
      · rfl
      dsimp only
      rw [refused]

/-- Two trials of a file are out. A report of one that was solved and a report of none that fixes
the shape are accepted in either order. -/
theorem reports_in_any_order_two :
    let s := [.addFile ⟨3, 10, "a"⟩, .grant 2].foldl Scheduler.call (empty .tryOnce)
    let solved : TrialRecord := ⟨0, 1, 5, ⟨0⟩, 1, 2, 3, 9, 4, 6, true⟩
    let other : TrialRecord := ⟨0, 1, 7, ⟨0⟩, 1, 2, 3, 8, 4, 6, false⟩
    Reachable .tryOnce s ∧ s.Takes [solved, other] ∧
      ∃ s' s'', s.completeAll [solved, other] = .ok s' ∧
        s.completeAll [other, solved] = .ok s'' ∧ s'.Alike s'' := by
  intro s solved other
  have reached : Reachable .tryOnce s :=
    .call (.call .empty (.addFile ⟨3, 10, "a"⟩)) (.grant 2)
  obtain ⟨accepted, gained, -⟩ := reports_in_any_order reached [solved, other]
  have done : ∃ s', s.completeAll [solved, other] = .ok s' := by
    have ok : (s.completeAll [solved, other]).isOk = true := by decide
    cases result : s.completeAll [solved, other] with
    | error fault => simp [result, Except.isOk, Except.toBool] at ok
    | ok s' => exact ⟨s', rfl⟩
  refine ⟨reached, accepted.mp done, ?_⟩
  obtain ⟨s', done⟩ := done
  obtain ⟨s'', done', alike⟩ := (gained s' done).2.2 [other, solved] (.swap ..)
  exact ⟨s', s'', done, done', alike⟩

end Scheduler

end TrialFarm
