import TrialFarm.Proofs.Server.Merging
import TrialFarm.Proofs.Server.Exhaustion
import TrialFarm.Proofs.Server.Runs
import TrialFarm.Proofs.Server.Statistics

/-!
# Results and the reports behind them

The results of a task are its reports, merged in the order in which they came. A report may be about
no trials at all: it is accepted from every worker that holds trials of the task, and then
everything but the average rate is merged all the same. So results can have solutions and flips
without any trial, and the short report leaves them out. As long as reports about no trials say
nothing, the results are in accord with the number of trials.

## Main definitions

* `ServerState.reports`: the reports that events bring.
* `mergeAll`: reports merged in order.
* `Scheduler.Reflects`: the results of all tasks are the reports on them.
* `TrialRecord.Blank`: a report that says nothing.

## Main statements

* `ServerState.reflects_run`: the results of all tasks are the reports on them, in every run.
* `timesSolved_mergeAll_le`: there are no more solutions than trials and reports about none.
* `statistics_of_sized`: results without trials are empty, if reports about no trials are.
-/

namespace TrialFarm

open Scheduler

/-! ### Merged reports -/

/-- Results, and whether their shape is fixed, with one report more. -/
def mergeInto (results : Statistics × Bool) (r : TrialRecord) : Statistics × Bool :=
  (mergeRecord results.1 results.2 r, results.2 || 0 < r.flips)

/-- All reports merged in order. -/
def mergeAll (rs : List TrialRecord) : Statistics × Bool :=
  rs.foldl mergeInto (Statistics.empty, false)

/-- A report that says nothing. -/
structure TrialRecord.Blank (r : TrialRecord) : Prop where
  flips : r.flips = 0
  init : r.initMicros = 0
  solve : r.solveMicros = 0
  overall : r.overallMicros = 0
  unsolved : r.solved = false

section Merging

variable {r : TrialRecord} {rs : List TrialRecord} {results : Statistics × Bool}

/-- Trials are counted modulo the size of their word. -/
theorem instancesStarted_foldl (rs : List TrialRecord) (results : Statistics × Bool) :
    (rs.foldl mergeInto results).1.instancesStarted.toNat =
      (results.1.instancesStarted.toNat + processed rs) % 2 ^ 64 := by
  induction rs generalizing results with
  | nil => exact (Nat.mod_eq_of_lt results.1.instancesStarted.toNat_lt).symm
  | cons r rs ih =>
    have first : (mergeInto results r).1.instancesStarted.toNat =
        (results.1.instancesStarted.toNat + r.instancesProcessed.toNat) % 2 ^ 64 := by
      change (results.1.instancesStarted + r.instancesProcessed.toUInt64).toNat = _
      rw [UInt64.toNat_add, UInt32.toNat_toUInt64]
    rw [List.foldl_cons, ih, first, processed_cons, Nat.mod_add_mod, Nat.add_assoc]

/-- Merging records counts no more solutions than there are among them. -/
theorem timesSolved_foldl_le (rs : List TrialRecord) (results : Statistics × Bool) :
    (rs.foldl mergeInto results).1.timesSolved.toNat ≤
      results.1.timesSolved.toNat + rs.countP fun r => r.solved := by
  induction rs generalizing results with
  | nil => exact Nat.le_refl _
  | cons r rs ih =>
    have first : (mergeInto results r).1.timesSolved.toNat ≤
        results.1.timesSolved.toNat + if r.solved = true then 1 else 0 := by
      change (if r.solved = true then results.1.timesSolved + 1
        else results.1.timesSolved).toNat ≤ _
      split
      · rw [UInt64.toNat_add]
        exact Nat.mod_le _ _
      · exact Nat.le_refl _
    have rest := ih (mergeInto results r)
    rw [List.foldl_cons, List.countP_cons]
    omega

/-- Each report of a solution is about a trial, or about none. -/
theorem countP_solved_le (rs : List TrialRecord) :
    rs.countP (fun r => r.solved) ≤
      processed rs + rs.countP fun r => r.instancesProcessed = 0 && r.solved := by
  induction rs with
  | nil => exact Nat.zero_le _
  | cons r rs ih =>
    rw [List.countP_cons, List.countP_cons, processed_cons]
    have size : r.instancesProcessed = 0 ∨ 0 < r.instancesProcessed.toNat := by
      rw [← UInt32.toNat_inj, UInt32.toNat_zero]
      omega
    rcases size with none | some
    · simp only [none, decide_true, Bool.true_and]
      omega
    · split <;> omega

/-- There are no more solutions than trials and solutions that were reported about no trial. -/
theorem timesSolved_mergeAll_le (fits : processed rs < 2 ^ 64) :
    (mergeAll rs).1.timesSolved.toNat ≤ (mergeAll rs).1.instancesStarted.toNat +
      rs.countP fun r => r.instancesProcessed = 0 && r.solved := by
  have solved := timesSolved_foldl_le rs (Statistics.empty, false)
  have started := instancesStarted_foldl rs (Statistics.empty, false)
  have counted := countP_solved_le rs
  change (mergeAll rs).1.timesSolved.toNat ≤ 0 + _ at solved
  change (mergeAll rs).1.instancesStarted.toNat = (0 + _) % _ at started
  rw [Nat.zero_add, Nat.mod_eq_of_lt fits] at started
  omega

/-- A report about no trials that says nothing does not change empty results. -/
theorem mergeInto_blank (none : r.instancesProcessed = 0) (blank : r.Blank) :
    mergeInto (Statistics.empty, false) r = (Statistics.empty, false) := by
  simp [mergeInto, mergeRecord, mergeRate, Statistics.empty, none, blank.flips, blank.init,
    blank.solve, blank.overall, blank.unsolved]

/-- Reports about no trials that say nothing come to nothing. -/
theorem mergeAll_blank (blank : ∀ r ∈ rs, r.instancesProcessed = 0 ∧ r.Blank) :
    mergeAll rs = (Statistics.empty, false) := by
  unfold mergeAll
  induction rs with
  | nil => rfl
  | cons r rs ih =>
    obtain ⟨none, silent⟩ := blank r (List.mem_cons_self ..)
    rw [List.foldl_cons, mergeInto_blank none silent]
    exact ih fun r' later => blank r' (List.mem_cons_of_mem _ later)

/-- Reports that add up to no trials are all about none. -/
theorem processed_eq_zero_iff : processed rs = 0 ↔ ∀ r ∈ rs, r.instancesProcessed = 0 := by
  unfold processed
  rw [List.sum_eq_zero_iff]
  simp [← UInt32.toNat_inj]

/-- If reports about no trials say nothing, there are no more solutions than trials, and results
without trials are empty. -/
theorem mergeAll_of_sized (fits : processed rs < 2 ^ 64)
    (sized : ∀ r ∈ rs, r.instancesProcessed = 0 → r.Blank) :
    (mergeAll rs).1.timesSolved ≤ (mergeAll rs).1.instancesStarted ∧
      ((mergeAll rs).1.instancesStarted = 0 → (mergeAll rs).1 = Statistics.empty) := by
  constructor
  · have solved := timesSolved_mergeAll_le fits
    have empty : rs.countP (fun r => r.instancesProcessed = 0 && r.solved) = 0 := by
      rw [List.countP_eq_zero]
      intro r member
      simp only [Bool.and_eq_true, decide_eq_true_eq, not_and, Bool.not_eq_true]
      exact fun none => (sized r member none).unsolved
    rw [empty] at solved
    exact UInt64.le_iff_toNat_le.mpr solved
  · intro none
    have started := instancesStarted_foldl rs (Statistics.empty, false)
    change (mergeAll rs).1.instancesStarted.toNat = (0 + _) % _ at started
    rw [none, Nat.zero_add, Nat.mod_eq_of_lt fits] at started
    have sizes := processed_eq_zero_iff.mp started.symm
    rw [mergeAll_blank fun r member => ⟨sizes r member, sized r member (sizes r member)⟩]

end Merging

/-! ### Schedulers -/

namespace Scheduler

/-- The results of every task are the reports on it, merged in order. Those of a file with a bound
are counted exactly. -/
structure Reflects (s : Scheduler) (rs : List TrialRecord) : Prop where
  known : ∀ r ∈ rs, r.taskId.toNat < s.tasks.size
  merged : ∀ id t, s.task? id = some t → (t.statistics, t.shapeKnown) = mergeAll (recordsOn rs id)
  counted : ∀ id t, s.task? id = some t → t.file.startConfigs ≠ 0 →
    processed (recordsOn rs id) = t.statistics.instancesStarted.toNat

variable {s s' : Scheduler} {rs : List TrialRecord}

theorem Reflects.empty (policy : ZeroQuotaPolicy) : (empty policy).Reflects [] where
  known := nofun
  merged id t found := by simp [Scheduler.empty, task?] at found
  counted id t found := by simp [Scheduler.empty, task?] at found

/-- What changes no results and no files keeps the reports behind them. -/
theorem Reflects.of_tasks (reflects : s.Reflects rs) (size : s'.tasks.size = s.tasks.size)
    (same : ∀ id t, s.task? id = some t → ∃ t', s'.task? id = some t' ∧ t'.file = t.file ∧
      t'.statistics = t.statistics ∧ t'.shapeKnown = t.shapeKnown) : s'.Reflects rs := by
  have before (id : TaskId) (t' : Task) (found' : s'.task? id = some t') :
      ∃ t, s.task? id = some t ∧ t'.file = t.file ∧ t'.statistics = t.statistics ∧
        t'.shapeKnown = t.shapeKnown := by
    have inside := (Array.getElem?_eq_some_iff.mp found').1
    rw [size] at inside
    have found : s.task? id = some s.tasks[id.toNat] := Array.getElem?_eq_getElem inside
    obtain ⟨u, there, file, statistics, shape⟩ := same id _ found
    obtain rfl := Option.some.inj (there.symm.trans found')
    exact ⟨_, found, file, statistics, shape⟩
  refine ⟨fun r member => size ▸ reflects.known r member, fun id t' found' => ?_,
    fun id t' found' bounded => ?_⟩
  · obtain ⟨t, found, -, statistics, shape⟩ := before id t' found'
    rw [statistics, shape]
    exact reflects.merged id t found
  · obtain ⟨t, found, file, statistics, -⟩ := before id t' found'
    rw [statistics]
    exact reflects.counted id t found (file ▸ bounded)

/-- A new file has no reports. -/
theorem Reflects.addFile {file : TaskFile} {id : TaskId} (reflects : s.Reflects rs)
    (added : s.addFile file = .ok (id, s')) : s'.Reflects rs := by
  obtain ⟨few, -, -, rfl⟩ := addFile_eq_ok added
  -- Nothing was reported on the new task yet, whose number is that of the tasks before.
  have cases_of (other : TaskId) (t : Task)
      (found : (s.tasks.push (Task.ofFile file))[other.toNat]? = some t) :
      (recordsOn rs other = [] ∧ t = Task.ofFile file) ∨ s.task? other = some t := by
    rw [Array.getElem?_push] at found
    split at found
    · next last =>
      refine .inl ⟨List.filter_eq_nil_iff.mpr fun r member same => ?_, (Option.some.inj found).symm⟩
      have inside := reflects.known r member
      rw [of_decide_eq_true same, last] at inside
      exact Nat.lt_irrefl _ inside
    · exact .inr found
  refine ⟨fun r member => ?_, fun other t found => ?_, fun other t found bounded => ?_⟩
  · rw [Array.size_push]
    exact Nat.lt_succ_of_lt (reflects.known r member)
  · rcases cases_of other t found with ⟨none, rfl⟩ | before
    · rw [none]
      rfl
    · exact reflects.merged other t before
  · rcases cases_of other t found with ⟨none, rfl⟩ | before
    · rw [none]
      rfl
    · exact reflects.counted other t before bounded

/-- A grant leaves all results as they are, -/
theorem Reflects.granted {requested : UInt32} {bs : List Batch} (reflects : s.Reflects rs)
    (granted : s.Granted s' requested bs) : s'.Reflects rs := by
  refine reflects.of_tasks granted.size fun id t found => ?_
  obtain ⟨scheduled, later⟩ := granted.tasks id t found
  exact ⟨_, later, rfl, rfl, rfl⟩

/-- and so does the return of trials. -/
theorem Reflects.release {id : TaskId} {count : UInt32} (reflects : s.Reflects rs)
    (done : s.release id count = .ok s') : s'.Reflects rs :=
  reflects.of_tasks (release_frame done).2 fun _ _ found => release_task? done found

/-- One more report is on one task only. -/
theorem recordsOn_concat (rs : List TrialRecord) (r : TrialRecord) (id : TaskId) :
    recordsOn (rs ++ [r]) id =
      if id = r.taskId then recordsOn rs id ++ [r] else recordsOn rs id := by
  unfold recordsOn
  rw [List.filter_append, List.filter_singleton]
  by_cases same : id = r.taskId
  · simp [same]
  · simp [same, Ne.symm same]

/-- A report that is taken is merged into the results of its task. -/
theorem Reflects.complete {r : TrialRecord} (reflects : s.Reflects rs)
    (quota : Quota s.tasks s.queue) (done : s.complete r = .ok s') : s'.Reflects (rs ++ [r]) := by
  have size := complete_size done
  obtain ⟨t, found, enough, -, after⟩ := quota.complete_spec done
  refine ⟨fun r' member => ?_, fun id t' found' => ?_, fun id t' found' bounded => ?_⟩
  · rw [size]
    rcases List.mem_append.mp member with before | last
    · exact reflects.known r' before
    · rw [List.mem_singleton.mp last]
      exact (Array.getElem?_eq_some_iff.mp found).1
  · rw [after] at found'
    rw [recordsOn_concat]
    split at found'
    · next same =>
      obtain rfl := Option.some.inj found'
      have merged := reflects.merged _ t (same ▸ found)
      rw [if_pos same, mergeAll, List.foldl_concat, ← mergeAll, ← merged]
      rfl
    · next apart =>
      rw [if_neg apart]
      exact reflects.merged id t' found'
  · rw [after] at found'
    rw [recordsOn_concat]
    split at found'
    · next same =>
      obtain rfl := Option.some.inj found'
      -- The quota bounds what was started, so the count does not run over.
      have counted := reflects.counted _ t (same ▸ found) bounded
      have within := quota.within _ t found bounded
      have taken := UInt32.le_iff_toNat_le.mp enough
      have bound := t.file.startConfigs.toNat_lt
      unfold Task.covered at within
      rw [if_pos same]
      change _ = (t.statistics.instancesStarted + r.instancesProcessed.toUInt64).toNat
      rw [UInt64.toNat_add, UInt32.toNat_toUInt64, ← counted, Nat.mod_eq_of_lt (by omega)]
      simp [processed]
    · next apart =>
      rw [if_neg apart]
      exact reflects.counted id t' found' bounded

end Scheduler

/-! ### Servers -/

namespace ServerState

/-- The report that an event brings. One of a worker that has left is passed over. -/
def reportIn (s : ServerState) : StateEvent → List TrialRecord
  | .said id (.doneProcessing r) => if s.roster.contains id then [r] else []
  | .said _ (.getInstances _) | .said _ (.foundSolution _) | .said _ .disconnect => []
  | .joined | .submitted _ | .terminated | .lost _ => []

/-- The reports that events bring, in order. -/
def reports (s : ServerState) : List StateEvent → List TrialRecord
  | [] => []
  | e :: events => s.reportIn e ++ (s.apply e).1.reports events

variable {s s' s₁ : ServerState} {e : StateEvent} {events : List StateEvent}
  {rs : List TrialRecord}

/-- A worker that has left reports nothing. -/
theorem reportIn_of_gone {id : WorkerId} (gone : s.roster.find? id = none) (m : WorkerMessage) :
    s.reportIn (.said id m) = [] := by
  cases m with
  | doneProcessing r => simp [reportIn, Roster.contains, gone]
  | getInstances | foundSolution | disconnect => rfl

/-- An event changes results by the report that it brings. -/
theorem Core.reflects (core : s.Core e s₁) (quota : Quota s.scheduler.tasks s.scheduler.queue)
    (reflects : s.scheduler.Reflects rs) : s₁.scheduler.Reflects (rs ++ s.reportIn e) := by
  cases core with
  | submit running added =>
    rw [reportIn, List.append_nil]
    exact reflects.addFile added
  | grant done =>
    rw [reportIn, List.append_nil]
    exact reflects.granted (granted_of_grant done)
  | @complete id r s₁ done =>
    obtain ⟨w, w', scheduler, found, -, completed, rfl⟩ := complete_eq_ok done
    rw [reportIn, if_pos (Roster.contains_iff.mpr ⟨w, found⟩)]
    exact reflects.complete quota completed
  | @leave id s₁ w found removed | @lose id s₁ w found removed =>
    obtain ⟨scheduler, released, rfl⟩ := removeWorker_eq_ok found removed
    have kept := releaseAll_induction (motive := fun s => s.Reflects rs)
      (fun _ _ _ _ reflects done => reflects.release done) w.outstanding s.scheduler reflects
    rw [released] at kept
    rw [reportIn, List.append_nil]
    exact kept
  | ignore gone =>
    rw [reportIn_of_gone gone, List.append_nil]
    exact reflects
  | join | refuse | terminate | solve | miss =>
    rw [reportIn, List.append_nil]
    exact reflects

/-- Every event keeps the quotas, also one that fails. -/
theorem quota_apply (quota : Quota s.scheduler.tasks s.scheduler.queue) (e : StateEvent) :
    Quota (s.apply e).1.scheduler.tasks (s.apply e).1.scheduler.queue := by
  rw [scheduler_apply]
  exact quota.calls _

/-- The results of all tasks are the reports that the events of the run brought. -/
theorem reflects_run (quota : Quota s.scheduler.tasks s.scheduler.queue)
    (reflects : s.scheduler.Reflects rs) (ran : s.run events = some s') :
    s'.scheduler.Reflects (rs ++ s.reports events) := by
  induction events generalizing s rs with
  | nil =>
    obtain rfl := Option.some.inj ran
    rw [reports, List.append_nil]
    exact reflects
  | cons e events ih =>
    obtain ⟨s₁, done, ran⟩ := run_cons_eq_some.mp ran
    obtain ⟨s₂, core, said⟩ := apply_eq_ok done
    have after := quota_apply quota e
    have merged := core.reflects quota reflects
    rw [done] at after
    rw [← said.scheduler] at merged
    rw [reports, done, ← List.append_assoc]
    exact ih after merged ran

end ServerState

/-- If reports about no trials say nothing, results are in accord with the number of trials: no more
trials were solved than were run, results without trials are empty, and so the short report leaves
out empty results only. This holds for every task in all runs; of a file without a bound fewer than
2^64 trials have to be reported. -/
theorem statistics_of_sized (c : ServerConfig) (events : List StateEvent) (s : ServerState)
    (ran : (ServerState.start c).run events = some s) (id : TaskId) (t : Task)
    (found : s.scheduler.task? id = some t)
    (sized : ∀ r ∈ recordsOn ((ServerState.start c).reports events) id,
      r.instancesProcessed = 0 → r.Blank)
    (fits : t.file.startConfigs = 0 →
      processed (recordsOn ((ServerState.start c).reports events) id) < 2 ^ 64) :
    t.statistics.timesSolved ≤ t.statistics.instancesStarted ∧
      (t.statistics.instancesStarted = 0 → t.statistics = Statistics.empty) ∧
      ((t.file, t.statistics) ∉ s.scheduler.report true → t.statistics = Statistics.empty) := by
  have reflects := ServerState.reflects_run Quota.empty (Reflects.empty c.zeroQuotaPolicy) ran
  rw [List.nil_append] at reflects
  have merged := congrArg Prod.fst (reflects.merged id t found)
  have few : processed (recordsOn ((ServerState.start c).reports events) id) < 2 ^ 64 := by
    by_cases bounded : t.file.startConfigs = 0
    · exact fits bounded
    · rw [reflects.counted id t found bounded]
      exact t.statistics.instancesStarted.toNat_lt
  obtain ⟨solved, empty⟩ := mergeAll_of_sized few sized
  rw [← merged] at solved empty
  refine ⟨solved, empty, fun left => empty ?_⟩
  by_contra some
  refine left (List.mem_map.mpr ⟨t, List.mem_filter.mpr ⟨?_, ?_⟩, rfl⟩)
  · exact Array.mem_toList_iff.mpr (Array.mem_of_getElem? found)
  · simpa [UInt64.pos_iff_ne_zero] using some

/-- A worker that holds a trial reports first, about no trials, that nothing happened, and then the
trial, which found a solution. -/
def blankReport : List StateEvent :=
  [.joined, .submitted ⟨1, 10, "a.cnf"⟩, .said 0 (.getInstances 1),
    .said 0 (.doneProcessing default),
    .said 0 (.doneProcessing { (default : TrialRecord) with
      instancesProcessed := 1, flips := 5, numVars := 3, numClauses := 4, solved := true })]

/-- A report about no trials that says nothing does no harm. -/
theorem statistics_of_sized_blankReport :
    ∃ s t, (ServerState.start ServerConfig.standard).run blankReport = some s ∧
      s.scheduler.task? 0 = some t ∧ t.statistics.timesSolved = 1 ∧
      t.statistics.timesSolved ≤ t.statistics.instancesStarted := by
  have facts : ((ServerState.start ServerConfig.standard).run blankReport).map (fun s =>
      (s.scheduler.task? 0).map fun t => (t.file.startConfigs, t.statistics.timesSolved)) =
      some (some (1, 1)) := by
    decide +kernel
  obtain ⟨s, ran, facts⟩ := Option.map_eq_some_iff.mp facts
  obtain ⟨t, found, facts⟩ := Option.map_eq_some_iff.mp facts
  obtain ⟨bounded, solved⟩ := Prod.mk.inj facts
  obtain ⟨fewer, -, -⟩ := statistics_of_sized ServerConfig.standard blankReport s ran 0 t found
    (by
      intro r member none
      have reports : recordsOn ((ServerState.start ServerConfig.standard).reports blankReport) 0 =
          [default, { (default : TrialRecord) with
            instancesProcessed := 1, flips := 5, numVars := 3, numClauses := 4,
            solved := true }] := by
        decide +kernel
      rw [reports] at member
      simp only [List.mem_cons, List.not_mem_nil, or_false] at member
      rcases member with rfl | rfl
      · exact ⟨rfl, rfl, rfl, rfl, rfl⟩
      · cases none)
    (by rw [bounded]; nofun)
  exact ⟨s, t, ran, found, solved, fewer⟩

/-- A worker that holds a trial reports a solution and flips, but about no trials, and goes away. -/
def emptyReport : List StateEvent :=
  [.joined, .submitted ⟨1, 10, "a.cnf"⟩, .said 0 (.getInstances 1),
    .said 0 (.doneProcessing { (default : TrialRecord) with
      flips := 5, numVars := 3, numClauses := 4, solved := true }),
    .terminated, .lost 0]

/-- The report is accepted: there is a solution without a trial, and the short report, which is sent
at the end, leaves it out. -/
theorem solved_without_trial :
    ∃ s t, (ServerState.start ServerConfig.standard).run emptyReport = some s ∧
      s.scheduler.task? 0 = some t ∧ t.statistics.instancesStarted = 0 ∧
      t.statistics.timesSolved = 1 ∧ t.statistics.totalFlips = 5 ∧
      s.phase = .stopped ∧ statisticsIn s.outbound = [] := by
  have facts : ((ServerState.start ServerConfig.standard).run emptyReport).map (fun s =>
      ((s.scheduler.task? 0).map fun t => (t.statistics.instancesStarted, t.statistics.timesSolved,
        t.statistics.totalFlips), s.phase, statisticsIn s.outbound)) =
      some (some (0, 1, 5), .stopped, []) := by
    decide +kernel
  obtain ⟨s, ran, facts⟩ := Option.map_eq_some_iff.mp facts
  obtain ⟨task, phase, sent⟩ := Prod.mk.inj facts |>.imp_right Prod.mk.inj
  obtain ⟨t, found, values⟩ := Option.map_eq_some_iff.mp task
  simp only [Prod.mk.injEq] at values
  exact ⟨s, t, ran, found, values.1, values.2.1, values.2.2, phase, sent⟩

end TrialFarm
