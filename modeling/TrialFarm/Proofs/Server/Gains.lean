import TrialFarm.Proofs.Server.Reports

/-!
# What reports add up to

A report that is accepted adds to the statistics of its task. What many reports add up to does not
depend on their order: sums, the number of solutions, the fewest flips, and the shape that the first
report with flips has fixed. Only the average rate does.

## Main definitions

* `Task.shape?`: the shape that is fixed.
* `Task.merged`: a task after a report.
* `Task.Gains`: what a task gains from reports.

## Main statements

* `Task.Gains.cons`: one report more.
* `Task.Gains.perm`: reports add up to the same in any order.
-/

namespace TrialFarm

/-! ### Shapes -/

/-- The numbers of variables and clauses in a report. -/
def TrialRecord.shape (r : TrialRecord) : UInt64 × UInt64 := (r.numVars, r.numClauses)

namespace Task

variable {t : Task} {r : TrialRecord}

/-- The numbers of variables and clauses, once a report has fixed them. -/
def shape? (t : Task) : Option (UInt64 × UInt64) :=
  if t.shapeKnown then some (t.statistics.numVars, t.statistics.numClauses) else none

/-- A record clashes with a task only by its shape, and only if trials of both were long enough to
tell. -/
theorem clashes_eq_false_iff :
    t.clashes r = false ↔ (0 < r.flips → ∀ shape, t.shape? = some shape → r.shape = shape) := by
  unfold clashes shape? TrialRecord.shape
  by_cases flips : 0 < r.flips
  · cases known : t.shapeKnown with
    | false => simp
    | true =>
      simp only [flips, decide_true, Bool.and_self, Bool.true_and, Bool.or_eq_false_iff,
        bne_eq_false_iff_eq, if_true, Option.some.injEq, forall_eq', Prod.mk.injEq, true_implies]
      exact and_congr eq_comm eq_comm
  · simp [flips]

/-- A report with flips fixes the shape, if it is not fixed already. -/
theorem shape?_reported (fits : t.clashes r = false) :
    (t.reported r).shape? = if 0 < r.flips then some r.shape else t.shape? := by
  have same := clashes_eq_false_iff.mp fits
  unfold shape? reported Scheduler.mergeRecord
  by_cases flips : 0 < r.flips
  · rw [if_pos flips]
    cases known : t.shapeKnown with
    | false => simp [flips, TrialRecord.shape]
    | true =>
      have agrees := same flips _ (by simp [shape?, known]; rfl)
      simp [← agrees]
  · simp [flips]

/-- The file goes back to the queue whenever trials of it come back. -/
def isRetried (policy : ZeroQuotaPolicy) (t : Task) : Bool :=
  t.file.startConfigs = 0 && policy = .retryForever

/-- A task after a report, marked if it is queued then. -/
def merged (policy : ZeroQuotaPolicy) (t : Task) (r : TrialRecord) : Task :=
  { t.reported r with scheduled := t.scheduled || t.isRetried policy }

/-- The first record with flips fixes the shape of its task. -/
theorem shape?_merged (policy : ZeroQuotaPolicy) (fits : t.clashes r = false) :
    (t.merged policy r).shape? = if 0 < r.flips then some r.shape else t.shape? :=
  shape?_reported fits

/-- A shape that is known is not forgotten. -/
theorem shape?_merged_of_known (policy : ZeroQuotaPolicy) (fits : t.clashes r = false)
    {shape : UInt64 × UInt64} (known : t.shape? = some shape) :
    (t.merged policy r).shape? = some shape := by
  rw [shape?_merged policy fits]
  split
  · next flips => rw [clashes_eq_false_iff.mp fits flips shape known]
  · exact known

/-- What a record brings back is no longer out. -/
theorem inFlight_merged (policy : ZeroQuotaPolicy) (enough : r.instancesProcessed ≤ t.inFlight) :
    (t.merged policy r).inFlight.toNat + r.instancesProcessed.toNat = t.inFlight.toNat := by
  have left : (t.inFlight - r.instancesProcessed).toNat = _ := UInt32.toNat_sub_of_le _ _ enough
  rw [UInt32.le_iff_toNat_le] at enough
  change (t.inFlight - r.instancesProcessed).toNat + _ = _
  omega

/-- The same task with another average rate. -/
def withRate (t : Task) (rate : Binary64) : Task :=
  { t with statistics := { t.statistics with avgFlipsPerSecond := rate } }

end Task

/-! ### Gains -/

/-- Reports on one task. -/
def recordsOn (rs : List TrialRecord) (id : TaskId) : List TrialRecord :=
  rs.filter fun r => r.taskId = id

/-- Trials that come back with reports. -/
def processed (rs : List TrialRecord) : Nat := (rs.map fun r => r.instancesProcessed.toNat).sum

/-- The records on a task, taken one by one. -/
theorem recordsOn_cons (r : TrialRecord) (rs : List TrialRecord) (id : TaskId) :
    recordsOn (r :: rs) id = if r.taskId = id then r :: recordsOn rs id else recordsOn rs id := by
  simp [recordsOn, List.filter_cons]

theorem processed_cons (r : TrialRecord) (rs : List TrialRecord) :
    processed (r :: rs) = r.instancesProcessed.toNat + processed rs := by
  simp [processed]

/-- The sum over all reports, modulo 2^64. -/
def total (f : TrialRecord → UInt64) : List TrialRecord → UInt64
  | [] => 0
  | r :: rs => f r + total f rs

@[simp] theorem total_nil (f : TrialRecord → UInt64) : total f [] = 0 := rfl

theorem add_total_cons (n : UInt64) (f : TrialRecord → UInt64) (r : TrialRecord)
    (rs : List TrialRecord) : n + total f (r :: rs) = n + f r + total f rs := by
  rw [total, ← UInt64.add_assoc]

/-- A sum does not depend on the order. -/
theorem total_perm (f : TrialRecord → UInt64) {rs rs' : List TrialRecord} (perm : rs.Perm rs') :
    total f rs = total f rs' := by
  induction perm with
  | nil => rfl
  | cons r _ ih => rw [total, total, ih]
  | swap r r' rs =>
    simp only [total]
    rw [← UInt64.add_assoc, ← UInt64.add_assoc, UInt64.add_comm (f r)]
  | trans _ _ ih ih' => exact ih.trans ih'

/-- What a task gains from reports on it. -/
structure Task.Gains (policy : ZeroQuotaPolicy) (t : Task) (rs : List TrialRecord) (t' : Task) :
    Prop where
  file : t'.file = t.file
  inFlight : t'.inFlight.toNat + processed rs = t.inFlight.toNat
  scheduled : t'.scheduled = (t.scheduled || !rs.isEmpty && t.isRetried policy)
  started : t'.statistics.instancesStarted =
    t.statistics.instancesStarted + total (fun r => r.instancesProcessed.toUInt64) rs
  flips : t'.statistics.totalFlips = t.statistics.totalFlips + total TrialRecord.flips rs
  init : t'.statistics.initMicros = t.statistics.initMicros + total TrialRecord.initMicros rs
  solve : t'.statistics.solveMicros = t.statistics.solveMicros + total TrialRecord.solveMicros rs
  overall : t'.statistics.overallMicros =
    t.statistics.overallMicros + total TrialRecord.overallMicros rs
  solved : t'.statistics.timesSolved =
    t.statistics.timesSolved + UInt64.ofNat (rs.countP fun r => r.solved)
  fewest : t'.statistics.minFlipsToSolve =
    ((rs.filter fun r => r.solved).map fun r => r.flips).foldl min t.statistics.minFlipsToSolve
  shape : ∀ r ∈ rs, 0 < r.flips → t'.shape? = some r.shape
  kept : ∀ shape, t.shape? = some shape → t'.shape? = some shape
  unshaped : (∀ r ∈ rs, r.flips = 0) → t'.shapeKnown = t.shapeKnown ∧
    t'.statistics.numVars = t.statistics.numVars ∧
    t'.statistics.numClauses = t.statistics.numClauses

namespace Task

variable {policy : ZeroQuotaPolicy} {t t' t'' : Task} {r : TrialRecord} {rs rs' : List TrialRecord}

/-- Without records nothing is gained. -/
theorem Gains.refl (policy : ZeroQuotaPolicy) (t : Task) : t.Gains policy [] t where
  file := rfl
  inFlight := rfl
  scheduled := by simp
  started := by simp
  flips := by simp
  init := by simp
  solve := by simp
  overall := by simp
  solved := by simp
  fewest := rfl
  shape := nofun
  kept _ known := known
  unshaped _ := ⟨rfl, rfl, rfl⟩

/-- One record more. -/
theorem Gains.cons (fits : t.clashes r = false) (enough : r.instancesProcessed ≤ t.inFlight)
    (gains : (t.merged policy r).Gains policy rs t') : t.Gains policy (r :: rs) t' where
  file := gains.file
  inFlight := by
    have rest := gains.inFlight
    have first := inFlight_merged policy enough
    rw [processed_cons]
    omega
  scheduled := by
    rw [gains.scheduled]
    change ((t.scheduled || t.isRetried policy) || !rs.isEmpty && t.isRetried policy) = _
    cases t.isRetried policy <;> simp
  started := by
    rw [gains.started, add_total_cons]
    rfl
  flips := by
    rw [gains.flips, add_total_cons]
    rfl
  init := by
    rw [gains.init, add_total_cons]
    rfl
  solve := by
    rw [gains.solve, add_total_cons]
    rfl
  overall := by
    rw [gains.overall, add_total_cons]
    rfl
  solved := by
    rw [gains.solved, List.countP_cons]
    change (if r.solved = true then t.statistics.timesSolved + 1
      else t.statistics.timesSolved) + _ = _
    cases r.solved with
    | false => simp
    | true => simp [UInt64.ofNat_add, UInt64.add_assoc, UInt64.add_comm 1]
  fewest := by
    rw [gains.fewest, List.filter_cons]
    change List.foldl min (if r.solved = true then min _ _ else _) _ = _
    cases r.solved with
    | false => rfl
    | true => rfl
  shape := by
    intro r' member flips
    rcases List.mem_cons.mp member with rfl | later
    · exact gains.kept _ ((shape?_merged policy fits).trans (if_pos flips))
    · exact gains.shape r' later flips
  kept shape known := gains.kept shape (shape?_merged_of_known policy fits known)
  unshaped := by
    intro none
    have first := none r (List.mem_cons_self ..)
    have rest := gains.unshaped fun r' later => none r' (List.mem_cons_of_mem _ later)
    simpa [merged, reported, Scheduler.mergeRecord, first] using rest

/-- The shape that a task ends with does not depend on the order. -/
theorem Gains.shape_perm (gains : t.Gains policy rs t') (others : t.Gains policy rs' t'')
    (perm : rs.Perm rs') : t''.shapeKnown = t'.shapeKnown ∧
      t''.statistics.numVars = t'.statistics.numVars ∧
      t''.statistics.numClauses = t'.statistics.numClauses := by
  -- Either some report fixes the shape, in both orders the same, or none does.
  by_cases fixes : ∃ r ∈ rs, 0 < r.flips
  · obtain ⟨r, member, flips⟩ := fixes
    have here := gains.shape r member flips
    have there := others.shape r (perm.mem_iff.mp member) flips
    have known {u : Task} (fixed : u.shape? = some r.shape) : u.shapeKnown = true ∧
        u.statistics.numVars = r.numVars ∧ u.statistics.numClauses = r.numClauses := by
      simpa [shape?, TrialRecord.shape] using fixed
    obtain ⟨known', vars', clauses'⟩ := known here
    obtain ⟨known'', vars'', clauses''⟩ := known there
    exact ⟨known''.trans known'.symm, vars''.trans vars'.symm, clauses''.trans clauses'.symm⟩
  · have none : ∀ r ∈ rs, r.flips = 0 := by simpa [UInt64.pos_iff_ne_zero] using fixes
    obtain ⟨known', vars', clauses'⟩ := gains.unshaped none
    obtain ⟨known'', vars'', clauses''⟩ :=
      others.unshaped fun r member => none r (perm.mem_iff.mpr member)
    exact ⟨known''.trans known'.symm, vars''.trans vars'.symm, clauses''.trans clauses'.symm⟩

/-- What a task gains does not depend on the order, but for the average rate. -/
theorem Gains.perm (gains : t.Gains policy rs t') (others : t.Gains policy rs' t'')
    (perm : rs.Perm rs') : ∃ rate, t'' = t'.withRate rate := by
  have file : t''.file = t'.file := others.file.trans gains.file.symm
  have inFlight : t''.inFlight = t'.inFlight := by
    have same : processed rs = processed rs' := (perm.map _).sum_eq
    have := gains.inFlight
    have := others.inFlight
    rw [← UInt32.toNat_inj]
    omega
  have scheduled : t''.scheduled = t'.scheduled := by
    rw [others.scheduled, gains.scheduled, perm.isEmpty_eq]
  have started : t''.statistics.instancesStarted = t'.statistics.instancesStarted := by
    rw [others.started, gains.started, total_perm _ perm]
  have flips : t''.statistics.totalFlips = t'.statistics.totalFlips := by
    rw [others.flips, gains.flips, total_perm _ perm]
  have init : t''.statistics.initMicros = t'.statistics.initMicros := by
    rw [others.init, gains.init, total_perm _ perm]
  have solve : t''.statistics.solveMicros = t'.statistics.solveMicros := by
    rw [others.solve, gains.solve, total_perm _ perm]
  have overall : t''.statistics.overallMicros = t'.statistics.overallMicros := by
    rw [others.overall, gains.overall, total_perm _ perm]
  have solved : t''.statistics.timesSolved = t'.statistics.timesSolved := by
    rw [others.solved, gains.solved, perm.countP_eq]
  have fewest : t''.statistics.minFlipsToSolve = t'.statistics.minFlipsToSolve := by
    rw [others.fewest, gains.fewest]
    exact (((perm.filter _).map _).foldl_eq _).symm
  obtain ⟨known, vars, clauses⟩ := gains.shape_perm others perm
  refine ⟨t''.statistics.avgFlipsPerSecond, ?_⟩
  obtain ⟨_, ⟨⟩, _, _, _⟩ := t''
  simp_all [withRate]

end Task

end TrialFarm
