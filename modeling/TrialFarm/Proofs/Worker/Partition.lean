import TrialFarm.Proofs.Worker.Ledger

/-!
# Where the trials of a worker are

Every trial that was granted to a worker is in exactly one place: it waits, runs, has ended, took
its thread down, or was given up. No event loses a trial or doubles one.

## Main definitions

* `JobLedger.Partition`: every granted trial is in one place.

## Main statements

* `Pool.startAt_spec`: the trial that starts waited before.
* `JobLedger.Partition.start`, `JobLedger.Partition.finish`, `JobLedger.Partition.die`: the threads
  keep it.
* `JobLedger.Partition.grant`, `JobLedger.Partition.stop`: so does the coordinator.
-/

namespace TrialFarm

/-- The job that a thread takes up leaves the queue and runs. -/
theorem Pool.startAt_spec {p p' : Pool} {i : Nat} {job : Job}
    (started : p.startAt i = some (job, p')) :
    (job :: p'.pending).Perm p.pending ∧ p'.running = p.running ++ [job] := by
  unfold Pool.startAt at started
  split at started
  · next free job' _ found =>
    simp only [Option.some.injEq, Prod.mk.injEq] at started
    obtain ⟨rfl, rfl⟩ := started
    obtain ⟨within, rfl⟩ := List.getElem?_eq_some_iff.mp found
    exact ⟨List.getElem_cons_eraseIdx_perm within, rfl⟩
  · cases started

namespace JobLedger

variable {l : JobLedger} {c c' : Coordinator}

/-- Every granted trial is in one place. -/
structure Partition (l : JobLedger) (c : Coordinator) : Prop where
  granted : (c.jobsOf l.grants).Perm (l.accepted ++ l.refused)
  accepted : l.accepted.Perm (l.started ++ (c.pool.pending ++ l.dropped))
  started : l.started.Perm (c.pool.running ++ (l.ended.map Ended.job ++ l.died))
  emptied : c.stage.isWorking = false → c.pool.pending = []

/-- Every trial stays in one place when a thread takes up a job. -/
theorem Partition.start (kept : l.Partition c) {i : Nat} {job : Job} {pool : Pool}
    (started : c.pool.startAt i = some (job, pool)) :
    Partition { l with started := l.started ++ [job] } { c with pool := pool } := by
  obtain ⟨taken, running⟩ := Pool.startAt_spec started
  have accepted := kept.accepted.trans ((taken.symm.append_right l.dropped).append_left l.started)
  refine ⟨kept.granted, by simpa using accepted, ?_, fun stops => ?_⟩
  · rw [running, List.perm_iff_count]
    intro other
    have := kept.started.count_eq other
    simp only [List.count_append] at *
    omega
  · rw [kept.emptied stops] at taken
    cases taken.length_eq

theorem Partition.finish (kept : l.Partition c) (t : Ended) (running : t.job ∈ c.pool.running) :
    Partition { l with ended := l.ended ++ [t] }
      { c with pool := c.pool.finish t.job false, results := c.results ++ [t.result] } := by
  refine ⟨kept.granted, kept.accepted, ?_, kept.emptied⟩
  have out := List.perm_cons_erase running
  rw [List.perm_iff_count] at out ⊢
  intro job
  have := out job
  have := kept.started.count_eq job
  simp only [List.count_append, List.count_cons, List.count_nil, List.map_append, List.map_cons,
    List.map_nil, Pool.finish] at *
  omega

theorem Partition.die (kept : l.Partition c) {job : Job} (running : job ∈ c.pool.running) :
    Partition { l with died := l.died ++ [job] } { c with pool := c.pool.finish job true } := by
  refine ⟨kept.granted, kept.accepted, ?_, kept.emptied⟩
  have out := List.perm_cons_erase running
  rw [List.perm_iff_count] at out ⊢
  intro other
  have := out other
  have := kept.started.count_eq other
  simp only [List.count_append, List.count_cons, List.count_nil, Pool.finish] at *
  omega

/-- The jobs that wait are dropped. -/
theorem Partition.stop (kept : l.Partition c) (settings : c'.settings = c.settings)
    (pool : c'.pool = { c.pool with pending := [] }) :
    Partition { l with dropped := l.dropped ++ c.pool.pending } c' := by
  have jobs : c'.jobsOf l.grants = c.jobsOf l.grants := by
    simp only [Coordinator.jobsOf, Coordinator.jobOf, settings]
  refine ⟨jobs ▸ kept.granted, ?_, by rw [pool]; exact kept.started, fun _ => by rw [pool]⟩
  rw [pool, List.nil_append]
  exact kept.accepted.trans (List.perm_append_comm.append_left l.started)

theorem Partition.grant (kept : l.Partition c) (working : c.stage.isWorking = true)
    (m : ServerMessage) : Partition (l.grant c m) (c.obey m) := by
  have stays : (c.obey m).stage.isWorking = true := by rw [c.obey_stage]; exact working
  have jobs (bs : List Batch) : (c.obey m).jobsOf bs = c.jobsOf bs := by
    obtain ⟨_, _, _, obeyed, -⟩ := c.obey_spec m
    rw [obeyed]
    rfl
  have both : c.jobsOf (l.grants ++ m.batches) = c.jobsOf l.grants ++ c.jobsOf m.batches :=
    List.flatMap_append
  unfold JobLedger.grant
  by_cases told : c.terminating = true
  · rw [if_pos told]
    refine ⟨?_, ?_, ?_, by simp [stays]⟩
    · rw [jobs, both, ← List.append_assoc]
      exact kept.granted.append_right _
    · rw [c.obey_eq, if_pos told]
      exact kept.accepted
    · rw [c.obey_eq, if_pos told]
      exact kept.started
  · rw [if_neg told]
    refine ⟨?_, ?_, ?_, by simp [stays]⟩
    · rw [jobs, both, List.append_assoc]
      refine (kept.granted.append_right _).trans ?_
      rw [List.append_assoc]
      exact List.perm_append_comm.append_left _
    · rw [c.obey_eq, if_neg told]
      refine (kept.accepted.append_right _).trans ?_
      simp only [Pool.submitAll, List.append_assoc]
      exact (List.perm_append_comm.append_left _).append_left _
    · rw [c.obey_eq, if_neg told]
      exact kept.started

/-- No more trials end than were accepted. -/
theorem Partition.ended_le (kept : l.Partition c) : l.ended.length ≤ l.accepted.length := by
  have accepted := kept.accepted.length_eq
  have started := kept.started.length_eq
  simp only [List.length_append, List.length_map] at accepted started
  omega

end JobLedger

end TrialFarm
