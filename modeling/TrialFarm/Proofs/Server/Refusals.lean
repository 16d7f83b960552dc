import TrialFarm.Proofs.Server.Conservation

/-!
# Refused messages

A message of a worker that uncovers an inconsistency ends the run, so nothing is done to take back
what it has changed. There is little to take back: only reports are refused, and all that is left of
one is that the sender's trials were struck out, if the shape was wrong. A request that would run
over a count is not refused but a crash.

## Main statements

* `ServerState.complete_eq_error`: what a refused report has changed.
* `ServerState.Balanced.clashes_of_refused`: in balance the scheduler only refuses shapes.
* `refused_message`: both for all messages in all runs.
-/

namespace TrialFarm

namespace ServerState

variable {s s' : ServerState} {id : WorkerId} {w w' : Worker} {r : TrialRecord} {e : Error}

/-- A refused report has changed nothing if the worker has too few trials. Otherwise they are struck
out at the worker. -/
theorem complete_eq_error (found : s.roster.find? id = some w)
    (refused : s.complete id r = (s', .error e)) :
    s' = s ∨ ∃ w' fault, w.settle r.taskId r.instancesProcessed = .ok w' ∧
      s.scheduler.complete r = .error fault ∧ e = fault.toError ∧
      s' = { s with roster := s.roster.modify id fun _ => w' } := by
  unfold complete at refused
  rw [found] at refused
  dsimp only at refused
  split at refused
  · exact .inl (Prod.mk.inj refused).1.symm
  · next w' settled =>
    split at refused
    · next fault failed =>
      obtain ⟨same, error⟩ := Prod.mk.inj refused
      exact .inr ⟨w', fault, settled, failed, (Except.error.inj error).symm, same.symm⟩
    · cases (Prod.mk.inj refused).2

/-- In balance the trials of a worker are out, so the scheduler refuses a report of them only if its
shape is wrong. -/
theorem Balanced.clashes_of_refused (balanced : s.Balanced) (found : s.roster.find? id = some w)
    (settled : w.settle r.taskId r.instancesProcessed = .ok w') {fault : SchedulerFault}
    (refused : s.scheduler.complete r = .error fault) :
    ∃ t, s.scheduler.task? r.taskId = some t ∧ t.clashes r = true ∧
      fault = .shape r.taskId r.numVars r.numClauses t.statistics.numVars
        t.statistics.numClauses := by
  obtain ⟨-, -, some, enough, -⟩ :=
    Worker.settle_spec (balanced.roster.holdings _ (Roster.mem_of_find? found)) settled
  have out : w.outstanding.held r.taskId ≤ _ := balanced.held_le found r.taskId
  dsimp only at some enough
  cases task : s.scheduler.task? r.taskId with
  | none =>
    rw [outOf_of_none task] at out
    omega
  | some t =>
    rw [outOf_of_some task] at out
    have here : r.instancesProcessed ≤ t.inFlight :=
      UInt32.le_iff_toNat_le.mpr (enough.trans out)
    have there := balanced.scheduler.enough task here
    unfold Scheduler.complete at refused
    rw [task] at refused
    dsimp only at refused
    rw [if_neg (UInt32.not_lt.mpr here), if_neg (UInt64.not_lt.mpr there)] at refused
    split at refused
    · next clash => exact ⟨t, rfl, clash, (Except.error.inj refused).symm⟩
    · cases refused

/-- In balance a request can only fail by running over a count. -/
theorem Balanced.crash_of_grant {requested : UInt32} (balanced : s.Balanced)
    (found : s.roster.find? id = some w) (failed : s.grant id requested = (s', .error e)) :
    ∃ overflow : Overflow, e = overflow.toError := by
  cases allotted : s.allot requested with
  | error overflow =>
    rw [grant_of_overflow allotted] at failed
    exact ⟨overflow, (Except.error.inj (Prod.mk.inj failed).2).symm⟩
  | ok r =>
    obtain ⟨s₁, done⟩ := balanced.grant_of_allot found allotted
    rw [done] at failed
    cases (Prod.mk.inj failed).2

/-- A server does not move on after a failure. -/
theorem thenAdvance_eq_error {p : ServerState × Except Error Unit}
    (failed : thenAdvance p = (s', .error e)) : p = (s', .error e) := by
  obtain ⟨s₁, outcome⟩ := p
  cases outcome with
  | ok u => cases (Prod.mk.inj failed).2
  | error fault => exact failed

/-- Only requests, reports and farewells can fail. -/
theorem handleWorker_eq_error {m : WorkerMessage}
    (refused : s.handleWorker id m = (s', .error e)) :
    ∃ w, s.roster.find? id = some w ∧
      ((∃ requested, m = .getInstances requested ∧ s.grant id requested = (s', .error e)) ∨
        (∃ r, m = .doneProcessing r ∧ s.complete id r = (s', .error e)) ∨
        m = .disconnect ∧ s.removeWorker id = (s', .error e)) := by
  unfold handleWorker at refused
  split at refused
  · cases (Prod.mk.inj refused).2
  next there =>
  obtain ⟨w, found⟩ := Roster.contains_iff.mp (by simpa using there)
  refine ⟨w, found, ?_⟩
  cases m with
  | foundSolution => cases (Prod.mk.inj refused).2
  | getInstances requested => exact .inl ⟨requested, rfl, thenAdvance_eq_error refused⟩
  | doneProcessing r => exact .inr (.inl ⟨r, rfl, thenAdvance_eq_error refused⟩)
  | disconnect => exact .inr (.inr ⟨rfl, thenAdvance_eq_error refused⟩)

end ServerState

/-- A message of a worker is refused only if it is a report, and a refused report leaves the server
as it was, or all of it but one entry: if the worker has the trials, but their shape is not that of
earlier reports, they are struck out at the worker and nowhere else. This holds after all runs in
which fewer than 2^64 workers join, whatever actions were carried out since. A crash refuses
nothing. -/
theorem refused_message (c : ServerConfig) (events : List StateEvent) (a : Audit)
    (ran : (Audit.start c).run events = some a)
    (numbered : events.countP StateEvent.isJoin < 2 ^ 64)
    (s : ServerState) (carried : s = { a.state with outbound := s.outbound })
    (id : WorkerId) (m : WorkerMessage) (s' : ServerState) (e : Error)
    (refused : s.handleWorker id m = (s', .error e)) (returned : ∀ detail, e ≠ .crash detail) :
    ∃ r, m = .doneProcessing r ∧ (s' = s ∨
      ∃ t w w', s.scheduler.task? r.taskId = some t ∧ t.clashes r = true ∧
        s.roster.find? id = some w ∧
        r.instancesProcessed.toNat ≤ w.outstanding.held r.taskId ∧
        w'.activated = w.activated ∧
        (∀ task, w'.outstanding.held task = w.outstanding.held task -
          if task = r.taskId then r.instancesProcessed.toNat else 0) ∧
        s' = { s with roster := s.roster.modify id fun _ => w' }) := by
  have balanced : s.Balanced := by
    have counted := ((Audit.Sound.start c).run ran (by omega)).balanced
    rw [carried]
    exact ⟨counted.roster, counted.scheduler, counted.agree⟩
  obtain ⟨w, found, ⟨requested, -, failed⟩ | ⟨r, report, failed⟩ | ⟨-, failed⟩⟩ :=
    ServerState.handleWorker_eq_error refused
  · obtain ⟨overflow, rfl⟩ := balanced.crash_of_grant found failed
    exact absurd rfl (returned _)
  · refine ⟨r, report, ?_⟩
    rcases ServerState.complete_eq_error found failed with
      same | ⟨w', fault, settled, stop, -, same⟩
    · exact .inl same
    · obtain ⟨t, task, clash, -⟩ := balanced.clashes_of_refused found settled stop
      obtain ⟨woken, -, -, enough, held, -⟩ :=
        Worker.settle_spec (balanced.roster.holdings _ (Roster.mem_of_find? found)) settled
      exact .inr ⟨t, w, w', task, clash, found, enough, woken, held, same⟩
  · -- In balance everything that a worker holds can be given back.
    obtain ⟨scheduler, removed, -⟩ := balanced.removeWorker found
    rw [failed] at removed
    cases (Prod.mk.inj removed).2

/-- A worker is granted two trials and reports one of them. -/
def firstReport : List StateEvent :=
  [.joined, .submitted ⟨2, 10, "a.cnf"⟩, .said 0 (.getInstances 2),
    .said 0 (.doneProcessing { (default : TrialRecord) with
      instancesProcessed := 1, flips := 1, numVars := 3, numClauses := 5 })]

/-- A report of the other trial with another shape. -/
def secondReport : TrialRecord :=
  { (default : TrialRecord) with
    instancesProcessed := 1, flips := 1, numVars := 4, numClauses := 5 }

/-- The second report is refused, and the worker no longer holds the trial. -/
theorem secondReport_refused :
    ∃ a s' detail, (Audit.start ServerConfig.standard).run firstReport = some a ∧
      a.state.handleWorker 0 (.doneProcessing secondReport) = (s', .error (.inconsistent detail)) ∧
      a.state.roster.heldBy 0 0 = 1 ∧ s'.roster.heldBy 0 0 = 0 := by
  have facts : ((Audit.start ServerConfig.standard).run firstReport).map (fun a =>
      let p := a.state.handleWorker 0 (.doneProcessing secondReport)
      (p.2, a.state.roster.heldBy 0 0, p.1.roster.heldBy 0 0)) =
        some (.error (SchedulerFault.shape 0 4 5 3 5).toError, 1, 0) := by
    decide +kernel
  obtain ⟨a, ran, facts⟩ := Option.map_eq_some_iff.mp facts
  simp only [Prod.mk.injEq] at facts
  obtain ⟨failed, before, after⟩ := facts
  exact ⟨a, _, _, ran, Prod.ext rfl failed, before, after⟩

/-- All that the refused report changes is that the trial is struck out at the worker. -/
theorem refused_message_shape :
    ∃ a s' w', (Audit.start ServerConfig.standard).run firstReport = some a ∧
      (a.state.handleWorker 0 (.doneProcessing secondReport)).1 = s' ∧
      s' = { a.state with roster := a.state.roster.modify 0 fun _ => w' } := by
  obtain ⟨a, s', detail, ran, refused, before, after⟩ := secondReport_refused
  obtain ⟨r, -, same | ⟨t, w, w', -, -, -, -, -, -, changed⟩⟩ :=
    refused_message ServerConfig.standard firstReport a ran (by decide) a.state rfl 0
      (.doneProcessing secondReport) s' (.inconsistent detail) refused nofun
  · rw [same, before] at after
    cases after
  · exact ⟨a, s', w', ran, congrArg Prod.fst refused, changed⟩

/-- A refused report may leave the roster in another state. -/
theorem roster_changed_of_refused :
    ∃ a s' e, (Audit.start ServerConfig.standard).run firstReport = some a ∧
      a.state.handleWorker 0 (.doneProcessing secondReport) = (s', .error e) ∧
      s'.roster ≠ a.state.roster := by
  obtain ⟨a, s', detail, ran, refused, before, after⟩ := secondReport_refused
  refine ⟨a, s', _, ran, refused, fun same => ?_⟩
  rw [same, before] at after
  cases after

end TrialFarm
