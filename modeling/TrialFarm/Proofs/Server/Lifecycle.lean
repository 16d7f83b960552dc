import TrialFarm.Proofs.Server.Runs

/-!
# The phases of a server

A server runs, drains until all workers have left, and stops. Only `advance` changes the phase, and
after every event that can make a change due the server moves on.

## Main definitions

* `Phase.rank`: the order of the phases.
* `ServerState.Over`: nothing is out, and nothing more is to be done.
* `ServerState.Prompt`: no transition is due.

## Main statements

* `ServerState.advance_phase`: the phase after the server moved on.
* `ServerState.apply_phase`: no event takes a server back to an earlier phase.
* `ServerState.Announces.drainDue`: announcements do not decide whether the run is over.
* `ServerState.Prompt.apply`: no event leaves a transition behind.
* `lifecycle_prompt`: a server is never in a phase that it should have left.
-/

namespace TrialFarm

/-- The place of a phase in the order in which a server goes through them. -/
def Phase.rank : Phase → Nat
  | running => 0
  | draining => 1
  | stopped => 2

namespace ServerState

/-- Nothing is out, and there is a reason to end: the manager asked for it, a solution was found, or
all that was submitted is done and nothing more is waited for. -/
def Over (s : ServerState) : Prop :=
  s.scheduler.inFlight = 0 ∧
    (s.terminateRequested = true ∨ s.solutionFound = true ∨
      s.waitForMoreFiles = false ∧ s.scheduler.tasks ≠ #[] ∧ s.scheduler.queue = [])

/-- The end of the work is due if the run is over. -/
theorem drainDue_iff {s : ServerState} : s.drainDue = true ↔ s.Over := by
  unfold drainDue Over
  by_cases out : 0 < s.scheduler.inFlight
  · rw [if_pos out]
    have some : s.scheduler.inFlight ≠ 0 := fun none => by simp [none] at out
    simp [some]
  · rw [if_neg out]
    have none : s.scheduler.inFlight = 0 := by
      rw [UInt64.pos_iff_ne_zero, not_not] at out
      exact out
    simp [none, Scheduler.hasTasks, Scheduler.hasQueued, or_assoc, and_assoc]

variable {s s' : ServerState}

@[simp] theorem phase_wakeIdle (s : ServerState) : s.wakeIdle.phase = s.phase := by
  obtain ⟨roster, ids, woken⟩ := wakeIdle_eq s
  rw [woken]

@[simp] theorem workersTerminated_wakeIdle (s : ServerState) :
    s.wakeIdle.workersTerminated = s.workersTerminated := by
  obtain ⟨roster, ids, woken⟩ := wakeIdle_eq s
  rw [woken]

@[simp] theorem phase_terminateWorkers (s : ServerState) : s.terminateWorkers.phase = s.phase := by
  unfold terminateWorkers
  split
  · rfl
  · rfl

@[simp] theorem phase_foundSolution (s : ServerState) (solution : Solution) :
    (s.foundSolution solution).phase = s.phase := by
  unfold foundSolution
  dsimp only
  split
  · rw [phase_terminateWorkers]
    rfl
  · rfl

/-- Announcements do not decide whether the run is over. -/
theorem Announces.drainDue (said : s.Announces s') : s'.drainDue = s.drainDue := by
  unfold ServerState.drainDue
  rw [said.scheduler, said.terminateRequested, said.solutionFound, said.waitForMoreFiles]

/-- A running server starts to drain if that is due. No other server does. -/
theorem drainIfDue_phase (s : ServerState) :
    s.drainIfDue.phase = if s.phase = .running ∧ s.drainDue = true then .draining else s.phase := by
  unfold drainIfDue
  by_cases due : s.phase = .running ∧ s.drainDue = true
  · rw [if_pos due, if_pos (by simpa using due)]
  · rw [if_neg due, if_neg (by simpa using due)]

/-- The server runs on as long as the run is not over, and then drains until all workers have
left. -/
theorem advance_phase (s : ServerState) :
    s.advance.phase =
      if s.phase = .running ∧ s.drainDue = false then .running
      else if s.phase = .stopped ∨ s.roster.workers = [] then .stopped
      else .draining := by
  have woken := announces_wakeIdle s
  have drained := woken.trans (announces_drainIfDue s.wakeIdle)
  have phase := drainIfDue_phase s.wakeIdle
  rw [phase_wakeIdle, woken.drainDue] at phase
  have empty := drained.roster.isEmpty
  -- Each part of the way either is taken or leaves the phase alone.
  unfold advance stopIfEmpty
  rw [phase, empty]
  cases running : s.phase with
  | running =>
    cases due : s.drainDue with
    | false => simp [phase, running, due]
    | true =>
      by_cases left : s.roster.workers = []
      · simp [left]
      · simp [phase, running, due, left]
  | draining =>
    by_cases left : s.roster.workers = []
    · simp [left]
    · simp [phase, running, left]
  | stopped => simp [phase, running]

/-- As long as the run is not over, moving on only wakes workers. -/
theorem advance_of_not_due (running : s.phase = .running) (due : s.drainDue = false) :
    s.advance = s.wakeIdle := by
  unfold advance drainIfDue stopIfEmpty
  rw [phase_wakeIdle, (announces_wakeIdle s).drainDue, due, Bool.and_false,
    if_neg Bool.false_ne_true, phase_wakeIdle, running]
  rfl

/-! ### Phases in order -/

/-- A server that moves on never goes back to an earlier phase. -/
theorem rank_advance (s : ServerState) : s.phase.rank ≤ s.advance.phase.rank := by
  rw [advance_phase]
  cases s.phase with
  | running => exact Nat.zero_le _
  | draining =>
    split
    · next still => cases still.1
    · split
      · decide
      · exact Nat.le_refl _
  | stopped => simp

/-- An event is followed by waking workers, or by moving on after some announcements. -/
theorem sequel_cases (s : ServerState) (e : StateEvent) :
    s.sequel e = s.wakeIdle ∨
      ∃ t, s.Announces t ∧ t.phase = s.phase ∧ s.sequel e = t.advance := by
  cases e with
  | joined | submitted => exact Or.inl rfl
  | terminated =>
    exact Or.inr ⟨_, announces_terminateWorkers s, phase_terminateWorkers s, rfl⟩
  | lost => exact Or.inr ⟨s, Announces.refl s, rfl, rfl⟩
  | said id m =>
    cases m with
    | getInstances | doneProcessing | disconnect => exact Or.inr ⟨s, Announces.refl s, rfl, rfl⟩
    | foundSolution solution =>
      refine Or.inr ⟨_, announces_passOn s solution, ?_, rfl⟩
      unfold passOn
      dsimp only
      split
      · rw [phase_terminateWorkers]
        rfl
      · rfl

/-- The effect of an event does not change the phase. -/
theorem Core.phase {e : StateEvent} (core : s.Core e s') : s'.phase = s.phase := by
  obtain ⟨scheduler, roster, requested, solved, outbound, rfl⟩ := core.frame
  rfl

/-- An event never leads back to an earlier phase. -/
theorem apply_phase {e : StateEvent} (done : s.apply e = (s', .ok ())) :
    s.phase.rank ≤ s'.phase.rank := by
  rcases apply_cases done with ⟨-, rfl⟩ | ⟨-, s₁, core, rfl⟩
  · exact Nat.le_refl _
  · rw [← core.phase]
    rcases sequel_cases s₁ e with woken | ⟨t, -, same, moved⟩
    · rw [woken, phase_wakeIdle]
    · rw [moved, ← same]
      exact rank_advance t

/-- A server stops in the event after which it has no worker left, if it was draining or the run is
over. -/
theorem apply_stopped {e : StateEvent} (done : s.apply e = (s', .ok ()))
    (before : s.phase ≠ .stopped) (stopped : s'.phase = .stopped) :
    s'.roster.workers = [] ∧ (s.phase = .draining ∨ s'.Over) := by
  rcases apply_cases done with ⟨-, rfl⟩ | ⟨-, s₁, core, rfl⟩
  · exact absurd stopped before
  rw [← core.phase] at before ⊢
  rcases sequel_cases s₁ e with woken | ⟨t, -, same, moved⟩
  · rw [woken, phase_wakeIdle] at stopped
    exact absurd stopped before
  · rw [moved] at stopped ⊢
    rw [← same] at before ⊢
    have said := announces_advance t
    have phase := advance_phase t
    rw [stopped] at phase
    split at phase
    · cases phase
    next ended =>
    split at phase
    · next left =>
      have gone := left.resolve_left before
      refine ⟨List.isEmpty_iff.mp (by rw [said.roster.isEmpty, gone]; rfl), ?_⟩
      rw [← drainDue_iff, said.drainDue]
      cases running : t.phase with
      | running => exact Or.inr (by simpa [running] using ended)
      | draining => exact Or.inl rfl
      | stopped => exact absurd running before
    · cases phase

/-! ### No transition is missed -/

/-- The server has moved on as far as it can, and it told its workers to stop for a reason. -/
structure Prompt (s : ServerState) : Prop where
  due : s.phase = .running → s.drainDue = false
  manned : s.phase = .draining → s.roster.workers ≠ []
  reason : s.phase = .running → s.workersTerminated = true →
    s.terminateRequested = true ∨ s.solutionFound = true

theorem Prompt.start (c : ServerConfig) : (start c).Prompt where
  due _ := by simp [ServerState.start, drainDue, Scheduler.empty, Scheduler.hasTasks]
  manned draining := nomatch draining
  reason _ told := nomatch told

/-- A server that moves on misses nothing. -/
theorem prompt_advance (reason : s.phase = .running → s.workersTerminated = true →
    s.terminateRequested = true ∨ s.solutionFound = true) : s.advance.Prompt := by
  have said := announces_advance s
  have phase := advance_phase s
  refine ⟨fun running => ?_, fun draining => ?_, fun running told => ?_⟩
  · rw [said.drainDue]
    rw [running] at phase
    split at phase
    · next still => exact still.2
    · split at phase
      · cases phase
      · cases phase
  · rw [draining] at phase
    split at phase
    · cases phase
    · split at phase
      · cases phase
      · next left =>
        intro gone
        have empty := said.roster.isEmpty
        rw [gone] at empty
        exact left (Or.inr (List.isEmpty_iff.mp empty.symm))
  · rw [running] at phase
    split at phase
    · next still =>
      rw [said.terminateRequested, said.solutionFound]
      rw [advance_of_not_due still.1 still.2, workersTerminated_wakeIdle] at told
      exact reason still.1 told
    · split at phase
      · cases phase
      · cases phase

/-- The reason to stop does not go away. -/
private theorem Prompt.keep (prompt : s.Prompt) (phase : s'.phase = s.phase)
    (told : s'.workersTerminated = s.workersTerminated)
    (requested : s'.terminateRequested = s.terminateRequested)
    (solved : s'.solutionFound = s.solutionFound) : s'.advance.Prompt := by
  refine prompt_advance ?_
  rw [phase, told, requested, solved]
  exact prompt.reason

/-- Waking workers makes nothing due. -/
theorem Prompt.wakeIdle (prompt : s.Prompt) : s.wakeIdle.Prompt := by
  have said := announces_wakeIdle s
  refine ⟨fun running => ?_, fun draining gone => ?_, fun running told => ?_⟩
  · rw [said.drainDue]
    exact prompt.due ((phase_wakeIdle s).symm.trans running)
  · have empty := said.roster.isEmpty
    rw [gone] at empty
    exact prompt.manned ((phase_wakeIdle s).symm.trans draining) (List.isEmpty_iff.mp empty.symm)
  · rw [said.terminateRequested, said.solutionFound]
    exact prompt.reason ((phase_wakeIdle s).symm.trans running)
      ((workersTerminated_wakeIdle s).symm.trans told)

/-- A worker that joins makes nothing due. -/
theorem Prompt.greet (prompt : s.Prompt) : s.greet.Prompt :=
  ⟨prompt.due, fun _ => List.concat_ne_nil _ _, prompt.reason⟩

/-- A new file waits for trials, so it makes nothing due that was not due before. -/
theorem Prompt.addFile {file : TaskFile} {task : TaskId} {scheduler : Scheduler}
    (prompt : s.Prompt) (running : s.phase = .running)
    (added : s.scheduler.addFile file = .ok (task, scheduler)) :
    ServerState.Prompt { s with scheduler := scheduler } := by
  obtain ⟨-, -, -, rfl⟩ := Scheduler.addFile_eq_ok added
  refine ⟨fun _ => ?_, fun draining => ?_, prompt.reason⟩
  · have before := prompt.due running
    unfold drainDue at before ⊢
    dsimp only
    split
    · rfl
    · next none =>
      rw [if_neg none] at before
      simp only [Bool.or_eq_false_iff] at before
      simp [before.1, Scheduler.hasQueued]
  · exact absurd (running.symm.trans draining) (by decide)

/-- Every event that does not fail is followed by all that it makes due. -/
theorem Prompt.apply {e : StateEvent} (prompt : s.Prompt) (done : s.apply e = (s', .ok ())) :
    s'.Prompt := by
  rcases apply_cases done with ⟨-, rfl⟩ | ⟨heard, s₁, core, rfl⟩
  · exact prompt
  cases core with
  | join => exact prompt.greet.wakeIdle
  | submit running added => exact (prompt.addFile running added).wakeIdle
  | refuse => exact prompt.wakeIdle
  | terminate =>
    exact prompt_advance fun _ _ => Or.inl (announces_terminateWorkers _).terminateRequested
  | grant granted =>
    obtain ⟨w, w', -, -, rfl⟩ := grant_eq_ok granted
    exact prompt.keep rfl rfl rfl rfl
  | complete completed =>
    obtain ⟨w, w', scheduler, -, -, -, rfl⟩ := complete_eq_ok completed
    exact prompt.keep rfl rfl rfl rfl
  | solve => exact prompt_advance fun _ _ => Or.inr (announces_passOn _ _).solutionFound
  | leave found removed | lose found removed =>
    obtain ⟨scheduler, -, rfl⟩ := removeWorker_eq_ok found removed
    exact prompt.keep rfl rfl rfl rfl
  | ignore gone => exact absurd (.said gone) heard
  | miss gone => exact absurd (.lost gone) heard

/-- In every run without failures a server moves on in time. -/
theorem Prompt.run {events : List StateEvent} (prompt : s.Prompt) (ran : s.run events = some s') :
    s'.Prompt :=
  run_induction (motive := Prompt) (fun _ _ _ prompt done => prompt.apply done) prompt ran

end ServerState

/-- A server is never behind. After every event of a run without failures: if it still runs, then
trials are out, or nobody asked for the end, no solution was found and there is work left to wait
for; if it drains, then a worker has yet to leave. So it stops in the very event after which no
worker is left and either the run is over or it was draining already. -/
theorem lifecycle_prompt (c : ServerConfig) (events : List StateEvent) (e : StateEvent)
    (s s' : ServerState) (ran : (ServerState.start c).run events = some s)
    (done : s.apply e = (s', .ok ())) :
    (s'.phase = .running → 0 < s'.scheduler.inFlight ∨
      ¬(s'.terminateRequested = true ∨ s'.solutionFound = true ∨
        c.waitForMoreFiles = false ∧ s'.scheduler.tasks ≠ #[] ∧ s'.scheduler.queue = [])) ∧
    (s'.phase = .draining → s'.roster.workers ≠ []) ∧
    (s.phase ≠ .stopped →
      (s'.phase = .stopped ↔ s'.roster.workers = [] ∧ (s.phase = .draining ∨ s'.Over))) := by
  have prompt := ((ServerState.Prompt.start c).run ran).apply done
  have waits : s'.waitForMoreFiles = c.waitForMoreFiles :=
    (ServerState.apply_settings done).waitForMoreFiles.trans
      (ServerState.run_settings ran).waitForMoreFiles
  have unfinished : s'.phase = .running → ¬s'.Over := by
    intro running
    rw [← ServerState.drainDue_iff, prompt.due running]
    exact Bool.false_ne_true
  refine ⟨fun running => ?_, prompt.manned, fun before => ⟨?_, ?_⟩⟩
  · have open' := unfinished running
    unfold ServerState.Over at open'
    rw [waits] at open'
    by_cases out : 0 < s'.scheduler.inFlight
    · exact Or.inl out
    · rw [UInt64.pos_iff_ne_zero, not_not] at out
      exact Or.inr fun reason => open' ⟨out, reason⟩
  · exact ServerState.apply_stopped done before
  · rintro ⟨gone, ended⟩
    have forward := ServerState.apply_phase done
    cases phase : s'.phase with
    | running =>
      rcases ended with draining | complete
      · rw [phase, draining] at forward
        exact absurd forward (by decide)
      · exact absurd complete (unfinished phase)
    | draining => exact absurd gone (prompt.manned phase)
    | stopped => rfl

/-- A worker joins, and runs the only trial of the only file. -/
def lastTrial : List StateEvent :=
  [.joined, .submitted ⟨1, 10, "a.cnf"⟩, .said 0 (.getInstances 2),
    .said 0 (.doneProcessing { (default : TrialRecord) with instancesProcessed := 1 })]

/-- After that run the server drains, and it stops when the worker says goodbye. -/
theorem lifecycle_prompt_lastTrial :
    ∃ s s', (ServerState.start ServerConfig.standard).run lastTrial = some s ∧
      s.apply (.said 0 .disconnect) = (s', .ok ()) ∧ s.phase = .draining ∧
      s'.phase = .stopped := by
  obtain ⟨s, ran, draining, s', done, gone⟩ : ∃ s,
      (ServerState.start ServerConfig.standard).run lastTrial = some s ∧ s.phase = .draining ∧
      ∃ s', s.apply (.said 0 .disconnect) = (s', .ok ()) ∧ s'.roster.workers = [] :=
    ⟨_, rfl, rfl, _, rfl, by decide⟩
  obtain ⟨-, -, stops⟩ := lifecycle_prompt ServerConfig.standard lastTrial (.said 0 .disconnect)
    s s' ran done
  have before : s.phase ≠ .stopped := by
    rw [draining]
    decide
  exact ⟨s, s', ran, done, draining, (stops before).mpr ⟨gone, Or.inl draining⟩⟩

end TrialFarm
