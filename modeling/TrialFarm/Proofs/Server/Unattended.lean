import TrialFarm.Proofs.Server.Discipline
import TrialFarm.Proofs.Server.Statistics
import TrialFarm.Proofs.Server.Turns

/-!
# A server without its manager

A server finds out that its manager is gone when it listens to it or when it fails to send to it.
In the first case it asks itself for the end of the run. In the second it goes on, and nothing will
tell it to end any more; but it has something to send only if the run comes to its end anyway.

## Main definitions

* `ServerState.Closing`: the run comes to its end.
* `ServerState.ReportsLate`: the manager is told something only if the run comes to its end.
* `Server.Watched`: what holds between two turns, with or without the manager.

## Main statements

* `ServerState.Closing.suspended`: nothing is handed out while the run comes to its end.
* `ServerState.ReportsLate.apply`: no event makes the server report too early.
* `Server.Watched.respond`: the manager is found missing only if the run comes to its end.
* `unattended_closing`: a server that lost its manager ends as soon as no trial is out.
-/

namespace TrialFarm

namespace ServerState

variable {s s' s₁ : ServerState} {e : StateEvent}

/-- The run comes to its end: the manager asked for it, a solution was found, or the server does not
run any more. -/
def Closing (s : ServerState) : Prop :=
  s.terminateRequested = true ∨ s.solutionFound = true ∨ s.phase ≠ .running

/-- Workers are told to stop when the manager asks for the end, and before the server drains. -/
def Warns (s : ServerState) : Prop :=
  s.workersTerminated = false → s.terminateRequested = false ∧ s.phase = .running

/-- The manager is told something only if the run comes to its end. -/
def ReportsLate (s : ServerState) : Prop := ∀ m, .toManager m ∈ s.outbound → s.Closing

/-! ### Workers are told in time -/

theorem Warns.start (c : ServerConfig) : (start c).Warns := fun _ => ⟨rfl, rfl⟩

/-- Waking workers tells nobody to stop and ends nothing. -/
theorem Warns.wakeIdle (warns : s.Warns) : s.wakeIdle.Warns := by
  obtain ⟨roster, ids, woken⟩ := wakeIdle_eq s
  rw [woken]
  exact warns

/-- After workers were told to stop, all may follow. -/
theorem warns_terminateWorkers (s : ServerState) : s.terminateWorkers.Warns := by
  obtain ⟨ids, told⟩ := terminateWorkers_eq s
  rw [told]
  exact nofun

/-- A server that starts to drain has told its workers. -/
theorem Warns.drainIfDue (warns : s.Warns) : s.drainIfDue.Warns := by
  unfold ServerState.drainIfDue
  split
  · obtain ⟨ids, told⟩ := terminateWorkers_eq s.sendStatistics
    rw [told]
    exact nofun
  · exact warns

theorem Warns.stopIfEmpty (warns : s.Warns) : s.stopIfEmpty.Warns := by
  unfold ServerState.stopIfEmpty
  split
  · next last =>
    simp only [Bool.and_eq_true, decide_eq_true_eq] at last
    intro untold
    have running := (warns untold).2
    rw [last.1] at running
    cases running
  · exact warns

/-- Every event that does not fail tells workers in time. -/
theorem Warns.apply (warns : s.Warns) (done : s.apply e = (s', .ok ())) : s'.Warns := by
  rcases apply_cases done with ⟨-, rfl⟩ | ⟨-, s₁, core, rfl⟩
  · exact warns
  -- Between the request of the manager and what follows it the workers are not told yet.
  by_cases asked : e = .terminated
  · subst asked
    exact (warns_terminateWorkers s₁).wakeIdle.drainIfDue.stopIfEmpty
  · have before : s₁.Warns := by
      cases core with
      | terminate => exact absurd rfl asked
      | grant granted =>
        obtain ⟨w, w', -, -, rfl⟩ := grant_eq_ok granted
        exact warns
      | complete completed =>
        obtain ⟨w, w', scheduler, -, -, -, rfl⟩ := complete_eq_ok completed
        exact warns
      | leave found removed | lose found removed =>
        obtain ⟨scheduler, -, rfl⟩ := removeWorker_eq_ok found removed
        exact warns
      | join | submit | refuse | solve | ignore | miss => exact warns
    exact sequel_induction (motive := Warns) before (fun _ _ _ => before)
      (fun _ warns => warns.wakeIdle) (fun t _ => warns_terminateWorkers t)
      (fun _ warns => warns.drainIfDue) fun _ warns => warns.stopIfEmpty

/-! ### The end is not called off -/

/-- No effect of an event takes the end of the run back. -/
theorem Core.closing (core : s.Core e s₁) (closing : s.Closing) : s₁.Closing := by
  cases core with
  | terminate => exact Or.inl rfl
  | solve => exact Or.inr (Or.inl rfl)
  | grant granted =>
    obtain ⟨w, w', -, -, rfl⟩ := grant_eq_ok granted
    exact closing
  | complete completed =>
    obtain ⟨w, w', scheduler, -, -, -, rfl⟩ := complete_eq_ok completed
    exact closing
  | leave found removed | lose found removed =>
    obtain ⟨scheduler, -, rfl⟩ := removeWorker_eq_ok found removed
    exact closing
  | join | submit | refuse | ignore | miss => exact closing

/-- No event that does not fail does. -/
theorem Closing.apply (closing : s.Closing) (done : s.apply e = (s', .ok ())) : s'.Closing := by
  by_cases running : s.phase = .running
  · obtain ⟨s₁, core, said⟩ := apply_eq_ok done
    rcases core.closing closing with requested | solved | ended
    · exact Or.inl (said.terminateRequested.trans requested)
    · exact Or.inr (Or.inl (said.solutionFound.trans solved))
    · exact absurd (core.phase.trans running) ended
  · exact Or.inr (Or.inr (ended_apply done running))

/-- Whoever asks for the end of the run gets it. -/
theorem closing_of_terminated (done : s.apply .terminated = (s', .ok ())) : s'.Closing := by
  obtain ⟨s₁, core, said⟩ := apply_eq_ok done
  cases core with
  | terminate => exact Or.inl said.terminateRequested

/-- While the run comes to its end nothing is handed out. -/
theorem Closing.suspended (closing : s.Closing) (warns : s.Warns) :
    s.dispatchSuspended = true := by
  unfold dispatchSuspended
  cases told : s.workersTerminated with
  | true => exact Bool.or_true _
  | false =>
    obtain ⟨unasked, running⟩ := warns told
    rcases closing with requested | solved | ended
    · rw [unasked] at requested
      cases requested
    · rw [solved]
      rfl
    · exact absurd running ended

/-- A run that comes to its end goes on only because trials are out. -/
theorem Closing.inFlight_ne_zero (closing : s.Closing) (prompt : s.Prompt)
    (running : s.phase = .running) : s.scheduler.inFlight ≠ 0 := by
  intro none
  have due : s.drainDue = true := by
    refine drainDue_iff.mpr ⟨none, ?_⟩
    rcases closing with requested | solved | ended
    · exact Or.inl requested
    · exact Or.inr (Or.inl solved)
    · exact absurd running ended
  rw [prompt.due running] at due
  cases due

/-- As long as trials are out a server runs on. -/
theorem running_of_inFlight (done : s.apply e = (s', .ok ())) (running : s.phase = .running)
    (out : s'.scheduler.inFlight ≠ 0) : s'.phase = .running := by
  rcases apply_cases done with ⟨-, rfl⟩ | ⟨-, s₁, core, rfl⟩
  · exact running
  rw [← core.phase] at running
  rcases sequel_cases s₁ e with woken | ⟨t, -, same, moved⟩
  · rw [woken, phase_wakeIdle]
    exact running
  · rw [moved] at out ⊢
    rw [(announces_advance t).scheduler] at out
    have early : t.drainDue = false := by
      by_contra due
      exact out (drainDue_iff.mp (by simpa using due)).1
    rw [advance_phase, if_pos ⟨same.trans running, early⟩]

/-! ### Reports -/

/-- No event is answered to the manager. -/
theorem toManager_not_mem_answers {m : ReportMessage} : .toManager m ∉ s.answers e := by
  intro said
  cases e with
  | joined | lost => simp [answers] at said
  | submitted | terminated => cases said
  | said id message =>
    cases message with
    | doneProcessing | foundSolution => cases said
    | getInstances | disconnect => simp [answers] at said

/-- Other things may be said as long as the end is not called off. -/
theorem ReportsLate.say (late : s.ReportsLate) (closing : s.Closing → s'.Closing)
    (out : ∀ m, .toManager m ∈ s'.outbound → .toManager m ∈ s.outbound) : s'.ReportsLate :=
  fun m said => closing (late m (out m said))

/-- Waking workers tells the manager nothing, -/
theorem ReportsLate.wakeIdle (late : s.ReportsLate) : s.wakeIdle.ReportsLate := by
  obtain ⟨roster, ids, woken⟩ := wakeIdle_eq s
  rw [woken]
  exact late.say (fun closing => closing) fun m said => by simpa using said

/-- and neither does telling them to stop. -/
theorem ReportsLate.terminateWorkers (late : s.ReportsLate) :
    s.terminateWorkers.ReportsLate := by
  obtain ⟨ids, told⟩ := terminateWorkers_eq s
  rw [told]
  exact late.say (fun closing => closing) fun m said => by simpa using said

/-- What follows an event tells the manager something only if the run comes to its end. -/
theorem ReportsLate.sequel (late : s.ReportsLate)
    (solved : ∀ id solution, e = .said id (.foundSolution solution) → s.solutionFound = true) :
    (s.sequel e).ReportsLate := by
  refine sequel_induction (motive := ReportsLate) late ?_ (fun _ late => late.wakeIdle)
    (fun _ late => late.terminateWorkers) ?_ ?_
  · exact fun id solution found _ _ => Or.inr (Or.inl (solved id solution found))
  · -- The results are sent in the event in which the server starts to drain.
    intro t late
    unfold drainIfDue
    split
    · exact fun _ _ => Or.inr (Or.inr nofun)
    · exact late
  · intro t late
    unfold stopIfEmpty
    split
    · exact fun _ _ => Or.inr (Or.inr nofun)
    · exact late

/-- No event makes the server report before the run comes to its end. -/
theorem ReportsLate.apply (late : s.ReportsLate) (done : s.apply e = (s', .ok ())) :
    s'.ReportsLate := by
  rcases apply_cases done with ⟨-, rfl⟩ | ⟨heard, s₁, core, rfl⟩
  · exact late
  · refine ReportsLate.sequel (fun m said => core.closing (late m ?_)) ?_
    · rw [core.outbound] at said
      exact (List.mem_append.mp said).resolve_right toManager_not_mem_answers
    · rintro id solution rfl
      cases core with
      | solve => rfl
      | ignore gone => exact absurd (.said gone) heard

end ServerState

namespace Server

open ServerState

variable {ν : Type} (network : Network ν) {s h : Server} {event : ServerEvent}

/-- Between two turns no transition is due, workers were told in time, and the manager is missed
only if the run comes to its end. -/
structure Watched (s : Server) : Prop where
  prompt : s.state.Prompt
  warns : s.state.Warns
  missed : s.managerOpen = false → s.state.Closing

theorem Watched.start (c : ServerConfig) : (start c).Watched where
  prompt := Prompt.start c
  warns := Warns.start c
  missed := nofun

/-- On hearing of an event the manager is found missing only if this asks for the end. -/
theorem Watched.hear (watched : s.Watched) (hears : s.Hears event h) : h.Watched := by
  cases hears with
  | ignored => exact watched
  | turned => exact ⟨watched.prompt, watched.warns, watched.missed⟩
  | joined =>
    have done := s.state.apply_joined
    exact ⟨watched.prompt.apply done, watched.warns.apply done,
      fun gone => (watched.missed gone).apply done⟩
  | told serving done stays gone =>
    refine ⟨watched.prompt.apply done, watched.warns.apply done, fun lost => ?_⟩
    rcases gone with same | rfl
    · exact (watched.missed (same ▸ lost)).apply done
    · exact closing_of_terminated done

/-- What a server hears never takes the end of the run back. -/
theorem Hears.closing (hears : s.Hears event h) (closing : s.state.Closing) :
    h.state.Closing := by
  rcases hears.state with same | ⟨e, done⟩
  · exact same ▸ closing
  · exact closing.apply done

/-- What a server hears makes it report only if the run comes to its end. -/
theorem Hears.reportsLate (hears : s.Hears event h) (quiet : s.Quiet) : h.state.ReportsLate := by
  have late : s.state.ReportsLate := by
    intro m said
    rw [quiet.outbound] at said
    cases said
  rcases hears.state with same | ⟨e, done⟩
  · exact same ▸ late
  · exact late.apply done

/-- The manager is found missing only when something is sent to it. -/
theorem managerOpen_carryOutAll {n : ν} {actions : List Action}
    (lost : (carryOutAll network s n actions).1.managerOpen = false) :
    s.managerOpen = false ∨ ∃ m, .toManager m ∈ actions := by
  induction actions generalizing s n with
  | nil => exact Or.inl lost
  | cons action rest ih =>
    rw [carryOutAll_cons] at lost
    rcases ih lost with before | ⟨m, later⟩
    · cases action with
      | toManager m => exact Or.inr ⟨m, List.mem_cons_self⟩
      | toWorker id m => exact Or.inl before
      | closeWorker id =>
        unfold carryOut at before
        dsimp only at before
        split at before
        · exact Or.inl before
        · exact Or.inl before
    · exact Or.inr ⟨m, List.mem_cons_of_mem _ later⟩

/-- A failed send clears the flag without asking for the end, but what is sent tells that the run
comes to it. -/
theorem Watched.respond (watched : h.Watched) (late : h.state.ReportsLate) (n : ν) :
    (respond network n (h, .ok ())).1.Watched := by
  have prompt := watched.prompt
  refine ⟨?_, ?_, fun lost => ?_⟩
  · rw [respond_state]
    exact ⟨prompt.due, prompt.manned, prompt.reason⟩
  · rw [respond_state]
    exact watched.warns
  · rw [respond_state]
    rcases respond_cases network h n with ⟨same, -⟩ | ⟨-, stopped, -⟩
    · rw [same] at lost
      rcases managerOpen_carryOutAll network lost with before | ⟨m, said⟩
      · exact watched.missed before
      · exact late m said
    · refine Or.inr (Or.inr ?_)
      dsimp only
      rw [stopped]
      nofun

/-- A run without failure keeps the server watched, and once it comes to its end this stays so. -/
theorem Watched.run (watched : s.Watched) (quiet : s.Quiet) (n : ν) (events : List ServerEvent)
    (intact : (run network s n events).1.Intact) :
    (run network s n events).1.Quiet ∧ (run network s n events).1.Watched ∧
      (s.state.Closing → (run network s n events).1.state.Closing) := by
  refine run_induction network
    (motive := fun _ t => t.Watched ∧ (s.state.Closing → t.state.Closing)) ?_ quiet
    ⟨watched, fun closing => closing⟩ intact
  rintro t h n event events quiet ⟨watched, closing⟩ done
  have hears := hears_of_heard done
  refine ⟨(watched.hear hears).respond network (hears.reportsLate quiet) n, fun before => ?_⟩
  have still := hears.closing (closing before)
  rw [respond_state]
  exact still

end Server

open Server in
/-- A server that lost its manager is on its way out, whether it found out on receiving or on
sending. As long as no failure ends it, in any order of events and whatever is sent in vain: if the
manager is gone, then the end was asked for, a solution was found, or the server does not run any
more. Whatever happens from then on, a server that still runs has trials out, and in each turn what
it hears of makes it grant nothing, and makes it stop to run just if no trial is out any more. -/
theorem unattended_closing {ν : Type} (network : Network ν) (n k : ν) (c : ServerConfig)
    (before : List ServerEvent) (s : Server)
    (ran : Server.run network (Server.start c) n before = (s, k)) (intact : s.Intact)
    (lost : s.managerOpen = false) :
    (s.state.terminateRequested = true ∨ s.state.solutionFound = true ∨
      s.state.phase ≠ .running) ∧
    ∀ after t m, Server.run network s k after = (t, m) → t.Intact →
      (t.state.phase = .running → t.state.scheduler.inFlight ≠ 0) ∧
      ∀ event h, t.heard event = (h, .ok ()) →
        step network t m event = respond network m (h, .ok ()) ∧
        (∀ id batches, .toWorker id (.sendInstances batches) ∈ h.state.outbound → batches = []) ∧
        (t.state.phase = .running →
          (h.state.phase ≠ .running ↔ h.state.scheduler.inFlight = 0)) := by
  have reached := (Watched.start c).run network (Quiet.start c) n before
  rw [ran] at reached
  obtain ⟨quiet, watched, -⟩ := reached intact
  have closing := watched.missed lost
  refine ⟨closing, fun after t m later intact => ?_⟩
  have reached := watched.run network quiet k after
  rw [later] at reached
  obtain ⟨quiet, watched, still⟩ := reached intact
  have closing := still closing
  refine ⟨closing.inFlight_ne_zero watched.prompt, fun event h done => ?_⟩
  have hears := hears_of_heard done
  refine ⟨by rw [step_eq network quiet, done], fun id batches granted => ?_, fun running => ?_⟩
  · rcases hears.state with same | ⟨e, applied⟩
    · rw [same, quiet.outbound] at granted
      cases granted
    · obtain ⟨new, out, -, empty⟩ := ServerState.apply_grants applied id
      rw [out, quiet.outbound, List.nil_append] at granted
      exact empty (closing.suspended watched.warns) batches granted
  · refine ⟨fun ended => ?_, fun none still => ?_⟩
    · by_contra out
      rcases hears.state with same | ⟨e, applied⟩
      · exact ended (same ▸ running)
      · exact ended (ServerState.running_of_inFlight applied running out)
    · exact (hears.closing closing).inFlight_ne_zero (watched.hear hears).prompt still none

/-- A network on which nothing reaches the manager. -/
def Network.mute : Network Unit where
  sendManager n _ := (n, .error (.transport "broken pipe"))
  closeManager n := n
  sendWorker n _ _ := (n, .ok ())
  closeWorker n _ := n

/-- A worker finds a solution in the first of the two trials that it was granted. -/
def earlySolution : List ServerEvent :=
  [.manager (.message (.addWorkers 1)), .connected,
    .manager (.message (.addFile ⟨2, 10, "a.cnf"⟩)), .worker 0 (.message (.getInstances 2)),
    .worker 0 (.message (.foundSolution default))]

/-- Nobody asked for the end when the manager is found missing, and the server still runs. It stops
to do so when the two trials are reported. -/
theorem unattended_closing_mute :
    ∃ s, Server.run .mute (Server.start .standard) () earlySolution = (s, ()) ∧ s.Intact ∧
      s.managerOpen = false ∧ s.state.terminateRequested = false ∧ s.state.phase = .running ∧
      ∃ h, s.heard (.worker 0 (.message (.doneProcessing
          { (default : TrialRecord) with instancesProcessed := 2 }))) = (h, .ok ()) ∧
        h.state.phase ≠ .running := by
  have ran : Server.run .mute (Server.start .standard) () earlySolution =
      ((Server.run .mute (Server.start .standard) () earlySolution).1, ()) := rfl
  refine ⟨_, ran, nofun, rfl, rfl, rfl, _, rfl, ?_⟩
  obtain ⟨-, later⟩ := unattended_closing .mute () () .standard earlySolution _ ran nofun rfl
  obtain ⟨-, turn⟩ := later [] _ _ rfl nofun
  obtain ⟨-, -, leaves⟩ := turn (.worker 0 (.message (.doneProcessing
    { (default : TrialRecord) with instancesProcessed := 2 }))) _ rfl
  exact (leaves rfl).mpr rfl

end TrialFarm
