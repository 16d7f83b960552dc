import TrialFarm.Proofs.Server.Events

/-!
# Runs of a server

A run is a sequence of events of which none fails. What every event keeps, every run keeps. The
settings of a server never change, and what it asks for is never taken back: its actions only become
more.

## Main definitions

* `ServerState.run`: the state after events of which none fails.
* `ServerState.answers`: the actions that belong to the effect of an event itself.
* `ServerState.enrolled`: the numbers of the workers that joined.

## Main statements

* `ServerState.run_split`: every event of a run is processed in the state before it.
* `ServerState.run_induction`: what every event keeps, every run keeps.
* `ServerState.run_settings`: a run keeps the settings.
* `ServerState.mem_enrolled`: the numbers are given one after the other.
-/

namespace TrialFarm

namespace ServerState

/-- The state after events of which none fails. -/
def run (s : ServerState) : List StateEvent → Option ServerState
  | [] => some s
  | e :: events =>
    match s.apply e with
    | (s', .ok ()) => s'.run events
    | (_, .error _) => none

variable {s s' s₁ : ServerState} {e : StateEvent} {events : List StateEvent}

/-- A run without failures goes from event to event. -/
theorem run_cons_eq_some :
    s.run (e :: events) = some s' ↔ ∃ s₁, s.apply e = (s₁, .ok ()) ∧ s₁.run events = some s' := by
  rw [run]
  constructor
  · intro ran
    split at ran
    · next s₁ done => exact ⟨s₁, done, ran⟩
    · cases ran
  · rintro ⟨s₁, done, ran⟩
    rw [done]
    exact ran

/-- A run without failures in two parts. -/
theorem run_append_eq_some {before after : List StateEvent} :
    s.run (before ++ after) = some s' ↔ ∃ b, s.run before = some b ∧ b.run after = some s' := by
  induction before generalizing s with
  | nil => simp [run]
  | cons e before ih =>
    rw [List.cons_append]
    constructor
    · intro ran
      obtain ⟨s₁, done, ran⟩ := run_cons_eq_some.mp ran
      obtain ⟨b, early, late⟩ := ih.mp ran
      exact ⟨b, run_cons_eq_some.mpr ⟨s₁, done, early⟩, late⟩
    · rintro ⟨b, early, late⟩
      obtain ⟨s₁, done, early⟩ := run_cons_eq_some.mp early
      exact run_cons_eq_some.mpr ⟨s₁, done, ih.mpr ⟨b, early, late⟩⟩

/-- Every event of a run is processed in the state that the events before it lead to. -/
theorem run_split {before after : List StateEvent}
    (ran : s.run (before ++ e :: after) = some s') :
    ∃ b d, s.run before = some b ∧ b.apply e = (d, .ok ()) ∧ d.run after = some s' := by
  obtain ⟨b, early, late⟩ := run_append_eq_some.mp ran
  obtain ⟨d, done, late⟩ := run_cons_eq_some.mp late
  exact ⟨b, d, early, done, late⟩

/-- What every event that does not fail keeps, a run keeps. -/
theorem run_induction {motive : ServerState → Prop}
    (step : ∀ s s' e, motive s → s.apply e = (s', .ok ()) → motive s')
    (start : motive s) (ran : s.run events = some s') : motive s' := by
  induction events generalizing s with
  | nil => exact Option.some.inj ran ▸ start
  | cons e events ih =>
    obtain ⟨s₁, done, ran⟩ := run_cons_eq_some.mp ran
    exact ih (step s s₁ e start done) ran

/-! ### What an event leaves alone, and what it says -/

/-- The effect of an event touches scheduler, roster and actions, and what the end of the run
depends on. -/
theorem Core.frame (core : s.Core e s₁) :
    ∃ scheduler roster requested solved outbound,
      s₁ = { s with
        scheduler := scheduler
        roster := roster
        terminateRequested := requested
        solutionFound := solved
        outbound := outbound } := by
  cases core with
  | grant done =>
    obtain ⟨w, w', -, -, rfl⟩ := grant_eq_ok done
    exact ⟨_, _, _, _, _, rfl⟩
  | complete done =>
    obtain ⟨w, w', scheduler, -, -, -, rfl⟩ := complete_eq_ok done
    exact ⟨_, _, _, _, _, rfl⟩
  | leave found removed | lose found removed =>
    obtain ⟨scheduler, -, rfl⟩ := removeWorker_eq_ok found removed
    exact ⟨_, _, _, _, _, rfl⟩
  | join | submit | refuse | terminate | solve | ignore | miss => exact ⟨_, _, _, _, _, rfl⟩

/-- The actions that belong to the effect of an event itself. -/
def answers (s : ServerState) : StateEvent → List Action
  | .joined => if s.workersTerminated then [.toWorker s.roster.nextId .terminate] else []
  | .said id (.getInstances requested) =>
    if s.roster.contains id then [.toWorker id (.sendInstances (s.handOut requested).1)] else []
  | .said id .disconnect | .lost id => if s.roster.contains id then [.closeWorker id] else []
  | .submitted _ | .terminated | .said _ (.doneProcessing _) | .said _ (.foundSolution _) => []

/-- The effect of an event asks for its answers and nothing else. -/
theorem Core.outbound (core : s.Core e s₁) : s₁.outbound = s.outbound ++ s.answers e := by
  cases core with
  | join => rfl
  | @grant id requested s₁ done =>
    obtain ⟨w, w', found, -, rfl⟩ := grant_eq_ok done
    simp [answers, Roster.contains_iff.mpr ⟨w, found⟩, push]
  | complete done =>
    obtain ⟨w, w', scheduler, -, -, -, rfl⟩ := complete_eq_ok done
    exact (List.append_nil _).symm
  | @leave id s₁ w found removed | @lose id s₁ w found removed =>
    obtain ⟨scheduler, -, rfl⟩ := removeWorker_eq_ok found removed
    simp [answers, Roster.contains_iff.mpr ⟨w, found⟩, push]
  | @ignore id m gone =>
    have away : s.roster.contains id = false := by simp [Roster.contains, gone]
    cases m with
    | getInstances | disconnect => simp [answers, away]
    | doneProcessing | foundSolution => exact (List.append_nil _).symm
  | @miss id gone =>
    have away : s.roster.contains id = false := by simp [Roster.contains, gone]
    simp [answers, away]
  | submit | refuse | terminate | solve => exact (List.append_nil _).symm

/-- Only a request of a worker on the roster is answered by a grant, of what is handed out. -/
theorem grant_mem_answers {id : WorkerId} {batches : List Batch}
    (granted : .toWorker id (.sendInstances batches) ∈ s.answers e) :
    ∃ requested, e = .said id (.getInstances requested) ∧ s.roster.contains id = true ∧
      batches = (s.handOut requested).1 := by
  cases e with
  | joined | lost => simp [answers] at granted
  | submitted | terminated => cases granted
  | said other m =>
    cases m with
    | doneProcessing | foundSolution => cases granted
    | disconnect => simp [answers] at granted
    | getInstances requested =>
      cases there : s.roster.contains other with
      | true =>
        rw [answers, if_pos there] at granted
        cases List.mem_singleton.mp granted
        exact ⟨requested, rfl, there, rfl⟩
      | false => simp [answers, there] at granted

/-- The actions of an event are its answers, and then announcements. -/
theorem apply_outbound (done : s.apply e = (s', .ok ())) :
    ∃ extra, s'.outbound = s.outbound ++ (s.answers e ++ extra) ∧
      ∀ action ∈ extra, action.IsAnnouncement := by
  obtain ⟨s₁, core, said⟩ := apply_eq_ok done
  obtain ⟨extra, out, plain, -⟩ := said.outbound
  exact ⟨extra, by rw [out, core.outbound, List.append_assoc], plain⟩

/-! ### Settings -/

/-- Two servers with the same settings. -/
structure SameSettings (s s' : ServerState) : Prop where
  terminateOnSolution : s'.terminateOnSolution = s.terminateOnSolution
  waitForMoreFiles : s'.waitForMoreFiles = s.waitForMoreFiles
  shortStatistics : s'.shortStatistics = s.shortStatistics

theorem SameSettings.refl (s : ServerState) : s.SameSettings s := ⟨rfl, rfl, rfl⟩

theorem SameSettings.trans (first : s.SameSettings s₁) (second : s₁.SameSettings s') :
    s.SameSettings s' where
  terminateOnSolution := second.terminateOnSolution.trans first.terminateOnSolution
  waitForMoreFiles := second.waitForMoreFiles.trans first.waitForMoreFiles
  shortStatistics := second.shortStatistics.trans first.shortStatistics

/-- The effect of an event changes no setting. -/
theorem Core.settings (core : s.Core e s₁) : s.SameSettings s₁ := by
  obtain ⟨scheduler, roster, requested, solved, outbound, rfl⟩ := core.frame
  exact ⟨rfl, rfl, rfl⟩

/-- Neither does what follows it. -/
theorem sequel_settings (s : ServerState) (e : StateEvent) : s.SameSettings (s.sequel e) := by
  have woken (t : ServerState) : t.SameSettings t.wakeIdle := by
    obtain ⟨roster, ids, woken⟩ := wakeIdle_eq t
    rw [woken]
    exact ⟨rfl, rfl, rfl⟩
  have stopped (t : ServerState) : t.SameSettings t.terminateWorkers := by
    obtain ⟨ids, stopped⟩ := terminateWorkers_eq t
    rw [stopped]
    exact ⟨rfl, rfl, rfl⟩
  have reported (t : ServerState) : t.SameSettings t.sendStatistics := by
    obtain ⟨sent, outbound, reported⟩ := sendStatistics_eq t
    rw [reported]
    exact ⟨rfl, rfl, rfl⟩
  have moved (t : ServerState) (phase : Phase) : t.SameSettings { t with phase := phase } :=
    ⟨rfl, rfl, rfl⟩
  refine sequel_induction (motive := s.SameSettings) (.refl s) ?_ ?_ ?_ ?_ ?_
  · exact fun id solution _ => ⟨rfl, rfl, rfl⟩
  · exact fun t same => same.trans (woken t)
  · exact fun t same => same.trans (stopped t)
  · intro t same
    unfold drainIfDue
    split
    · exact same.trans ((reported t).trans ((stopped _).trans (moved _ _)))
    · exact same
  · intro t same
    unfold stopIfEmpty
    split
    · exact same.trans (moved _ _)
    · exact same

theorem apply_settings (done : s.apply e = (s', .ok ())) : s.SameSettings s' := by
  rcases apply_cases done with ⟨-, rfl⟩ | ⟨-, s₁, core, rfl⟩
  · exact .refl s'
  · exact core.settings.trans (sequel_settings s₁ e)

/-- No setting changes in a run. -/
theorem run_settings (ran : s.run events = some s') : s.SameSettings s' :=
  run_induction (motive := s.SameSettings) (fun _ _ _ same done => same.trans (apply_settings done))
    (.refl s) ran

/-! ### The numbers of workers -/

/-- The numbers of the workers that joined, the first one first. -/
def enrolled (s : ServerState) : List StateEvent → List WorkerId
  | [] => []
  | e :: events =>
    (if e.isJoin then [s.workerJoined.1] else []) ++ (s.apply e).1.enrolled events

/-- Only a worker that joins takes a number. -/
theorem apply_nextId (done : s.apply e = (s', .ok ()))
    (left : e.isJoin = true → s.roster.nextId.toNat + 1 < 2 ^ 64) :
    s'.roster.nextId.toNat = s.roster.nextId.toNat + if e.isJoin then 1 else 0 := by
  obtain ⟨s₁, core, said⟩ := apply_eq_ok done
  rw [said.roster.nextId, core.nextId_toNat left]

/-- After a run as many numbers are taken as workers have joined. -/
theorem run_nextId (ran : s.run events = some s')
    (left : s.roster.nextId.toNat + events.countP StateEvent.isJoin < 2 ^ 64) :
    s'.roster.nextId.toNat = s.roster.nextId.toNat + events.countP StateEvent.isJoin := by
  induction events generalizing s with
  | nil =>
    obtain rfl := Option.some.inj ran
    rfl
  | cons e events ih =>
    obtain ⟨s₁, done, ran⟩ := run_cons_eq_some.mp ran
    rw [List.countP_cons] at left ⊢
    have next := apply_nextId done fun joined => by
      rw [if_pos joined] at left
      omega
    rw [ih ran (by omega), next]
    omega

/-- Numbers are given one after the other. -/
theorem mem_enrolled (ran : s.run events = some s')
    (left : s.roster.nextId.toNat + events.countP StateEvent.isJoin < 2 ^ 64) {id : WorkerId} :
    id ∈ s.enrolled events ↔ s.roster.nextId ≤ id ∧ id < s'.roster.nextId := by
  rw [UInt64.le_iff_toNat_le, UInt64.lt_iff_toNat_lt]
  induction events generalizing s with
  | nil =>
    obtain rfl := Option.some.inj ran
    simp only [enrolled, List.not_mem_nil, false_iff]
    omega
  | cons e events ih =>
    have last := run_nextId ran left
    obtain ⟨s₁, done, ran⟩ := run_cons_eq_some.mp ran
    rw [List.countP_cons] at left last
    have next := apply_nextId done fun joined => by
      rw [if_pos joined] at left
      omega
    rw [enrolled, List.mem_append, done, ih ran (by omega), next]
    cases joined : e.isJoin with
    | false => simp
    | true =>
      -- The worker that joins first takes the least of the numbers.
      have here : id ∈ [s.workerJoined.1] ↔ id.toNat = s.roster.nextId.toNat := by
        rw [List.mem_singleton, UInt64.toNat_inj]
        rfl
      rw [if_pos rfl, here, if_pos rfl]
      rw [if_pos joined] at last
      omega

end ServerState

end TrialFarm
