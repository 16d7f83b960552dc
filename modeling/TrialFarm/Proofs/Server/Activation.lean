import TrialFarm.Proofs.Server.Runs

/-!
# No worker sleeps while there is work

Files come into the queue when they are submitted, when a worker leaves its trials behind, and when
reports leave some of a quota open. Whatever happens, workers are woken after the last change of the
queue, so while there is work every worker on the roster was told so.

## Main definitions

* `ServerState.Noted`: whoever is marked as told was told.
* `ServerState.Alert`: while there is work, every worker is marked as told.

## Main statements

* `ServerState.Core.origin`: where the marks come from.
* `activated_of_queued`: while there is work, every worker was told.
-/

namespace TrialFarm

namespace ServerState

variable {s s' s₁ : ServerState} {e : StateEvent} {events : List StateEvent}

/-- A worker after the effect of an event was on the roster before, with the same mark, or it has
just joined. -/
theorem Core.origin (core : s.Core e s₁) {entry : WorkerId × Worker}
    (member : entry ∈ s₁.roster.workers) :
    (∃ old ∈ s.roster.workers, old.1 = entry.1 ∧ old.2.activated = entry.2.activated) ∨
      entry = (s.roster.nextId, Worker.fresh) := by
  cases core with
  | join =>
    rcases List.mem_append.mp member with inside | last
    · exact Or.inl ⟨entry, inside, rfl, rfl⟩
    · exact Or.inr (List.mem_singleton.mp last)
  | grant done =>
    obtain ⟨w, w', found, entered, rfl⟩ := grant_eq_ok done
    rcases Roster.mem_modify member with inside | ⟨v, -, rfl⟩
    · exact Or.inl ⟨entry, inside, rfl, rfl⟩
    · exact Or.inl ⟨_, Roster.mem_of_find? found, rfl, (Worker.grantAll_activated entered).symm⟩
  | complete done =>
    obtain ⟨w, w', scheduler, found, settled, -, rfl⟩ := complete_eq_ok done
    rcases Roster.mem_modify member with inside | ⟨v, -, rfl⟩
    · exact Or.inl ⟨entry, inside, rfl, rfl⟩
    · obtain ⟨m, -, -, rfl⟩ := Worker.settle_eq_ok settled
      exact Or.inl ⟨_, Roster.mem_of_find? found, rfl, rfl⟩
  | leave found removed | lose found removed =>
    obtain ⟨scheduler, -, rfl⟩ := removeWorker_eq_ok found removed
    exact Or.inl ⟨entry, (Roster.mem_remove.mp member).1, rfl, rfl⟩
  | submit | refuse | terminate | solve | ignore | miss =>
    exact Or.inl ⟨entry, member, rfl, rfl⟩

/-! ### Whoever is marked was told -/

/-- Every worker that is marked as told was told that there is work. -/
def Noted (s : ServerState) : Prop :=
  ∀ entry ∈ s.roster.workers, entry.2.activated = true →
    .toWorker entry.1 .activate ∈ s.outbound

/-- More actions, and the same roster. -/
theorem Noted.more (noted : s.Noted) (same : s'.roster = s.roster)
    (more : s.outbound ⊆ s'.outbound) : s'.Noted := by
  intro entry member active
  rw [same] at member
  exact more (noted entry member active)

/-- After the effect of an event, too, whoever is marked was told. -/
theorem Core.noted (core : s.Core e s₁) (noted : s.Noted) : s₁.Noted := by
  intro entry member active
  rw [core.outbound]
  refine List.mem_append_left _ ?_
  rcases core.origin member with ⟨old, inside, same, mark⟩ | rfl
  · rw [← same]
    exact noted old inside (mark.trans active)
  · cases active

/-- Whoever is marked when idle workers are woken is told. -/
theorem Noted.wakeIdle (noted : s.Noted) : s.wakeIdle.Noted := by
  by_cases awake : s.Awake
  · rw [wakeIdle_of_awake awake]
    intro entry member _
    obtain ⟨⟨id, w⟩, inside, rfl⟩ := List.mem_map.mp member
    cases active : w.activated with
    | true => exact List.mem_append_left _ (noted (id, w) inside active)
    | false =>
      refine List.mem_append_right _ (List.mem_map.mpr ⟨id, ?_, rfl⟩)
      exact Roster.mem_inactive.mpr ⟨w, inside, active⟩
  · rwa [wakeIdle_of_not_awake awake]

theorem Noted.terminateWorkers (noted : s.Noted) : s.terminateWorkers.Noted := by
  unfold ServerState.terminateWorkers
  split
  · exact noted
  · exact noted.more rfl (List.subset_append_left ..)

theorem Noted.sendStatistics (noted : s.Noted) : s.sendStatistics.Noted := by
  unfold ServerState.sendStatistics
  split
  · exact noted
  · exact noted.more rfl (List.subset_append_left ..)

/-- What follows an event marks nobody that is not told. -/
theorem Noted.sequel (noted : s.Noted) (e : StateEvent) : (s.sequel e).Noted := by
  refine sequel_induction (motive := Noted) noted ?_ ?_ ?_ ?_ ?_
  · exact fun id solution _ => noted.more rfl (List.subset_append_left ..)
  · exact fun s noted => noted.wakeIdle
  · exact fun s noted => noted.terminateWorkers
  · intro s noted
    unfold drainIfDue
    split
    · exact noted.sendStatistics.terminateWorkers.more rfl (List.Subset.refl _)
    · exact noted
  · intro s noted
    unfold stopIfEmpty
    split
    · exact noted.more rfl (List.Subset.refl _)
    · exact noted

/-- Neither does an event that does not fail. -/
theorem Noted.apply (noted : s.Noted) (done : s.apply e = (s', .ok ())) : s'.Noted := by
  rcases apply_cases done with ⟨-, rfl⟩ | ⟨-, s₁, core, rfl⟩
  · exact noted
  · exact (core.noted noted).sequel e

/-! ### While there is work all are marked -/

/-- While there is work, every worker is marked as told. -/
def Alert (s : ServerState) : Prop :=
  s.Awake → ∀ entry ∈ s.roster.workers, entry.2.activated = true

/-- Waking leaves nobody asleep, whatever was before. -/
theorem alert_wakeIdle (s : ServerState) : s.wakeIdle.Alert := by
  intro awake entry member
  by_cases before : s.Awake
  · rw [wakeIdle_of_awake before] at member
    obtain ⟨old, -, rfl⟩ := List.mem_map.mp member
    rfl
  · rw [wakeIdle_of_not_awake before] at awake
    exact absurd awake before

/-- A server that goes on to another phase hands out nothing any more. -/
theorem Alert.drainIfDue (alert : s.Alert) : s.drainIfDue.Alert := by
  unfold ServerState.drainIfDue
  split
  · exact fun awake => Phase.noConfusion awake.running
  · exact alert

theorem Alert.stopIfEmpty (alert : s.Alert) : s.stopIfEmpty.Alert := by
  unfold ServerState.stopIfEmpty
  split
  · exact fun awake => Phase.noConfusion awake.running
  · exact alert

/-- After a server has done what is due, nobody is left unmarked, -/
theorem alert_advance (s : ServerState) : s.advance.Alert :=
  (alert_wakeIdle s).drainIfDue.stopIfEmpty

/-- and so it is after what follows any event. -/
theorem alert_sequel (s : ServerState) (e : StateEvent) : (s.sequel e).Alert := by
  cases e with
  | joined | submitted => exact alert_wakeIdle s
  | terminated | lost => exact alert_advance _
  | said id m =>
    cases m with
    | getInstances | doneProcessing | foundSolution | disconnect => exact alert_advance _

/-- An event that changes nothing leaves nobody unmarked either. -/
theorem Alert.apply (alert : s.Alert) (done : s.apply e = (s', .ok ())) : s'.Alert := by
  rcases apply_cases done with ⟨-, rfl⟩ | ⟨-, s₁, -, rfl⟩
  · exact alert
  · exact alert_sequel s₁ e

end ServerState

/-- No wake-up is lost. After every event of a run without failures: while the server runs, no
solution was found, workers were not told to stop and a file waits in the queue, every worker on the
roster was told that there is work. -/
theorem activated_of_queued (c : ServerConfig) (events : List StateEvent) (s : ServerState)
    (ran : (ServerState.start c).run events = some s) (running : s.phase = .running)
    (unsolved : s.solutionFound = false) (untold : s.workersTerminated = false)
    (queued : s.scheduler.queue ≠ []) :
    ∀ id ∈ s.roster.ids, .toWorker id .activate ∈ s.outbound := by
  have noted : s.Noted := ServerState.run_induction
    (fun _ _ _ noted done => noted.apply done) (fun _ member => absurd member List.not_mem_nil) ran
  have alert : s.Alert := ServerState.run_induction
    (fun _ _ _ alert done => alert.apply done) (fun awake => absurd rfl awake.queued) ran
  have awake : s.Awake :=
    ⟨running, by simp [ServerState.dispatchSuspended, unsolved, untold], queued⟩
  intro id member
  obtain ⟨entry, inside, rfl⟩ := List.mem_map.mp member
  exact noted entry inside (alert awake entry inside)

/-- One worker takes all trials of a file and goes away after a second one has joined. -/
def leftBehind : List StateEvent :=
  [.joined, .submitted ⟨4, 10, "a.cnf"⟩, .said 0 (.getInstances 4), .joined, .lost 0]

/-- The trials that were left behind wake the second worker. -/
theorem activated_of_queued_leftBehind :
    ∃ s, (ServerState.start ServerConfig.standard).run leftBehind = some s ∧
      s.scheduler.queue = [0] ∧ .toWorker 1 .activate ∈ s.outbound :=
  ⟨_, rfl, rfl, activated_of_queued ServerConfig.standard leftBehind _ rfl rfl rfl rfl
    (List.cons_ne_nil _ _) 1 (List.mem_singleton.mpr rfl)⟩

end TrialFarm
